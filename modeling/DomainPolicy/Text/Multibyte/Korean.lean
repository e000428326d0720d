import DomainPolicy.Text.Grid.Ks

/-!
# Korean characters of several bytes

* The Korean standard has some of the syllables. Windows has the others beside them (`Korean.windows?`), and Johab makes
  each syllable of its letters (`Korean.johab?`). In EUC the letters of a syllable may follow each other
  (`Korean.syllable?`).
-/

namespace DomainPolicy.Korean

/-- Two bytes of the standard. -/
def ks? (a b : Nat) : Option Char := if 0xA1 ≤ a ∧ 0xA1 ≤ b then Grid.ks.char? (a - 0xA1) (b - 0xA1) else none

/-- The syllable of the numbers of its letters; the last is zero where there are two. -/
def syllableOf (first vowel last : Nat) : Char := Char.ofNat (0xAC00 + 588 * first + 28 * vowel + last)

/-! ### Windows -/

/-- The syllables of the standard, which are in order. -/
def standardSyllables : List Nat :=
  (List.range 25).flatMap fun row =>
    (List.range 94).filterMap fun column => (Grid.ks.char? (15 + row) column).map Char.toNat

/-- The place among the other syllables of two bytes, the second of which is a letter or not in ASCII. -/
def otherPlace? (a b : Nat) : Option Nat :=
  let column? := if 0x41 ≤ b ∧ b ≤ 0x5A then some (b - 0x41) else if 0x61 ≤ b ∧ b ≤ 0x7A then some (b - 0x47)
    else if 0x81 ≤ b then some (b - 0x4D) else none
  column?.bind fun column =>
    if 0x81 ≤ a ∧ a ≤ 0xA0 ∧ column < 178 then some ((a - 0x81) * 178 + column)
    else if 0xA1 ≤ a ∧ column < 84 then some (32 * 178 + (a - 0xA1) * 84 + column)
    else none

/-- Windows has all syllables: those that are not in the standard come in order, too. -/
def windows? (a b : Nat) : Option Char :=
  (ks? a b).or ((otherPlace? a b).bind fun place =>
    let n := standardSyllables.foldl (fun n s => if s ≤ n then n + 1 else n) (0xAC00 + place)
    if n ≤ 0xD7A3 then some (Char.ofNat n) else none)

/-! ### Letters one by one -/

/-- The places in their row of the consonants that can begin a syllable. -/
def initials : List Nat := (List.range 30).filter fun n => n ∉ [2, 4, 5, 9, 10, 11, 12, 13, 14, 15, 19]

/-- The places in their row of the consonants that can end a syllable. -/
def finals : List Nat := (List.range 30).filter fun n => n ∉ [7, 18, 24]

/-- The first byte of letters, and the second byte of the sign that stands for no letter. -/
def letterRow : UInt8 := 0xA4

def filler : UInt8 := 0xD4

/-- A syllable of three letters, of which the last may be missing. -/
def syllable? (first second third : UInt8) : Option Char :=
  let letter? (letters : List Nat) (b : UInt8) : Option Nat :=
    if 0xA1 ≤ b then letters.idxOf? (b.toNat - 0xA1) else none
  let vowel? := if 0xBF ≤ second ∧ second ≤ 0xD3 then some (second.toNat - 0xBF) else none
  match letter? initials first, vowel?, if third = filler then some 0 else (letter? finals third).map (· + 1) with
  | some i, some v, some f => some (syllableOf i v f)
  | _, _, _ => none

/-! ### Johab -/

/-- The numbers of five bits that stand for vowels. -/
def johabVowels : List Nat := [3, 4, 5, 6, 7, 10, 11, 12, 13, 14, 15, 18, 19, 20, 21, 22, 23, 26, 27, 28, 29]

/-- The numbers of five bits that stand for consonants at the end. -/
def johabFinals : List Nat := (List.range 30).filter fun n => n ∉ [0, 1, 18]

/-- A letter by its place in the row of letters. -/
def letter (place : Nat) : Char := Char.ofNat (0x3131 + place)

/-- A syllable, or a single letter, of three numbers of five bits. -/
def johabSyllable? (first vowel last : Nat) : Option Char :=
  let first? := if first < 2 then none else if first < 21 then some (first - 2) else none
  let vowel? := johabVowels.idxOf? vowel
  let last? := johabFinals.idxOf? last
  let noFirst := first = 1
  let noVowel := vowel = 2
  let noLast := last = 1
  match first?, vowel?, last? with
  | some i, some v, some f => some (syllableOf i v (f + 1))
  | some i, some v, none => if noLast then some (syllableOf i v 0) else none
  | some i, none, none => if noVowel ∧ noLast then initials[i]?.map letter else none
  | none, some v, none => if noFirst ∧ noLast then some (letter (30 + v)) else none
  | none, none, some f => if noFirst ∧ noVowel then finals[f]?.map letter else none
  | none, none, none => if noFirst ∧ noVowel ∧ noLast then some '\u3000' else none
  | _, _, _ => none

/-- Two bytes of the standard as Johab has them: two rows to each first byte, and not the letters. -/
def johabStandard? (a b : Nat) : Option Char :=
  let column? := if 0x31 ≤ b ∧ b ≤ 0x7E then some (b - 0x31) else if 0x91 ≤ b ∧ b ≤ 0xFE then some (b - 0x43) else none
  let lead? := if 0xD9 ≤ a ∧ a ≤ 0xDE then some (2 * (a - 0xD9)) else if 0xE0 ≤ a ∧ a ≤ 0xF9 then some (2 * a - 0x197)
    else none
  match lead?, column? with
  | some lead, some column =>
    if a = 0xDA ∧ 0xA1 ≤ b ∧ b ≤ 0xD3 then none else Grid.ks.char? (lead + column / 94) (column % 94)
  | _, _ => none

def johab? (a b : Nat) : Option Char :=
  if a < 0xD8 then johabSyllable? (a / 4 % 32) ((a * 8 + b / 32) % 32) (b % 32) else johabStandard? a b

end DomainPolicy.Korean
