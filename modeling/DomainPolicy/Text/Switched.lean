import DomainPolicy.Text.CodePage.Iso
import DomainPolicy.Text.Multibyte.Basic

/-!
# Encodings that switch between character sets

* What a byte means depends on the bytes before it. A `Switched` encoding has escapes that put a character set in one of
  three places. The first place counts, or the second, if there are controls to switch to it; a character of the third
  has an escape of its own.
* `Tilde` is an encoding with one other character set, between a tilde with a brace and a tilde with the other brace.
-/

namespace DomainPolicy

/-! ### Character sets -/

/-- A character set that can be switched to. -/
inductive Alphabet where
  | ascii
  | roman
  | katakana
  | jis
  | jisSupplement
  | jisAdded (e : Japanese.Edition)
  | jisSecond
  | ks
  | gb2312
  | latin1
  | greek
  deriving DecidableEq, Repr

namespace Alphabet

/-- The number of bytes of a character. -/
def width : Alphabet → Nat
  | ascii | roman | katakana | latin1 | greek => 1
  | _ => 2

/-- The characters of bytes, of which as many count as the set has. -/
def chars? (a : Alphabet) (first second : Nat) : Option (List Char) :=
  let one (c : Option Char) : Option (List Char) := c.map ([·])
  match a with
  | ascii => some [Char.ofNat first]
  | roman => one (Japanese.roman? first)
  | katakana => one (Japanese.halfKatakana? (first + 0x80))
  | jis => one (Japanese.jis? first second)
  | jisSupplement => one (Japanese.supplement? first second)
  | jisAdded e => Japanese.added? e first second
  | jisSecond => one (Japanese.second? first second)
  | ks => one (Korean.ks? (first + 0x80) (second + 0x80))
  | gb2312 => one (Chinese.gb2312? (first + 0x80) (second + 0x80))
  | latin1 | greek => none

/-- The Greek letters, as they were before signs were added to them. -/
def greekPiece (n : Nat) : Piece :=
  if n ∈ [0xA4, 0xA5, 0xAA] then .broken else CodePage.iso8859Part7.piece n.toUInt8

/-- The character of a byte in the third place. -/
def thirdPiece (a : Alphabet) (b : UInt8) : Piece :=
  match a with
  | latin1 => if b < 0x80 then Piece.ofNat (b.toNat + 0x80) else .broken
  | greek => greekPiece (b.toNat ^^^ 0x80)
  | _ => if b < 0x80 then Piece.ofNat b.toNat else .broken

end Alphabet

/-! ### Escapes -/

/-- What an escape says of a character set: whether its characters have two bytes, and its letter. -/
structure Mark where
  isDouble : Bool
  letter : Char
  deriving DecidableEq, Repr

/-- An encoding with escapes: its character sets by their marks, and whether it has controls for the second place,
characters of the third place, and an announcement of an escape. -/
structure Switched where
  name : String
  aliases : List String
  alphabets : List (Mark × Alphabet)
  hasSecond : Bool := false
  hasThird : Bool := false
  hasAnnouncement : Bool := true
  deriving DecidableEq, Repr

namespace Switched

def single (letter : Char) (a : Alphabet) : Mark × Alphabet := (⟨false, letter⟩, a)

def double (letter : Char) (a : Alphabet) : Mark × Alphabet := (⟨true, letter⟩, a)

/-- ASCII and JIS X 0208, which are in all encodings of Japan. -/
def basic : List (Mark × Alphabet) := [single 'B' .ascii, double 'B' .jis]

/-- The sets of the first encoding of Japan. -/
def older : List (Mark × Alphabet) := basic ++ [double '@' .jis, single 'J' .roman]

def iso2022Jp : Switched where
  name := "iso2022_jp"
  aliases := ["csiso2022jp", "iso2022jp", "iso_2022_jp"]
  alphabets := older

def iso2022Jp1 : Switched where
  name := "iso2022_jp_1"
  aliases := ["iso2022jp_1", "iso_2022_jp_1"]
  alphabets := older ++ [double 'D' .jisSupplement]

def iso2022Jp2 : Switched where
  name := "iso2022_jp_2"
  aliases := ["iso2022jp_2", "iso_2022_jp_2"]
  alphabets := older ++ [double 'D' .jisSupplement, double 'C' .ks, double 'A' .gb2312, single 'A' .latin1,
    single 'F' .greek]
  hasThird := true

def iso2022Jp3 : Switched where
  name := "iso2022_jp_3"
  aliases := ["iso2022jp_3", "iso_2022_jp_3"]
  alphabets := basic ++ [double 'O' (.jisAdded .first), double 'P' .jisSecond]

def iso2022Jp2004 : Switched where
  name := "iso2022_jp_2004"
  aliases := ["iso2022jp_2004", "iso_2022_jp_2004"]
  alphabets := basic ++ [double 'Q' (.jisAdded .second), double 'P' .jisSecond]

def iso2022JpExt : Switched where
  name := "iso2022_jp_ext"
  aliases := ["iso2022jp_ext", "iso_2022_jp_ext"]
  alphabets := older ++ [double 'D' .jisSupplement, single 'I' .katakana]

def iso2022Kr : Switched where
  name := "iso2022_kr"
  aliases := ["csiso2022kr", "iso2022kr", "iso_2022_kr"]
  alphabets := [single 'B' .ascii, double 'C' .ks]
  hasSecond := true
  hasAnnouncement := false

def all : List Switched := [iso2022Jp, iso2022Jp1, iso2022Jp2, iso2022Jp3, iso2022Jp2004, iso2022JpExt, iso2022Kr]

/-- A place for a character set. -/
inductive Place where
  | first
  | second
  | third
  deriving DecidableEq, Repr

/-- What bytes mean: the three places, whether the second counts, and whether an escape is being let through. -/
structure State where
  first : Alphabet := .ascii
  second : Alphabet := .ascii
  third : Alphabet := .ascii
  isShifted : Bool := false
  isThrough : Bool := false
  deriving DecidableEq, Repr

def State.put (s : State) (p : Place) (a : Alphabet) : State :=
  match p with
  | .first => { s with first := a }
  | .second => { s with second := a }
  | .third => { s with third := a }

def isEscapeEnd (b : UInt8) : Bool := (65 ≤ b && b ≤ 90) || b == 64

/-- The most bytes of an escape. -/
def maxEscape : Nat := 16

/-- The length of an escape of which `n` bytes have been seen, and zero where it does not end soon enough. The
announcement of an escape is not its end. -/
def escapeLength? (e : Switched) (n : Nat) : Bytes → Option Nat
  | [] => if maxEscape ≤ n then some 0 else none
  | b :: rest =>
    if maxEscape ≤ n then some 0
    else if isEscapeEnd b then some (n + 1)
    else
      match rest with
      | c :: d :: more =>
        if e.hasAnnouncement && b == 0x26 && c == 0x40 then escapeLength? e (n + 3) more
        else escapeLength? e (n + 1) (c :: d :: more)
      | [c] =>
        if e.hasAnnouncement && b == 0x26 && c == 0x40 then escapeLength? e (n + 3) []
        else escapeLength? e (n + 1) [c]
      | [] => escapeLength? e (n + 1) []
termination_by bs => bs.length
decreasing_by all_goals (simp; try omega)

/-- The place and the mark of the character set that an escape of some length puts there, if it puts any. -/
def designation? (e : Switched) (length : Nat) (bs : Bytes) : Option (Place × Mark) :=
  match length, bs.map fun b => Char.ofNat b.toNat with
  | 3, '$' :: c :: _ => some (.first, ⟨true, c⟩)
  | 3, '(' :: c :: _ => some (.first, ⟨false, c⟩)
  | 3, ')' :: c :: _ => some (.second, ⟨false, c⟩)
  | 3, '.' :: c :: _ => if e.hasThird then some (.third, ⟨false, c⟩) else none
  | 4, '$' :: '(' :: c :: _ => some (.first, ⟨true, c⟩)
  | 4, '$' :: ')' :: c :: _ => some (.second, ⟨true, c⟩)
  | 6, _ :: _ :: '\x1B' :: '$' :: 'B' :: _ => if e.hasAnnouncement then some (.first, ⟨true, 'B'⟩) else none
  | _, _ => none

/-- An escape, from what is behind its first byte. -/
def escapeStep (e : Switched) (s : State) (bs : Bytes) : Step State :=
  match e.escapeLength? 1 bs with
  | none => .short
  | some 0 => .wrong s 1
  | some length =>
    match (e.designation? length bs).bind fun (p, m) => (e.alphabets.lookup m).map fun a => s.put p a with
    | some s => .next [] s length
    | none => .wrong s length

/-- A byte that is no control, with those after it. -/
def characterStep (s : State) (b : UInt8) (rest : Bytes) : Step State :=
  let a := if s.isShifted then s.second else s.first
  if rest.length + 1 < a.width then .short
  else
    match a.chars? b.toNat ((rest.head?.map UInt8.toNat).getD 0) with
    | some cs => .next (cs.map Piece.ofChar) s a.width
    | none => .wrong s a.width

def step (e : Switched) (s : State) (b : UInt8) (rest : Bytes) : Step State :=
  let itself := Char.ofNat b.toNat
  if s.isThrough then .char itself { s with isThrough := !isEscapeEnd b } 1
  else if b = 0x1B then
    match rest with
    | [] => .short
    | c :: more =>
      if [0x28, 0x29, 0x24, 0x2E, 0x26].contains c then e.escapeStep s rest
      else if e.hasThird && c == 0x4E then
        match more with
        | [] => .short
        | d :: _ => .next [s.third.thirdPiece d] s 3
      else .char itself { s with isThrough := true } 1
  else if e.hasSecond && b == 0x0F then .next [] { s with isShifted := false } 1
  else if e.hasSecond && b == 0x0E then .next [] { s with isShifted := true } 1
  else if b = 0x0A then .char itself { s with isShifted := false } 1
  else if b < 0x20 then .char itself s 1
  else if 0x80 ≤ b then .wrong s 1
  else characterStep s b rest

/-- The most bytes that may be left over. -/
def maxLeft : Nat := 8

/-- The code points of bytes, unless too many bytes are left over. -/
def pieces? (e : Switched) (bs : Bytes) : Option (List Piece) :=
  let (ps, left) := Stepwise.read e.step 0 {} bs
  if left = 0 then some ps else if left ≤ maxLeft then some (ps ++ [.broken]) else none

end Switched

/-! ### Braces -/

namespace Tilde

/-- A step in ASCII, or in two bytes of GB 2312 between braces. A line that ends in a tilde goes on. -/
def step (isInside : Bool) (b : UInt8) (rest : Bytes) : Step Bool :=
  let itself := Char.ofNat b.toNat
  if 0x80 ≤ b then .wrong isInside 1
  else
    match itself, rest with
    | '~', [] => .short
    | '~', c :: _ =>
      match isInside, Char.ofNat c.toNat with
      | false, '~' => .char '~' false 2
      | false, '\x7B' => .next [] true 2
      | false, '\n' => .next [] false 2
      | true, '\x7D' => .next [] false 2
      | _, _ => .wrong isInside 1
    | _, _ =>
      if isInside then
        match rest with
        | [] => .short
        | c :: _ => .ofChar? (Chinese.gb2312? (b.toNat + 0x80) (c.toNat + 0x80)) true 2 1
      else .char itself false 1

def pieces (bs : Bytes) : List Piece := Stepwise.pieces step false bs

end Tilde

end DomainPolicy
