import DomainPolicy.Text.Piece
import DomainPolicy.Text.Utf8

/-!
# Punycode

* The characters of ASCII come first, up to the last hyphen. Behind it are numbers, each of which puts one more
  character somewhere: it says how far to go from the last place and the last character.
* `read?` ends at a number that does not end, or has something else than digits in it. `write` writes the characters
  outside ASCII in the order of their code points.
-/

namespace DomainPolicy.Punycode

/-- Letters are digits, whatever their case, and the digits come behind them. -/
def digit? (b : UInt8) : Option Nat :=
  let n := b.toNat
  if 97 ≤ n ∧ n ≤ 122 then some (n - 97)
  else if 65 ≤ n ∧ n ≤ 90 then some (n - 65)
  else if 48 ≤ n ∧ n ≤ 57 then some (n - 22)
  else none

/-- A digit under this ends a number. -/
def threshold (place bias : Nat) : Nat := max 1 (min 26 (36 * (place + 1) - bias))

/-- A number, the lowest digit first, and the bytes after it. -/
def number? (bias : Nat) : Nat → Nat → Bytes → Option (Nat × Bytes)
  | _, _, [] => none
  | place, weight, b :: rest =>
    match digit? b with
    | none => none
    | some d =>
      let t := threshold place bias
      if d < t then some (d * weight, rest)
      else (number? bias (place + 1) (weight * (36 - t)) rest).map fun (n, rest) => (d * weight + n, rest)

theorem length_of_number? {bias place weight n : Nat} {bs rest : Bytes}
    (h : number? bias place weight bs = some (n, rest)) : rest.length < bs.length := by
  induction bs generalizing place weight n with
  | nil => simp [number?] at h
  | cons b bs ih =>
    unfold number? at h
    split at h
    · simp at h
    · dsimp only at h
      split at h
      · simp only [Option.some.injEq, Prod.mk.injEq] at h
        simp [← h.2]
      · obtain ⟨⟨m, r⟩, hm, he⟩ := Option.map_eq_some_iff.1 h
        simp only [Prod.mk.injEq] at he
        obtain ⟨_, rfl⟩ := he
        have := ih hm
        simp; omega

/-- Brings a distance down to what the bias is made of, and counts the digits that this takes. -/
def settle (delta : Nat) : Nat × Nat :=
  if 455 < delta then let (d, n) := settle (delta / 35); (d, n + 36) else (delta, 0)
termination_by delta
decreasing_by omega

/-- The bias after a distance, in a text of so many characters. -/
def adapt (delta : Nat) (isFirst : Bool) (characters : Nat) : Nat :=
  let halved := if isFirst then delta / 700 else delta / 2
  let (d, n) := settle (halved + halved / characters)
  n + 36 * d / (d + 38)

/-- A text, and whether it was read without a fault. -/
structure Reading where
  pieces : List Piece
  isWhole : Bool
  deriving DecidableEq, Repr

/-- Puts the characters of numbers into a text. `point` and `place` are where the last one left off. A code point that
is too large becomes a question mark. -/
def insertAll (bias point place : Nat) (isFirst : Bool) (text : Reading) (bs : Bytes) : Reading :=
  if bs.isEmpty then text
  else
    match h : number? bias 0 1 bs with
    | none => { text with isWhole := false }
    | some (delta, rest) =>
      let room := text.pieces.length + 1
      let next := point + (place + delta) / room
      let isPoint := decide (next ≤ 0x10FFFF)
      let point := if isPoint then next else 63
      let place := (place + delta) % room
      let text := ⟨text.pieces.insertIdx place (Piece.ofNat point), text.isWhole && isPoint⟩
      insertAll (adapt delta isFirst room) point (place + 1) false text rest
termination_by bs.length
decreasing_by exact length_of_number? h

/-- The bytes before the last hyphen, and those after it; without a hyphen there are none before it. -/
def split (bs : Bytes) : Bytes × Bytes :=
  let after := bs.reverse.takeWhile (· ≠ 0x2D)
  ((bs.take (bs.length - after.length)).dropLast, after.reverse)

/-- Reads bytes, unless there are others than those of ASCII among the numbers. -/
def read? (bs : Bytes) : Option Reading :=
  let (front, numbers) := split bs
  if numbers.all (· < 0x80) then
    let pieces := front.map fun b => if b < 0x80 then Piece.ofNat b.toNat else .broken
    some (insertAll 72 128 0 true ⟨pieces, !pieces.contains .broken⟩ numbers)
  else none

/-! ### Writing -/

/-- The digit of a value, in small letters. -/
def digit (n : Nat) : Char := if n < 26 then Char.ofNat (97 + n) else Char.ofNat (22 + n)

/-- The digits of a number, the lowest first. -/
def digits (bias place n : Nat) : List Char :=
  let t := threshold place bias
  if n < t then [digit n] else digit (t + (n - t) % (36 - t)) :: digits bias (place + 1) ((n - t) / (36 - t))
termination_by n
decreasing_by
  rename_i hle
  have hthreshold : 1 ≤ threshold place bias := Nat.le_max_left ..
  have hdiv := Nat.div_le_self (n - threshold place bias) (36 - threshold place bias)
  omega

/-- Where writing left off: the bias, how far it is from the last character, how many characters there are so far, and
what was written. -/
structure Writer where
  bias : Nat := 72
  distance : Nat := 0
  count : Nat
  isFirst : Bool := true
  text : List Char := []

namespace Writer

/-- Goes past a character on the way through a text, and writes it if it is the one of a code point. -/
def pass (point : Nat) (w : Writer) (c : Char) : Writer :=
  if c.toNat < point then { w with distance := w.distance + 1 }
  else if c.toNat = point then
    { bias := adapt w.distance w.isFirst (w.count + 1), distance := 0, count := w.count + 1, isFirst := false
      text := w.text ++ digits w.bias 0 w.distance }
  else w

/-- Goes through a text once for each code point of some that are in order, the first of them being `next` at least. -/
def passAll (cs : List Char) (next : Nat) (w : Writer) : List Nat → Writer
  | [] => w
  | point :: points =>
    let w := cs.foldl (pass point) { w with distance := w.distance + (point - next) * (w.count + 1) }
    passAll cs (point + 1) { w with distance := w.distance + 1 } points

end Writer

/-- A text in characters of ASCII. -/
def write (cs : List Char) : List Char :=
  let front := cs.filter (·.toNat < 128)
  let points := ((cs.map Char.toNat).filter (128 ≤ ·)).mergeSort.eraseReps
  (if front.isEmpty then [] else front ++ ['-']) ++ (Writer.passAll cs 128 { count := front.length } points).text

end DomainPolicy.Punycode
