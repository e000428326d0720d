import DomainPolicy.Text.Piece
import DomainPolicy.Text.Utf8

/-!
# UTF-7

* Characters of ASCII stand for themselves. A plus sign begins a run of units of sixteen bits in base 64, which ends at
  the first other character; a minus sign there belongs to the run, and a run without any is a plus sign.
* Units of the two halves of a pair are one code point.
-/

namespace DomainPolicy.Utf7

/-- The value of a character in base 64. -/
def digit? (b : UInt8) : Option Nat :=
  let n := b.toNat
  if 65 ≤ n ∧ n ≤ 90 then some (n - 65)
  else if 97 ≤ n ∧ n ≤ 122 then some (n - 71)
  else if 48 ≤ n ∧ n ≤ 57 then some (n + 4)
  else if n = 43 then some 62
  else if n = 47 then some 63
  else none

/-- A run: the bits that are left over, how many they are, and the first half of a pair, if one is waiting. -/
structure Run where
  bits : Nat := 0
  count : Nat := 0
  half : Option Nat := none
  deriving DecidableEq, Repr

/-- Puts a unit behind a half that may be waiting. -/
def pushUnit (half : Option Nat) (u : Nat) : List Piece × Option Nat :=
  let alone : List Piece × Option Nat := if 0xD800 ≤ u ∧ u < 0xDC00 then ([], some u) else ([Piece.ofNat u], none)
  match half with
  | some h =>
    if 0xDC00 ≤ u ∧ u < 0xE000 then ([Piece.ofNat (0x10000 + (h - 0xD800) * 1024 + (u - 0xDC00))], none)
    else (Piece.ofNat h :: alone.1, alone.2)
  | none => alone

/-- Takes in six bits. -/
def Run.push (r : Run) (d : Nat) : List Piece × Run :=
  let bits := r.bits * 64 + d
  let count := r.count + 6
  if 16 ≤ count then
    let unit := bits / Nat.pow 2 (count - 16)
    let (ps, half) := pushUnit r.half unit
    (ps, ⟨bits % Nat.pow 2 (count - 16), count - 16, half⟩)
  else ([], ⟨bits, count, r.half⟩)

/-- Whether a run may not end: a character in base 64 was for nothing, or bits are left over. -/
def Run.isTorn (r : Run) : Bool := 6 ≤ r.count || (0 < r.count && r.bits ≠ 0)

/-- Where a text stands: outside of runs, behind a plus sign, or in a run. -/
inductive State where
  | direct
  | opened
  | inside (run : Run)
  deriving DecidableEq, Repr

/-- The code points of the bytes that follow in a state. -/
def pieces : State → Bytes → List Piece
  | .direct, [] => []
  | .opened, [] => []
  | .inside r, [] => if r.half.isSome || r.isTorn then [.broken] else []
  | .direct, b :: rest =>
    if b = 0x2B then pieces .opened rest
    else (if b < 0x80 then Piece.ofNat b.toNat else .broken) :: pieces .direct rest
  | .opened, b :: rest =>
    if b = 0x2D then Piece.ofChar '+' :: pieces .direct rest
    else
      match digit? b with
      | some d => let (ps, r) := Run.push {} d; ps ++ pieces (.inside r) rest
      | none => .broken :: pieces .direct rest
  | .inside r, b :: rest =>
    match digit? b with
    | some d => let (ps, r) := r.push d; ps ++ pieces (.inside r) rest
    | none =>
      if r.isTorn then .broken :: pieces .direct rest
      else
        let waiting : List Piece := if b < 0x80 then (r.half.map Piece.ofNat).toList else []
        if b = 0x2D then waiting ++ pieces .direct rest
        else waiting ++ (if b < 0x80 then Piece.ofNat b.toNat else .broken) :: pieces .direct rest

end DomainPolicy.Utf7
