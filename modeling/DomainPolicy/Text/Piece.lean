import DomainPolicy.Text.CodePoint

/-!
# What bytes are read as

* A decoder gives `Piece`s: code points, and one `broken` for each stretch of bytes that encodes none.
* `strict` accepts only unbroken bytes; `lenient` puts `U+FFFD` in the place of each broken stretch.
-/

namespace DomainPolicy

/-- What a decoder reads: a code point, or a stretch of bytes that encodes none. -/
inductive Piece where
  | point (p : CodePoint)
  | broken
  deriving DecidableEq, Repr

namespace Piece

/-- The text of unbroken bytes. -/
def strict : List Piece → Option Text
  | [] => some []
  | point p :: rest => (strict rest).map (p :: ·)
  | broken :: _ => none

/-- The text of bytes, with `U+FFFD` for each stretch that encodes none. -/
def lenient (pieces : List Piece) : Text :=
  pieces.map fun
    | point p => p
    | broken => .scalar '\uFFFD'

def ofNat (n : Nat) : Piece :=
  match CodePoint.ofNat? n with
  | some p => point p
  | none => broken

def ofChar (c : Char) : Piece := point (.scalar c)

end Piece

end DomainPolicy
