import DomainPolicy.Number.Decimal
import DomainPolicy.Number.Digit
import DomainPolicy.Text.Blank

/-!
# Whole numbers as they are written by hand

* `Integer.read?` reads decimal digits of any script with a sign, blanks around them and single underscores between
  them; it reads at most 4300 digits.
-/

namespace DomainPolicy.Integer

/-- The most digits that are read. -/
def maxDigits : Nat := 4300

/-- The digits of a text in which single underscores may stand between digits. -/
def joinDigits? : List Char → Option (List Char)
  | [] => none
  | [c] => if Decimal.isDigit c then some [c] else none
  | c :: '_' :: rest => if Decimal.isDigit c then (joinDigits? rest).map (c :: ·) else none
  | c :: rest => if Decimal.isDigit c then (joinDigits? rest).map (c :: ·) else none

/-- The number of digits without a sign. -/
def natural? (cs : List Char) : Option Nat :=
  ((joinDigits? cs).filter (·.length ≤ maxDigits)).map Decimal.value

/-- The number that a text writes. -/
def read? (cs : List Char) : Option Int :=
  match (Blank.trim Blank.isSpace cs).map Digit.plain with
  | '+' :: rest => (natural? rest).map Int.ofNat
  | '-' :: rest => (natural? rest).map fun n => -Int.ofNat n
  | rest => (natural? rest).map Int.ofNat

end DomainPolicy.Integer
