/-!
# Hexadecimal digits

* `Hex.lower` and `Hex.upper` write the last digit of a number, and `Hex.value?` reads a digit of either case back.
-/

namespace DomainPolicy.Hex

/-- The last digit of a number, in small letters. -/
def lower (n : Nat) : Char := if n % 16 < 10 then Char.ofNat (48 + n % 16) else Char.ofNat (87 + n % 16)

/-- The last digit of a number, in capital letters. -/
def upper (n : Nat) : Char := if n % 16 < 10 then Char.ofNat (48 + n % 16) else Char.ofNat (55 + n % 16)

/-- The value of a digit. -/
def value? (c : Char) : Option Nat :=
  if '0' ≤ c ∧ c ≤ '9' then some (c.toNat - 48)
  else if 'a' ≤ c ∧ c ≤ 'f' then some (c.toNat - 87)
  else if 'A' ≤ c ∧ c ≤ 'F' then some (c.toNat - 55)
  else none

def isDigit (c : Char) : Bool := (value? c).isSome

theorem value?_lower {n : Nat} (h : n < 16) : value? (lower n) = some n := by
  revert n; decide

end DomainPolicy.Hex
