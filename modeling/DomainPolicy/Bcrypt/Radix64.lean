import DomainPolicy.Text.Utf8

/-!
# Six bits a character

* `Radix64.encode` writes bytes in the alphabet `./A-Za-z0-9`, most significant bits first; the last character is
  filled up with zero bits.
* `Radix64.decode?` reads such text back, and refuses bits that are left over and not zero.
-/

namespace DomainPolicy.Bcrypt.Radix64

/-- The character of six bits. -/
def char (n : Nat) : Char :=
  if n < 2 then Char.ofNat (46 + n)
  else if n < 28 then Char.ofNat (63 + n)
  else if n < 54 then Char.ofNat (69 + n)
  else Char.ofNat (n - 6)

/-- The six bits of a character of the alphabet. -/
def value? (c : Char) : Option Nat :=
  let n := c.toNat
  if 46 ≤ n ∧ n ≤ 47 then some (n - 46)
  else if 65 ≤ n ∧ n ≤ 90 then some (n - 63)
  else if 97 ≤ n ∧ n ≤ 122 then some (n - 69)
  else if 48 ≤ n ∧ n ≤ 57 then some (n + 6)
  else none

def encode : Bytes → List Char
  | [] => []
  | [a] => [char (a.toNat / 4), char (a.toNat % 4 * 16)]
  | [a, b] => [char (a.toNat / 4), char (a.toNat % 4 * 16 + b.toNat / 16), char (b.toNat % 16 * 4)]
  | a :: b :: c :: rest =>
    char (a.toNat / 4) :: char (a.toNat % 4 * 16 + b.toNat / 16) ::
      char (b.toNat % 16 * 4 + c.toNat / 64) :: char (c.toNat % 64) :: encode rest

/-- The bytes of groups of six bits. -/
def join? : List Nat → Option Bytes
  | [] => some []
  | [_] => none
  | [a, b] => if b % 16 = 0 then some [(a * 4 + b / 16).toUInt8] else none
  | [a, b, c] => if c % 4 = 0 then some [(a * 4 + b / 16).toUInt8, (b % 16 * 16 + c / 4).toUInt8] else none
  | a :: b :: c :: d :: rest =>
    (join? rest).map fun bs =>
      (a * 4 + b / 16).toUInt8 :: (b % 16 * 16 + c / 4).toUInt8 :: (c % 4 * 64 + d).toUInt8 :: bs

def decode? (cs : List Char) : Option Bytes := (cs.mapM value?).bind join?

end DomainPolicy.Bcrypt.Radix64
