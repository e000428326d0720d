/-!
# Numbers of 64 bits with a binary point

* A finite `Binary64` is a whole number `m < 2 ^ 53` times a power of two, kept exactly.
* `Binary64.ofDecimal` takes the nearest one to a decimal number, and of two nearest the one with even `m`.
* `Binary64.toInt?` gives the whole number that a finite one equals, if it equals one.
-/

namespace DomainPolicy

/-- A number of 64 bits: not a number, an infinity, or `± mantissa * 2 ^ exponent`. -/
inductive Binary64 where
  | nan
  | infinite (negative : Bool)
  | finite (negative : Bool) (mantissa : Nat) (exponent : Int)
  deriving DecidableEq, Repr, Inhabited

namespace Binary64

/-- The least exponent, that of the numbers next to zero. -/
def leastExponent : Int := -1074

/-- The largest exponent of a finite number. -/
def greatestExponent : Int := 971

def isFinite : Binary64 → Bool
  | finite .. => true
  | _ => false

def zero (negative : Bool) : Binary64 := finite negative 0 leastExponent

/-- `num / den` divided by `2 ^ e`, as a quotient of whole numbers. -/
def scaled (num den : Nat) (e : Int) : Nat × Nat :=
  if 0 ≤ e then (num, den * Nat.pow 2 e.toNat) else (num * Nat.pow 2 (-e).toNat, den)

/-- A quotient rounded to a whole number, a half going to the even neighbour. -/
def roundHalfEven (num den : Nat) : Nat :=
  let q := num / den
  let r := 2 * (num % den)
  if r < den then q else if den < r then q + 1 else if q % 2 = 0 then q else q + 1

/-- The nearest number to a positive quotient. -/
def ofQuotient (negative : Bool) (num den : Nat) : Binary64 :=
  let guess := max leastExponent ((Nat.log2 num : Int) - (Nat.log2 den : Int) - 53)
  let (n₀, d₀) := scaled num den guess
  let e := if Nat.pow 2 53 ≤ n₀ / d₀ then guess + 1 else guess
  let (n, d) := scaled num den e
  let m := roundHalfEven n d
  let (m, e) := if m = Nat.pow 2 53 then (Nat.pow 2 52, e + 1) else (m, e)
  if greatestExponent < e then infinite negative else finite negative m e

/-- The nearest number to `± coefficient * 10 ^ power`. Powers far outside the range are not computed. -/
def ofDecimal (negative : Bool) (coefficient : Nat) (power : Int) : Binary64 :=
  if coefficient = 0 then zero negative
  else
    let top := (Nat.log2 coefficient / 3 : Nat) + power
    if top < -400 then zero negative
    else if (Nat.log2 coefficient / 4 : Nat) + power > 400 then infinite negative
    else if 0 ≤ power then ofQuotient negative (coefficient * Nat.pow 10 power.toNat) 1
    else ofQuotient negative coefficient (Nat.pow 10 (-power).toNat)

/-- The whole number that a finite number equals. -/
def toInt? : Binary64 → Option Int
  | finite negative m e =>
    let sign : Int := if negative then -1 else 1
    if 0 ≤ e then some (sign * (m * Nat.pow 2 e.toNat : Nat))
    else if m % Nat.pow 2 (-e).toNat = 0 then some (sign * (m / Nat.pow 2 (-e).toNat : Nat))
    else none
  | _ => none

end Binary64

end DomainPolicy
