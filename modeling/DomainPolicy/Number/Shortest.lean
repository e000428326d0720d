import DomainPolicy.Number.Binary64
import DomainPolicy.Number.Decimal

/-!
# The shortest decimal of a number

* `Binary64.shortest` finds the fewest decimal digits that read back as the same number; of the decimals with so few
  digits, the nearest.
* `Binary64.text` writes them: positionally when the number lies between `10 ^ -4` and `10 ^ 16`, else with an exponent
  of at least two digits.
-/

namespace DomainPolicy.Binary64

/-- The decimals that read back as `mantissa * 2 ^ exponent` lie between `low / den` and `high / den`, around
`value / den`; the ends belong to them if `closed`. -/
structure Neighbourhood where
  low : Nat
  value : Nat
  high : Nat
  den : Nat
  closed : Bool

/-- Half the way to the neighbours on both sides. Below a power of two the lower neighbour is twice as near. -/
def neighbourhood (m : Nat) (e : Int) : Neighbourhood :=
  let up := Nat.pow 2 e.toNat
  let den := 4 * Nat.pow 2 (-e).toNat
  let below := if m = Nat.pow 2 52 ∧ leastExponent < e then 1 else 2
  ⟨(4 * m - below) * up, 4 * m * up, (4 * m + 2) * up, den, m % 2 = 0⟩

/-- Whether `c * num / div` reads back. -/
def Neighbourhood.holds (r : Neighbourhood) (c num div : Nat) : Bool :=
  let x := c * num * r.den
  if r.closed then r.low * div ≤ x && x ≤ r.high * div else r.low * div < x && x < r.high * div

/-- The coefficient of the decimal at the grid `10 ^ power` next to the value that reads back, if one does. -/
def Neighbourhood.onGrid? (r : Neighbourhood) (power : Int) : Option Nat :=
  let num := Nat.pow 10 power.toNat
  let div := Nat.pow 10 (-power).toNat
  let c := r.value * div / (num * r.den)
  match r.holds c num div, r.holds (c + 1) num div with
  | true, false => some c
  | false, true => some (c + 1)
  | false, false => none
  | true, true =>
    -- `2 * value` against the middle of the two
    let middle := (2 * c + 1) * num * r.den
    let twice := 2 * r.value * div
    if twice < middle then some c else if middle < twice then some (c + 1)
    else if c % 2 = 0 then some c else some (c + 1)

/-- A power of ten above the value. -/
def Neighbourhood.top (r : Neighbourhood) : Int :=
  ((Decimal.digits r.value).length : Int) - (Decimal.digits r.den).length + 1

/-- Tries grids from coarse to fine. -/
def Neighbourhood.search (r : Neighbourhood) : Nat → Int → Nat × Int
  | 0, power => (r.value * Nat.pow 10 (-power).toNat / (Nat.pow 10 power.toNat * r.den), power)
  | tries + 1, power =>
    match r.onGrid? power with
    | some c => (c, power)
    | none => search r tries (power - 1)

/-- The coefficient and power of ten of the shortest decimal of `mantissa * 2 ^ exponent`, `mantissa` not zero. -/
def shortest (m : Nat) (e : Int) : Nat × Int :=
  let r := neighbourhood m e
  r.search 20 r.top

/-! ### The written form -/

/-- Removes zeros at the end of a coefficient; there are at most `fuel`. -/
def dropZeros : Nat → Nat → Int → Nat × Int
  | 0, c, p => (c, p)
  | fuel + 1, c, p => if c ≠ 0 ∧ c % 10 = 0 then dropZeros fuel (c / 10) (p + 1) else (c, p)

/-- A positive decimal as text. The point stands after `places` digits. -/
def layOut (ds : List Char) (places : Int) : List Char :=
  if -4 < places ∧ places ≤ 16 then
    if places ≤ 0 then '0' :: '.' :: (List.replicate (-places).toNat '0' ++ ds)
    else
      let k := places.toNat
      if k < ds.length then ds.take k ++ '.' :: ds.drop k
      else ds ++ List.replicate (k - ds.length) '0' ++ ['.', '0']
  else
    let x := places - 1
    let mantissa := match ds with
      | d :: e :: rest => d :: '.' :: e :: rest
      | _ => ds
    mantissa ++ 'e' :: (if x < 0 then '-' else '+') :: Decimal.padded 2 x.natAbs

/-- A number as text: the digits of its shortest decimal, or a name for what is not finite. -/
def text (nanName infinityName : String) : Binary64 → List Char
  | nan => nanName.toList
  | infinite negative => (if negative then ['-'] else []) ++ infinityName.toList
  | finite negative m e =>
    let body :=
      if m = 0 then ['0', '.', '0']
      else
        let (c, p) := shortest m e
        let (c, p) := dropZeros 400 c p
        let ds := Decimal.digits c
        layOut ds (ds.length + p)
    (if negative then ['-'] else []) ++ body

end DomainPolicy.Binary64
