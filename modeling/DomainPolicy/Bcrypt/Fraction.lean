/-!
# The fraction of π in words

* The cipher starts from the fraction of π, cut into words of 32 bits: `fractionWord i` is the `i`-th of them.
* π is `16 arctan (1/5) - 4 arctan (1/239)`, summed with 64 bits to spare.
-/

namespace DomainPolicy.Bcrypt

/-- How many words the cipher starts from: 18 subkeys and four boxes of 256. -/
def tableSize : Nat := 1042

/-- Bits kept behind the point. -/
def fractionBits : Nat := 32 * tableSize + 64

/-- Sums the series of `arctan (1 / n)` from the term `± term / odd` on, where `term` is `2 ^ fractionBits / n ^ odd`
and `square` is `n * n`. The terms reach zero, so `fuel` only has to bound their number. -/
def arctanFrom (square : Nat) : Nat → Nat → Nat → Bool → Nat → Nat
  | 0, _, _, _, sum => sum
  | fuel + 1, term, odd, positive, sum =>
    if term = 0 then sum
    else
      arctanFrom square fuel (term / square) (odd + 2) (!positive)
        (if positive then sum + term / odd else sum - term / odd)

/-- `arctan (1 / n)` times `2 ^ fractionBits`. -/
def arctan (n : Nat) : Nat := arctanFrom (n * n) fractionBits (Nat.pow 2 fractionBits / n) 1 true 0

/-- The fraction of π times `2 ^ (32 * tableSize)`. -/
def fraction : Nat := (16 * arctan 5 - 4 * arctan 239) / Nat.pow 2 64 % Nat.pow 2 (32 * tableSize)

/-- The words of the fraction of π. -/
def fractionWords : Vector UInt32 tableSize :=
  Vector.ofFn fun i => (fraction >>> (32 * (tableSize - 1 - i.val))).toUInt32

end DomainPolicy.Bcrypt
