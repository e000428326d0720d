import DomainPolicy.Text.Utf8

/-!
# Bits of compressed data

* The bits of a byte are read from the lowest on (`Bits.ofBytes`); numbers come with their lowest bit first
  (`Bits.take`).
* Reading can come to a `Halt`: the data end early, or they are broken.
-/

namespace DomainPolicy.Deflate

/-- Why reading stops. -/
inductive Halt where
  | short
  | broken
  deriving DecidableEq, Repr

abbrev Bits := List Bool

namespace Bits

def ofByte (b : UInt8) : Bits := (List.range 8).map fun i => b.toNat.testBit i

def ofBytes (bs : Bytes) : Bits := bs.flatMap ofByte

/-- The number of bits, the lowest first. -/
def value : Bits → Nat
  | [] => 0
  | b :: bs => b.toNat + 2 * value bs

/-- A number of `n` bits, and the bits after it. -/
def take (n : Nat) (bits : Bits) : Except Halt (Nat × Bits) :=
  let first := List.take n bits
  if first.length = n then .ok (value first, bits.drop n) else .error .short

/-- The bits from the next full byte on. -/
def align (bits : Bits) : Bits := bits.drop (bits.length % 8)

/-- The bytes of bits, as far as they are full. -/
def toBytes : Bits → Bytes
  | a :: b :: c :: d :: e :: f :: g :: h :: bits => (value [a, b, c, d, e, f, g, h]).toUInt8 :: toBytes bits
  | _ => []

end Bits

end DomainPolicy.Deflate
