import DomainPolicy.Deflate.Inflate

/-!
# Containers of compressed data

* `Container.gzip?` and `Container.zlib?` expand data between a header and a check sum; `Container.raw?` expands data
  that have neither. Data that end early give what they have, and what follows the check sum is left out.
-/

namespace DomainPolicy.Deflate.Container

/-! ### Check sums -/

/-- One step of the remainder by the polynomial of the sum. -/
def crcStep (c : UInt32) : UInt32 := if c &&& 1 = 1 then (c >>> 1) ^^^ 0xEDB88320 else c >>> 1

def crcByte (c : UInt32) (b : UInt8) : UInt32 :=
  let start := c ^^^ b.toUInt32
  crcStep (crcStep (crcStep (crcStep (crcStep (crcStep (crcStep (crcStep start)))))))

/-- The remainder of bytes by a polynomial of 32 bits. -/
def crc32 (bs : Bytes) : Nat := ((bs.foldl crcByte 0xFFFFFFFF) ^^^ 0xFFFFFFFF).toNat

/-- The sum of bytes, and the sum of its values on the way, both by a prime. -/
def adler32 (bs : Bytes) : Nat :=
  let (a, b) := bs.foldl (fun (a, b) x => ((a + x.toNat) % 65521, (b + (a + x.toNat)) % 65521)) (1, 0)
  b * 65536 + a

/-! ### Trailers -/

/-- The number of bytes, the lowest first. -/
def little (bs : Bytes) : Nat := bs.foldr (fun b n => b.toNat + 256 * n) 0

/-- The number of bytes, the highest first. -/
def big (bs : Bytes) : Nat := bs.foldl (fun n b => n * 256 + b.toNat) 0

/-- What data expand to, if the trailer that follows them is right, as far as there is one. -/
def expand? (isRight : Bytes → Bytes → Bool) (bs : Bytes) : Option Bytes :=
  match inflate (Bits.ofBytes bs) with
  | .done p =>
    let out := p.out.toList
    if isRight out (Bits.toBytes (Bits.align p.bits)) then some out else none
  | .short out => some out.toList
  | .broken => none

def raw? (bs : Bytes) : Option Bytes := expand? (fun _ _ => true) bs

/-! ### The shorter header -/

/-- Whether four bytes in front, if there are as many, are the sum of what was expanded. -/
def isAdlerRight (out trailer : Bytes) : Bool := trailer.length < 4 || big (trailer.take 4) = adler32 out

/-- Expands data after a header of two bytes: a method, a window, and a check. Data that need a dictionary are refused
once its name has been read. -/
def zlib? (bs : Bytes) : Option Bytes :=
  match bs with
  | a :: b :: rest =>
    if (a.toNat * 256 + b.toNat) % 31 ≠ 0 ∨ a.toNat % 16 ≠ 8 ∨ 7 < a.toNat / 16 then none
    else if b.toNat.testBit 5 then if rest.length < 4 then some [] else none
    else expand? isAdlerRight rest
  | _ => some []

/-! ### The longer header -/

/-- Whether the bytes in front, as far as there are any, are the sum and the length of what was expanded. -/
def isCrcRight (out trailer : Bytes) : Bool :=
  (trailer.length < 4 || little (trailer.take 4) = crc32 out)
    && (trailer.length < 8 || little ((trailer.drop 4).take 4) = out.length % 4294967296)

/-- Leaves a field out that has its length in front. -/
def dropExtra (bs : Bytes) : Except Halt Bytes :=
  if bs.length < 2 then .error .short
  else
    let length := little (bs.take 2)
    if bs.length < 2 + length then .error .short else .ok (bs.drop (2 + length))

/-- Leaves a field out that ends in a zero byte. -/
def dropText (bs : Bytes) : Except Halt Bytes :=
  match bs.dropWhile (· ≠ 0) with
  | [] => .error .short
  | _ :: rest => .ok rest

/-- Leaves the sum of the header out, if it is right. -/
def dropHeaderSum (header bs : Bytes) : Except Halt Bytes :=
  if bs.length < 2 then .error .short
  else if little (bs.take 2) = crc32 header % 65536 then .ok (bs.drop 2) else .error .broken

/-- What follows the header. Its flags tell which fields it has. -/
def dropHeader (bs : Bytes) : Except Halt Bytes := do
  match bs with
  | 0x1F :: 0x8B :: rest =>
    match rest with
    | method :: flags :: _ =>
      if method ≠ 8 ∨ 32 ≤ flags then throw .broken
      if bs.length < 10 then throw .short
      let has (i : Nat) : Bool := flags.toNat.testBit i
      let rest ← if has 2 then dropExtra (bs.drop 10) else pure (bs.drop 10)
      let rest ← if has 3 then dropText rest else pure rest
      let rest ← if has 4 then dropText rest else pure rest
      if has 1 then dropHeaderSum (bs.take (bs.length - rest.length)) rest else return rest
    | _ => throw .short
  | _ :: _ :: _ => throw .broken
  | _ => throw .short

def gzip? (bs : Bytes) : Option Bytes :=
  match dropHeader bs with
  | .ok rest => expand? isCrcRight rest
  | .error .short => some []
  | .error .broken => none

end DomainPolicy.Deflate.Container
