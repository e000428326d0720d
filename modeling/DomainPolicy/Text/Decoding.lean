import DomainPolicy.Text.Piece
import DomainPolicy.Text.Utf8

/-!
# The encodings of Unicode

* `Scheme.pieces` reads bytes in UTF-8, or in UTF-16 or UTF-32 with its bytes in either order.
* `Scheme.detect` finds the encoding of a JSON text from a byte order mark or from where its zero bytes are.
-/

namespace DomainPolicy

/-! ### UTF-8 -/

namespace Utf8

/-- A sequence that has begun: how many bytes are to come, the bounds of the next one, and the bits so far. -/
structure Pending where
  left : Nat
  low : UInt8
  high : UInt8
  bits : Nat
  deriving DecidableEq, Repr

/-- What the first byte of a sequence says. The bounds on the second byte exclude overlong forms, numbers over
`0x10FFFF`, and, unless `halves` are let through, surrogates. -/
def start (halves : Bool) (b : UInt8) : Piece ⊕ Pending :=
  let n := b.toNat
  if n < 0x80 then .inl (Piece.ofNat n)
  else if n < 0xC2 then .inl .broken
  else if n < 0xE0 then .inr ⟨1, 0x80, 0xBF, n - 0xC0⟩
  else if n = 0xE0 then .inr ⟨2, 0xA0, 0xBF, 0⟩
  else if n = 0xED then .inr ⟨2, 0x80, if halves then 0xBF else 0x9F, 0xD⟩
  else if n < 0xF0 then .inr ⟨2, 0x80, 0xBF, n - 0xE0⟩
  else if n = 0xF0 then .inr ⟨3, 0x90, 0xBF, 0⟩
  else if n < 0xF4 then .inr ⟨3, 0x80, 0xBF, n - 0xF0⟩
  else if n = 0xF4 then .inr ⟨3, 0x80, 0x8F, 4⟩
  else .inl .broken

/-- Reads bytes after the sequence that has begun, if one has. A byte that cannot continue it breaks it and is read
as a first byte. -/
def pieces (halves : Bool) : Option Pending → Bytes → List Piece
  | none, [] => []
  | some _, [] => [.broken]
  | none, b :: rest =>
    match start halves b with
    | .inl p => p :: pieces halves none rest
    | .inr q => pieces halves (some q) rest
  | some q, b :: rest =>
    if q.low ≤ b ∧ b ≤ q.high then
      let bits := q.bits * 64 + (b.toNat - 0x80)
      if q.left ≤ 1 then Piece.ofNat bits :: pieces halves none rest
      else pieces halves (some ⟨q.left - 1, 0x80, 0xBF, bits⟩) rest
    else
      .broken ::
        match start halves b with
        | .inl p => p :: pieces halves none rest
        | .inr q => pieces halves (some q) rest

end Utf8

/-! ### UTF-16 and UTF-32 -/

/-- The order of the bytes of a unit. -/
inductive Endian where
  | little
  | big
  deriving DecidableEq, Repr

namespace Utf16

/-- The unit of two bytes. -/
def unit (e : Endian) (a b : UInt8) : Nat :=
  match e with
  | .little => b.toNat * 256 + a.toNat
  | .big => a.toNat * 256 + b.toNat

/-- The units of bytes, and whether a byte is left over. -/
def units (e : Endian) : Bytes → List Nat × Bool
  | [] => ([], false)
  | [_] => ([], true)
  | a :: b :: rest => let (us, odd) := units e rest; (unit e a b :: us, odd)

/-- Joins pairs; a half without its partner is a code point of its own if `halves` are let through, else broken. -/
def join (halves : Bool) : List Nat → List Piece
  | [] => []
  | [u] => [lone u]
  | u :: v :: rest =>
    if 0xD800 ≤ u ∧ u < 0xDC00 ∧ 0xDC00 ≤ v ∧ v < 0xE000 then
      Piece.ofNat (0x10000 + (u - 0xD800) * 1024 + (v - 0xDC00)) :: join halves rest
    else lone u :: join halves (v :: rest)
where
  lone (u : Nat) : Piece :=
    if 0xD800 ≤ u ∧ u < 0xE000 ∧ !halves then .broken else Piece.ofNat u

/-- Whether the last unit begins a pair. -/
def endsHigh (us : List Nat) : Bool := us.getLast?.any fun u => 0xD800 ≤ u && u < 0xDC00

/-- A byte that is left over is broken, together with a half before it that begins a pair. -/
def pieces (halves : Bool) (e : Endian) (bs : Bytes) : List Piece :=
  let (us, odd) := units e bs
  if odd then join halves (if endsHigh us then us.dropLast else us) ++ [.broken] else join halves us

end Utf16

namespace Utf32

def unit (e : Endian) (a b c d : UInt8) : Nat :=
  match e with
  | .little => Utf16.unit .little c d * 65536 + Utf16.unit .little a b
  | .big => Utf16.unit .big a b * 65536 + Utf16.unit .big c d

def pieces (halves : Bool) (e : Endian) : Bytes → List Piece
  | [] => []
  | a :: b :: c :: d :: rest =>
    let u := unit e a b c d
    (if 0xD800 ≤ u ∧ u < 0xE000 ∧ !halves then .broken else Piece.ofNat u) :: pieces halves e rest
  | _ => [.broken]

end Utf32

/-! ### Encodings -/

/-- An encoding of Unicode in bytes. -/
inductive Scheme where
  | utf8
  | utf16 (e : Endian)
  | utf32 (e : Endian)
  deriving DecidableEq, Repr

namespace Scheme

def pieces (halves : Bool) : Scheme → Bytes → List Piece
  | utf8, bs => Utf8.pieces halves none bs
  | utf16 e, bs => Utf16.pieces halves e bs
  | utf32 e, bs => Utf32.pieces halves e bs

/-- The byte order marks, each before those that it starts with. -/
def marks : List (Bytes × Scheme) :=
  [([0x00, 0x00, 0xFE, 0xFF], utf32 .big), ([0xFF, 0xFE, 0x00, 0x00], utf32 .little), ([0xFE, 0xFF], utf16 .big),
    ([0xFF, 0xFE], utf16 .little), ([0xEF, 0xBB, 0xBF], utf8)]

/-- The encoding of a JSON text without a mark. The zero bytes among the first four show the width and order of the
units. -/
def unmarked : Bytes → Scheme
  | a :: b :: c :: d :: _ =>
    if a = 0 then (if b = 0 then utf32 .big else utf16 .big)
    else if b = 0 then (if c = 0 ∧ d = 0 then utf32 .little else utf16 .little)
    else utf8
  | [a, b] => if a = 0 then utf16 .big else if b = 0 then utf16 .little else utf8
  | _ => utf8

/-- The encoding of a JSON text, and its bytes after the byte order mark. -/
def detect (bs : Bytes) : Scheme × Bytes :=
  match marks.find? (·.1.isPrefixOf bs) with
  | some (mark, scheme) => (scheme, bs.drop mark.length)
  | none => (unmarked bs, bs)

/-- The text of the bytes of a JSON text; lone surrogates are let through. -/
def decodeJson? (bs : Bytes) : Option Text :=
  let (scheme, rest) := detect bs
  Piece.strict (scheme.pieces true rest)

end Scheme

end DomainPolicy
