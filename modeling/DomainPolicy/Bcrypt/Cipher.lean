import DomainPolicy.Bcrypt.Fraction
import DomainPolicy.Text.Utf8

/-!
# The slow cipher

* A `Schedule` holds the 18 subkeys and the four boxes of the block cipher. `Schedule.encipher` runs its sixteen rounds
  on two words.
* `Schedule.expand` replaces subkeys and boxes by enciphering, mixing a key and a salt in; `digest` does so `2 ^ cost`
  times over and enciphers a fixed text with the result.
-/

namespace DomainPolicy.Bcrypt

/-- Subkeys at `0` to `17`, then four boxes of 256 words. -/
abbrev Schedule := Vector UInt32 1042

namespace Schedule

/-- The word of box `k` at a byte. -/
@[inline] def box (s : Schedule) (k : Fin 4) (b : UInt8) : UInt32 :=
  have := b.toNat_lt
  s[18 + 256 * k.val + b.toNat]

/-- The mixing function of a round. -/
@[inline] def mix (s : Schedule) (x : UInt32) : UInt32 :=
  ((s.box 0 (x >>> 24).toUInt8 + s.box 1 (x >>> 16).toUInt8) ^^^ s.box 2 (x >>> 8).toUInt8) + s.box 3 x.toUInt8

/-- Rounds in pairs, from the subkey `2 * i + 1` on. -/
def rounds (s : Schedule) (i : Nat) (l r : UInt32) : UInt32 × UInt32 :=
  if h : i < 8 then
    let r := r ^^^ s.mix l ^^^ s[2 * i + 1]
    let l := l ^^^ s.mix r ^^^ s[2 * i + 2]
    rounds s (i + 1) l r
  else (l, r)
termination_by 8 - i

/-- Sixteen rounds on a block of two words. -/
def encipher (s : Schedule) (l r : UInt32) : UInt32 × UInt32 :=
  let (l, r) := s.rounds 0 (l ^^^ s[0]) r
  (r ^^^ s[17], l)

/-- Replaces the pairs of words from pair `i` on, each by enciphering the one before with the salt mixed in. -/
def replace (salt : Vector UInt32 4) (i : Nat) (l r : UInt32) (s : Schedule) : Schedule :=
  if h : i < 521 then
    let (l, r) := s.encipher (l ^^^ salt[2 * i % 4]) (r ^^^ salt[(2 * i + 1) % 4])
    replace salt (i + 1) l r ((s.set (2 * i) l).set (2 * i + 1) r)
  else s
termination_by 521 - i

/-- Mixes key words into the subkeys from `i` on. -/
def mixKey (key : Vector UInt32 18) (i : Nat) (s : Schedule) : Schedule :=
  if h : i < 18 then mixKey key (i + 1) (s.set i (s[i] ^^^ key[i])) else s
termination_by 18 - i

/-- Mixes a key and a salt into the whole schedule. -/
def expand (key : Vector UInt32 18) (salt : Vector UInt32 4) (s : Schedule) : Schedule :=
  replace salt 0 0 0 (mixKey key 0 s)

/-- Mixes key and salt in turn, `n` times. -/
def expandTimes (key salt : Vector UInt32 18) : Nat → Schedule → Schedule
  | 0, s => s
  | n + 1, s =>
    let none := Vector.replicate 4 0
    expandTimes key salt n (expand salt none (expand key none s))

end Schedule

/-- A word of four bytes, most significant first. -/
def word (a b c d : UInt8) : UInt32 :=
  a.toUInt32 <<< 24 ||| b.toUInt32 <<< 16 ||| c.toUInt32 <<< 8 ||| d.toUInt32

/-- The words of bytes; bytes left over are dropped. -/
def words : Bytes → List UInt32
  | a :: b :: c :: d :: rest => word a b c d :: words rest
  | _ => []

/-- The first words of bytes, zero where there are none. -/
def wordVector (n : Nat) (bs : Bytes) : Vector UInt32 n :=
  let ws := (words bs).toArray
  Vector.ofFn fun i => ws.getD i.val 0

/-- The bytes of a word, most significant first. -/
def wordBytes (w : UInt32) : Bytes := [(w >>> 24).toUInt8, (w >>> 16).toUInt8, (w >>> 8).toUInt8, w.toUInt8]

/-- Enciphers a block over and over. -/
def encipherTimes (s : Schedule) : Nat → UInt32 × UInt32 → UInt32 × UInt32
  | 0, b => b
  | n + 1, b => encipherTimes s n (s.encipher b.1 b.2)

/-- The text that is enciphered, in blocks. -/
def magicBlocks : List (UInt32 × UInt32) :=
  [(0x4F727068, 0x65616E42), (0x65686F6C, 0x64657253), (0x63727944, 0x6F756274)]

/-- The 23 bytes for a cost, a salt of 16 bytes and a key of 72. -/
def digest (cost : Nat) (salt key : Bytes) : Bytes :=
  let key := wordVector 18 key
  let saltWords := wordVector 4 salt
  let saltKey : Vector UInt32 18 := Vector.ofFn fun i => saltWords[i.val % 4]
  let s := Schedule.expandTimes key saltKey (Nat.pow 2 cost) (Schedule.expand key saltWords fractionWords)
  let out := magicBlocks.flatMap fun b =>
    let (l, r) := encipherTimes s 64 b
    wordBytes l ++ wordBytes r
  out.take 23

end DomainPolicy.Bcrypt
