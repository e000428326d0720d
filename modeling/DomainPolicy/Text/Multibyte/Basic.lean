import DomainPolicy.Text.Multibyte.Chinese
import DomainPolicy.Text.Multibyte.Japanese
import DomainPolicy.Text.Multibyte.Korean
import DomainPolicy.Text.Stepwise

/-!
# Encodings in one and in two bytes

* Characters of ASCII have one byte, most others two, of which the first is not in ASCII. Some encodings have characters
  of three, four or eight bytes.
* Two bytes that are no character are broken after the first of them.
-/

namespace DomainPolicy

inductive Multibyte where
  | shiftJis
  | windowsJapanese
  | shiftJisAdded (e : Japanese.Edition)
  | eucJapanese
  | eucJapaneseAdded (e : Japanese.Edition)
  | gb2312
  | gbk
  | gb18030
  | big5
  | windowsTaiwan
  | hongKong
  | eucKorean
  | windowsKorean
  | johab
  deriving DecidableEq, Repr

namespace Multibyte

/-- The character of one byte, if it has one. -/
def single? (m : Multibyte) (n : Nat) : Option Char :=
  let ascii? := if n < 0x80 then some (Char.ofNat n) else none
  match m with
  | shiftJis => ascii?.or (Japanese.halfKatakana? n)
  | shiftJisAdded _ => (Japanese.roman? n).or (Japanese.halfKatakana? n)
  | windowsJapanese =>
    if n ≤ 0x80 then some (Char.ofNat n)
    else if n = 0xA0 then some '\uF8F0'
    else if 0xFD ≤ n then some (Char.ofNat (0xF8F1 + (n - 0xFD)))
    else Japanese.halfKatakana? n
  | _ => ascii?

/-- The characters of two bytes, if they have any. -/
def pair? (m : Multibyte) (a b : Nat) : Option (List Char) :=
  let one (c : Option Char) : Option (List Char) := c.map ([·])
  match m with
  | shiftJis => one (Japanese.shiftJis? a b)
  | windowsJapanese => one (Japanese.windows? a b)
  | shiftJisAdded e => Japanese.shiftAdded? e a b
  | eucJapanese => one (if a = 0x8E then Japanese.halfKatakana? b else Japanese.highPair? Japanese.jis? a b)
  | eucJapaneseAdded e => if a = 0x8E then one (Japanese.halfKatakana? b) else Japanese.eucAdded? e a b
  | gb2312 => one (Chinese.gb2312? a b)
  | gbk => one (Chinese.gbk? a b)
  | gb18030 => one (Chinese.gb18030? a b)
  | big5 => one (Chinese.big5? a b)
  | windowsTaiwan => one (Chinese.windows? a b)
  | hongKong => Chinese.hongKong? a b
  | eucKorean => one (Korean.ks? a b)
  | windowsKorean => one (Korean.windows? a b)
  | johab => one (Korean.johab? a b)

/-- How many of two bytes that are no character are broken together: both if another edition has one there. -/
def brokenLength (m : Multibyte) (a b : Nat) : Nat :=
  match m with
  | shiftJisAdded e => if Japanese.shiftLacks e a b then 2 else 1
  | eucJapaneseAdded e => if Japanese.eucLacks e a b then 2 else 1
  | _ => 1

/-! ### Steps -/

/-- Two bytes after a mark that EUC has in Japan. -/
def markedStep (m : Multibyte) (a : UInt8) : Bytes → Step Unit
  | [] => .short
  | b :: _ =>
    let char? := match m with
      | eucJapaneseAdded e => Japanese.eucSecond? e a.toNat b.toNat
      | _ => Japanese.highPair? Japanese.supplement? a.toNat b.toNat
    .ofChar? char? () 3 1

/-- Four bytes of GB 18030, the second of which is a digit. -/
def fourStep (a b : UInt8) : Bytes → Step Unit
  | c :: d :: _ => .ofChar? (Chinese.four? a.toNat b.toNat c.toNat d.toNat) () 4 1
  | _ => .short

/-- The last six of eight bytes that make up a syllable. -/
def syllableStep : Bytes → Step Unit
  | a :: x :: b :: y :: c :: z :: _ =>
    let isMarked := a = Korean.letterRow ∧ b = Korean.letterRow ∧ c = Korean.letterRow
    .ofChar? (if isMarked then Korean.syllable? x y z else none) () 8 1
  | _ => .short

/-- Whether a byte is a mark before two others. -/
def isMark (m : Multibyte) (a : UInt8) : Bool :=
  match m with
  | eucJapanese | eucJapaneseAdded _ => a == 0x8F
  | _ => false

def step (m : Multibyte) (_ : Unit) (a : UInt8) (rest : Bytes) : Step Unit :=
  match m.single? a.toNat, rest with
  | some c, _ => .char c () 1
  | none, [] => .short
  | none, b :: rest =>
    if m.isMark a then m.markedStep b rest
    else if m = gb18030 ∧ 0x30 ≤ b ∧ b ≤ 0x39 then fourStep a b rest
    else if m = eucKorean ∧ a = Korean.letterRow ∧ b = Korean.filler then syllableStep rest
    else
      match m.pair? a.toNat b.toNat with
      | some cs => .next (cs.map Piece.ofChar) () 2
      | none => .wrong () (m.brokenLength a.toNat b.toNat)

def pieces (m : Multibyte) (bs : Bytes) : List Piece := Stepwise.pieces m.step () bs

end Multibyte

end DomainPolicy
