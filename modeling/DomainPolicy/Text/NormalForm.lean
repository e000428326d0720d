import DomainPolicy.Text.Composites
import DomainPolicy.Text.Marks

/-!
# The normal form of a text

* A character with marks can be written as one character or as several. In the normal form as few are written as there
  can be, and what marks are left are in the order of their classes.
* A text gets there in three steps: its characters are taken apart (`decompose`), the marks of each are put in order
  (`order`), and what makes one character is put together again (`compose`).
-/

namespace DomainPolicy.NormalForm

open Composites

/-! ### Two characters and one -/

/-- The syllables of Korea that have no letter at their end come at this distance. -/
def tails : Nat := 28

def vowels : Nat := 21

def isSyllable (n : Nat) : Bool := 0xAC00 ≤ n && n < 0xAC00 + 19 * vowels * tails

/-- The two parts of a character that has two: what it is without its last mark or letter, and that. -/
def parts? (c : Char) : Option (Char × Char) :=
  let n := c.toNat
  if isSyllable n then
    let i := n - 0xAC00
    if i % tails = 0 then some (Char.ofNat (0x1100 + i / tails / vowels), Char.ofNat (0x1161 + i / tails % vowels))
    else some (Char.ofNat (n - i % tails), Char.ofNat (0x11A7 + i % tails))
  else
    families.findSome? fun f =>
      (f.members.find? (·.2 = n)).map fun m => (Char.ofNat m.1, Char.ofNat f.mark)

/-- The character that two make. -/
def whole? (a b : Char) : Option Char :=
  let m := a.toNat
  let n := b.toNat
  if 0x1100 ≤ m ∧ m < 0x1113 ∧ 0x1161 ≤ n ∧ n < 0x1161 + vowels then
    some (Char.ofNat (0xAC00 + ((m - 0x1100) * vowels + (n - 0x1161)) * tails))
  else if isSyllable m ∧ (m - 0xAC00) % tails = 0 ∧ 0x11A7 < n ∧ n < 0x11A7 + tails then
    some (Char.ofNat (m + (n - 0x11A7)))
  else
    (families.find? (·.mark = n)).bind fun f => (f.members.find? (·.1 = m)).map fun p => Char.ofNat p.2

/-! ### The three steps -/

/-- The most times that the first part of a character has two parts itself, and one more. -/
def maxDepth : Nat := 3

/-- What a character is made of, its first part taken apart at most so many times. -/
def decomposeWithin : Nat → Char → List Char
  | 0, c => [c]
  | k + 1, c =>
    match parts? c with
    | none => [c]
    | some (a, b) => decomposeWithin k a ++ [b]

/-- The characters that a character is made of. -/
def decompose (c : Char) : List Char := decomposeWithin maxDepth c

/-- Puts a mark behind the marks of lower classes that follow it. -/
def place (c : Char) : List Char → List Char
  | [] => [c]
  | d :: ds =>
    if Marks.classOf d ≠ 0 ∧ Marks.classOf d < Marks.classOf c then d :: place c ds else c :: d :: ds

/-- Marks in the order of their classes. -/
def order : List Char → List Char
  | [] => []
  | c :: cs => place c (order cs)

/-- A text on the way to be put together: what is done, read backwards, the last character that marks can go to, and the
marks that stay beside it, read backwards too. -/
structure Draft where
  done : List Char := []
  last : Option Char := none
  marks : List Char := []
  deriving DecidableEq, Repr

namespace Draft

def all (d : Draft) : List Char := d.marks ++ d.last.toList ++ d.done

/-- Takes in one character. It goes to the last one if they make one character, and no mark between them is of its class
or above. -/
def take (d : Draft) (c : Char) : Draft :=
  let k := Marks.classOf c
  let isNear := d.marks.head?.all fun m => Marks.classOf m < k
  match (if isNear then d.last.bind (whole? · c) else none) with
  | some w => { d with last := some w }
  | none =>
    if k = 0 then { done := d.all, last := some c }
    else { d with marks := c :: d.marks }

end Draft

/-- What makes one character is put together. -/
def compose (cs : List Char) : List Char := (cs.foldl Draft.take {}).all.reverse

/-- Whether a text is in its normal form. -/
def isNormal (cs : List Char) : Bool :=
  cs.all (!retiredRanges.holds ·.toNat) && compose (order (cs.flatMap decompose)) == cs

end DomainPolicy.NormalForm
