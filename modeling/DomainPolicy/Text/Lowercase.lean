import DomainPolicy.Text.CodePoint
import DomainPolicy.Text.LetterCase

/-!
# Small letters

* `Lowercase.lower` writes a text in small letters: each capital becomes its small letter, `U+0130` becomes two
  characters, and a capital sigma becomes the final form when a letter stands before it and none after it.
* What stands before and after is looked up past characters that are ignored for case, such as the full stop.
* In a text with lone halves each piece between two of them is written in small letters by itself (`lowerText`).
-/

namespace DomainPolicy.Lowercase

open LetterCase

def isCased (c : Char) : Bool := casedRanges.holds c.toNat

def isIgnorable (c : Char) : Bool := ignorableRanges.holds c.toNat

/-- The small letter of a character; of a character without one, itself. -/
def lowerChar (c : Char) : Char :=
  match lowerRuns.find? (·.holds c.toNat) with
  | some r => Char.ofNat (c.toNat + r.delta).toNat
  | none => c

/-- Whether the first character that is not ignored has case. -/
def startsCased : List Char → Bool
  | [] => false
  | c :: rest => if isIgnorable c then startsCased rest else isCased c

/-- What a character becomes between a part before it, of which only matters whether it ends with a letter, and the
part after it. -/
def lowerAt (afterCased : Bool) (c : Char) (rest : List Char) : List Char :=
  if c = '\u03A3' then [if afterCased && !startsCased rest then '\u03C2' else '\u03C3']
  else if c = '\u0130' then ['i', '\u0307']
  else [lowerChar c]

/-- Small letters of what follows a part that ends with a letter, or does not. -/
def lowerFrom (afterCased : Bool) : List Char → List Char
  | [] => []
  | c :: rest => lowerAt afterCased c rest ++ lowerFrom (if isIgnorable c then afterCased else isCased c) rest

/-- A text in small letters. -/
def lower (cs : List Char) : List Char := lowerFrom false cs

/-- A text that may hold lone halves in small letters. A lone half has no case, and is not ignored for it. -/
def lowerText (t : Text) : Text := t.mapRuns lower

@[simp] theorem lowerText_ofChars (cs : List Char) : lowerText (.ofChars cs) = .ofChars (lower cs) :=
  Text.mapRuns_ofChars lower cs

end DomainPolicy.Lowercase
