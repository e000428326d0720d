/-!
# Blocks of names of characters

* A `Block` has the names of characters in a row. They are written on without a break: small letters say how much of the
  name before is left out at its end, and capital letters, digits, blanks and hyphens follow what is left of it.
* `Block.find?` gives the character of a name.
-/

namespace DomainPolicy.CharacterName

/-- The names of the characters from a code point on, in lines. -/
structure Block where
  first : Nat
  lines : List String
  deriving Repr

/-- How many characters a small letter leaves out. -/
def omitted (c : Char) : Nat := c.toNat - 'a'.toNat

/-- The names that are written, each of them backwards. `name` is what there is of the next one. -/
def names (name : List Char) : List Char → List (List Char)
  | [] => []
  | c :: cs =>
    if c.isLower then names (name.drop (omitted c)) cs
    else if cs.head?.all Char.isLower then (c :: name) :: names (c :: name) cs
    else names (c :: name) cs

/-- The character of a name. -/
def Block.find? (name : List Char) (b : Block) : Option Char :=
  ((names [] (b.lines.flatMap String.toList)).idxOf? name.reverse).map fun i => Char.ofNat (b.first + i)

/-- The name of one character after that of another. -/
example : names [] "aDIGIT ONEdTWOcHREE".toList =
    ["DIGIT ONE", "DIGIT TWO", "DIGIT THREE"].map fun s => s.toList.reverse := by decide

end DomainPolicy.CharacterName
