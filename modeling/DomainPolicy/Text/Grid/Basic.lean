/-!
# Character sets in rows

* A `Grid` has characters in rows of equal length; `Grid.char?` finds one by its row and its place in it.
* A `Strip` gives consecutive codes the characters of a string, a `Stretch` gives them consecutive code points.
-/

namespace DomainPolicy

/-- Rows of characters. They are written on without a break, in lines of equal length; a line may end early, and
`U+FFFD` stands for an empty place. -/
structure Grid where
  columns : Nat
  lines : List String
  deriving DecidableEq, Repr

/-- Characters of consecutive codes. -/
structure Strip where
  first : Nat
  chars : String
  deriving DecidableEq, Repr

/-- Consecutive code points of consecutive codes. -/
structure Stretch where
  first : Nat
  length : Nat
  point : Nat
  deriving DecidableEq, Repr

namespace Grid

/-- The number of characters in a line. -/
def lineLength : Nat := 47

/-- The character at a place of a row. -/
def char? (g : Grid) (row column : Nat) : Option Char :=
  let place := row * g.columns + column
  if column < g.columns then
    (g.lines[place / lineLength]?.bind fun line => line.toList[place % lineLength]?).filter (· ≠ '\uFFFD')
  else none

/-- The character of two numbers that begin at 33. -/
def at33? (g : Grid) (row column : Nat) : Option Char :=
  if 33 ≤ row ∧ 33 ≤ column then g.char? (row - 33) (column - 33) else none

end Grid

/-- The character of a code, if a strip has it. -/
def Strip.find? (strips : List Strip) (code : Nat) : Option Char :=
  strips.findSome? fun s => if s.first ≤ code then s.chars.toList[code - s.first]? else none

/-- The character of a code, if a stretch has it. -/
def Stretch.find? (stretches : List Stretch) (code : Nat) : Option Char :=
  stretches.findSome? fun s =>
    if s.first ≤ code ∧ code < s.first + s.length then some (Char.ofNat (s.point + (code - s.first))) else none

end DomainPolicy
