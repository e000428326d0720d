import DomainPolicy.Text.Grid.Jis
import DomainPolicy.Text.Grid.JisAdded

/-!
# Japanese characters of several bytes

* The rows of the Japanese standards are reached in two ways: EUC adds `0x80` to row and place, and Shift JIS packs two
  rows into one first byte (`Japanese.shifted?`).
* The later standard has two planes and two editions, the first of which leaves ten characters out.
-/

namespace DomainPolicy.Japanese

/-- The katakana of half the width. -/
def halfKatakana? (n : Nat) : Option Char := if 0xA1 ≤ n ∧ n ≤ 0xDF then some (Char.ofNat (0xFEC0 + n)) else none

/-- The Roman letters of Japan differ from ASCII in two places. -/
def roman? (n : Nat) : Option Char :=
  if n = 0x5C then some '¥' else if n = 0x7E then some '‾' else if n < 0x80 then some (Char.ofNat n) else none

/-! ### Rows and places, both from 33 -/

def jis? (row column : Nat) : Option Char := Grid.jis.at33? row column

def supplement? (row column : Nat) : Option Char := Grid.jisSupplement.at33? row column

/-- An edition of the later standard. -/
inductive Edition where
  | first
  | second
  deriving DecidableEq, Repr

/-- Whether an edition does not have a character yet. -/
def Edition.lacks (e : Edition) (row column : Nat) : Bool := e == .first && Grid.jisLater.contains (row * 256 + column)

/-- The first plane of the later standard. -/
def added? (e : Edition) (row column : Nat) : Option (List Char) :=
  let code := row * 256 + column
  if e.lacks row column then none
  else
    match (jis? row column).or (Strip.find? Grid.jisAdded code) with
    | some c => some [c]
    | none => (Grid.jisCombined.lookup code).map String.toList

/-- The second plane of the later standard. -/
def second? (row column : Nat) : Option Char := Strip.find? Grid.jisSecond (row * 256 + column)

/-- The second plane as an edition has it. They differ in one character. -/
def editedSecond? (e : Edition) (row column : Nat) : Option Char :=
  if e = .first ∧ row = 0x7D ∧ column = 0x3B then some '鬝' else second? row column

/-! ### Shift JIS -/

/-- The row and place, both from 33, of two bytes. Rows behind the ninety-fourth are those of a second plane. -/
def shifted? (a b : Nat) : Option (Nat × Nat) :=
  let column? := if 0x40 ≤ b ∧ b < 0x7F then some (b - 0x40) else if 0x80 ≤ b ∧ b ≤ 0xFC then some (b - 0x41) else none
  let lead? := if 0x81 ≤ a ∧ a ≤ 0x9F then some (a - 0x81) else if 0xE0 ≤ a ∧ a ≤ 0xFC then some (a - 0xC1) else none
  match lead?, column? with
  | some lead, some column => some (2 * lead + column / 94 + 33, column % 94 + 33)
  | _, _ => none

def shiftJis? (a b : Nat) : Option Char := (shifted? a b).bind fun (row, column) => jis? row column

/-- Windows has characters of its own, and ten first bytes for private use. -/
def windows? (a b : Nat) : Option Char :=
  let own := if 0xF0 ≤ a ∧ a ≤ 0xF9 then
      (shifted? a b).map fun (row, column) => Char.ofNat (0xE000 + 94 * (row - 127) + (column - 33))
    else none
  ((Strip.find? Grid.windowsJis (a * 256 + b)).or own).or (shiftJis? a b)

/-- The row of the second plane that a row behind the ninety-fourth stands for. -/
def secondRow (row : Nat) : Nat :=
  let n := row - 33
  if 0x67 ≤ n then n + 7 else if 0x63 ≤ n ∨ n = 0x5F then n - 0x37 else n - 0x3D

/-- The later standard fills what Shift JIS leaves empty. The backslash is a narrow one here. -/
def shiftAdded? (e : Edition) (a b : Nat) : Option (List Char) :=
  (shifted? a b).bind fun (row, column) =>
    if row = 0x21 ∧ column = 0x40 then some ['\\']
    else if row < 127 then added? e row column
    else (editedSecond? e (secondRow row) column).map ([·])

/-- Whether two bytes stand for a character that an edition does not have yet. -/
def shiftLacks (e : Edition) (a b : Nat) : Bool := (shifted? a b).any fun (row, column) => e.lacks row column

/-! ### EUC -/

/-- A row and a place, each a byte that is not in ASCII. -/
def highPair? {α : Type} (f : Nat → Nat → Option α) (a b : Nat) : Option α :=
  if 0x80 ≤ a ∧ 0x80 ≤ b then f (a - 0x80) (b - 0x80) else none

/-- Two bytes of the first plane. The tilde is a wide one here. -/
def eucAdded? (e : Edition) (a b : Nat) : Option (List Char) :=
  if a = 0xA2 ∧ b = 0xB2 then some ['～'] else highPair? (added? e) a b

def eucLacks (e : Edition) (a b : Nat) : Bool := 0x80 ≤ a && 0x80 ≤ b && e.lacks (a - 0x80) (b - 0x80)

/-- Two bytes after a mark: the second plane and the supplement to the older standard share the rows. -/
def eucSecond? (e : Edition) (a b : Nat) : Option Char :=
  highPair? (fun row column => (editedSecond? e row column).or (supplement? row column)) a b

end DomainPolicy.Japanese
