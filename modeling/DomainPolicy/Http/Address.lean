import DomainPolicy.Number.Decimal
import DomainPolicy.Number.Hex
import DomainPolicy.Text.Split

/-!
# Internet addresses

* `Address.isV4` holds of four numbers up to 255 without needless zeros, with points between them.
* `Address.isV6` holds of eight groups of up to four hexadecimal digits, with colons between them; one run of groups may
  be left out, and the last two groups may be written as an address of the older kind.
-/

namespace DomainPolicy.Address

/-- A number up to 255 without needless zeros. -/
def isOctet (cs : List Char) : Bool :=
  cs ≠ [] && cs.all Decimal.isDigit && cs.length ≤ 3 && (cs = ['0'] || cs.head? ≠ some '0') && Decimal.value cs ≤ 255

def isV4 (cs : List Char) : Bool :=
  let octets := Split.pieces '.' cs
  octets.length = 4 && octets.all isOctet

/-- Up to four hexadecimal digits. -/
def isGroup (cs : List Char) : Bool := cs ≠ [] && cs.all Hex.isDigit && cs.length ≤ 4

/-- The groups of an address, an address of the older kind at its end counting as two. -/
def groups? (cs : List Char) : Option (List (List Char)) :=
  let groups := Split.pieces ':' cs
  match groups.getLast? with
  | some last =>
    if last.contains '.' then if isV4 last then some (groups.dropLast ++ [['0'], ['0']]) else none else some groups
  | none => none

/-- Whether groups are an address without a gap. -/
def isFull (groups : List (List Char)) : Bool := groups.length = 8 && groups.all isGroup

/-- Whether groups are an address with a gap, an empty group between two others. At an end of the address the gap takes
the empty group there too. -/
def isGapped (groups : List (List Char)) : Bool :=
  let before := groups.takeWhile (· ≠ [])
  let after := (groups.reverse.takeWhile (· ≠ [])).reverse
  let empty := groups.length - before.length - after.length
  let expected := 1 + (if before = [] then 1 else 0) + (if after = [] then 1 else 0)
  (groups.filter (· = [])).length = empty && empty = expected && before.length + after.length ≤ 7
    && before.all isGroup && after.all isGroup

def isV6 (cs : List Char) : Bool :=
  match groups? cs with
  | some groups => 3 ≤ (Split.pieces ':' cs).length && groups.length ≤ 9 && (isFull groups || isGapped groups)
  | none => false

end DomainPolicy.Address
