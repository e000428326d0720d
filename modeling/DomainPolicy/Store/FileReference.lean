import DomainPolicy.Store.Path
import DomainPolicy.Text.Latin1
import DomainPolicy.Text.Percent

/-!
# File references

* A reference to a file is the word `file` with a colon, perhaps the name of this machine, a path, and fields after a
  question mark. What follows a number sign does not count. It is read byte by byte: a character stands for a byte.
* `FileReference.parse?` reads one. Its fields say how the file is accessed, and by which means (`means`).
-/

namespace DomainPolicy

/-- How a file is accessed. Each way but the last takes in the ways before it. -/
inductive Access where
  | read
  | write
  | create
  | memory
  deriving DecidableEq, Repr

namespace Access

def rank : Access → Nat
  | read => 0
  | write => 1
  | create => 2
  | memory => 3

def ofName? : String → Option Access
  | "ro" => some read
  | "rw" => some write
  | "rwc" => some create
  | "memory" => some memory
  | _ => none

/-- The access after another one is asked for. It may not take in more, except that memory can always be had. -/
def restrict? (a next : Access) : Option Access := if next = memory ∨ next.rank ≤ a.rank then some next else none

end Access

/-- A file by its name and the fields that go with it. -/
structure FileReference where
  name : Bytes
  fields : List (String × Bytes) := []
  deriving DecidableEq, Repr

namespace FileReference

/-- What follows the authority of a reference, if it is this machine. -/
def dropAuthority? (cs : List Char) : Option (List Char) :=
  match cs with
  | '/' :: '/' :: rest =>
    let authority := rest.takeWhile (· ≠ '/')
    if authority = [] ∨ authority = "localhost".toList then some (rest.drop authority.length) else none
  | _ => some cs

/-- The bytes that a part stands for, up to a zero. -/
def plain (cs : List Char) : Bytes := (Percent.bytes (fun c => [c.toNat.toUInt8]) cs).takeWhile (· ≠ 0)

/-- The fields of a query, each a name and a value, which may be empty. A field without a name does not count. -/
def fieldsOf (query : List Char) : List (String × Bytes) :=
  ((Split.pieces '&' query).map fun field =>
    let (name, value) := Split.cut '=' field
    (Latin1.decode (plain name), plain (value.getD []))).filter (·.1 ≠ "")

/-- Reads what follows the word and its colon. -/
def parse? (cs : List Char) : Option FileReference :=
  (dropAuthority? cs).map fun rest =>
    let (path, query) := Split.cut '?' (rest.takeWhile (· ≠ '#'))
    { name := plain path, fields := (query.map fieldsOf).getD [] }

/-- The value of the first field of a name. -/
def value? (r : FileReference) (name : String) : Option Bytes := (r.fields.find? (·.1 = name)).map Prod.snd

/-! ### Switches -/

/-- A number in hexadecimal digits, of at most 31 bits, else zero. -/
def hexNumber (cs : List Char) : Nat :=
  let digits := (cs.takeWhile Hex.isDigit).dropWhile (· = '0')
  let n := digits.foldl (fun n c => n * 16 + (Hex.value? c).getD 0) 0
  if digits.length ≤ 8 ∧ n < 0x80000000 then n else 0

/-- A number in decimal digits, of at most 31 bits, else zero. -/
def decimalNumber (cs : List Char) : Nat :=
  let digits := (cs.takeWhile Char.isDigit).dropWhile (· = '0')
  let n := digits.foldl (fun n c => n * 10 + (c.toNat - 48)) 0
  if digits.length ≤ 10 ∧ n < 0x80000000 then n else 0

/-- The number that a text starts with. -/
def leadingNumber (cs : List Char) : Nat :=
  match cs with
  | '0' :: x :: digit :: more =>
    if (x = 'x' ∨ x = 'X') ∧ Hex.isDigit digit then hexNumber (digit :: more) else decimalNumber (x :: digit :: more)
  | _ => decimalNumber cs

/-- Whether a value switches something on: one of three words, or a number whose last byte is not zero. -/
def switchesOn (value : Bytes) : Bool :=
  let cs := (Latin1.decode value).toList
  if cs.head?.any Char.isDigit then leadingNumber cs % 256 ≠ 0
  else ["on", "yes", "true"].contains (String.ofList (cs.map Char.toLower))

/-- Whether nothing can be changed whatever the access. -/
def isImmutable (r : FileReference) : Bool := (r.value? "immutable").any switchesOn

/-! ### Access and means -/

/-- The access that the fields leave, if they agree. -/
def access? (r : FileReference) : Option Access :=
  r.fields.foldlM (fun a (name, value) =>
    if name = "mode" then (Access.ofName? (Latin1.decode value)).bind a.restrict?
    else if name = "cache" then if ["shared", "private"].contains (Latin1.decode value) then some a else none
    else some a) Access.create

/-- What keeps a database: the disk, or memory in the place of a disk. -/
inductive Means where
  | disk
  | memoryDisk
  deriving DecidableEq, Repr

/-- The means that the last field of its name asks for, if there is such. -/
def means? (r : FileReference) : Option Means :=
  match (r.fields.filter (·.1 = "vfs")).getLast?.map fun f => Latin1.decode f.2 with
  | none => some .disk
  | some "memdb" => some .memoryDisk
  | some name => if ["unix", "unix-none", "unix-dotfile", "unix-excl"].contains name then some .disk else none

end FileReference

end DomainPolicy
