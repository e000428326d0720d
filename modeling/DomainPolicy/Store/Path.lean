import DomainPolicy.Text.CodePoint
import DomainPolicy.Text.Split
import DomainPolicy.Text.Utf8

/-!
# Paths

* A `Path` names a file or a directory by its parts, each a name of one directory or file. A name is any bytes but
  slashes.
* A path is kept without what does not matter in it: single points, empty parts, and parts that are left again.
* Half of a surrogate pair stands in a name for a byte that is no ASCII, if it is one of the 128 that do (`Path.bytes?`).
-/

namespace DomainPolicy

/-- A path, from the root or from where the process is. -/
structure Path where
  isAbsolute : Bool := false
  parts : List Bytes := []
  deriving DecidableEq, Repr

namespace Path

def slash : UInt8 := 0x2F

/-- The part that leaves a directory. -/
def up : Bytes := Utf8.encode ".."

/-- Goes on to a part. -/
def enter (p : Path) (part : Bytes) : Path :=
  if part = [] ∨ part = Utf8.encode "." then p
  else if part = up then
    match p.parts.getLast? with
    | none => if p.isAbsolute then p else { p with parts := [part] }
    | some last => if last = up then { p with parts := p.parts ++ [part] } else { p with parts := p.parts.dropLast }
  else { p with parts := p.parts ++ [part] }

/-- Where a path starts: at the root if a slash comes first. -/
def origin (bs : Bytes) : Path := { isAbsolute := bs.head? = some slash }

def ofBytes (bs : Bytes) : Path := (Split.pieces slash bs).foldl enter (origin bs)

def ofString (s : String) : Path := ofBytes (Utf8.encode s)

/-- The bytes of a code point in a name. -/
def bytesOfPoint? : CodePoint → Option Bytes
  | .scalar c => some (String.utf8EncodeChar c)
  | .surrogate half =>
    if 0x480 ≤ half.val ∧ half.val < 0x500 then some [(half.val - 0x400).toUInt8] else none

/-- The bytes of a text that is a name. -/
def bytes? (t : Text) : Option Bytes := (t.mapM bytesOfPoint?).map List.flatten

/-- The directory that a path lies in. -/
def directory (p : Path) : Path := p.enter up

/-- Whether a path only goes up, so that it leads to a directory whatever there is. -/
def isAscent (p : Path) : Bool := p.parts.all (· = up)

/-- The length of the name at the end of a path. -/
def nameLength (p : Path) : Nat := (p.parts.getLast?.getD []).length

end Path

end DomainPolicy
