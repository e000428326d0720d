import DomainPolicy.Store.Driver
import DomainPolicy.Store.FileReference
import DomainPolicy.Store.Url

/-!
# Where a database is

* A `Location` is memory, a file, or no place at all. `Location.ofUrl` finds it from a database URL.
* The service works with one driver only, and that driver takes neither user nor host nor port. Whatever else a URL
  asks for is refused, each thing for its own reason.
* Some things are wrong only once there is to be a connection; the location is then none, with the `Obstacle` that is in
  the way.
-/

namespace DomainPolicy

/-- How a file is opened: whether it has to be there, whether it can be changed, and the path of something that has to
be there too, whose permissions a new file gets. -/
structure Opening where
  mustExist : Bool := false
  isWritable : Bool := true
  sample : Option Bytes := none
  deriving DecidableEq, Repr

/-- Why there is no connection to a database. -/
inductive Obstacle where
  | unreachable
  | nameForeign
  | nameCut
  | optionTooLarge
  | unknownIsolation
  deriving DecidableEq, Repr

/-- Where a database is. -/
inductive Location where
  | memory (isWritable : Bool := true)
  | file (path : Path) (opening : Opening := {})
  | nowhere (obstacle : Obstacle)
  deriving DecidableEq, Repr

/-- Why a URL leads to no database. -/
inductive LocationError where
  | malformed
  | badPort
  | tooManyDrivers
  | driver (e : Driver.Error)
  | blockingDriver
  | badOption
  | repeatedOption
  | nameMissing
  deriving DecidableEq, Repr

namespace Location

/-- The system and the driver of a name, the system's own driver being `base`. -/
def systemAndDriver (name : String) : Except LocationError (String × String) :=
  match Split.pieces '+' name.toList with
  | [system] => .ok (String.ofList system, "base")
  | [system, driver] => .ok (String.ofList system, String.ofList driver)
  | _ => .error .tooManyDrivers

/-- The kind of the driver of a name. -/
def driverKind (name : String) : Except LocationError Driver.Kind :=
  match systemAndDriver name with
  | .error e => .error e
  | .ok (system, driver) => (Driver.find system driver).mapError .driver

/-! ### Names of databases -/

/-- The name that stands for memory. -/
def memoryName : String := ":memory:"

/-- The place of a database by its name. -/
def ofName (database : Bytes) : Location :=
  if database = [] ∨ database = Utf8.encode memoryName then memory else file (.ofBytes database)

/-- The most bytes of the name of a file in memory. -/
def maxMemoryName : Nat := 1016

/-- The place of a file that is accessed in some way. A file without a name is in memory. -/
def ofFile (r : FileReference) (access : Access) (means : FileReference.Means) : Location :=
  let isWritable := access ≠ .read
  if r.name = [] ∨ r.name = Utf8.encode memoryName ∨ access = .memory then memory isWritable
  else
    match means with
    | .memoryDisk =>
      if maxMemoryName < r.name.length then nowhere .unreachable else memory (isWritable && !r.isImmutable)
    | .disk =>
      file (.ofBytes r.name)
        { mustExist := access = .read ∨ access = .write, isWritable := isWritable && !r.isImmutable
          sample := r.value? "modeof" }

/-- The place of a database by a reference: a name, or a path and fields after the word `file`. -/
def ofReference (reference : Bytes) : Location :=
  match (Latin1.decode reference).toList with
  | 'f' :: 'i' :: 'l' :: 'e' :: ':' :: rest =>
    match FileReference.parse? rest with
    | none => nowhere .unreachable
    | some r =>
      match r.access?, r.means? with
      | some access, some means => ofFile r access means
      | _, _ => nowhere .unreachable
  | _ => ofName reference

/-! ### URLs -/

/-- The place of a database, unless something is in the way of a connection whatever the place: an option, or a name
that is no name of a file, or with a zero in it. -/
def place (u : DatabaseUrl) (name : Text) (ofBytes : Bytes → Location) : Location :=
  match u.connectionFault?, Path.bytes? name with
  | some .tooLarge, _ => nowhere .optionTooLarge
  | some .unknownIsolation, _ => nowhere .unknownIsolation
  | none, none => nowhere .nameForeign
  | none, some bs => if bs.contains 0 then nowhere .nameCut else ofBytes bs

/-- The place of the database of a URL whose driver can be used. -/
def ofParts (u : DatabaseUrl) : Except LocationError Location :=
  if u.isReference then
    match u.reference? with
    | none => .error .nameMissing
    | some name => .ok (place u name ofReference)
  else .ok (place u (u.database.getD []) ofName)

/-- The place of a database by its URL. No driver has extensions. -/
def ofUrl (url : Text) : Except LocationError Location :=
  match DatabaseUrl.parse? url with
  | none => .error .malformed
  | some u =>
    if u.portNumber? = some none then .error .badPort
    else if u.values "plugin" ≠ [] then .error (.driver .unknown)
    else
      match driverKind u.system with
      | .error e => .error e
      | .ok kind =>
        if u.hasUser ∨ u.host ≠ [] ∨ u.portNumber?.any (· ≠ some 0) then .error .malformed
        else
          match u.optionFault?, kind with
          | some .unreadable, _ => .error .badOption
          | some .repeated, _ => .error .repeatedOption
          | none, .blocking => .error .blockingDriver
          | none, .waiting => ofParts u

end Location

end DomainPolicy
