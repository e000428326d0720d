import DomainPolicy.Store.Location
import DomainPolicy.Store.Session

/-!
# The database

* A `Database` is open at a location, and has its table once it is initialised. `Database.init` makes the table if it is
  absent and changes nothing else; disposing of a database in memory loses the table.
* `Database.session` runs calls and commits, or rolls back when a call fails or it is told to abort. Where there is no
  table to be found the first call fails.
* A connection is made when there is something to do. A database that cannot be reached can be opened all the same.
-/

namespace DomainPolicy

/-- A database: what it lets statements do, where it is, whether something else is in its place, its table, and whether
there was a connection to it. -/
structure Database extends Limits where
  location : Location := .memory
  isForeign : Bool := false
  table : Option Table := none
  isConnected : Bool := false
  deriving DecidableEq, Repr

/-- The values that the first statement of a call binds. -/
def Call.values (how : Insertion) : Call → Nat
  | .add _ domains =>
    match how with
    | .onConflict => Session.rowValues * (Domain.wanted domains).length
    | .savepoint => Session.rowValues
  | .remove _ domains => 1 + (Domain.wanted domains).length
  | .list _ => 1
  | .rows => 0

/-- Why a call fails for which there is no table. A statement that binds too many values is refused before its table is
looked for. -/
def Limits.unmet (l : Limits) (how : Insertion) (c : Call) (e : StoreError) : StoreError :=
  if l.maxValues < c.values how then .tooManyValues else e

namespace Database

/-- Makes a connection. -/
def connect (db : Database) : Except StoreError Database :=
  match db.location with
  | .nowhere obstacle => .error (.disconnected obstacle)
  | .memory _ | .file _ _ => .ok { db with isConnected := true }

/-- Makes the table if it is absent. -/
def init (db : Database) : Except StoreError Database :=
  match db.connect with
  | .error e => .error e
  | .ok db =>
    if db.isForeign then .error .notADatabase
    else if db.table.isNone ∧ ¬db.isWritable then .error .unwritable
    else .ok { db with table := some (db.table.getD []) }

/-- Asks for an answer of any kind. -/
def ping (db : Database) : Except StoreError Database := db.connect

/-- Closes the connections. -/
def dispose (db : Database) : Database :=
  match db.location with
  | .memory _ => { db with table := none }
  | .file .. | .nowhere _ => db

/-- The rows, none without a table. -/
def rows (db : Database) : Table := db.table.getD []

/-- How a session ends that is not left before. -/
inductive Ending where
  | clean
  | abort
  deriving DecidableEq, Repr

/-- The table that statements find once there is a connection. -/
def find (db : Database) : Except StoreError Table :=
  if db.isForeign then .error .notADatabase
  else
    match db.table with
    | none => .error .noTable
    | some t => .ok t

/-- Runs a session. A call that fails ends it, and it is rolled back; a session without calls does not notice what is
wrong with the database. -/
def session (how : Insertion) (ending : Ending) (calls : List Call) (db : Database) :
    Database × Except SessionFailure (List Reply) :=
  match calls with
  | [] => (db, .ok [])
  | first :: _ =>
    match db.connect with
    | .error e => (db, .error { error := e })
    | .ok db =>
      match db.find with
      | .error e => (db, .error { error := db.toLimits.unmet how first e })
      | .ok t =>
        match (Session.start db.toLimits t).run how calls, ending with
        | (s, .ok replies), .clean => ({ db with table := some s.commit }, .ok replies)
        | (s, .ok replies), .abort => ({ db with table := some s.rollback }, .ok replies)
        | (s, .error f), _ => ({ db with table := some s.rollback }, .error f)

end Database

end DomainPolicy
