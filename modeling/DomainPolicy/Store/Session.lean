import DomainPolicy.Store.Location
import DomainPolicy.Store.Table

/-!
# Sessions

* A session works on the table in a transaction: `Session.step` runs one call, each of which sees what the calls before
  it did, and `commit` or `rollback` ends it.
* The database can refuse a statement (`Limits.refusal?`). The session then goes no further (`Session.run`).
* Two ways of adding lead to the same rows (`Insertion`). One statement that leaves out what is there writes inside the
  transaction, all or nothing. Savepoints, one a row, write through when no transaction is open yet: a savepoint that is
  the outermost is committed when it is released, and what comes before a row that is refused has been written.
-/

namespace DomainPolicy

/-- How rows that may be there already are added. -/
inductive Insertion where
  | onConflict
  | savepoint
  deriving DecidableEq, Repr

/-- What a session is asked to do. After an addition or a removal the domains of the kind are listed. -/
inductive Call where
  | add (kind : RuleKind) (domains : List Text)
  | remove (kind : RuleKind) (domains : List Text)
  | list (kind : RuleKind)
  | rows
  deriving DecidableEq, Repr

inductive Reply where
  | domains (ds : List String)
  | rows (rs : List Row)
  deriving DecidableEq, Repr

/-- Why a statement fails. -/
inductive StoreError where
  | disconnected (o : Obstacle)
  | notADatabase
  | noTable
  | tooManyValues
  | unencodable
  | unwritable
  deriving DecidableEq, Repr

/-! ### Statements -/

/-- A statement with a thousand rows of three values can be run wherever the usual number of values can be bound. -/
theorem thousandRows_le_usual : 3000 ≤ 32766 := by decide

/-- What a database lets statements do: whether they can change it, and how many values one of them can bind at most.
That number is an option with which the database is built; this is the usual one. -/
structure Limits where
  isWritable : Bool := true
  maxValues : Nat := 32766
  le_maxValues : 3000 ≤ maxValues := by exact thousandRows_le_usual
  deriving DecidableEq, Repr

/-- Why a statement that writes is refused, if it is: it binds too many values, one of the names among them cannot be
encoded, or nothing can be written. -/
def Limits.refusal? (l : Limits) (values : Nat) (names : List Text) : Option StoreError :=
  if l.maxValues < values then some .tooManyValues
  else if names.any fun name => name.toString?.isNone then some .unencodable
  else if l.isWritable then none
  else some .unwritable

/-! ### The session -/

/-- A session: what the database lets it do, the table as it is committed, the table as the session sees it, and whether
a transaction is open. -/
structure Session where
  limits : Limits := {}
  saved : Table
  current : Table
  isOpen : Bool := false
  deriving DecidableEq, Repr

/-- Why a session is left before its end: the replies up to there, and why the next call failed. -/
structure SessionFailure where
  replies : List Reply := []
  error : StoreError
  deriving DecidableEq, Repr

/-- A reply in front of what comes after it. -/
def Reply.before (r : Reply) : Except SessionFailure (List Reply) → Except SessionFailure (List Reply)
  | .ok rs => .ok (r :: rs)
  | .error f => .error { f with replies := r :: f.replies }

namespace Session

def start (limits : Limits) (t : Table) : Session := { limits, saved := t, current := t }

/-- Changes the table inside a transaction, which is opened if none is. -/
def write (s : Session) (t : Table) : Session := { s with current := t, isOpen := true }

/-- Runs one statement that makes a table of the rows, unless it is refused. -/
def execute (s : Session) (values : Nat) (names : List Text) (t : Table) : Session × Option StoreError :=
  match s.limits.refusal? values names with
  | some e => (s, some e)
  | none => (s.write t, none)

/-- The values that are bound for one row: its domain, its kind and the time. -/
def rowValues : Nat := 3

/-- Adds one row under a savepoint. A row that is there leaves the transaction open behind. -/
def insertUnderSavepoint (kind : RuleKind) (s : Session) (domain : String) : Session :=
  if s.current.contains kind domain then { s with isOpen := true }
  else
    let t := s.current.insert kind domain
    if s.isOpen then { s with current := t } else { s with saved := t, current := t }

/-- Adds rows one after the other, up to the first that is refused. -/
def insertEach (kind : RuleKind) (s : Session) : List Text → Session × Option StoreError
  | [] => (s, none)
  | name :: names =>
    match s.limits.refusal? rowValues [name] with
    | some e => (s, some e)
    | none => (name.toString?.elim s (s.insertUnderSavepoint kind)).insertEach kind names

def add (how : Insertion) (s : Session) (kind : RuleKind) (domains : List Text) : Session × Option StoreError :=
  if Domain.wanted domains = [] then (s, none)
  else
    match how with
    | .onConflict =>
      s.execute (rowValues * (Domain.wanted domains).length) (Domain.wanted domains) (s.current.add kind domains)
    | .savepoint => s.insertEach kind (Domain.wanted domains)

/-- Removes rows by one statement, which binds the kind besides. -/
def remove (s : Session) (kind : RuleKind) (domains : List Text) : Session × Option StoreError :=
  if Domain.wanted domains = [] then (s, none)
  else s.execute (1 + (Domain.wanted domains).length) (Domain.wanted domains) (s.current.remove kind domains)

/-- The reply to a call that has changed the rows of a kind, or was refused. -/
def listAfter (kind : RuleKind) : Session × Option StoreError → Session × Except StoreError Reply
  | (s, none) => (s, .ok (.domains (s.current.list kind)))
  | (s, some e) => (s, .error e)

/-- Runs one call. -/
def step (how : Insertion) (s : Session) : Call → Session × Except StoreError Reply
  | .add kind domains => listAfter kind (s.add how kind domains)
  | .remove kind domains => listAfter kind (s.remove kind domains)
  | .list kind => (s, .ok (.domains (s.current.list kind)))
  | .rows => (s, .ok (.rows s.current))

/-- Runs calls in order, up to the first that fails. -/
def run (how : Insertion) (s : Session) : List Call → Session × Except SessionFailure (List Reply)
  | [] => (s, .ok [])
  | c :: cs =>
    match s.step how c with
    | (s, .error e) => (s, .error { error := e })
    | (s, .ok r) => let (s, rest) := s.run how cs; (s, r.before rest)

/-- The table after the session is committed. -/
def commit (s : Session) : Table := s.current

/-- The table after the session is rolled back. -/
def rollback (s : Session) : Table := s.saved

end Session

end DomainPolicy
