import DomainPolicy.Journal.Source
import DomainPolicy.Json.Value

/-!
# The journal

* A part of the service reports an `Event`; `Journal.record?` makes the record that is written for it, if one is.
* A record holds the bound context, then the event's own fields, which win over it, then the event's name, if it has
  one, its level and its source, which win over both. The service is named unless a field or the context names one.
* The least rank that is written is fixed by the first set-up (`Journal.configure`); later ones change the service and
  the form of the records only. A first set-up that fails has fixed it at warnings. A source may have a least rank of
  its own, which holds of what lies below it too; the database library is written from warnings on.
* A `Logger` keeps the service and the form of records of its first use after a set-up (`Journal.kept`). Each part of
  the service reports by a logger of its own that is first used after the one set-up of its process, so that its records
  are those of `Journal.records`.
-/

namespace DomainPolicy

inductive Severity where
  | debug
  | info
  | warning
  | error
  | critical
  deriving DecidableEq, Repr

namespace Severity

def rank : Severity → Nat
  | debug => 10
  | info => 20
  | warning => 30
  | error => 40
  | critical => 50

def name : Severity → String
  | debug => "debug"
  | info => "info"
  | warning => "warning"
  | error => "error"
  | critical => "critical"

/-- The severity that a name, or an older name, calls for. -/
def ofName? : String → Option Severity
  | "debug" => some debug
  | "info" => some info
  | "warning" | "warn" => some warning
  | "error" | "exception" => some error
  | "critical" | "fatal" => some critical
  | _ => none

/-- The severity of a rank. -/
def ofRank? (rank : Int) : Option Severity := [debug, info, warning, error, critical].find? fun s => s.rank = rank

end Severity

/-- Something to report. A name of `null` is none. -/
structure Event where
  severity : Severity
  source : String
  name : Json.Value
  fields : Json.Members := []
  deriving Repr

/-- What is written for an event. -/
abbrev Record := Json.Members

/-- Why a journal cannot be set up: the level names a setting that is no level. -/
inductive SetupError where
  | levelIsText
  | levelIsTable
  deriving DecidableEq, Repr

/-- How records are written. -/
structure Output where
  service : Text
  json : Bool
  deriving DecidableEq, Repr

/-- One of the loggers of a source. -/
structure Logger where
  number : Nat
  source : String
  deriving DecidableEq, Repr

/-- The state of the journal: the least rank written, once it is fixed, and those of single sources; how records are
written, once a set-up succeeded, and how those loggers write them that keep it; the bound context; and what was
attached to sources, the root being without a name, though no record can go there. -/
structure Journal where
  threshold : Option Int := none
  levels : List (String × Int) := [("sqlalchemy", Severity.warning.rank)]
  output : Option Output := none
  kept : List (Logger × Output) := []
  context : Json.Members := []
  outlets : List (String × Json.Value) := []
  deriving Repr, Inhabited

namespace Journal

/-! ### Levels by name -/

/-- The capital letters of a character, as far as they lie in ASCII. -/
def upperChar (c : Char) : List Char :=
  match c with
  | 'ß' => ['S', 'S']
  | 'ı' => ['I']
  | 'ſ' => ['S']
  | 'ﬀ' => ['F', 'F']
  | 'ﬁ' => ['F', 'I']
  | 'ﬂ' => ['F', 'L']
  | 'ﬃ' => ['F', 'F', 'I']
  | 'ﬄ' => ['F', 'F', 'L']
  | 'ﬅ' | 'ﬆ' => ['S', 'T']
  | _ => [c.toUpper]

/-- The name by which a level is looked up. Nothing is found under a text with a lone half. -/
def levelName? (text : Text) : Option String := text.toChars?.map fun cs => String.ofList (cs.flatMap upperChar)

/-- The least rank that a level text asks for. A text that names no level asks for `info`. -/
def levelRank (text : Text) : Except SetupError Int :=
  match levelName? text with
  | some "CRITICAL" | some "FATAL" => .ok 50
  | some "ERROR" => .ok 40
  | some "WARNING" | some "WARN" => .ok 30
  | some "INFO" => .ok 20
  | some "DEBUG" => .ok 10
  | some "NOTSET" => .ok 0
  | some "BASIC_FORMAT" => .error .levelIsText
  | some "_STYLES" => .error .levelIsTable
  | _ => .ok 20

/-! ### Set-up and context -/

/-- Sets the journal up. Also a set-up that fails gives the journal as it is then. -/
def configure (j : Journal) (service level : Text) (json : Bool) : Journal × Option SetupError :=
  match j.threshold with
  | some _ => ({ j with output := some ⟨service, json⟩ }, none)
  | none =>
    match levelRank level with
    | .ok rank => ({ j with threshold := some rank, output := some ⟨service, json⟩ }, none)
    | .error e => ({ j with threshold := some Severity.warning.rank }, some e)

def bind (j : Journal) (fields : Json.Members) : Journal :=
  { j with context := fields.foldl (fun ms (k, v) => Json.Members.insert k v ms) j.context }

def clear (j : Journal) : Journal := { j with context := [] }

/-! ### Records -/

/-- Field names that do not reach a record: its time is stamped, and an error is attached under another name. -/
def isDropped (name : Text) : Bool := name == Text.ofString "timestamp" || name == Text.ofString "exc_info"

/-- Sets a field, keeping the value it has. -/
def setDefault (key : String) (value : Json.Value) (ms : Json.Members) : Json.Members :=
  match Json.Members.get? (Text.ofString key) ms with
  | some _ => ms
  | none => Json.Members.insert (Text.ofString key) value ms

/-- The context and an event's own fields. -/
def fieldsOf (context : Json.Members) (e : Event) : Json.Members :=
  e.fields.foldl (fun ms (k, v) => Json.Members.insert k v ms) context

/-- The record of an event. -/
def recordOf (service : Text) (context : Json.Members) (e : Event) : Record :=
  let set (key : String) (value : Json.Value) (ms : Json.Members) := Json.Members.insert (Text.ofString key) value ms
  let fields := fieldsOf context e
  let named := match e.name with
    | .null => fields
    | name => set "event" name fields
  let record := set "logger" (.ofString (Source.shown e.source)) (set "level" (.ofString e.severity.name) named)
  (setDefault "service" (.string service) record).filter fun (k, _) => !isDropped k

/-- The least rank that is written of a source: the nearest one that is not zero, else that of the root. -/
def leastRank (j : Journal) (threshold : Int) (source : String) : Int :=
  (((Source.lineage source).filterMap (List.lookup · j.levels)).find? (· ≠ 0)).getD threshold

/-- Whether an event is written. -/
def isWritten (j : Journal) (e : Event) : Bool :=
  j.output.isSome && j.threshold.any fun threshold => j.leastRank threshold e.source ≤ e.severity.rank

/-- The record that is written for an event, if one is. -/
def record? (j : Journal) (e : Event) : Option Record :=
  match j.output with
  | some output => if output.json && j.isWritten e then some (recordOf output.service j.context e) else none
  | none => none

/-- The records of events, in order. -/
def records (j : Journal) (es : List Event) : List Record := es.filterMap j.record?

end Journal

end DomainPolicy
