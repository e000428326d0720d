import DomainPolicy.Journal.Basic
import DomainPolicy.Json.Same

/-!
# What can be asked of a journal

* A `Verb` is what can be asked of a journal under a name, with a value and with fields. What the names mean depends on
  whether the journal is set up.
* `Journal.ask` does what is asked in the name of a source. Most of it is to report the value as the name of an event.
  If an error is being handled, it can be attached to the record; it is given as it is written there.
* `Journal.call` asks by a logger, which keeps how records are written when it is first used.
-/

namespace DomainPolicy

/-- What can be asked of a journal. -/
inductive Verb where
  /-- to report the value as an event, perhaps with the error that is being handled -/
  | report (severity : Severity) (withError : Bool)
  /-- to report an event whose severity has the value as its rank -/
  | reportRanked
  /-- to report an event later, which is forgotten -/
  | reportLater
  | reportRankedLater
  /-- to set the least rank of the source -/
  | limit
  /-- to compare the value with that rank -/
  | compare
  /-- to name a source below the source -/
  | descend
  /-- to look for the place of the question -/
  | locate
  /-- to write the value as if it were a record -/
  | handOver
  | attach
  | detach
  /-- to take a field out of what was bound to the source, where nothing ever is -/
  | unbind
  /-- to do so if there is such a field -/
  | tryUnbind
  /-- a name of something for which no value can be given -/
  | other
  deriving DecidableEq, Repr

namespace Verb

/-- What a name means before a journal is set up. -/
def early? (name : String) : Option Verb :=
  match name with
  | "msg" => some (report .info false)
  | "amsg" | "awarn" => some reportLater
  | "is_enabled_for" => some compare
  | "get_effective_level" => some other
  | _ => none

/-- What a name means once a journal is set up. -/
def late? (name : String) : Option Verb :=
  match name with
  | "setLevel" => some limit
  | "isEnabledFor" => some compare
  | "getChild" => some descend
  | "findCaller" => some locate
  | "handle" | "callHandlers" => some handOver
  | "addHandler" => some attach
  | "removeHandler" => some detach
  | "hasHandlers" | "getEffectiveLevel" | "makeRecord" | "name" | "level" | "parent" | "propagate" | "handlers"
  | "disabled" => some other
  | _ => none

/-- What a name means in any case. -/
def always? (name : String) : Option Verb :=
  match name with
  | "log" => some reportRanked
  | "alog" => some reportRankedLater
  | "adebug" | "ainfo" | "awarning" | "aerror" | "aexception" | "acritical" | "afatal" => some reportLater
  | "unbind" => some unbind
  | "try_unbind" => some tryUnbind
  | "bind" | "new" | "_logger" | "_wrapper_class" | "_processors" | "_context_class" | "_cache_logger_on_first_use"
  | "_initial_values" | "_logger_factory_args" | "_context" => some other
  | _ => (Severity.ofName? name).map fun severity => report severity (name = "exception")

def ofName? (isSetUp : Bool) (name : String) : Option Verb :=
  (always? name).or (if isSetUp then late? name else early? name)

/-- Whether something that is asked uses its logger: a few names are the logger's own, and some of them are not if they
are given a value only. -/
def usesLogger (name : String) (fields : Json.Members) : Bool :=
  match name with
  | "bind" | "new" | "_logger" | "_wrapper_class" | "_processors" | "_context_class" | "_cache_logger_on_first_use"
  | "_initial_values" | "_logger_factory_args" => false
  | "unbind" | "try_unbind" => fields.isEmpty
  | _ => true

end Verb

namespace Journal

/-- Why something cannot be done. -/
inductive Fault where
  | unknownVerb
  | misused
  | reservedField (name : Text)
  | nameless
  | rankUnusable
  | unknownRank
  | unknownLevel
  | foreignOrigin
  | textUnusable
  | notBound
  | notARecord
  | outletForeign
  deriving DecidableEq, Repr

/-- What comes of something that was asked: the journal after it, the record that was written, if one was, and what
went wrong, if anything did. -/
structure Outcome where
  journal : Journal
  record : Option Record := none
  fault : Option Fault := none
  deriving Repr

def isSetUp (j : Journal) : Bool := j.output.isSome

def fail (j : Journal) (f : Fault) : Outcome := { journal := j, fault := some f }

def quiet (j : Journal) : Outcome := { journal := j }

/-! ### Events -/

/-- A field of one of some names. -/
def reserved? (names : List String) (fields : Json.Members) : Option Fault :=
  (fields.find? fun f => names.any fun name => f.1 == Text.ofString name).map fun f => .reservedField f.1

/-- Whether an event claims an origin of its own, which none has. -/
def claimsOrigin (fields : Json.Members) : Bool :=
  match Json.Members.get? (Text.ofString "_record") fields with
  | none | some .null => false
  | some _ => true

/-- Whether a field is something else than a text. -/
def isNoText (name : String) (fields : Json.Members) : Bool :=
  match Json.Members.get? (Text.ofString name) fields with
  | none | some .null | some (.string _) => false
  | some _ => true

/-- The error that is attached to an event: the one that is being handled, if the event or else the context calls for
it. An event that is reported with the error calls for it unless it says otherwise. -/
def attached? (context : Json.Members) (e : Event) (withError : Bool) (raised : Option Json.Value) :
    Option Json.Value :=
  let key := Text.ofString "exc_info"
  let context := if withError then Json.Members.insert key (.boolean true) context else context
  if (Json.Members.get? key (fieldsOf context e)).any (!·.isVoid) then raised else none

/-- Members with the error that is attached to them. -/
def attachError (error : Option Json.Value) (ms : Json.Members) : Json.Members :=
  match error with
  | none => ms
  | some v => Json.Members.insert (Text.ofString "exception") v ms

/-- Whether the context and the fields of an event do not fit into a text, if records are written as text. Before the
journal is set up they are, and then a stack that is called for stands in the place of one that is given, and so does an
error. -/
def isUnfit (j : Journal) (fields : Json.Members) (error : Option Json.Value) : Bool :=
  let callsForStack := (Json.Members.get? (Text.ofString "stack_info") fields).any (!·.isVoid)
  match j.output with
  | none => (isNoText "exception" fields && error.isNone) || (isNoText "stack" fields && !callsForStack)
  | some output => !output.json && (isNoText "exception" (attachError error fields) || isNoText "stack" fields)

/-- Reports an event whose fields nobody has looked at yet. What is attached to a source gets a record before the output
does, but what is attached to the root gets it afterwards. -/
def write (j : Journal) (e : Event) (withError : Bool) (raised : Option Json.Value) : Outcome :=
  let fields := fieldsOf j.context e
  let error := attached? j.context e withError raised
  let isAttached (source : String) : Bool := j.outlets.any (·.1 = source)
  match reserved? ["event", "self", "method_name"] e.fields with
  | some f => j.fail f
  | none =>
    if j.isSetUp && claimsOrigin fields then j.fail .foreignOrigin
    else if j.isUnfit fields error then j.fail .textUnusable
    else if j.isWritten e && (Source.lineage e.source).any isAttached then j.fail .outletForeign
    else
      { journal := j
        record := (j.record? e).map (attachError error)
        fault := if j.isWritten e && isAttached "" then some .outletForeign else none }

/-! ### Ranks -/

/-- Whether a value is a number. -/
def isNumber : Json.Value → Bool
  | .boolean _ | .integer _ | .real _ => true
  | _ => false

/-- Whether a value is a number below zero. -/
def isNegative : Json.Value → Bool
  | .integer n => n < 0
  | .real (.finite negative m _) => negative && m != 0
  | .real (.infinite negative) => negative
  | _ => false

/-- The severity of a rank. -/
def severityOf (rank : Json.Value) : Except Fault Severity :=
  match rank with
  | .array _ | .object _ => .error .rankUnusable
  | _ => ((rank.whole?).bind Severity.ofRank?).elim (.error .unknownRank) .ok

/-- Reports an event by its rank. Its name is then among its fields, and may be left out once the journal is set up.
Before, a rank must be a number, and of ranks below zero nothing is made. -/
def writeRanked (j : Journal) (source : String) (rank : Json.Value) (fields : Json.Members)
    (raised : Option Json.Value) : Outcome :=
  let eventKey := Text.ofString "event"
  let name? := Json.Members.get? eventKey fields
  let write (_ : Unit) : Outcome :=
    match severityOf rank with
    | .error f => j.fail f
    | .ok severity =>
      let e : Event := { severity, source, name := name?.getD .null, fields := fields.filter fun f => f.1 != eventKey }
      j.write e false raised
  match reserved? ["level", "self"] fields with
  | some f => j.fail f
  | none =>
    if j.isSetUp then write ()
    else if name?.isNone then j.fail .nameless
    else if !isNumber rank then j.fail .rankUnusable
    else if isNegative rank then j.quiet
    else write ()

/-! ### Sources -/

/-- The rank that a value asks for as a level: a whole number, or the name of a level. -/
def limitOf (v : Json.Value) : Except Fault Int :=
  match v with
  | .boolean _ | .integer _ => .ok ((v.whole?).getD 0)
  | .string t =>
    match Text.toString? t with
    | some "CRITICAL" | some "FATAL" => .ok 50
    | some "ERROR" => .ok 40
    | some "WARNING" | some "WARN" => .ok 30
    | some "INFO" => .ok 20
    | some "DEBUG" => .ok 10
    | some "NOTSET" => .ok 0
    | _ => .error .unknownLevel
  | _ => .error .misused

/-- Sets the least rank of a source. -/
def limit (j : Journal) (source : String) (rank : Int) : Journal :=
  if Source.isRoot source then { j with threshold := some rank }
  else { j with levels := (source, rank) :: j.levels.filter (·.1 ≠ source) }

/-- The name under which things are attached to a source. -/
def outletKey (source : String) : String := if Source.isRoot source then "" else source

def isOutlet (source : String) (v : Json.Value) (outlet : String × Json.Value) : Bool :=
  outlet.1 = outletKey source && outlet.2.isSame v

/-- Attaches a value to a source, unless it is attached already. -/
def attach (j : Journal) (source : String) (v : Json.Value) : Journal :=
  if j.outlets.any (isOutlet source v) then j else { j with outlets := j.outlets ++ [(outletKey source, v)] }

def detach (j : Journal) (source : String) (v : Json.Value) : Journal :=
  { j with outlets := j.outlets.filter (!isOutlet source v ·) }

/-! ### Questions -/

/-- What has no fields of any name: the question itself, unless some are given. -/
def bare (j : Journal) (fields : Json.Members) (outcome : Outcome) : Outcome :=
  if fields = [] then outcome else j.fail .misused

/-- Whether a value is one by which a table can be searched. -/
def isKey : Json.Value → Bool
  | .array _ | .object _ => false
  | _ => true

/-- Does what is asked under the name of a verb, while an error is perhaps being handled. -/
def ask (j : Journal) (verb source : String) (v : Json.Value) (fields : Json.Members) (raised : Option Json.Value) :
    Outcome :=
  let onlyIf (p : Bool) : Outcome := j.bare fields (if p then j.quiet else j.fail .misused)
  match Verb.ofName? j.isSetUp verb with
  | none => j.fail .unknownVerb
  | some (.report severity withError) => j.write { severity, source, name := v, fields } withError raised
  | some .reportRanked => j.writeRanked source v fields raised
  | some .reportLater => (reserved? ["event", "self"] fields).elim j.quiet j.fail
  | some .reportRankedLater =>
    match reserved? ["level", "self"] fields with
    | some f => j.fail f
    | none => if (Json.Members.get? (Text.ofString "event") fields).isSome then j.quiet else j.fail .nameless
  | some .limit => j.bare fields (match limitOf v with | .ok rank => (j.limit source rank).quiet | .error f => j.fail f)
  | some .compare => onlyIf (isNumber v)
  | some .descend => onlyIf (match v with | .string _ => true | _ => false)
  | some .locate | some .tryUnbind => onlyIf true
  | some .handOver => j.bare fields (j.fail .notARecord)
  | some .attach => j.bare fields (j.attach source v).quiet
  | some .detach => j.bare fields (j.detach source v).quiet
  | some .unbind => j.bare fields (j.fail (if isKey v then .notBound else .misused))
  | some .other => j.fail .misused

/-! ### Loggers -/

/-- How the records of a logger are written: as it keeps it, else as they are written now. -/
def outputOf (j : Journal) (l : Logger) : Option Output := (j.kept.lookup l).or j.output

/-- A journal whose logger was used: if it is set up, the logger keeps how its records are written. -/
def keep (j : Journal) (l : Logger) : Journal :=
  match j.kept.lookup l, j.output with
  | none, some output => { j with kept := (l, output) :: j.kept }
  | _, _ => j

/-- A journal of which something is asked by a logger, which is its first use perhaps. -/
def used (j : Journal) (l : Logger) (verb : String) (fields : Json.Members) : Journal :=
  if Verb.usesLogger verb fields then j.keep l else j

/-- A journal as a logger sees it. -/
def seenBy (j : Journal) (l : Logger) : Journal := { j with output := j.outputOf l }

/-- Does what is asked of a logger. What it keeps is nothing to others. -/
def call (j : Journal) (l : Logger) (verb : String) (v : Json.Value) (fields : Json.Members)
    (raised : Option Json.Value) : Outcome :=
  let j := j.used l verb fields
  let outcome := (j.seenBy l).ask verb l.source v fields raised
  { outcome with journal := { outcome.journal with output := j.output } }

end Journal

end DomainPolicy
