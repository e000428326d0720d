import DomainPolicy.Settings.Reading
import DomainPolicy.Settings.Sources
import DomainPolicy.Text.Quoted

/-!
# Settings

* Each setting is decided by one value of its sources, else by its default.
* `Settings.ofStatements` reads all settings independently; it complains about each value that cannot be read, in the
  order of the settings, and then about each unknown keyword. Unknown variables are nobody's business.
* `Settings.read` reads sources first, if they can be read.
-/

namespace DomainPolicy

open Json (Value)

/-- Where a process runs. -/
inductive Environment where
  | dev
  | test
  | prod
  deriving DecidableEq, Repr

namespace Environment

def name : Environment → String
  | dev => "dev"
  | test => "test"
  | prod => "prod"

def all : List Environment := [dev, test, prod]

def read (v : Value) : Except Fault Environment :=
  let fault := Fault.notListed (all.map name)
  match v with
  | .string t =>
    match t.toString?, all.find? fun e => t == Text.ofString e.name with
    | none, _ => .error .textUndecodable
    | some _, some e => .ok e
    | some _, none => .error fault
  | _ => .error fault

end Environment

structure Settings where
  env : Environment := .dev
  serviceName : Text := "relay-admin"
  logLevel : Text := "INFO"
  jsonLogs : Bool := true
  apiHost : Text := "0.0.0.0"
  apiPort : Int := 8080
  apiToken : Option Text := none
  bcryptRounds : Int := 12
  verifyWorkers : Int := 4
  databaseUrl : Text := "sqlite+aiosqlite:///./relay.db"
  deriving DecidableEq, Repr

namespace Settings

/-- Reads one setting. -/
def field {α : Type} (s : Statements) (name : String) (default : α) (read : Value → Except Fault α) : Checked α :=
  match s.winner? name with
  | none => .ok default
  | some v =>
    match read v with
    | .ok a => .ok a
    | .error fault => .error [⟨[.key (Text.ofString name)], fault, v⟩]

/-- The complaints about keywords that name no setting. -/
def unknownKeywords (s : Statements) : List Complaint :=
  (s.keywords.filter fun p => !(fieldNames.map Text.ofString).contains (Statements.fold p.1)).map fun (k, v) =>
    ⟨[.key k], .notPermitted, v⟩

/-- Refuses unknown keywords. -/
def noUnknownKeywords (s : Statements) : Checked Unit :=
  match unknownKeywords s with
  | [] => .ok ()
  | cs => .error cs

def default : Settings := {}

/-- Reads all settings. -/
def ofStatements (s : Statements) : Checked Settings :=
  let fields := (((((((((Checked.and (.ok Settings.mk)
    (field s "env" default.env Environment.read)).and
    (field s "service_name" default.serviceName Reading.text)).and
    (field s "log_level" default.logLevel Reading.text)).and
    (field s "json_logs" default.jsonLogs Reading.bool)).and
    (field s "api_host" default.apiHost Reading.text)).and
    (field s "api_port" default.apiPort Reading.int)).and
    (field s "api_token" default.apiToken Reading.textOrNull)).and
    (field s "bcrypt_rounds" default.bcryptRounds (Reading.intWithin (some 4) (some 31)))).and
    (field s "verify_workers" default.verifyWorkers (Reading.intWithin (some 1) none))).and
    (field s "database_url" default.databaseUrl Reading.text)
  Checked.and (fields.map fun s _ => s) (noUnknownKeywords s)

/-- The settings of an environment. -/
def ofEnvironment (environment : List (Text × Text)) : Checked Settings :=
  ofStatements (.ofEnvironment environment)

/-- Why there are no settings. -/
inductive ReadError where
  | sources (e : SourceError)
  | complaints (cs : List Complaint)
  deriving Repr

/-- The settings of sources. -/
def read (s : Sources) : Except ReadError Settings :=
  match Statements.ofSources s with
  | .error e => .error (.sources e)
  | .ok statements => (ofStatements statements).mapError .complaints

/-! ### Shown forms -/

/-- A secret as it is shown: that there is one, and whether it is empty. -/
def secretShown : Option Text → String
  | none => "None"
  | some t => if t = [] then "" else "**********"

def tokenShown (s : Settings) : String := secretShown s.apiToken

/-- The settings as text, the token left out. -/
def shown (s : Settings) : String :=
  let q := Text.quoted
  "Settings(env=" ++ q s.env.name ++ ", service_name=" ++ q s.serviceName ++ ", log_level=" ++ q s.logLevel
    ++ ", json_logs=" ++ (if s.jsonLogs then "True" else "False") ++ ", api_host=" ++ q s.apiHost
    ++ ", api_port=" ++ toString s.apiPort ++ ", bcrypt_rounds=" ++ toString s.bcryptRounds
    ++ ", verify_workers=" ++ toString s.verifyWorkers ++ ", database_url=" ++ q s.databaseUrl ++ ")"

end Settings

end DomainPolicy
