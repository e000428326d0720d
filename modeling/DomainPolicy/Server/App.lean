import DomainPolicy.Guard
import DomainPolicy.Server.Route
import DomainPolicy.Settings.Basic
import DomainPolicy.Store.Disk

/-!
# The service as a process

* `App.create` sets the journal up and hashes the operator's secret; without a secret there is no credential, which is
  reported. A secret that is no text in UTF-8, or cannot be hashed, leaves no app.
* `App.start` finds the database, makes the table where the environment is not `prod`, and opens the database and the
  pool to requests. `App.stop` closes both; it fails half-way, and reports nothing, when the pool is gone.
-/

namespace DomainPolicy

/-- The title and the version under which the service runs. -/
def serviceTitle : String := "Relay Admin"

def serviceVersion : String := "0.1.0"

namespace Server

/-- A service: how it is set, what it keeps for requests, how it reports, the pages that describe it, and its
database. -/
structure App where
  settings : Settings
  registry : Registry Unit := {}
  journal : Journal := {}
  pages : Pages := {}
  db : Database := {}
  deriving Repr

/-- Why there is no app. -/
inductive CreateError where
  | journal (e : SetupError)
  | secretForeign
  | credential (e : Credential.BuildError)
  deriving DecidableEq, Repr

/-- Why an app does not start. -/
inductive StartError where
  | location (e : LocationError)
  | store (e : StoreError)
  deriving DecidableEq, Repr

/-- Why an app does not stop as it should. -/
inductive StopError where
  | poolGone
  deriving DecidableEq, Repr

namespace App

/-- Whether requests with a token can be granted at all. -/
def isEnabled (a : App) : Bool := a.registry.credential.get?.isSome

/-- The part of the service that reports what happens to the process. -/
def source : String := "relay_admin.api.app"

def disabledEvent : Event :=
  ⟨.warning, source, .ofString "admin_config.disabled",
    [(Text.ofString "reason", .ofString "RELAY_API_TOKEN is not set")]⟩

def startEvent (a : App) : Event :=
  ⟨.info, source, .ofString "startup",
    [(Text.ofString "env", .ofString a.settings.env.name),
      (Text.ofString "admin_enabled", .boolean a.isEnabled)]⟩

def stopEvent : Event := ⟨.info, source, .ofString "shutdown", []⟩

/-- The app of settings, and what is reported meanwhile. The salt goes into the credential. -/
def create (digest : Bcrypt.Digest) (salt : String) (pages : Pages) (settings : Settings) :
    Except CreateError App × List Record :=
  match ({} : Journal).configure settings.serviceName settings.logLevel settings.jsonLogs with
  | (_, some e) => (.error (.journal e), [])
  | (journal, none) =>
    match settings.apiToken with
    | none => (.ok { settings, journal, pages }, journal.records [disabledEvent])
    | some token =>
      match token.toString? with
      | none => (.error .secretForeign, [])
      | some secret =>
        match Credential.build digest secret settings.bcryptRounds salt with
        | .error e => (.error (.credential e), [])
        | .ok c => (.ok { settings, journal, pages, registry := { credential := .holds c } }, [])

/-- The database of an app, with its table unless the environment is `prod`, and the disk. A connection that does not
get as far leaves its file behind. -/
def openDatabase (a : App) (disk : Disk) : Disk × Except StartError Database :=
  match Location.ofUrl a.settings.databaseUrl with
  | .error e => (disk, .error (.location e))
  | .ok location =>
    let db := disk.openAt location
    if a.settings.env = .prod then (disk, .ok db)
    else
      match db.init with
      | .ok db => (disk, .ok db)
      | .error e => (disk.save (db.connect.toOption.getD db), .error (.store e))

/-- An app that is open to requests. -/
def withDatabase (a : App) (db : Database) : App :=
  { a with db, registry := { a.registry with db := .holds (), pool := .holds .ready } }

/-- Starts an app. The start is reported before anything can fail. -/
def start (a : App) (disk : Disk) : (Disk × Except StartError App) × List Record :=
  let (disk, db) := a.openDatabase disk
  ((disk, db.map a.withDatabase), a.journal.records [a.startEvent])

def stop (a : App) : Except StopError (List Record) :=
  match a.registry.pool.get? with
  | some _ => .ok (a.journal.records [stopEvent])
  | none => .error .poolGone

end App

end Server

end DomainPolicy
