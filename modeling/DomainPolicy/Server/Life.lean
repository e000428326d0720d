import DomainPolicy.Client.Basic
import DomainPolicy.Server.Service

/-!
# Lives of the service

* `App.step` is what can happen to a running app: a request, a call of a client in the same process, or something else
  put where the app keeps what requests use.
* A `Life` is a process from its settings to its end; it may go without start-up. A life that does not get an app, or
  whose app does not start, changes nothing.
* Lives follow each other on one disk (`Life.runAll`); what is in memory ends with its life.
-/

namespace DomainPolicy.Server

open Json (Value)

/-- What can happen to a running app. A request and a call bring the id they get if they have none. -/
inductive Step where
  | request (fresh : String) (r : Http.Request)
  | call (fresh : String) (t : Token) (c : Client.Call)
  | keepCredential (s : Slot Credential)
  | keepDb (s : Slot Unit)
  | keepPool (s : Slot Pool)
  deriving Repr

/-- How a call by a client ends. -/
inductive CallResult where
  | tokenRefused (e : TokenError)
  | failed (f : Client.Failure)
  | listed (domains : List Value)
  deriving Repr

/-- What a step shows. -/
inductive Seen where
  | exchange (e : Exchange)
  | called (r : CallResult) (records : List Record)
  | kept
  deriving Repr

namespace App

/-- A call of a client to the app itself, which it knows under the name `server`. -/
def call (digest : Bcrypt.Digest) (fresh server : String) (a : App) (t : Token) (c : Client.Call) :
    App × CallResult × List Record :=
  match Client.make t with
  | .error e => (a, .tokenRefused e, [])
  | .ok client =>
    match client.request server c with
    | .error f => (a, .failed f, [])
    | .ok r =>
      let (a, e) := a.serve digest fresh r
      match Client.conclude server (.ofResponse e.response) with
      | .error f => (a, .failed f, e.records)
      | .ok vs => (a, .listed vs, e.records)

/-- The name under which a client in the same process knows the app. -/
def ownName : String := "test"

def step (digest : Bcrypt.Digest) (a : App) : Step → App × Seen
  | .request fresh r => let (a, e) := a.serve digest fresh r; (a, .exchange e)
  | .call fresh t c => let (a, r, records) := a.call digest fresh ownName t c; (a, .called r records)
  | .keepCredential s => ({ a with registry := { a.registry with credential := s } }, .kept)
  | .keepDb s => ({ a with registry := { a.registry with db := s } }, .kept)
  | .keepPool s => ({ a with registry := { a.registry with pool := s } }, .kept)

def run (digest : Bcrypt.Digest) (a : App) : List Step → App × List Seen
  | [] => (a, [])
  | s :: ss =>
    let (a, seen) := a.step digest s
    let (a, rest) := a.run digest ss
    (a, seen :: rest)

end App

/-- A process: its settings, the salt of its credential, the pages that describe its service, whether it goes through
start-up and shutdown, and its steps. -/
structure Life where
  settings : Except Settings.ReadError Settings
  salt : String
  pages : Pages := {}
  isStarted : Bool := true
  steps : List Step
  deriving Repr

namespace Life

/-- What a life shows. -/
inductive Course where
  | badSettings (e : Settings.ReadError)
  | notCreated (e : CreateError) (records : List Record)
  | notStarted (e : StartError) (created started : List Record)
  | lived (created : List Record) (started : Option (List Record)) (seen : List Seen)
      (ended : Except StopError (List Record))
  deriving Repr

def run (digest : Bcrypt.Digest) (disk : Disk) (life : Life) : Disk × Course :=
  match life.settings with
  | .error e => (disk, .badSettings e)
  | .ok settings =>
    match App.create digest life.salt life.pages settings with
    | (.error e, records) => (disk, .notCreated e records)
    | (.ok a, created) =>
      if life.isStarted then
        match a.start disk with
        | ((disk, .error e), started) => (disk, .notStarted e created started)
        | ((disk, .ok a), started) =>
          let (a, seen) := a.run digest life.steps
          (disk.save a.db, .lived created (some started) seen a.stop)
      else
        let (_, seen) := a.run digest life.steps
        (disk, .lived created none seen (.ok []))

/-- Lives one after the other, each on what the one before left behind. -/
def runAll (digest : Bcrypt.Digest) (disk : Disk) : List Life → Disk × List Course
  | [] => (disk, [])
  | life :: lives =>
    let (disk, course) := life.run digest disk
    let (disk, courses) := runAll digest disk lives
    (disk, course :: courses)

end Life

end DomainPolicy.Server
