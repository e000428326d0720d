import DomainPolicy.Http.Target
import DomainPolicy.Server.App
import DomainPolicy.Server.Route
import DomainPolicy.Server.Submission

/-!
# Serving requests

* `respond` is what a request does: its route, the guard, the body, the store, in this order. Nothing behind a step that
  fails is reached, and the store changes in the last of them only.
* A request that a `Crash` ends has no answer of its own.
* `App.serve` reports under the id, path and method of the request, reports its completion, and gives the answer the id.
  A request that is ended so is answered `500` without an id, and its completion is not reported.
-/

namespace DomainPolicy.Server

open Http (Request Response)

/-- What ends a request without an answer of its own. -/
inductive Crash where
  | poolClosed
  | bodyUnreadable (e : Json.ReadError)
  | storeFailed (e : StoreError)
  | answerUnwritable
  deriving DecidableEq, Repr

/-- What a request did: its answer, what it reported, and the database after it. -/
structure Handled where
  answer : Except Crash Response
  events : List Event := []
  db : Database
  deriving Repr

/-! ### Answers -/

def detail (status : Nat) (text : String) (more : List (String × String) := []) : Response :=
  .json status (.ofMembers [("detail", .ofString text)]) more

def statusAnswer (text : String) : Response := .json 200 (.ofMembers [("status", .ofString text)])

def domainsAnswer (domains : List String) : Response :=
  .json 200 (.ofMembers [("domains", .array (domains.map .ofString))])

def Page.answer (p : Page) (pages : Pages) : Response := .ofBody 200 p.contentType (pages.text p)

def redirection (location : String) : Response := ⟨307, [("content-length", "0"), ("location", location)], ""⟩

/-- The answer to a request that was ended. -/
def lastResort : Response := .ofBody 500 "text/plain; charset=utf-8" "Internal Server Error"

/-! ### The store -/

/-- What an edit asks of a session. -/
def Effect.call (effect : Effect) (kind : RuleKind) (domains : List Text) : Call :=
  match effect with
  | .add => .add kind domains
  | .remove => .remove kind domains

/-- What is reported of an edit that was committed. -/
def editedEvent (effect : Effect) (kind : RuleKind) (count : Nat) : Event :=
  { severity := .info
    source := "relay_admin.api.routers.admin"
    name := .ofString (match effect with
      | .add => "domains.added"
      | .remove => "domains.removed")
    fields := [(Text.ofString "kind", .ofString kind.name), (Text.ofString "count", .ofNat count)] }

/-- The domains that replies list. -/
def listed (replies : List Reply) : List String :=
  replies.flatMap fun
    | .domains ds => ds
    | .rows _ => []

/-- Runs one call in a session of its own. -/
def runCall (db : Database) (call : Call) (events : List Event) : Handled :=
  match db.session .onConflict .clean [call] with
  | (db, .ok replies) => ⟨.ok (domainsAnswer (listed replies)), events, db⟩
  | (db, .error f) => ⟨.error (.storeFailed f.error), [], db⟩

/-- Edits the list of a kind. -/
def edit (db : Database) (effect : Effect) (kind : RuleKind) (domains : List Text) : Handled :=
  runCall db (effect.call kind domains) [editedEvent effect kind domains.length]

/-- Edits the list of a kind as a body asks. -/
def editAsAsked (db : Database) (effect : Effect) (kind : RuleKind) (body : Bytes) : Handled :=
  match Submission.read body with
  | .ok domains => edit db effect kind domains
  | .error (.unreadable e) => ⟨.error (.bodyUnreadable e), [], db⟩
  | .error (.complaints cs) =>
    match Submission.rejection? cs with
    | some r => ⟨.ok r, [], db⟩
    | none => ⟨.error .answerUnwritable, [], db⟩

/-! ### A request -/

/-- Goes on with a request that the guard grants. -/
def guarded (digest : Bcrypt.Digest) (a : App) (r : Request) (go : Admin Unit → Handled) : Handled :=
  let outcome := Guard.requireAdmin digest a.registry r.headers
  match outcome with
  | .refused refusal => ⟨.ok refusal.response, [refusal.event], a.db⟩
  | .poolClosed => ⟨.error .poolClosed, [], a.db⟩
  | .granted admin => let h := go admin; { h with events := outcome.events ++ h.events }

def perform (digest : Bcrypt.Digest) (a : App) (r : Request) : Action → Handled
  | .health => ⟨.ok (statusAnswer "ok"), [], a.db⟩
  | .ready =>
    match a.registry.db.get? with
    | some _ =>
      match a.db.ping with
      | .ok db => ⟨.ok (statusAnswer "ready"), [], db⟩
      | .error e => ⟨.error (.storeFailed e), [], a.db⟩
    | none => ⟨.ok (detail 503 "Database not ready"), [], a.db⟩
  | .edit effect kind => guarded digest a r fun _ => editAsAsked a.db effect kind r.body
  | .view kind => guarded digest a r fun _ => runCall a.db (.list kind) []

def respond (digest : Bcrypt.Digest) (a : App) (r : Request) : Handled :=
  match Route.find r.method r.path with
  | .action action => perform digest a r action
  | .otherMethod allowed => ⟨.ok (detail 405 "Method Not Allowed" [("allow", allowed.text)]), [], a.db⟩
  | .page p => ⟨.ok (p.answer a.pages), [], a.db⟩
  | .otherPageMethod => ⟨.ok (detail 405 "Method Not Allowed" [("allow", a.pages.methods)]), [], a.db⟩
  | .elsewhere path => ⟨.ok (redirection (r.location path)), [], a.db⟩
  | .nothing => ⟨.ok (detail 404 "Not Found"), [], a.db⟩

/-! ### Its context -/

/-- The header that carries the id of a request. -/
def idHeader : String := "x-request-id"

/-- The id that a request brings, unless it is empty, else a fresh one. -/
def requestId (fresh : String) (r : Request) : String :=
  match Http.header? idHeader r.headers with
  | some (b :: bs) => Latin1.decode (b :: bs)
  | _ => fresh

/-- The completion of a request. How long it took is left out. -/
def completedEvent (status : Nat) : Event :=
  ⟨.info, "relay_admin.observability.middleware", .ofString "request.completed",
    [(Text.ofString "status", .ofNat status)]⟩

/-- An answer, and what was reported while the request was served. -/
structure Exchange where
  response : Response
  records : List Record
  deriving Repr

namespace App

/-- The journal while a request is served. -/
def journalFor (a : App) (id path method : String) : Journal :=
  a.journal.clear.bind
    [(Text.ofString "request_id", .ofString id), (Text.ofString "path", .ofString path),
      (Text.ofString "method", .ofString method)]

/-- Serves a request; `fresh` is the id that it gets if it brings none. -/
def serve (digest : Bcrypt.Digest) (fresh : String) (a : App) (r : Request) : App × Exchange :=
  let id := requestId fresh r
  let journal := a.journalFor id r.urlPath r.method
  let h := respond digest a r
  ({ a with db := h.db, journal := a.journal.clear },
    match h.answer with
    | .ok response => ⟨response.withHeader idHeader id, journal.records (h.events ++ [completedEvent response.status])⟩
    | .error _ => ⟨lastResort, journal.records h.events⟩)

end App

end DomainPolicy.Server
