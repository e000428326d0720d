import DomainPolicy.Proofs.Guard.Secret
import DomainPolicy.Proofs.Server.Handling
import DomainPolicy.Proofs.Store.Holding

/-!
# Requests that are commands

A `Command` is what a request can ask of the lists, once its body has been read.  A request that asks for a command
and is granted runs the call of the command in a session of its own, on whatever table the database holds
(`respond_done`), unless the database refuses the call (`respond_refused`).
-/

namespace DomainPolicy.Server

open Http (Request Response)
open Json (Value)

/-! ### Bodies -/

namespace Submission

theorem items_strings (ts : List Text) (index : Nat) : items index (ts.map .string) = .ok ts := by
  induction ts generalizing index with
  | nil => rfl
  | cons t ts ih =>
    rw [List.map_cons, items, ih]
    rfl

/-- An object submits the strings of its array `domains`, if there are 1 to 1000 of them. -/
theorem domains_of_get? {ms : Json.Members} {ts : List Text}
    (hts : Json.Members.get? key ms = some (.array (ts.map .string))) (hpos : 1 ≤ ts.length)
    (hmax : ts.length ≤ maxItems) : domains (.object ms) = .ok ts := by
  rw [domains, hts]
  show list (.array (ts.map .string)) = .ok ts
  rw [list, if_neg (by rw [List.length_map]; omega), if_neg, items_strings]
  rw [List.isEmpty_iff, List.map_eq_nil_iff]
  rintro rfl
  cases hpos

theorem read_of_readBytes {body : Bytes} {v : Value} (hbody : Json.readBytes body = .ok v) :
    read body = (domains v).mapError .complaints := by
  rw [read, hbody]

/-- A body submits what the object that it is submits. -/
theorem read_of_object {body : Bytes} {ms : Json.Members} {ts : List Text}
    (hbody : Json.readBytes body = .ok (.object ms)) (hts : Json.Members.get? key ms = some (.array (ts.map .string)))
    (hpos : 1 ≤ ts.length) (hmax : ts.length ≤ maxItems) : read body = .ok ts := by
  rw [read_of_readBytes hbody, domains_of_get? hts hpos hmax]
  rfl

end Submission

/-! ### Commands -/

/-- What a request asks of the lists. -/
inductive Command where
  | edit (effect : Effect) (kind : RuleKind) (domains : List String)
  | view (kind : RuleKind)
  deriving DecidableEq, Repr

namespace Command

/-- The kind whose list is asked for or changed. -/
def kind : Command → RuleKind
  | edit _ kind _ | view kind => kind

/-- What a command asks of a session. -/
def call : Command → Call
  | edit effect kind domains => effect.call kind (domains.map Text.ofString)
  | view kind => .list kind

def action : Command → Action
  | edit effect kind _ => .edit effect kind
  | view kind => .view kind

/-- The list of the kind is the reply to the call of a command. -/
theorem listed_reply (c : Command) (t : Table) : listed [c.call.reply t] = t.list c.kind := by
  cases c with
  | edit effect kind domains => cases effect <;> exact List.append_nil _
  | view kind => exact List.append_nil _

/-- Whether a body is an object whose `domains` are these strings, 1 to 1000 of them. -/
def Submits (body : Bytes) (domains : List String) : Prop :=
  1 ≤ domains.length ∧ domains.length ≤ 1000 ∧ ∃ ms, Json.readBytes body = .ok (.object ms) ∧
    Json.Members.get? (Text.ofString "domains") ms = some (.array (domains.map Value.ofString))

theorem submits_of_read {body : Bytes} {ms : Json.Members} {domains : List String}
    (hbody : Json.readBytes body = .ok (.object ms))
    (hdomains : Json.Members.get? (Text.ofString "domains") ms = some (.array (domains.map Value.ofString)))
    (hlength : 1 ≤ domains.length ∧ domains.length ≤ 1000) : Submits body domains :=
  ⟨hlength.1, hlength.2, ms, hbody, hdomains⟩

/-- Whether a request asks for a command: it finds the route of the command, and if that edits, its body submits the
domains. -/
def AskedBy (c : Command) (r : Request) : Prop :=
  Route.find r.method r.path = .action c.action ∧
    match c with
    | edit _ _ domains => Submits r.body domains
    | view _ => True

theorem read_of_submits {body : Bytes} {domains : List String} (h : Submits body domains) :
    Submission.read body = .ok (domains.map Text.ofString) := by
  obtain ⟨hpos, hmax, ms, hbody, hget⟩ := h
  refine Submission.read_of_object hbody ?_ (by rwa [List.length_map]) (by rwa [List.length_map])
  rw [List.map_map]
  exact hget

/-- A body that submits domains names strings, and no more than one statement can bind. -/
theorem plain_of_submits {body : Bytes} {domains : List String} (h : Submits body domains) (effect : Effect)
    (kind : RuleKind) : (effect.call kind (domains.map Text.ofString)).Plain := by
  cases effect with
  | add => exact Call.plain_add h.2.1
  | remove => exact Call.plain_remove h.2.1

theorem plain_call {c : Command} {r : Request} (h : c.AskedBy r) : c.call.Plain := by
  cases c with
  | edit effect kind domains => exact plain_of_submits h.2 effect kind
  | view kind => trivial

end Command

/-- Whether the guard of an app grants a request. -/
def Granted (digest : Bcrypt.Digest) (a : App) (r : Request) : Prop :=
  ∃ admin, Guard.requireAdmin digest a.registry r.headers = .granted admin

/-- An app with a credential, open to requests on a database. -/
def App.guardedBy (c : Credential) (db : Database) : App :=
  { settings := {}, registry := ⟨.holds c, .holds (), .holds .ready⟩, db }

/-- A request that presents a token in the header for it. -/
def presenting (token method path : String) (body : String) : Request :=
  { method, path, server := "test", headers := [(Utf8.encode Token.headerName, Utf8.encode token)]
    chunks := [Utf8.encode body] }

/-- An app with the credential of a secret grants what presents the secret. -/
theorem granted_of_secret {digest : Bcrypt.Digest} {secret salt : String} {rounds : Int} {c : Credential} {r : Request}
    (hc : Credential.build digest secret rounds salt = .ok c) (hr : Token.parse r.headers = .ok ⟨secret⟩)
    (db : Database) : Granted digest (.guardedBy c db) r :=
  Guard.granted_of_verify hr (Credential.verify_self hc) ()

variable {digest : Bcrypt.Digest} {a : App} {r : Request} {c : Command} {t : Table}

/-- A granted request that asks for a command runs its call. -/
theorem respond_of_asks (hg : Granted digest a r) (hc : c.AskedBy r) :
    ∃ reported events, respond digest a r =
      { runCall a.db c.call reported with events := events ++ (runCall a.db c.call reported).events } := by
  obtain ⟨admin, hadmin⟩ := hg
  rw [respond_action hc.1]
  cases c with
  | edit effect kind domains =>
    refine ⟨[editedEvent effect kind (domains.map Text.ofString).length], [Guard.grantedEvent], ?_⟩
    show guarded digest a r _ = _
    rw [guarded_granted hadmin]
    simp only [editAsAsked, Command.read_of_submits hc.2, edit]
    rfl
  | view kind =>
    refine ⟨[], [Guard.grantedEvent], ?_⟩
    show guarded digest a r _ = _
    rw [guarded_granted hadmin]
    rfl

/-- A command that the database refuses is ended by a crash and changes no row. -/
theorem respond_refused (hdb : a.db.Holds t) (hg : Granted digest a r) (hc : c.AskedBy r)
    (hr : a.db.refuses c.call = true) :
    (respond digest a r).answer = .error (.storeFailed .unwritable) ∧
      (respond digest a r).db = { a.db with isConnected := true } := by
  obtain ⟨reported, events, h⟩ := respond_of_asks hg hc
  rw [h]
  simp only [runCall, hdb.session_refused (Database.refusal?_of_refuses (Command.plain_call hc) hr _), and_self]

/-- Any other command is answered with the list of its kind after the call. -/
theorem respond_done (hdb : a.db.Holds t) (hg : Granted digest a r) (hc : c.AskedBy r)
    (hr : a.db.refuses c.call = false) :
    (respond digest a r).answer = .ok (domainsAnswer ((t.after c.call).list c.kind)) ∧
      (respond digest a r).db = { a.db with isConnected := true, table := some (t.after c.call) } := by
  obtain ⟨reported, events, h⟩ := respond_of_asks hg hc
  rw [h]
  simp only [runCall, hdb.session_done (Database.refusal?_of_not_refuses (Command.plain_call hc) hr _),
    Command.listed_reply, and_self]

end DomainPolicy.Server
