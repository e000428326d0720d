import DomainPolicy.Proofs.Client.Reply
import DomainPolicy.Proofs.Guard.Stage
import DomainPolicy.Proofs.Server.Command
import DomainPolicy.Proofs.Token.Codec

/-!
# Client and service

A client that is made for a token sends requests that an app with the credential of this token grants, and that ask
for just what the client is asked for (`exists_request`).  What it gets is what the store lists then, unless the store
cannot be written (`step_calling`).  So it goes for any number of calls, one after the other (`run_callings`).
-/

namespace DomainPolicy.Server

open Http (Request)
open Json (Value)

/-! ### What is sent -/

namespace Command

/-- What a client is asked to do for a command. -/
def clientCall : Command → Client.Call
  | edit effect kind domains => .edit effect kind (some (.array (domains.map .ofString)))
  | view kind => .view kind

/-- Whether a command names as many domains as a body may hold. -/
def IsSendable : Command → Prop
  | edit _ _ domains => 1 ≤ domains.length ∧ domains.length ≤ 1000
  | view _ => True

end Command

theorem find_action (action : Action) : Route.find action.method.text action.path = .action action := by
  have hall : ∀ a ∈ Action.all, Route.find a.method.text a.path = .action a := by decide +kernel
  exact hall action (Action.mem_all action)

theorem submits_ofDomains {domains : List String} (h : 1 ≤ domains.length ∧ domains.length ≤ 1000) :
    Command.Submits (Utf8.encode (Value.ofDomains domains).compact) domains :=
  Command.submits_of_read (readBytes_ofDomains domains) (if_pos rfl) h

/-- Whether a header neither presents a token nor brings the id of a request. -/
def IsOther (h : Bytes × Bytes) : Prop := ¬Token.Spells h.1 ∧ h.1 ≠ Utf8.encode idHeader

theorem isOther_of_name {name : String} (hname : name = "host" ∨ name = Client.contentTypeName) (value : Bytes) :
    IsOther (Utf8.encode name, value) := by
  have hall : ∀ name ∈ ["host", Client.contentTypeName],
      Token.isHeaderName (Utf8.encode name) ≠ true ∧ Utf8.encode name ≠ Utf8.encode idHeader := by decide +kernel
  obtain ⟨hspells, hid⟩ := hall name (by simpa using hname)
  exact ⟨fun h => hspells (Token.isHeaderName_iff.2 h), hid⟩

/-- Whether a request carries the header of a client, and besides it only others. -/
def Carries (client : Client) (r : Request) : Prop :=
  ∃ before after, r.headers = before ++ client.header :: after ∧ ∀ h ∈ before ++ after, IsOther h

variable {client : Client} {server : String} {r : Request}

/-- What a client sends goes to the route of the call, and carries its header. -/
theorem carries_of_request {call : Client.Call} (h : client.request server call = .ok r) :
    (r.method = call.action.method.text ∧ r.path = call.action.path) ∧ Carries client r := by
  have hhost : ∀ h ∈ [(Utf8.encode "host", Utf8.encode server)], IsOther h :=
    List.forall_mem_singleton.2 (isOther_of_name (Or.inl rfl) _)
  have htype : ∀ h ∈ [(Utf8.encode Client.contentTypeName, Utf8.encode "application/json")], IsOther h :=
    List.forall_mem_singleton.2 (isOther_of_name (Or.inr rfl) _)
  unfold Client.request at h
  split at h
  · cases h
    refine ⟨⟨rfl, rfl⟩, [_], [], rfl, ?_⟩
    rwa [List.append_nil]
  · split at h
    · cases h
    · cases h
      exact ⟨⟨rfl, rfl⟩, [_], [_], rfl, List.forall_mem_append.2 ⟨hhost, htype⟩⟩

/-- For each command a client sends a request that asks for it, with the same domains, and carries its header. -/
theorem exists_request (client : Client) (server : String) {c : Command} (hc : c.IsSendable) :
    ∃ r, client.request server c.clientCall = .ok r ∧ c.AskedBy r ∧ Carries client r := by
  cases c with
  | view kind =>
    have hr : client.request server (Command.view kind).clientCall = .ok _ := rfl
    exact ⟨_, hr, ⟨find_action (.view kind), trivial⟩, (carries_of_request hr).2⟩
  | edit effect kind domains =>
    have hcompact : (Value.ofDomains domains).compact? = some (Value.ofDomains domains).compact :=
      if_pos (isPortable_ofDomains domains)
    have hpayload : (Command.edit effect kind domains).clientCall.payload? = some (Value.ofDomains domains) := rfl
    let r : Request :=
      { method := (Action.edit effect kind).method.text, path := (Action.edit effect kind).path, server
        headers := [(Utf8.encode "host", Utf8.encode server), client.header,
          (Utf8.encode Client.contentTypeName, Utf8.encode "application/json")]
        chunks := [Utf8.encode (Value.ofDomains domains).compact] }
    have hbody : r.body = Utf8.encode (Value.ofDomains domains).compact := List.flatten_singleton
    have hr : client.request server (Command.edit effect kind domains).clientCall = .ok r := by
      unfold Client.request
      simp only [hpayload, hcompact]
      rfl
    refine ⟨r, hr, ⟨find_action (.edit effect kind), ?_⟩, (carries_of_request hr).2⟩
    show Command.Submits r.body domains
    rw [hbody]
    exact submits_ofDomains hc

/-! ### What the guard sees -/

/-- Whether an app keeps a credential of a token, its database and no closed pool. -/
structure App.Admits (digest : Bcrypt.Digest) (a : App) (token : Token) : Prop where
  credential : ∃ c rounds salt, a.registry.credential = .holds c ∧
    Credential.build digest token.value rounds salt = .ok c
  db : a.registry.db = .holds ()
  pool : a.registry.pool ≠ .holds .closed

variable {digest : Bcrypt.Digest} {a : App} {t : Table} {token : Token}

theorem header_of_make (h : Client.make token = .ok client) : token.header = .ok client.header := by
  rw [Client.make] at h
  cases hheader : token.header with
  | error e =>
    rw [hheader] at h
    cases h
  | ok header =>
    rw [hheader] at h
    cases h
    rfl

theorem name_of_make (h : Client.make token = .ok client) : client.header.1 = Utf8.encode Token.headerName := by
  have hheader := header_of_make h
  rw [Token.header] at hheader
  cases hvalue : token.encode with
  | error e =>
    rw [hvalue] at hheader
    cases hheader
  | ok value =>
    rw [hvalue] at hheader
    exact congrArg Prod.fst (Except.ok.inj hheader).symm

/-- A request that carries the header of a client gets a fresh id. -/
theorem requestId_of_carries (hclient : Client.make token = .ok client) (h : Carries client r) (fresh : String) :
    requestId fresh r = fresh := by
  obtain ⟨before, after, hheaders, hothers⟩ := h
  obtain ⟨hbefore, hafter⟩ := List.forall_mem_append.1 hothers
  have hname : client.header.1 ≠ Utf8.encode idHeader := by
    rw [name_of_make hclient]
    decide +kernel
  have hnone : r.headers.find? (fun h => h.1 == Utf8.encode idHeader) = none := by
    rw [List.find?_eq_none, hheaders]
    intro h hh
    rw [beq_iff_eq]
    rcases List.mem_append.1 hh with hh | hh
    · exact (hbefore h hh).2
    · rcases List.mem_cons.1 hh with rfl | hh
      · exact hname
      · exact (hafter h hh).2
  rw [requestId, Http.header?, hnone]
  rfl

/-- An app that admits a token grants what carries the header of a client for it. -/
theorem granted_of_carries (ha : a.Admits digest token) (hclient : Client.make token = .ok client)
    (h : Carries client r) : Granted digest a r := by
  obtain ⟨before, after, hheaders, hothers⟩ := h
  obtain ⟨hpresents, hvalue⟩ := Token.presents_of_header (header_of_make hclient) fun h hh => (hothers h hh).1
  obtain ⟨c, rounds, salt, hc, hbuild⟩ := ha.credential
  rw [← hheaders] at hpresents
  have hverify : c.verify digest ⟨Latin1.decode (Utf8.encode token.value)⟩ = .ok true := by
    rw [hvalue]
    exact Credential.verify_self hbuild
  obtain ⟨admin, hadmin, -⟩ :=
    ((Guard.requireAdmin_of_presents ha.pool hc hpresents).2.2 hverify).2 () (Guard.get?_eq_some_iff.2 ha.db)
  exact ⟨admin, hadmin⟩

/-! ### One call -/

/-- A call of a client for a command, with the id that its request gets. -/
structure Calling where
  fresh : String
  command : Command

namespace Calling

def step (token : Token) (q : Calling) : Step := .call q.fresh token q.command.clientCall

/-- Whether a call can be sent, and its id comes back. -/
def IsSound (q : Calling) : Prop := q.command.IsSendable ∧ Client.IsAscii q.fresh

/-- What a call gives on a database, which it leaves as `db'`. -/
def result (q : Calling) (db db' : Database) : CallResult :=
  if db.refuses q.command.call then .failed (.refused 500 (Text.ofString "Internal Server Error"))
  else .listed ((db'.rows.list q.command.kind).map .ofString)

end Calling

/-- What a call gives, if a step is one. -/
def Seen.result? : Seen → Option CallResult
  | .called result _ => some result
  | _ => none

/-- A call runs the call of its command in a session, with the same domains, and gives the list of its kind after it, or
a failure if the database refuses it. -/
theorem step_calling (ha : a.Admits digest token) (hclient : Client.make token = .ok client) (hdb : a.db.Holds t)
    {q : Calling} (hq : q.IsSound) :
    (a.step digest (q.step token)).1.db = (a.db.session .onConflict .clean [q.command.call]).1 ∧
      (a.step digest (q.step token)).2.result? = some (q.result a.db (a.step digest (q.step token)).1.db) ∧
      (a.step digest (q.step token)).1.registry = a.registry := by
  obtain ⟨r, hr, hasked, hcarries⟩ := exists_request client App.ownName hq.1
  have hg := granted_of_carries ha hclient hcarries
  have hcall : a.call digest q.fresh App.ownName token q.command.clientCall = _ := call_eq hclient hr q.fresh
  have happ : (a.step digest (q.step token)).1 = (a.serve digest q.fresh r).1 := congrArg Prod.fst hcall
  have hresult : (a.step digest (q.step token)).2.result? = _ :=
    congrArg (fun p : App × CallResult × List Record => some p.2.1) hcall
  dsimp only at hresult
  rw [happ, hresult, db_serve, Calling.result]
  rw [← and_assoc]
  refine ⟨?_, rfl⟩
  cases hrefuses : a.db.refuses q.command.call with
  | true =>
    obtain ⟨hanswer, hafter⟩ := respond_refused hdb hg hasked hrefuses
    rw [hafter, hdb.session_refused (Database.refusal?_of_refuses (Command.plain_call hasked) hrefuses _),
      response_serve_of_crash hanswer, Client.conclude_lastResort]
    exact ⟨rfl, rfl⟩
  | false =>
    obtain ⟨hanswer, hafter⟩ := respond_done hdb hg hasked hrefuses
    rw [hafter, hdb.session_done (Database.refusal?_of_not_refuses (Command.plain_call hasked) hrefuses _),
      response_serve hanswer, requestId_of_carries hclient hcarries, Client.conclude_domainsAnswer _ hq.2]
    exact ⟨rfl, rfl⟩

/-! ### Any number of calls -/

/-- A session of one call leaves a database that holds a table, and that can be written as before. -/
theorem holds_session {db : Database} (h : db.Holds t) (call : Call) :
    (∃ t', (db.session .onConflict .clean [call]).1.Holds t') ∧
      (db.session .onConflict .clean [call]).1.isWritable = db.isWritable := by
  cases hr : call.refusal? .onConflict db.toLimits with
  | some e =>
    rw [h.session_refused hr]
    exact ⟨⟨t, h.connected⟩, rfl⟩
  | none =>
    rw [h.session_done hr]
    exact ⟨⟨_, h.after call⟩, rfl⟩

/-- Calls leave an app that admits the token as before, and a database that holds a table. -/
theorem admits_run (ha : a.Admits digest token) (hclient : Client.make token = .ok client) (hdb : a.db.Holds t)
    {qs : List Calling} (hqs : ∀ q ∈ qs, q.IsSound) :
    App.Admits digest (a.run digest (qs.map (Calling.step token))).1 token ∧
      (∃ t', (a.run digest (qs.map (Calling.step token))).1.db.Holds t') ∧
      (a.run digest (qs.map (Calling.step token))).1.db.isWritable = a.db.isWritable := by
  -- a call leaves the registry alone, so the next one is admitted as well
  induction qs generalizing a t with
  | nil => exact ⟨ha, ⟨t, hdb⟩, rfl⟩
  | cons q qs ih =>
    obtain ⟨hq, hqs⟩ := List.forall_mem_cons.1 hqs
    obtain ⟨hafter, -, hregistry⟩ := step_calling ha hclient hdb hq
    obtain ⟨⟨t', hdb'⟩, hwritable⟩ := holds_session hdb q.command.call
    rw [← hafter] at hdb' hwritable
    have ha' : (a.step digest (q.step token)).1.Admits digest token := by
      refine ⟨?_, ?_, ?_⟩ <;> rw [hregistry]
      · exact ha.credential
      · exact ha.db
      · exact ha.pool
    obtain ⟨hadmits, hholds, hsame⟩ := ih ha' hdb' hqs
    exact ⟨hadmits, hholds, hsame.trans hwritable⟩

/-- A client that is made for a token, and an app that admits this token on a database that has its table, go together:
whatever calls the client makes, each is sent as a request for the same domains, runs in a session of the store, and
gives what the store lists for its kind afterwards, each domain as it is.  Only where the store cannot be written, a
call that would write fails with status `500` and changes no row. -/
theorem run_callings (hclient : Client.make token = .ok client) (ha : a.Admits digest token) (hdb : a.db.Holds t)
    {qs : List Calling} (hqs : ∀ q ∈ qs, q.IsSound) :
    (a.run digest (qs.map (Calling.step token))).2.length = qs.length ∧
      ∀ before q after, qs = before ++ q :: after →
        let db := (a.run digest (before.map (Calling.step token))).1.db
        let db' := (a.run digest ((before ++ [q]).map (Calling.step token))).1.db
        (∃ r, client.request App.ownName q.command.clientCall = .ok r ∧ q.command.AskedBy r) ∧
          db' = (db.session .onConflict .clean [q.command.call]).1 ∧
          ∃ result, (a.run digest (qs.map (Calling.step token))).2[before.length]?.bind Seen.result? = some result ∧
            (a.db.isWritable = true ∨ q.command.call.writes = false →
              result = .listed ((db'.rows.list q.command.kind).map .ofString)) ∧
            (a.db.isWritable = false → q.command.call.writes = true →
              result = .failed (.refused 500 (Text.ofString "Internal Server Error")) ∧ db'.rows = db.rows) := by
  refine ⟨by rw [length_run, List.length_map], ?_⟩
  rintro before q after rfl
  obtain ⟨hbefore, hrest⟩ := List.forall_mem_append.1 hqs
  obtain ⟨hq, -⟩ := List.forall_mem_cons.1 hrest
  obtain ⟨hadmits, ⟨t', hholds⟩, hwritable⟩ := admits_run ha hclient hdb hbefore
  obtain ⟨hafter, hresult, -⟩ := step_calling hadmits hclient hholds hq
  obtain ⟨r, hr, hasked, -⟩ := exists_request client App.ownName hq.1
  have hlast : (a.run digest ((before ++ [q]).map (Calling.step token))).1 =
      ((a.run digest (before.map (Calling.step token))).1.step digest (q.step token)).1 := by
    rw [List.map_append, run_append]
    rfl
  -- what the call in the middle gives is what it gives after those before it
  have hseen : (a.run digest ((before ++ q :: after).map (Calling.step token))).2[before.length]? =
      some ((a.run digest (before.map (Calling.step token))).1.step digest (q.step token)).2 := by
    have hlength : (a.run digest (before.map (Calling.step token))).2.length = before.length := by
      rw [length_run, List.length_map]
    rw [List.map_append, run_append, List.getElem?_append_right (Nat.le_of_eq hlength), hlength, Nat.sub_self]
    rfl
  rw [← hwritable]
  dsimp only
  rw [hlast]
  refine ⟨⟨r, hr, hasked⟩, hafter, _, by rw [hseen]; exact hresult, fun h => ?_, fun hreadonly hwrites => ?_⟩
  · refine if_neg ?_
    rw [Database.refuses]
    rcases h with h | h <;> rw [h] <;> simp
  · have hrefuses : Database.refuses (a.run digest (before.map (Calling.step token))).1.db q.command.call = true := by
      rw [Database.refuses, hreadonly, hwrites]
      rfl
    refine ⟨if_pos hrefuses, ?_⟩
    rw [hafter, hholds.session_refused (Database.refusal?_of_refuses (Command.plain_call hasked) hrefuses _)]
    rfl

/-- An app for the token `s3cr3t`. -/
theorem admits_s3cr3t {c : Credential}
    (hc : Credential.build Bcrypt.digest "s3cr3t" 4 "abcdefghijklmnopqrstuu" = .ok c) (db : Database) :
    App.Admits Bcrypt.digest (.guardedBy c db) ⟨"s3cr3t"⟩ :=
  ⟨⟨c, 4, _, rfl, hc⟩, rfl, nofun⟩

/-- What a client adds is listed for it. -/
theorem run_callings_allow :
    ∃ client c, Client.make ⟨"s3cr3t"⟩ = .ok client ∧
      Credential.build Bcrypt.digest "s3cr3t" 4 "abcdefghijklmnopqrstuu" = .ok c ∧
      let a := App.guardedBy c { table := some [] }
      let qs : List Calling := [⟨"1", .edit .add .allowed ["\tA\"."]⟩, ⟨"2", .view .allowed⟩]
      a.db.Holds [] ∧
        (a.run Bcrypt.digest (qs.map (Calling.step ⟨"s3cr3t"⟩))).2[0]?.bind Seen.result? =
          some (.listed [.ofString "a\""]) := by
  have hsize : Utf8.size "s3cr3t" ≤ maxSecretBytes := by decide
  obtain ⟨c, hc⟩ := Credential.exists_build Bcrypt.digest hsize
  have hdb : (App.guardedBy c { table := some [] }).db.Holds [] := ⟨fun _ => nofun, rfl, rfl, List.Pairwise.nil⟩
  refine ⟨⟨(Utf8.encode Token.headerName, Utf8.encode "s3cr3t")⟩, c, rfl, hc, hdb, ?_⟩
  have hqs : ∀ q ∈ [Calling.mk "1" (.edit .add .allowed ["\tA\"."]), ⟨"2", .view .allowed⟩], q.IsSound := by
    simp only [List.forall_mem_cons, List.not_mem_nil, false_imp_iff, implies_true, and_true]
    exact ⟨⟨⟨by decide, by decide⟩, by decide⟩, trivial, by decide⟩
  have hclient : Client.make ⟨"s3cr3t"⟩ = .ok ⟨(Utf8.encode Token.headerName, Utf8.encode "s3cr3t")⟩ := rfl
  obtain ⟨-, hcalls⟩ := run_callings hclient
    (admits_s3cr3t hc { table := some [] }) hdb hqs
  obtain ⟨-, hafter, result, hresult, hlisted, -⟩ := hcalls [] _ _ rfl
  rw [hlisted (Or.inl rfl), hafter] at hresult
  refine hresult.trans (congrArg some (congrArg CallResult.listed ?_))
  have hlist : (Database.session .onConflict .clean [.add .allowed ["\tA\"."]]
      { table := some [] }).1.rows.list .allowed = ["a\""] := by decide +kernel
  exact congrArg (List.map Value.ofString) hlist

/-- A client that adds a domain where the store has its table but cannot be written gets a failure. -/
theorem run_callings_unwritable :
    ∃ client c, Client.make ⟨"s3cr3t"⟩ = .ok client ∧
      Credential.build Bcrypt.digest "s3cr3t" 4 "abcdefghijklmnopqrstuu" = .ok c ∧
      let a := App.guardedBy c { table := some [], isWritable := false }
      a.Admits Bcrypt.digest ⟨"s3cr3t"⟩ ∧ a.db.Holds [] ∧
        (a.step Bcrypt.digest (Calling.step ⟨"s3cr3t"⟩ ⟨"1", .edit .add .allowed ["a"]⟩)).2.result? =
          some (.failed (.refused 500 (Text.ofString "Internal Server Error"))) := by
  have hsize : Utf8.size "s3cr3t" ≤ maxSecretBytes := by decide
  obtain ⟨c, hc⟩ := Credential.exists_build Bcrypt.digest hsize
  have hdb : (App.guardedBy c { table := some [], isWritable := false }).db.Holds [] :=
    ⟨fun _ => nofun, rfl, rfl, List.Pairwise.nil⟩
  have ha := admits_s3cr3t hc { table := some [], isWritable := false }
  have hq : Calling.IsSound ⟨"1", .edit .add .allowed ["a"]⟩ := ⟨⟨by decide, by decide⟩, by decide⟩
  refine ⟨⟨(Utf8.encode Token.headerName, Utf8.encode "s3cr3t")⟩, c, rfl, hc, ha, hdb, ?_⟩
  have hclient : Client.make ⟨"s3cr3t"⟩ = .ok ⟨(Utf8.encode Token.headerName, Utf8.encode "s3cr3t")⟩ := rfl
  obtain ⟨-, hresult, -⟩ := step_calling ha hclient hdb hq
  have hrefuses : Database.refuses { table := some [], isWritable := false } (.add .allowed ["a"]) = true := by
    decide +kernel
  exact hresult.trans (congrArg some (if_pos hrefuses))

end DomainPolicy.Server
