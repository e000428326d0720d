import DomainPolicy.Proofs.Journal.Record
import DomainPolicy.Proofs.Server.Command
import DomainPolicy.Proofs.Server.Process

/-!
# What is reported of a request

No answer that handling a request gives has an id yet (`Answer.not_id`), and no event that it reports is its completion
(`Reported.name`).  So a request that is answered is reported complete once, under its own id, path and method, and its
answer carries the id once.  A request that a crash ends is not: its completion is not reported, and its answer has
no id (`completion_of_serve`).
-/

namespace DomainPolicy.Server

open Http (Request Response)
open Json (Members)

variable {digest : Bcrypt.Digest} {settings : Settings} {a : App} {r : Request}

/-! ### Answers and events -/

/-- The headers that answers have. -/
theorem Answer.names {response : Response} (h : Answer response) :
    response.headers.map Prod.fst ∈
      [["content-length", "content-type"], ["allow", "content-length", "content-type"],
        ["content-length", "location"]] := by
  cases h with
  | status text => exact List.mem_cons_self ..
  | detail status text => exact List.mem_cons_self ..
  | refusal refusal => exact List.mem_cons_self ..
  | domains domains => exact List.mem_cons_self ..
  | page p pages => exact List.mem_cons_self ..
  | rejection hrejection =>
    unfold Submission.rejection? Response.json? at hrejection
    split at hrejection
    · cases hrejection
      exact List.mem_cons_self ..
    · cases hrejection
  | otherMethod allowed => exact List.mem_cons_of_mem _ (List.mem_cons_self ..)
  | otherPageMethod pages => exact List.mem_cons_of_mem _ (List.mem_cons_self ..)
  | elsewhere location => exact List.mem_cons_of_mem _ (List.mem_cons_of_mem _ (List.mem_cons_self ..))

theorem Answer.not_id {response : Response} (h : Answer response) : idHeader ∉ response.headers.map Prod.fst := by
  have hall : ∀ names ∈ [["content-length", "content-type"], ["allow", "content-length", "content-type"],
      ["content-length", "location"]], idHeader ∉ names := by decide
  exact hall _ h.names

/-- What is reported has a name, which is not that of a completion. -/
theorem Reported.name {e : Event} (h : Reported e) : ∃ name, e.name = .ofString name ∧ name ≠ "request.completed" := by
  cases h with
  | granted => exact ⟨_, rfl, by decide⟩
  | refused refusal => exact ⟨_, rfl, by split <;> decide⟩
  | edited effect kind count => exact ⟨_, rfl, by cases effect <;> decide⟩

/-- The fields that it has. -/
theorem Reported.keys {e : Event} (h : Reported e) :
    e.fields.keys ∈ [[], ["kind", "cause"].map Text.ofString, ["kind", "count"].map Text.ofString] := by
  cases h with
  | granted => exact List.mem_cons_self ..
  | refused refusal => exact List.mem_cons_of_mem _ (List.mem_cons_self ..)
  | edited effect kind count => exact List.mem_cons_of_mem _ (List.mem_cons_of_mem _ (List.mem_cons_self ..))

/-! ### Records of a request -/

/-- What is bound to the journal while a request is served. -/
def requestContext (fresh : String) (r : Request) : Members :=
  [(Text.ofString "request_id", .ofString (requestId fresh r)), (Text.ofString "path", .ofString r.urlPath),
    (Text.ofString "method", .ofString r.method)]

theorem journalFor_eq (a : App) (fresh : String) (r : Request) :
    a.journalFor (requestId fresh r) r.urlPath r.method = { a.journal with context := requestContext fresh r } := rfl

/-- Whether a record is that of a completion. -/
def isCompletion (record : Record) : Bool :=
  match Members.get? (Text.ofString "event") record with
  | some (.string name) => name == Text.ofString "request.completed"
  | _ => false

theorem isCompletion_recordOf {e : Event} {name : String} (h : e.name = .ofString name) (service : Text)
    (context : Members) : isCompletion (Journal.recordOf service context e) = true ↔ name = "request.completed" := by
  unfold isCompletion
  rw [Journal.get?_recordOf_event h]
  constructor
  · intro hname
    have htext : Text.ofString name = Text.ofString "request.completed" := eq_of_beq hname
    have hstring := congrArg Text.toString? htext
    rw [Text.toString?_ofString, Text.toString?_ofString] at hstring
    exact Option.some.inj hstring
  · rintro rfl
    rfl

/-- Whether a record is that of the completion of a request, which was answered with a status. -/
structure Completes (record : Record) (status : Nat) (fresh : String) (r : Request) : Prop where
  status : Members.get? (Text.ofString "status") record = some (.ofNat status)
  id : Members.get? (Text.ofString "request_id") record = some (.ofString (requestId fresh r))
  path : Members.get? (Text.ofString "path") record = some (.ofString r.urlPath)
  method : Members.get? (Text.ofString "method") record = some (.ofString r.method)

/-- The keys of the context of a request. -/
def contextKeys : List Text := ["request_id", "path", "method"].map Text.ofString

/-- A record has the id, the path and the method that are bound, unless the event has such fields itself. -/
theorem context_recordOf {e : Event} (he : ∀ k ∈ contextKeys, k ∉ e.fields.keys) (service : Text) (fresh : String)
    (r : Request) :
    let record := Journal.recordOf service (requestContext fresh r) e
    Members.get? (Text.ofString "request_id") record = some (.ofString (requestId fresh r)) ∧
      Members.get? (Text.ofString "path") record = some (.ofString r.urlPath) ∧
      Members.get? (Text.ofString "method") record = some (.ofString r.method) := by
  intro record
  have hcontext : ∀ k ∈ contextKeys, Members.get? k record = Members.get? k (requestContext fresh r) := by
    have hall : ∀ k ∈ contextKeys, Journal.isDropped k = false ∧ k ∉ Journal.ownKeys := by decide
    intro k hk
    obtain ⟨hdropped, hown⟩ := hall k hk
    exact Journal.get?_recordOf_of_context hdropped hown (he k hk)
  refine ⟨?_, ?_, ?_⟩
  · rw [hcontext _ (by simp [contextKeys])]
    rfl
  · rw [hcontext _ (by simp [contextKeys])]
    rfl
  · rw [hcontext _ (by simp [contextKeys])]
    rfl

theorem completes_recordOf (service : Text) (status : Nat) (fresh : String) (r : Request) :
    Completes (Journal.recordOf service (requestContext fresh r) (completedEvent status)) status fresh r := by
  have hkeys : ∀ k ∈ contextKeys, k ∉ (completedEvent status).fields.keys := by
    show ∀ k ∈ contextKeys, k ∉ [Text.ofString "status"]
    decide
  obtain ⟨hid, hpath, hmethod⟩ := context_recordOf hkeys service fresh r
  have hfields : (completedEvent status).fields = [] ++ (Text.ofString "status", .ofNat status) :: [] := rfl
  exact ⟨Journal.get?_recordOf_of_field rfl (by decide) hfields List.not_mem_nil, hid, hpath, hmethod⟩

/-- With a level of `info` or lower, completions are written. -/
theorem record?_completed (h : a.HasOwnJournal settings) (hjson : settings.jsonLogs = true)
    (hlevel : ∃ rank ≤ 20, Journal.levelRank settings.logLevel = .ok rank) (fresh : String) (r : Request)
    (status : Nat) :
    (a.journalFor (requestId fresh r) r.urlPath r.method).record? (completedEvent status) =
      some (Journal.recordOf settings.serviceName (requestContext fresh r) (completedEvent status)) := by
  obtain ⟨rank, hrank, hjournal⟩ := h
  obtain ⟨rank', hle, hrank'⟩ := hlevel
  cases hrank.symm.trans hrank'
  rw [journalFor_eq, hjournal]
  -- no source above that of completions has a least rank of its own
  have hleast : Journal.leastRank { App.journalOf settings rank with context := requestContext fresh r } rank
      (completedEvent status).source = rank := by
    have hnone : (Source.lineage (completedEvent status).source).filterMap
        (List.lookup · [("sqlalchemy", (Severity.warning.rank : Int))]) = [] := by
      show (Source.lineage "relay_admin.observability.middleware").filterMap _ = []
      decide
    unfold Journal.leastRank
    show (((Source.lineage _).filterMap
      (List.lookup · [("sqlalchemy", (Severity.warning.rank : Int))])).find? _).getD _ = _
    rw [hnone]
    rfl
  have hwritten : Journal.isWritten { App.journalOf settings rank with context := requestContext fresh r }
      (completedEvent status) = true := by
    unfold Journal.isWritten
    show (true && decide (Journal.leastRank _ rank _ ≤ _)) = true
    rw [hleast]
    exact decide_eq_true hle
  unfold Journal.record?
  show (if (settings.jsonLogs && _) = true then some _ else none) = _
  rw [hwritten, hjson]
  rfl

/-- What is reported before a request is complete is written as no completion. -/
theorem filter_records_reported {j : Journal} {es : List Event} (h : ∀ e ∈ es, Reported e) :
    (j.records es).filter isCompletion = [] := by
  rw [List.filter_eq_nil_iff]
  intro record hrecord
  obtain ⟨output, e, -, he, rfl⟩ := Journal.mem_records hrecord
  obtain ⟨name, hname, hne⟩ := (h e he).name
  rw [isCompletion_recordOf hname]
  exact hne

/-! ### Ids and paths -/

/-- The id of a request, byte for byte. -/
theorem encode_requestId {fresh : String} {b : UInt8} {bs : Bytes}
    (h : Http.header? idHeader r.headers = some (b :: bs)) : Latin1.encode (requestId fresh r) = b :: bs := by
  unfold requestId
  rw [h]
  exact Latin1.encode_decode (b :: bs)

theorem requestId_eq_fresh {fresh : String}
    (h : Http.header? idHeader r.headers = none ∨ Http.header? idHeader r.headers = some []) :
    requestId fresh r = fresh := by
  unfold requestId
  rcases h with h | h <;> rw [h]

/-- Whether a path begins with a slash and a URL takes all of it as it is. -/
def IsPlainPath (path : String) : Prop :=
  path.toList.head? = some '/' ∧ ∀ c ∈ path.toList, Http.Uri.endsPath c = false ∧ Http.Uri.isSkipped c = false

theorem urlPath_of_isPlainPath (h : IsPlainPath r.path) : r.urlPath = r.path := by
  have hescaped : (r.path.toList.flatMap fun c =>
      if Http.Uri.endsPath c then Http.Uri.percent c.toNat.toUInt8 else [c]) = r.path.toList := by
    rw [List.flatMap_congr (g := fun c => [c]) fun c hc => by rw [(h.2 c hc).1]; rfl]
    exact List.flatMap_singleton' _
  have hkept : r.path.toList.filter (fun c => !Http.Uri.isSkipped c) = r.path.toList := by
    rw [List.filter_eq_self]
    intro c hc
    rw [(h.2 c hc).2]
    rfl
  unfold Request.urlPath Http.Uri.pathText
  dsimp only
  rw [hescaped, if_pos (Or.inr h.1), String.toList_ofList, hkept, String.ofList_toList]

/-! ### One completion for each answer -/

/-- While an app runs with records in JSON from `info` on, a request that is answered is reported complete once, with
the status of its answer and its own id, path and method, and its answer carries the id once.  A request that a crash
ends is answered `500`, its completion is not reported, and its answer has no id.  The id is the first one that the
request brings, byte for byte, unless that is empty, and then a fresh one. -/
theorem completion_of_serve (h : a.Running digest settings) (hjson : settings.jsonLogs = true)
    (hlevel : ∃ rank ≤ 20, Journal.levelRank settings.logLevel = .ok rank) (fresh : String) (r : Request) :
    let e := (a.serve digest fresh r).2
    (∀ response, (respond digest a r).answer = .ok response →
      (∃ record, e.records.filter isCompletion = [record] ∧ Completes record e.response.status fresh r) ∧
        e.response.headers.filter (·.1 = idHeader) = [(idHeader, requestId fresh r)]) ∧
      (∀ crash, (respond digest a r).answer = .error crash →
        e.response.status = 500 ∧ e.records.filter isCompletion = [] ∧
          e.response.headers.filter (·.1 = idHeader) = []) ∧
      (∀ b bs, Http.header? idHeader r.headers = some (b :: bs) → Latin1.encode (requestId fresh r) = b :: bs) ∧
      (Http.header? idHeader r.headers = none ∨ Http.header? idHeader r.headers = some [] →
        requestId fresh r = fresh) ∧
      (IsPlainPath r.path → r.urlPath = r.path) := by
  have husual := usual_respond digest a r
  refine ⟨?_, ?_, fun b bs => encode_requestId, requestId_eq_fresh, urlPath_of_isPlainPath⟩
  · intro response hanswer
    have hid : response.headers.filter (fun header => decide (header.1 = idHeader)) = [] := by
      rw [List.filter_eq_nil_iff]
      intro header hheader hname
      refine (husual.answer response hanswer).not_id ?_
      rw [← of_decide_eq_true hname]
      exact List.mem_map_of_mem hheader
    unfold App.serve
    simp only [hanswer]
    constructor
    · refine ⟨_, ?_, completes_recordOf settings.serviceName response.status fresh r⟩
      rw [Journal.records, List.filterMap_append, List.filter_append, ← Journal.records,
        filter_records_reported husual.events,
        List.filterMap_cons_some (record?_completed h.hasOwnJournal hjson hlevel fresh r response.status)]
      have hname : (completedEvent response.status).name = .ofString "request.completed" := rfl
      rw [List.nil_append, List.filter_cons_of_pos ((isCompletion_recordOf hname _ _).2 rfl)]
      rfl
    · show (response.headers ++ [(idHeader, requestId fresh r)]).filter _ = _
      rw [List.filter_append, hid]
      rfl
  · intro crash hanswer
    unfold App.serve
    simp only [hanswer]
    refine ⟨rfl, filter_records_reported husual.events, ?_⟩
    decide

theorem completion_of_serve_healthz :
    let r : Request :=
      { method := "GET", path := "/healthz", server := "test"
        headers := [(Utf8.encode idHeader, Utf8.encode "req-1"), (Utf8.encode idHeader, Utf8.encode "req-2")] }
    ∃ a : App, a.Running Bcrypt.digest {} ∧
      let e := (a.serve Bcrypt.digest "1" r).2
      (∃ record, e.records.filter isCompletion = [record] ∧ Completes record 200 "1" r) ∧
        e.response.headers.filter (·.1 = idHeader) = [(idHeader, "req-1")] := by
  intro r
  let a : App := { settings := {}, journal := App.journalOf {} 20 }
  have hcreate : App.create Bcrypt.digest "" {} {} = (.ok a, (App.journalOf {} 20).records [App.disabledEvent]) := rfl
  have hrunning : a.Running Bcrypt.digest {} := .begun (.created hcreate)
  have hlevel : ∃ rank ≤ 20, Journal.levelRank ({} : Settings).logLevel = .ok rank := ⟨20, by decide, rfl⟩
  obtain ⟨hanswered, -⟩ := completion_of_serve hrunning rfl hlevel "1" r
  have hanswer : (respond Bcrypt.digest a r).answer = .ok (statusAnswer "ok") := rfl
  obtain ⟨hrecord, hid⟩ := hanswered _ hanswer
  exact ⟨a, hrunning, hrecord, hid⟩

/-- A request for a list where the table is missing is answered `500` without the id that it brings, and nothing is
reported of it. -/
theorem missing_table_is_not_reported :
    let settings : Settings :=
      { env := .prod, apiToken := some (.ofString "s3cr3t"), bcryptRounds := 4
        databaseUrl := "sqlite+aiosqlite:///:memory:" }
    let r : Request :=
      { method := "GET", path := "/api/v1/admin/allowed", server := "test"
        headers := [(Utf8.encode Token.headerName, Utf8.encode "s3cr3t"), (Utf8.encode idHeader, Utf8.encode "req-1")] }
    ∃ a : App, a.Running Bcrypt.digest settings ∧ settings.jsonLogs = true ∧
      Journal.levelRank settings.logLevel = .ok 20 ∧
      (a.serve Bcrypt.digest "1" r).2.records = [] ∧ (a.serve Bcrypt.digest "1" r).2.response = lastResort := by
  intro settings r
  have hsize : Utf8.size "s3cr3t" ≤ maxSecretBytes := by decide
  obtain ⟨c, hc⟩ := Credential.exists_build Bcrypt.digest hsize
  have hlevel : Journal.levelRank "INFO" = .ok 20 := by decide
  let created : App :=
    { settings, journal := App.journalOf settings 20, registry := { credential := .holds c } }
  let a : App := created.withDatabase {}
  have hcreate : App.create Bcrypt.digest "abcdefghijklmnopqrstuu" {} settings = (.ok created, []) :=
    App.create_of_build hlevel rfl hc
  have hlocation : Location.ofUrl settings.databaseUrl = .ok .memory := by decide +kernel
  have hopen : created.openDatabase {} = ({}, .ok (Disk.openAt {} .memory)) :=
    App.openDatabase_of_prod (a := created) hlocation rfl {}
  have hstart : created.start {} = (({}, .ok a), created.journal.records [created.startEvent]) :=
    App.start_of_openDatabase hopen
  have hrunning : a.Running Bcrypt.digest settings := .begun (.started hcreate hstart)
  have hfind : Route.find r.method r.path = .action (.view .allowed) := by decide +kernel
  obtain ⟨admin, hadmin⟩ : Granted Bcrypt.digest a r := granted_of_secret hc (by decide) a.db
  have hrespond : respond Bcrypt.digest a r =
      ⟨.error (.storeFailed .noTable), [Guard.grantedEvent], { a.db with isConnected := true }⟩ := by
    rw [respond_action hfind]
    show guarded Bcrypt.digest a r _ = _
    rw [guarded_granted hadmin]
    rfl
  refine ⟨a, hrunning, rfl, hlevel, ?_, ?_⟩
  · unfold App.serve
    rw [hrespond]
    rfl
  · unfold App.serve
    rw [hrespond]

end DomainPolicy.Server
