import DomainPolicy.Proofs.Server.Report
import DomainPolicy.Proofs.Store.Atomicity

/-!
# The context of records

What is reported while a request is served has the id, the path and the method of that request, and no key beyond them
that is not the event's or the record's own (`inContext_of_answer`).  What is reported of a request depends on nothing
but the registry, the rows and the journal, and the journal is the same again after each request, so the records are
those of the same request at the beginning of a life (`records_on_alike`).  What is reported outside any request has no
context (`context_of_run`).
-/

namespace DomainPolicy.Server

open Http (Request Response)
open Json (Members)

variable {digest : Bcrypt.Digest} {settings : Settings} {a b : App}

/-! ### Handling on databases that are alike -/

/-- Whether two requests did the same, but for the connection that there was to a database, and for what their answers
show. -/
structure Handled.Alike (h h' : Handled) : Prop where
  status : h'.answer.map Response.status = h.answer.map Response.status
  events : h'.events = h.events
  db : h.db.Alike h'.db

variable {db db' : Database}

theorem runCall_on_alike (hdb : db.Alike db') (call : Call) (events : List Event) :
    (runCall db call events).Alike (runCall db' call events) := by
  obtain ⟨hresult, hafter⟩ := hdb.session .onConflict .clean [call]
  unfold runCall
  cases hs : db.session .onConflict .clean [call] with
  | mk left result =>
    cases hs' : db'.session .onConflict .clean [call] with
    | mk left' result' =>
      rw [hs, hs'] at hresult hafter
      cases hresult
      cases result with
      | ok replies => exact ⟨rfl, rfl, hafter⟩
      | error e => exact ⟨rfl, rfl, hafter⟩

theorem editAsAsked_on_alike (hdb : db.Alike db') (effect : Effect) (kind : RuleKind) (body : Bytes) :
    (editAsAsked db effect kind body).Alike (editAsAsked db' effect kind body) := by
  unfold editAsAsked
  split
  · exact runCall_on_alike hdb _ _
  · exact ⟨rfl, rfl, hdb⟩
  · split <;> exact ⟨rfl, rfl, hdb⟩

theorem guarded_on_alike {go go' : Admin Unit → Handled} {r : Request} (hregistry : b.registry = a.registry)
    (hdb : a.db.Alike b.db) (hgo : ∀ admin, (go admin).Alike (go' admin)) :
    (guarded digest a r go).Alike (guarded digest b r go') := by
  cases hg : Guard.requireAdmin digest a.registry r.headers with
  | granted admin =>
    rw [guarded_granted hg, guarded_granted (by rw [hregistry]; exact hg)]
    exact ⟨(hgo admin).status, congrArg (Guard.grantedEvent :: ·) (hgo admin).events, (hgo admin).db⟩
  | refused refusal =>
    rw [guarded_refused hg, guarded_refused (by rw [hregistry]; exact hg)]
    exact ⟨rfl, rfl, hdb⟩
  | poolClosed =>
    rw [guarded_poolClosed hg, guarded_poolClosed (by rw [hregistry]; exact hg)]
    exact ⟨rfl, rfl, hdb⟩

/-- Handling looks at the registry, the pages and the database only, and not at its connection. -/
theorem respond_on_alike (hregistry : b.registry = a.registry) (hdb : a.db.Alike b.db) (digest : Bcrypt.Digest)
    (r : Request) : (respond digest a r).Alike (respond digest b r) := by
  unfold respond
  cases Route.find r.method r.path with
  | action action =>
    cases action with
    | health => exact ⟨rfl, rfl, hdb⟩
    | ready =>
      simp only [perform]
      rw [hregistry]
      split
      · obtain ⟨isConnected, hb⟩ := hdb
        have hping : b.db.ping = a.db.ping := by
          rw [hb]
          rfl
        rw [hping]
        split
        · exact ⟨rfl, rfl, .refl _⟩
        · exact ⟨rfl, rfl, isConnected, hb⟩
      · exact ⟨rfl, rfl, hdb⟩
    | edit effect kind => exact guarded_on_alike hregistry hdb fun _ => editAsAsked_on_alike hdb effect kind r.body
    | view kind => exact guarded_on_alike hregistry hdb fun _ => runCall_on_alike hdb (.list kind) []
  | otherMethod allowed => exact ⟨rfl, rfl, hdb⟩
  | page p => exact ⟨rfl, rfl, hdb⟩
  | otherPageMethod => exact ⟨rfl, rfl, hdb⟩
  | elsewhere path => exact ⟨rfl, rfl, hdb⟩
  | nothing => exact ⟨rfl, rfl, hdb⟩

/-- Two apps whose journals are set up alike, and that keep the same things and alike databases, report the same of a
request. -/
theorem records_on_alike (ha : a.HasOwnJournal settings) (hb : b.HasOwnJournal settings)
    (hregistry : b.registry = a.registry) (hdb : a.db.Alike b.db) (q : Arrival) :
    (b.answer digest q).2.records = (a.answer digest q).2.records := by
  obtain ⟨rank, hrank, hjournal⟩ := ha
  obtain ⟨rank', hrank', hjournal'⟩ := hb
  cases hrank.symm.trans hrank'
  obtain ⟨hstatus, hevents, -⟩ := respond_on_alike hregistry hdb digest q.request
  unfold App.answer App.serve
  simp only [journalFor_eq, hjournal, hjournal', hevents]
  cases hanswer : (respond digest a q.request).answer with
  | error crash =>
    cases hanswer' : (respond digest b q.request).answer with
    | error crash' => rfl
    | ok response' =>
      rw [hanswer, hanswer'] at hstatus
      cases hstatus
  | ok response =>
    cases hanswer' : (respond digest b q.request).answer with
    | error crash' =>
      rw [hanswer, hanswer'] at hstatus
      cases hstatus
    | ok response' =>
      rw [hanswer, hanswer'] at hstatus
      have hsame : response'.status = response.status := Except.ok.inj hstatus
      simp only [hsame]

/-! ### Records in the context of a request -/

/-- The keys of the fields of events that are reported of a request. -/
def fieldKeys : List Text := ["status", "kind", "cause", "count"].map Text.ofString

/-- Whether a record has the id, the path and the method of a request that arrives, and no keys but these, its own, and
those of the fields of an event. -/
structure InContext (record : Record) (q : Arrival) : Prop where
  id : Members.get? (Text.ofString "request_id") record = some (.ofString (requestId q.fresh q.request))
  path : Members.get? (Text.ofString "path") record = some (.ofString q.request.urlPath)
  method : Members.get? (Text.ofString "method") record = some (.ofString q.request.method)
  keys : ∀ k ∈ record.keys, k ∈ contextKeys ∨ k ∈ fieldKeys ∨ k ∈ Journal.ownKeys

/-- An event whose fields have known keys is recorded in the context that is bound. -/
theorem inContext_recordOf {e : Event} (he : ∀ k ∈ e.fields.keys, k ∈ fieldKeys) (service : Text) (q : Arrival) :
    InContext (Journal.recordOf service (requestContext q.fresh q.request) e) q := by
  have hkeys : ∀ k ∈ contextKeys, k ∉ e.fields.keys := by
    have hall : ∀ k ∈ contextKeys, k ∉ fieldKeys := by decide
    exact fun k hk hfield => hall k hk (he k hfield)
  obtain ⟨hid, hpath, hmethod⟩ := context_recordOf hkeys service q.fresh q.request
  refine ⟨hid, hpath, hmethod, ?_⟩
  intro k hk
  rcases Journal.mem_keys_recordOf hk with hk | hk | hk
  · exact Or.inl hk
  · exact Or.inr (Or.inl (he k hk))
  · exact Or.inr (Or.inr hk)

/-- All records of a request are in its context. -/
theorem inContext_of_answer {q : Arrival} {record : Record} (h : record ∈ (a.answer digest q).2.records) :
    InContext record q := by
  have hreported : ∀ e, Reported e → ∀ k ∈ e.fields.keys, k ∈ fieldKeys := by
    have hall : ∀ keys ∈ [[], ["kind", "cause"].map Text.ofString, ["kind", "count"].map Text.ofString],
        ∀ k ∈ keys, k ∈ fieldKeys := by decide
    exact fun e he => hall _ he.keys
  -- a request reports events of the known kinds and perhaps its completion
  obtain ⟨events, hevents, hrecord⟩ : ∃ events : List Event, (∀ e ∈ events, ∀ k ∈ e.fields.keys, k ∈ fieldKeys) ∧
      record ∈ (a.journalFor (requestId q.fresh q.request) q.request.urlPath q.request.method).records events := by
    have husual := usual_respond digest a q.request
    unfold App.answer App.serve at h
    dsimp only at h
    split at h
    · rename_i response hanswer
      refine ⟨_, ?_, h⟩
      intro e he
      rcases List.mem_append.1 he with he | he
      · exact hreported e (husual.events e he)
      · rw [List.mem_singleton.1 he]
        show ∀ k ∈ [Text.ofString "status"], k ∈ fieldKeys
        decide
    · exact ⟨_, fun e he => hreported e (husual.events e he), h⟩
  obtain ⟨output, e, -, he, rfl⟩ := Journal.mem_records hrecord
  exact inContext_recordOf (hevents e he) output.service q

/-! ### Records outside requests -/

namespace Life

/-- What was reported in a life outside any request. -/
def Course.outside : Course → List Record
  | .badSettings _ => []
  | .notCreated _ records => records
  | .notStarted _ created started => created ++ started
  | .lived created started _ ended => created ++ started.getD [] ++ ended.toOption.getD []

/-- What the steps of a life showed. -/
def Course.seen : Course → List Seen
  | .lived _ _ seen _ => seen
  | _ => []

end Life

/-- Whether records have no keys of the context of a request. -/
def WithoutContext (records : List Record) : Prop := ∀ record ∈ records, ∀ k ∈ contextKeys, k ∉ record.keys

/-- With nothing bound, events whose fields have other keys are recorded without context. -/
theorem withoutContext_records {j : Journal} {es : List Event} (hj : j.context = [])
    (hes : ∀ e ∈ es, ∀ k ∈ contextKeys, k ∉ e.fields.keys) : WithoutContext (j.records es) := by
  intro record hrecord k hcontext hk
  obtain ⟨output, e, -, he, rfl⟩ := Journal.mem_records hrecord
  have hown : ∀ k ∈ contextKeys, k ∉ Journal.ownKeys := by decide
  rw [hj] at hk
  rcases Journal.mem_keys_recordOf hk with hk | hk | hk
  · cases hk
  · exact hes e he k hcontext hk
  · exact hown k hcontext hk

theorem withoutContext_append {records records' : List Record} (h : WithoutContext records)
    (h' : WithoutContext records') : WithoutContext (records ++ records') := by
  intro record hrecord
  rcases List.mem_append.1 hrecord with hrecord | hrecord
  · exact h record hrecord
  · exact h' record hrecord

theorem withoutContext_nil : WithoutContext [] := fun _ => nofun

theorem context_of_hasOwnJournal (h : a.HasOwnJournal settings) : a.journal.context = [] := by
  obtain ⟨rank, -, hjournal⟩ := h
  rw [hjournal]
  rfl

theorem withoutContext_create {salt : String} {pages : Pages} {result : Except CreateError App} {records : List Record}
    (h : App.create digest salt pages settings = (result, records)) : WithoutContext records := by
  have hcreation := App.creation_create digest salt pages settings
  rw [h] at hcreation
  cases hcreation with
  | misnamed => exact withoutContext_nil
  | foreign => exact withoutContext_nil
  | hashed => exact withoutContext_nil
  | unhashed => exact withoutContext_nil
  | disabled =>
    refine withoutContext_records rfl ?_
    intro e he
    rw [List.mem_singleton.1 he]
    show ∀ k ∈ contextKeys, k ∉ [Text.ofString "reason"]
    decide

theorem withoutContext_start (ha : a.HasOwnJournal settings) (disk : Disk) : WithoutContext (a.start disk).2 := by
  refine withoutContext_records (context_of_hasOwnJournal ha) ?_
  intro e he
  rw [List.mem_singleton.1 he]
  show ∀ k ∈ contextKeys, k ∉ [Text.ofString "env", Text.ofString "admin_enabled"]
  decide

theorem withoutContext_stop (ha : a.HasOwnJournal settings) : WithoutContext (a.stop.toOption.getD []) := by
  unfold App.stop
  split
  · refine withoutContext_records (context_of_hasOwnJournal ha) ?_
    intro e he
    rw [List.mem_singleton.1 he]
    exact fun _ _ => List.not_mem_nil
  · exact withoutContext_nil

/-! ### A life -/

/-- What a step of a life reports is in the context of the request that it sends, and is what that request would have
reported at the beginning of a life of these settings, with the same registry and an alike database. -/
structure StepInContext (digest : Bcrypt.Digest) (settings : Settings) (a : App) (s : Step) (records : List Record) :
    Prop where
  unsent : s.sent? = none → records = []
  sent : ∀ q, s.sent? = some q → (∀ record ∈ records, InContext record q) ∧
    ∀ first db, App.Begun digest settings first → a.db.Alike db →
      records = (({ first with registry := a.registry, db } : App).answer digest q).2.records

theorem stepInContext (ha : a.HasOwnJournal settings) (digest : Bcrypt.Digest) (s : Step) :
    StepInContext digest settings a s (a.step digest s).2.records := by
  constructor
  · intro hunsent
    exact (step_of_unsent digest a hunsent).2
  · intro q hsent
    rw [(step_of_sent digest a hsent).2]
    refine ⟨fun record => inContext_of_answer, ?_⟩
    intro first db hfirst hdb
    have hjournal : ({ first with registry := a.registry, db } : App).HasOwnJournal settings := hfirst.hasOwnJournal
    rw [records_on_alike ha hjournal rfl hdb]

/-- So it is for each step of a run from the beginning of a life. -/
theorem stepInContext_run (ha : a.Begun digest settings) (before : List Step) (s : Step) (after : List Step) :
    ∃ shown, (a.run digest (before ++ s :: after)).2[before.length]? = some shown ∧
      StepInContext digest settings (a.run digest before).1 s shown.records := by
  refine ⟨_, seen_run digest a before s after, stepInContext ?_ digest s⟩
  exact ((App.Running.begun ha).run before).hasOwnJournal

/-- In every life what is reported outside any request has no context.  What is reported in a step has the context of
the request that is sent in it and of no other, and is what would have been reported of this request, had it been the
first of a life with the same settings, registry and rows. -/
theorem context_of_run (digest : Bcrypt.Digest) (disk : Disk) (life : Life) :
    WithoutContext (life.run digest disk).2.outside ∧
      ∀ settings a, life.settings = .ok settings → life.serving? digest disk = some a →
        ∀ before s after, life.steps = before ++ s :: after →
          ∃ shown, (life.run digest disk).2.seen[before.length]? = some shown ∧
            StepInContext digest settings (a.run digest before).1 s shown.records := by
  have hfate := Life.fate_run digest disk life
  generalize life.run digest disk = result at hfate ⊢
  generalize life.serving? digest disk = serving at hfate ⊢
  cases hfate with
  | badSettings => exact ⟨withoutContext_nil, fun _ _ _ => nofun⟩
  | notCreated hsettings hcreate => exact ⟨withoutContext_create hcreate, fun _ _ _ => nofun⟩
  | @notStarted settings a _ _ _ started hsettings hcreate hstart =>
    have hstarted : (a.start disk).2 = started := congrArg Prod.snd hstart
    refine ⟨withoutContext_append (withoutContext_create hcreate) ?_, fun _ _ _ => nofun⟩
    rw [← hstarted]
    exact withoutContext_start (App.hasOwnJournal_create hcreate) disk
  | @started settings a b _ _ started hsettings hcreate hstart =>
    have hbegun : b.Begun digest settings := .started hcreate hstart
    have hstarted : (a.start disk).2 = started := congrArg Prod.snd hstart
    constructor
    · refine withoutContext_append (withoutContext_append (withoutContext_create hcreate) ?_) ?_
      · show WithoutContext started
        rw [← hstarted]
        exact withoutContext_start (App.hasOwnJournal_create hcreate) disk
      · exact withoutContext_stop ((App.Running.begun hbegun).run life.steps).hasOwnJournal
    · rintro settings' _ hsettings' ⟨⟩ before s after hsteps
      cases hsettings.symm.trans hsettings'
      show ∃ shown, (b.run digest life.steps).2[before.length]? = some shown ∧ _
      rw [hsteps]
      exact stepInContext_run hbegun before s after
  | @unstarted settings a _ hsettings hcreate =>
    constructor
    · refine withoutContext_append (withoutContext_append (withoutContext_create hcreate) ?_) ?_
      · exact withoutContext_nil
      · exact withoutContext_nil
    · rintro settings' _ hsettings' ⟨⟩ before s after hsteps
      cases hsettings.symm.trans hsettings'
      show ∃ shown, (a.run digest life.steps).2[before.length]? = some shown ∧ _
      rw [hsteps]
      exact stepInContext_run (.created hcreate) before s after

/-- A request after one that a crash has ended is reported in its own context. -/
theorem context_of_run_after_crash :
    let ask (id path : String) : Arrival :=
      { fresh := "1"
        request := { method := "GET", path, server := "test", headers := [(Utf8.encode idHeader, Utf8.encode id)] } }
    let life : Life :=
      { settings := .ok { env := .prod, databaseUrl := "sqlite+aiosqlite:////nowhere/relay.db" }, salt := ""
        steps := [(ask "req-1" "/readyz").step, (ask "req-2" "/healthz").step] }
    ∃ a shown, life.serving? Bcrypt.digest {} = some a ∧
      (a.answer Bcrypt.digest (ask "req-1" "/readyz")).2.response = lastResort ∧
      (life.run Bcrypt.digest {}).2.seen[1]? = some shown ∧ shown.records ≠ [] ∧
      ∀ record ∈ shown.records, InContext record (ask "req-2" "/healthz") := by
  intro ask life
  let settings : Settings := { env := .prod, databaseUrl := "sqlite+aiosqlite:////nowhere/relay.db" }
  let created : App := { settings, journal := App.journalOf settings 20 }
  let a : App := created.withDatabase { location := .nowhere .unreachable }
  have hlocation : Location.ofUrl settings.databaseUrl = .ok (.file (.ofString "/nowhere/relay.db")) := by
    decide +kernel
  have hopen : created.openDatabase {} = ({}, .ok (Disk.openAt {} (.file (.ofString "/nowhere/relay.db")))) :=
    App.openDatabase_of_prod (a := created) hlocation rfl {}
  have hstart : created.start {} = (({}, .ok a), created.journal.records [created.startEvent]) :=
    App.start_of_openDatabase hopen
  have hserving : life.serving? Bcrypt.digest {} = some a := by
    have hlevel : Journal.levelRank "INFO" = .ok 20 := by decide
    have hcreate : App.create Bcrypt.digest life.salt life.pages settings = (.ok created, _) :=
      App.create_of_none hlevel rfl
    exact Life.serving?_of_start rfl hcreate rfl hstart
  obtain ⟨shown, hshown, hcontext⟩ :=
    (context_of_run Bcrypt.digest {} life).2 settings a rfl hserving [(ask "req-1" "/readyz").step] _ [] rfl
  have hseen : (life.run Bcrypt.digest {}).2.seen[1]? = some shown := hshown
  have hwritten : ((life.run Bcrypt.digest {}).2.seen[1]?).any (!·.records.isEmpty) = true := by decide +kernel
  rw [hseen, Option.any_some, Bool.not_eq_true', List.isEmpty_eq_false_iff] at hwritten
  exact ⟨a, shown, hserving, rfl, hseen, hwritten, (hcontext.sent _ rfl).1⟩

end DomainPolicy.Server
