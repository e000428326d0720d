import DomainPolicy.Proofs.Json.ReadBack
import DomainPolicy.Proofs.Server.Posts

/-!
# Bodies that are accepted

An edit that the guard grants on a database that has its table is answered `200` exactly when its body submits domains
and the database can take them (`status_eq_iff`), and then one call is run, with the domains as they were submitted
(`respond_of_submits`), whatever else is in the body.  Nothing else of the request counts: not its other headers, its
query or how its body was cut (`respond_congr`).  Of a key that is repeated in a body, the last value counts
(`submits_compact_iff`).
-/

namespace DomainPolicy.Server

open Http (Request Response)
open Json (Value Members)

/-! ### What is submitted -/

namespace Command.Submits

variable {body : Bytes} {domains domains' : List String}

/-- A body submits one list of domains at most. -/
theorem unique (h : Submits body domains) (h' : Submits body domains') : domains' = domains := by
  have hread := (read_of_submits h).symm.trans (read_of_submits h')
  exact (List.map_injective_iff.2 Text.ofString_injective (Except.ok.inj hread)).symm

end Command.Submits

/-- Of the members that an object is written with, the last one called `domains` is what it submits, whatever the others
are. -/
theorem submits_compact_iff {ms : Members} {depth : Nat} {domains : List String} (hne : ms ≠ [])
    (hms : ∀ m ∈ ms, m.2.ReadsBack depth) (hdepth : depth < Json.maxDepth) (hwhole : (Value.object ms).write.Whole) :
    Command.Submits (Utf8.encode (Value.object ms).compact) domains ↔
      1 ≤ domains.length ∧ domains.length ≤ 1000 ∧
        Members.get? (Text.ofString "domains") ms.reverse = some (.array (domains.map Value.ofString)) := by
  obtain ⟨⟨k, v⟩, rest, rfl⟩ := List.exists_cons_of_ne_nil hne
  have hread : Json.readBytes (Utf8.encode (Value.object ((k, v) :: rest)).compact) =
      .ok (.object (Members.setAll [] ((k, v) :: rest))) :=
    Value.readBytes_compact ((Value.readsAs_object hms).mono hdepth) hwhole
  rw [Command.Submits, hread, ← Members.get?_setAll]
  simp

/-! ### What the edit does -/

variable {digest : Bcrypt.Digest} {a : App} {r r' : Request} {t : Table} {db : Database} {effect : Effect}
  {kind : RuleKind} {domains : List String}

/-- What becomes of a granted edit: its call is run, once, in a session of its own, and the number of its domains is
reported. -/
def edited (a : App) (effect : Effect) (kind : RuleKind) (domains : List String) : Handled :=
  let h := runCall a.db (effect.call kind (domains.map Text.ofString)) [editedEvent effect kind domains.length]
  { h with events := Guard.grantedEvent :: h.events }

theorem respond_of_edit (hg : Granted digest a r) (hfind : Route.find r.method r.path = .action (.edit effect kind)) :
    respond digest a r =
      { editAsAsked a.db effect kind r.body with
        events := Guard.grantedEvent :: (editAsAsked a.db effect kind r.body).events } := by
  obtain ⟨admin, hadmin⟩ := hg
  rw [respond_action hfind]
  exact guarded_granted hadmin

/-- Two requests to edit one list with one body are handled alike. -/
theorem respond_congr (hg : Granted digest a r) (hfind : Route.find r.method r.path = .action (.edit effect kind))
    (hg' : Granted digest a r') (hfind' : Route.find r'.method r'.path = .action (.edit effect kind))
    (hbody : r'.body = r.body) : respond digest a r' = respond digest a r := by
  rw [respond_of_edit hg hfind, respond_of_edit hg' hfind', hbody]

/-- A body that submits domains is handled by the call with just these, however often each is there. -/
theorem respond_of_submits (hg : Granted digest a r)
    (hfind : Route.find r.method r.path = .action (.edit effect kind)) (h : Command.Submits r.body domains) :
    respond digest a r = edited a effect kind domains := by
  rw [respond_of_edit hg hfind, editAsAsked_of_submits h, edit, List.length_map, edited]

/-! ### What is accepted -/

/-- Whether a body submits these domains, and a database can take them: it can be written, or they name nothing. -/
structure Accepted (db : Database) (body : Bytes) (domains : List String) : Prop where
  submits : Command.Submits body domains
  taken : db.isWritable = true ∨ Domain.wanted (domains.map Text.ofString) = []

/-- An edit is answered `200` if and only if its body is accepted. -/
theorem status_eq_iff (hdb : a.db.Holds t) (hg : Granted digest a r)
    (hfind : Route.find r.method r.path = .action (.edit effect kind)) (fresh : String) :
    (a.serve digest fresh r).2.response.status = 200 ↔ ∃ domains, Accepted a.db r.body domains := by
  constructor
  · intro hstatus
    obtain ⟨response, hanswer, h200⟩ := answer_of_status (q := ⟨fresh, r⟩) hstatus
    rw [respond_of_edit hg hfind] at hanswer
    obtain ⟨domains, hsubmits, hcarry⟩ := submits_of_answer hanswer h200
    -- what could be carried out could be written, or would write nothing
    refine ⟨domains, hsubmits, refuses_eq_false_iff.1 (?_ : a.db.refuses (effect.call kind _) = false)⟩
    rw [← Bool.not_eq_true]
    intro hrefuses
    cases (Database.refusal?_of_refuses (Command.plain_of_submits hsubmits effect kind) hrefuses .onConflict).symm.trans
      (hcarry.accepted _ (List.mem_singleton_self _))
  · rintro ⟨domains, hsubmits, htaken⟩
    have hdone := respond_done (c := .edit effect kind domains) hdb hg ⟨hfind, hsubmits⟩
      (refuses_eq_false_iff.2 htaken)
    rw [response_serve hdone.1]
    rfl

/-- Of a request to edit that the guard grants, on a database that has its table: it is answered `200` if and only if
its body is an object whose last `domains` are an array of 1 to 1000 strings, and the database can be written or these
name nothing.  Then the call with just this array is run, once.  Where it cannot be written, domains that name
something are answered `500` and change no row.  What else the body or the request holds does not matter. -/
theorem acceptance_of_edit (hdb : a.db.Holds t) (hg : Granted digest a r)
    (hfind : Route.find r.method r.path = .action (.edit effect kind)) :
    (∀ fresh, (a.serve digest fresh r).2.response.status = 200 ↔ ∃! domains, Accepted a.db r.body domains) ∧
      (∀ domains, Accepted a.db r.body domains → respond digest a r = edited a effect kind domains) ∧
      (∀ domains, Command.Submits r.body domains → ¬Accepted a.db r.body domains → ∀ fresh,
        (a.serve digest fresh r).2.response.status = 500 ∧ (a.serve digest fresh r).1.db.table = a.db.table) ∧
      (∀ r', Granted digest a r' → Route.find r'.method r'.path = .action (.edit effect kind) →
        (r'.body = r.body ∨ ∃ domains, Command.Submits r.body domains ∧ Command.Submits r'.body domains) →
        respond digest a r' = respond digest a r) ∧
      ∀ ms depth, ms ≠ [] → (∀ m ∈ ms, m.2.ReadsBack depth) → depth < Json.maxDepth →
        (Value.object ms).write.Whole → r.body = Utf8.encode (Value.object ms).compact →
        ∀ domains, Command.Submits r.body domains ↔ 1 ≤ domains.length ∧ domains.length ≤ 1000 ∧
          Members.get? (Text.ofString "domains") ms.reverse = some (.array (domains.map Value.ofString)) := by
  refine ⟨fun fresh => (status_eq_iff hdb hg hfind fresh).trans ⟨?_, ExistsUnique.exists⟩,
    fun domains h => respond_of_submits hg hfind h.submits, ?_, ?_, ?_⟩
  · rintro ⟨domains, h⟩
    exact ⟨domains, h, fun domains' h' => h.submits.unique h'.submits⟩
  · intro domains hsubmits hnot fresh
    have hrefuses : a.db.refuses (effect.call kind (domains.map Text.ofString)) = true := by
      rw [← Bool.not_eq_false, refuses_eq_false_iff]
      exact fun htaken => hnot ⟨hsubmits, htaken⟩
    obtain ⟨hanswer, hafter⟩ :=
      respond_refused (c := .edit effect kind domains) hdb hg ⟨hfind, hsubmits⟩ hrefuses
    rw [response_serve_of_crash hanswer, db_serve, hafter]
    exact ⟨rfl, rfl⟩
  · rintro r' hg' hfind' (hbody | ⟨domains, h, h'⟩)
    · exact respond_congr hg hfind hg' hfind' hbody
    · rw [respond_of_submits hg hfind h, respond_of_submits hg' hfind' h']
  · rintro ms depth hne hms hdepth hwhole hbody domains
    rw [hbody]
    exact submits_compact_iff hne hms hdepth hwhole

/-- Of two members `domains` the second one counts, and it is what is asked of the store, as it stands. -/
theorem acceptance_of_edit_repeated :
    ∃ c, Credential.build Bcrypt.digest "s3cr3t" 4 "abcdefghijklmnopqrstuu" = .ok c ∧
      let a := App.guardedBy c { table := some [] }
      let r := presenting "s3cr3t" "POST" "/api/v1/admin/block"
        "\x7b\"domains\": [], \"of\": null, \"domains\": [\"B.de\", \"a\", \"b.de.\"]\x7d"
      a.db.Holds [] ∧ Granted Bcrypt.digest a r ∧ (a.serve Bcrypt.digest "1" r).2.response.status = 200 ∧
        respond Bcrypt.digest a r = edited a .add .blocked ["B.de", "a", "b.de."] := by
  have hsize : Utf8.size "s3cr3t" ≤ maxSecretBytes := by decide
  obtain ⟨c, hc⟩ := Credential.exists_build Bcrypt.digest hsize
  have hdb : (App.guardedBy c { table := some [] }).db.Holds [] := ⟨fun _ => nofun, rfl, rfl, List.Pairwise.nil⟩
  refine ⟨c, hc, ?_⟩
  intro a r
  have hg : Granted Bcrypt.digest a r := granted_of_secret hc rfl _
  have haccepted : Accepted a.db r.body ["B.de", "a", "b.de."] :=
    ⟨Command.submits_of_read rfl rfl (by decide), Or.inl rfl⟩
  have hfind : Route.find r.method r.path = .action (.edit .add .blocked) := rfl
  obtain ⟨hstatus, hruns, -⟩ := acceptance_of_edit hdb hg hfind
  exact ⟨hdb, hg, (hstatus "1").2 ⟨_, haccepted, fun _ h => haccepted.submits.unique h.submits⟩, hruns _ haccepted⟩

/-- A body that submits a domain is not answered `200` where the store is initialised and cannot be written. -/
theorem unwritable_body :
    ∃ c db, Credential.build Bcrypt.digest "s3cr3t" 4 "abcdefghijklmnopqrstuu" = .ok c ∧
      Database.init { isWritable := false, table := some [] } = .ok db ∧
      let r := presenting "s3cr3t" "POST" "/api/v1/admin/block" "\x7b\"domains\":[\"b.example\"]\x7d"
      Granted Bcrypt.digest (.guardedBy c db) r ∧ Command.Submits r.body ["b.example"] ∧
        ((App.guardedBy c db).serve Bcrypt.digest "1" r).2.response.status = 500 := by
  have hsize : Utf8.size "s3cr3t" ≤ maxSecretBytes := by decide
  obtain ⟨c, hc⟩ := Credential.exists_build Bcrypt.digest hsize
  have hinit : Database.init { isWritable := false, table := some [] } =
      .ok { isWritable := false, table := some [], isConnected := true } := rfl
  refine ⟨c, _, hc, hinit, ?_⟩
  intro r
  have hg : Granted Bcrypt.digest (.guardedBy c { isWritable := false, table := some [], isConnected := true }) r :=
    granted_of_secret hc rfl _
  have hsubmits : Command.Submits r.body ["b.example"] := Command.submits_of_read rfl rfl (by decide)
  have hrefuses : Database.refuses { isWritable := false, table := some [], isConnected := true }
      (Effect.call .add .blocked ["b.example"]) = true := by
    rw [Database.refuses, Effect.writes_call]
    decide +kernel
  have hdb := Database.holds_of_init hinit List.Pairwise.nil
  have hanswer := (respond_refused (c := .edit .add .blocked ["b.example"]) hdb hg ⟨rfl, hsubmits⟩ hrefuses).1
  refine ⟨hg, hsubmits, ?_⟩
  rw [response_serve_of_crash hanswer]
  rfl

end DomainPolicy.Server
