import DomainPolicy.Proofs.Server.Outcome
import DomainPolicy.Proofs.Server.Startup

/-!
# What a process goes through

A life fails at its settings, at the creation of its app or at its start, or it serves with an app (`Fate`).  The app is
then `Running`: it was created from settings, perhaps started, and has gone through steps.  A step sends one request,
which is served (`step_of_sent`), or it only puts something where the app keeps what requests use (`step_of_unsent`).
Whatever the steps were, the journal is the one that the settings ask for, and nothing is bound to it
(`Running.hasOwnJournal`), and the database has what connections and sessions keep (`run_of_moves`).
-/

namespace DomainPolicy.Server

variable {digest : Bcrypt.Digest} {settings : Settings} {a : App}

/-! ### Steps -/

/-- The request that a step sends, if it sends one. -/
def Step.sent? : Step → Option Arrival
  | .request fresh r => some ⟨fresh, r⟩
  | .call fresh t c =>
    match Client.make t with
    | .error _ => none
    | .ok client => (client.request App.ownName c).toOption.map (Arrival.mk fresh)
  | .keepCredential _ | .keepDb _ | .keepPool _ => none

/-- What was reported in a step. -/
def Seen.records : Seen → List Record
  | .exchange e => e.records
  | .called _ records => records
  | .kept => []

/-- Serves a request that arrives. -/
def App.answer (digest : Bcrypt.Digest) (a : App) (q : Arrival) : App × Exchange := a.serve digest q.fresh q.request

/-- A step that sends a request serves it. -/
theorem step_of_sent (digest : Bcrypt.Digest) (a : App) {s : Step} {q : Arrival} (h : s.sent? = some q) :
    (a.step digest s).1 = (a.answer digest q).1 ∧ (a.step digest s).2.records = (a.answer digest q).2.records := by
  cases s with
  | request fresh r =>
    cases h
    exact ⟨rfl, rfl⟩
  | call fresh t c =>
    unfold Step.sent? at h
    cases hclient : Client.make t with
    | error e => simp [hclient] at h
    | ok client =>
      cases hr : client.request App.ownName c with
      | error f => simp [hclient, hr, Except.toOption] at h
      | ok r =>
        have hq : ⟨fresh, r⟩ = q := by simpa [hclient, hr, Except.toOption] using h
        subst hq
        simp only [App.step, call_eq hclient hr]
        exact ⟨rfl, rfl⟩
  | keepCredential s => cases h
  | keepDb s => cases h
  | keepPool s => cases h

/-- Any other step changes the registry at most, and nothing is reported. -/
theorem step_of_unsent (digest : Bcrypt.Digest) (a : App) {s : Step} (h : s.sent? = none) :
    (∃ registry, (a.step digest s).1 = { a with registry }) ∧ (a.step digest s).2.records = [] := by
  cases s with
  | request fresh r => cases h
  | call fresh t c =>
    unfold Step.sent? at h
    cases hclient : Client.make t with
    | error e =>
      simp only [App.step, call_of_unmade hclient]
      exact ⟨⟨a.registry, rfl⟩, rfl⟩
    | ok client =>
      cases hr : client.request App.ownName c with
      | error f =>
        simp only [App.step, call_of_unsent hclient hr]
        exact ⟨⟨a.registry, rfl⟩, rfl⟩
      | ok r => simp [hclient, hr, Except.toOption] at h
  | keepCredential s => exact ⟨⟨_, rfl⟩, rfl⟩
  | keepDb s => exact ⟨⟨_, rfl⟩, rfl⟩
  | keepPool s => exact ⟨⟨_, rfl⟩, rfl⟩

/-- What survives connections and sessions survives a step. -/
theorem step_of_moves {P : Database → Prop} (hP : ∀ {db db'}, P db → db.Moves db' → P db') (h : P a.db)
    (digest : Bcrypt.Digest) (s : Step) : P (a.step digest s).1.db := by
  cases hsent : s.sent? with
  | some q =>
    rw [(step_of_sent digest a hsent).1]
    exact hP h (usual_respond digest a q.request).moves
  | none =>
    obtain ⟨registry, hstep⟩ := (step_of_unsent digest a hsent).1
    rw [hstep]
    exact h

/-- What survives connections and sessions survives a run. -/
theorem run_of_moves {P : Database → Prop} (hP : ∀ {db db'}, P db → db.Moves db' → P db') (h : P a.db)
    (digest : Bcrypt.Digest) (steps : List Step) : P (a.run digest steps).1.db := by
  induction steps generalizing a with
  | nil => exact h
  | cons s steps ih => exact ih (step_of_moves hP h digest s)

/-! ### Starts -/

namespace App

/-- An app whose database is opened is started with it. -/
theorem start_of_openDatabase {disk disk' : Disk} {db : Database} (h : a.openDatabase disk = (disk', .ok db)) :
    a.start disk = ((disk', .ok (a.withDatabase db)), a.journal.records [a.startEvent]) := by
  unfold start
  rw [h]
  rfl

/-- An app that was started has some database. -/
theorem exists_withDatabase_of_start {b : App} {disk disk' : Disk} {records : List Record}
    (h : a.start disk = ((disk', .ok b), records)) : ∃ db, b = a.withDatabase db := by
  unfold start at h
  cases hopen : a.openDatabase disk with
  | mk opened result =>
    rw [hopen] at h
    cases result with
    | error e => cases h
    | ok db =>
      cases h
      exact ⟨db, rfl⟩

/-- Only the settings count. -/
theorem openDatabase_congr {b : App} (h : a.settings = b.settings) (disk : Disk) :
    a.openDatabase disk = b.openDatabase disk := by
  unfold openDatabase
  rw [h]

theorem openDatabase_of_prod {location : Location} (hlocation : Location.ofUrl a.settings.databaseUrl = .ok location)
    (hprod : a.settings.env = .prod) (disk : Disk) : a.openDatabase disk = (disk, .ok (disk.openAt location)) := by
  unfold openDatabase
  rw [hlocation]
  exact if_pos hprod

theorem openDatabase_of_init {disk : Disk} {location : Location} {db : Database}
    (hlocation : Location.ofUrl a.settings.databaseUrl = .ok location) (henv : a.settings.env ≠ .prod)
    (hinit : (disk.openAt location).init = .ok db) : a.openDatabase disk = (disk, .ok db) := by
  unfold openDatabase
  rw [hlocation]
  dsimp only
  rw [if_neg henv, hinit]

/-! ### Running apps -/

/-- The apps with which a life of some settings can begin: such an app was created, and perhaps started. -/
inductive Begun (digest : Bcrypt.Digest) (settings : Settings) : App → Prop
  | created {salt : String} {pages : Pages} {a : App} {records : List Record}
      (h : App.create digest salt pages settings = (.ok a, records)) : Begun digest settings a
  | started {salt : String} {pages : Pages} {a b : App} {disk disk' : Disk} {created records : List Record}
      (h : App.create digest salt pages settings = (.ok a, created))
      (hstart : a.start disk = ((disk', .ok b), records)) :
      Begun digest settings b

/-- The apps that steps lead to in a life of some settings. -/
inductive Running (digest : Bcrypt.Digest) (settings : Settings) : App → Prop
  | begun {a : App} (h : Begun digest settings a) : Running digest settings a
  | stepped {a : App} (h : Running digest settings a) (s : Step) : Running digest settings (a.step digest s).1

/-- A journal that is set up as settings ask, and nothing is bound to it. -/
def HasOwnJournal (settings : Settings) (a : App) : Prop :=
  ∃ rank, Journal.levelRank settings.logLevel = .ok rank ∧ a.journal = journalOf settings rank

theorem hasOwnJournal_create {salt : String} {pages : Pages} {records : List Record}
    (h : App.create digest salt pages settings = (.ok a, records)) : a.HasOwnJournal settings := by
  have hcreation := creation_create digest salt pages settings
  rw [h] at hcreation
  cases hcreation with
  | disabled rank hlevel => exact ⟨rank, hlevel, rfl⟩
  | hashed rank secret c hlevel => exact ⟨rank, hlevel, rfl⟩

theorem journal_start {b : App} {disk disk' : Disk} {records : List Record}
    (h : a.start disk = ((disk', .ok b), records)) : b.journal = a.journal := by
  obtain ⟨db, rfl⟩ := exists_withDatabase_of_start h
  rfl

theorem Begun.hasOwnJournal (h : Begun digest settings a) : a.HasOwnJournal settings := by
  cases h with
  | created h => exact hasOwnJournal_create h
  | started h hstart =>
    obtain ⟨rank, hlevel, hjournal⟩ := hasOwnJournal_create h
    exact ⟨rank, hlevel, (journal_start hstart).trans hjournal⟩

/-- A step leaves the journal as it is when nothing is bound. -/
theorem HasOwnJournal.step (h : a.HasOwnJournal settings) (digest : Bcrypt.Digest) (s : Step) :
    (a.step digest s).1.HasOwnJournal settings := by
  obtain ⟨rank, hlevel, hjournal⟩ := h
  refine ⟨rank, hlevel, ?_⟩
  cases hsent : s.sent? with
  | some q =>
    rw [(step_of_sent digest a hsent).1]
    show a.journal.clear = _
    rw [hjournal]
    rfl
  | none =>
    obtain ⟨registry, hstep⟩ := (step_of_unsent digest a hsent).1
    rw [hstep]
    exact hjournal

theorem Running.hasOwnJournal (h : Running digest settings a) : a.HasOwnJournal settings := by
  induction h with
  | begun h => exact h.hasOwnJournal
  | stepped _ s ih => exact ih.step digest s

theorem Running.run (h : Running digest settings a) (steps : List Step) :
    Running digest settings (a.run digest steps).1 := by
  induction steps generalizing a with
  | nil => exact h
  | cons s steps ih => exact ih (h.stepped s)

end App

/-! ### Lives -/

namespace Life

/-- The app with which a life serves, if it gets as far. -/
def serving? (digest : Bcrypt.Digest) (disk : Disk) (life : Life) : Option App :=
  match life.settings with
  | .error _ => none
  | .ok settings =>
    match (App.create digest life.salt life.pages settings).1 with
    | .error _ => none
    | .ok a => if life.isStarted then (a.start disk).1.2.toOption else some a

theorem serving?_of_start {life : Life} {a b : App} {disk disk' : Disk} {created started : List Record}
    (hsettings : life.settings = .ok settings)
    (hcreate : App.create digest life.salt life.pages settings = (.ok a, created))
    (hisStarted : life.isStarted = true) (hstart : a.start disk = ((disk', .ok b), started)) :
    life.serving? digest disk = some b := by
  unfold serving?
  simp only [hsettings, hcreate, hisStarted, if_true, hstart]
  rfl

/-- What can become of a life: the app with which it serves, and what it leaves behind and shows. -/
inductive Fate (digest : Bcrypt.Digest) (disk : Disk) (life : Life) : Option App → Disk × Course → Prop
  | badSettings {e : Settings.ReadError} (hsettings : life.settings = .error e) :
      Fate digest disk life none (disk, .badSettings e)
  | notCreated {settings : Settings} {e : CreateError} {records : List Record}
      (hsettings : life.settings = .ok settings)
      (hcreate : App.create digest life.salt life.pages settings = (.error e, records)) :
      Fate digest disk life none (disk, .notCreated e records)
  | notStarted {settings : Settings} {a : App} {disk' : Disk} {e : StartError} {created started : List Record}
      (hsettings : life.settings = .ok settings)
      (hcreate : App.create digest life.salt life.pages settings = (.ok a, created))
      (hstart : a.start disk = ((disk', .error e), started)) :
      Fate digest disk life none (disk', .notStarted e created started)
  | started {settings : Settings} {a b : App} {disk' : Disk} {created started : List Record}
      (hsettings : life.settings = .ok settings)
      (hcreate : App.create digest life.salt life.pages settings = (.ok a, created))
      (hstart : a.start disk = ((disk', .ok b), started)) :
      Fate digest disk life (some b) (disk'.save (b.run digest life.steps).1.db,
        .lived created (some started) (b.run digest life.steps).2 (b.run digest life.steps).1.stop)
  | unstarted {settings : Settings} {a : App} {created : List Record}
      (hsettings : life.settings = .ok settings)
      (hcreate : App.create digest life.salt life.pages settings = (.ok a, created))
      (hskipped : life.isStarted = false) :
      Fate digest disk life (some a) (disk, .lived created none (a.run digest life.steps).2 (.ok []))

theorem fate_run (digest : Bcrypt.Digest) (disk : Disk) (life : Life) :
    Fate digest disk life (life.serving? digest disk) (life.run digest disk) := by
  unfold serving? run
  cases hsettings : life.settings with
  | error e => exact .badSettings hsettings
  | ok settings =>
    dsimp only
    cases hcreate : App.create digest life.salt life.pages settings with
    | mk result created =>
      cases result with
      | error e => exact .notCreated hsettings hcreate
      | ok a =>
        dsimp only
        cases hisStarted : life.isStarted with
        | false => exact .unstarted hsettings hcreate hisStarted
        | true =>
          simp only [if_true]
          cases hstart : a.start disk with
          | mk left started =>
            obtain ⟨disk', result⟩ := left
            cases result with
            | error e => exact .notStarted hsettings hcreate hstart
            | ok b => exact .started hsettings hcreate hstart

end Life

end DomainPolicy.Server
