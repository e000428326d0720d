import DomainPolicy.Proofs.Store.Atomicity
import DomainPolicy.Proofs.Store.Entry
import DomainPolicy.Store.Disk

/-!
# What a store can hold

A store at a location goes through `Deed`s: it is initialised, asked for an answer, disposed of, worked on in sessions
and opened again by a new process.  Whatever its history, its rows have ascending numbers from one on and kept
spellings, and no two share domain and kind.  Each row goes back to an addition in a session that was committed, unless
a savepoint has left it behind in a session that was aborted, or left by a call that was refused (`rows_of_deeds`).
-/

namespace DomainPolicy

open Domain (Kept named normalize)
open Database (Ending)

/-! ### Numbers -/

namespace Table

/-- Rows with ascending numbers, the first at least one. -/
structure Numbered (t : Table) : Prop where
  positive : ∀ r ∈ t, 0 < r.id
  ascends : t.Pairwise fun r s => r.id < s.id

theorem numbered_nil : Numbered [] := ⟨fun _ => nofun, List.Pairwise.nil⟩

theorem lt_nextId {t : Table} {r : Row} (h : r ∈ t) : r.id < t.nextId := by
  have hle : ∀ (ns : List Nat) (m : Nat), m ≤ ns.foldl max m ∧ ∀ n ∈ ns, n ≤ ns.foldl max m := by
    intro ns
    induction ns with
    | nil => exact fun m => ⟨Nat.le_refl m, fun _ => nofun⟩
    | cons n ns ih =>
      intro m
      obtain ⟨hfirst, hrest⟩ := ih (max m n)
      refine ⟨Nat.le_trans (Nat.le_max_left m n) hfirst, List.forall_mem_cons.2 ⟨?_, hrest⟩⟩
      exact Nat.le_trans (Nat.le_max_right m n) hfirst
  exact Nat.lt_succ_of_le ((hle _ 0).2 _ (List.mem_map_of_mem h))

namespace Numbered

variable {t : Table}

theorem insert (h : t.Numbered) (kind : RuleKind) (d : String) : (t.insert kind d).Numbered := by
  unfold Table.insert
  split
  · exact h
  · constructor
    · intro r hr
      rcases List.mem_append.1 hr with hr | hr
      · exact h.positive r hr
      · rw [List.mem_singleton.1 hr]
        exact Nat.succ_pos _
    · refine List.pairwise_append.2 ⟨h.ascends, List.pairwise_singleton _ _, ?_⟩
      intro r hr s hs
      rw [List.mem_singleton.1 hs]
      exact lt_nextId hr

theorem remove (h : t.Numbered) (kind : RuleKind) (ds : List Text) : (t.remove kind ds).Numbered :=
  ⟨fun r hr => h.positive r (List.mem_of_mem_filter hr), h.ascends.filter _⟩

end Numbered

end Table

/-! ### What a table holds -/

/-- Whether one of some calls adds the domain of a row to its list. -/
def Row.NamedBy (r : Row) (calls : List Call) : Prop := ∃ c ∈ calls, c.Adds r.kind r.domain

namespace Table

/-- Sound rows with ascending numbers, each of which `origin` accounts for. -/
structure Proper (origin : Row → Prop) (t : Table) : Prop where
  sound : t.Sound
  numbered : t.Numbered
  explained : ∀ r ∈ t, origin r

theorem proper_nil (origin : Row → Prop) : Proper origin [] := ⟨sound_nil, numbered_nil, fun _ => nofun⟩

namespace Proper

variable {origin : Row → Prop} {t : Table}

theorem mono {origin' : Row → Prop} (h : t.Proper origin) (himp : ∀ r, origin r → origin' r) : t.Proper origin' :=
  ⟨h.sound, h.numbered, fun r hr => himp r (h.explained r hr)⟩

theorem insert (h : t.Proper origin) {kind : RuleKind} {d : String} (hd : Kept d ∧ d ≠ "")
    (horigin : ∀ id, origin ⟨id, d, kind⟩) : (t.insert kind d).Proper origin := by
  refine ⟨h.sound.insert kind hd, h.numbered.insert kind d, ?_⟩
  intro r hr
  unfold Table.insert at hr
  split at hr
  · exact h.explained r hr
  · rcases List.mem_append.1 hr with hr | hr
    · exact h.explained r hr
    · rw [List.mem_singleton.1 hr]
      exact horigin _

theorem remove (h : t.Proper origin) (kind : RuleKind) (ds : List Text) : (t.remove kind ds).Proper origin :=
  ⟨h.sound.remove kind ds, h.numbered.remove kind ds, fun r hr => h.explained r (mem_remove.1 hr).1⟩

/-- Calls keep a table proper if what they name is accounted for. -/
theorem keep {calls : List Call} (horigin : ∀ r : Row, r.NamedBy calls → origin r) :
    Call.Keep (Proper origin) calls where
  insert := by
    intro kind ds hcall d hd t ht
    exact ht.insert (Domain.kept_of_mem_named hd) fun id => horigin _ ⟨_, hcall, Call.adds_add_iff.2 ⟨rfl, hd⟩⟩
  remove _ t ht := ht.remove _ _

end Proper

end Table

/-! ### What a session leaves behind -/

namespace Database

variable {db : Database} {how : Insertion} {ending : Ending} {calls : List Call}

/-- Whether a session commits what its calls do. -/
def Commits (db : Database) (how : Insertion) (ending : Ending) (calls : List Call) : Prop :=
  ending = .clean ∧ ∃ replies, (db.session how ending calls).2 = .ok replies

/-- Whether a session is aborted, or left by an error, after a savepoint has committed a row. -/
def Leaks (db : Database) (how : Insertion) (ending : Ending) (calls : List Call) : Prop :=
  how = .savepoint ∧ (ending = .abort ∨ ∃ f, (db.session how ending calls).2 = .error f) ∧
    ∃ t, db.Offers t ∧ db.isWritable = true ∧ t.StartsWithNewRow calls

/-- A session on the table that neither commits nor leaks leaves the rows as they were. -/
theorem left_of_not_went {t : Table} (ht : db.Offers t)
    (h : ¬(db.Commits how ending calls ∨ db.Leaks how ending calls)) :
    (Session.start db.toLimits t).left how ending calls = t := by
  rw [not_or] at h
  have hunfinished : ¬(ending = .clean ∧ Call.Accepted how db.toLimits calls) := by
    rintro ⟨hclean, haccepted⟩
    exact h.1 ⟨hclean, (session_eq_ok_iff db how ending calls).2 (Or.inr ⟨⟨t, ht⟩, haccepted⟩)⟩
  cases how with
  | onConflict => exact Session.left_onConflict hunfinished
  | savepoint =>
    rw [Session.left_rollback (s := Session.start db.toLimits t) hunfinished]
    refine (Session.saved_run_savepoint_iff (s := Session.start db.toLimits t) (fun _ => rfl) rfl calls).2 ?_
    rintro ⟨hwritable, hstarts⟩
    refine h.2 ⟨rfl, ?_, t, ht, hwritable, hstarts⟩
    cases ending with
    | abort => exact Or.inl rfl
    | clean =>
      right
      cases hresult : (db.session .savepoint .clean calls).2 with
      | error f => exact ⟨f, rfl⟩
      | ok replies => exact absurd ⟨rfl, replies, hresult⟩ h.1

/-- The rows that a session leaves behind go back to what was there before and to its own additions, if it commits them
or leaks. -/
theorem proper_session {origin : Row → Prop} (h : db.rows.Proper origin) (how : Insertion) (ending : Ending)
    (calls : List Call) :
    (db.session how ending calls).1.rows.Proper fun r =>
      origin r ∨ (db.Commits how ending calls ∨ db.Leaks how ending calls) ∧ r.NamedBy calls := by
  have hold : db.rows.Proper fun r =>
      origin r ∨ (db.Commits how ending calls ∨ db.Leaks how ending calls) ∧ r.NamedBy calls := h.mono fun r => Or.inl
  by_cases hcalls : calls = []
  · subst hcalls
    exact hold
  rcases offers_or_not db with ⟨t, ht⟩ | hnot
  · rw [rows_eq_of_some ht.table_eq] at hold
    rw [session_of_offers ht hcalls]
    show ((Session.start db.toLimits t).left how ending calls).Proper _
    by_cases hwent : db.Commits how ending calls ∨ db.Leaks how ending calls
    · -- whatever the calls name is accounted for
      exact Session.left_of_both (Session.both_run (s := Session.start db.toLimits t) ⟨hold, hold⟩
        (Table.Proper.keep fun r hr => Or.inr ⟨hwent, hr⟩) how)
    · rw [left_of_not_went ht hwent]
      exact hold
  · obtain ⟨e, isConnected, hsession⟩ := session_of_not_offers hnot hcalls how ending
    rw [hsession]
    exact hold

/-! ### What else happens to a store -/

theorem table_dispose (db : Database) : db.dispose.table = none ∨ db.dispose.table = db.table := by
  unfold dispose
  split
  · exact Or.inl rfl
  all_goals exact Or.inr rfl

theorem rows_init {db' : Database} (h : db.init = .ok db') : db'.rows = db.rows := by
  unfold init at h
  split at h
  · cases h
  · rename_i connected hc
    split at h
    · cases h
    · split at h
      · cases h
      · cases h
        rw [rows, rows, ← table_connect hc]
        rfl

end Database

namespace Disk

/-- The rows of the file at a path, none if it is no database. -/
def rowsAt (d : Disk) (p : Path) : Table :=
  match d.entry? p with
  | some (.database table) => table.getD []
  | _ => []

theorem rowsAt_empty (p : Path) : rowsAt {} p = [] := by
  unfold rowsAt entry?
  cases p.isAscent <;> rfl

/-- A database is opened with the rows of a file, or none. -/
theorem rows_openAt (d : Disk) (location : Location) :
    (d.openAt location).rows = [] ∨ ∃ p, (d.openAt location).rows = d.rowsAt p := by
  cases location with
  | memory isWritable => exact Or.inl rfl
  | nowhere obstacle => exact Or.inl rfl
  | file p opening =>
    show (d.openFile p opening).rows = [] ∨ ∃ q, (d.openFile p opening).rows = d.rowsAt q
    unfold openFile
    dsimp only
    split
    · exact Or.inl rfl
    · split
      case h_5 table hentry =>
        refine Or.inr ⟨p, ?_⟩
        rw [rowsAt, hentry]
        rfl
      case h_6 => split <;> exact Or.inl rfl
      all_goals exact Or.inl rfl

theorem entry?_put_of_ne (d : Disk) {p q : Path} (h : p ≠ q) (e : DiskEntry) :
    Disk.entry? (d.put p e) q = d.entry? q := by
  have hfind : (d.put p e).entries.find? (·.1 = q) = d.entries.find? (·.1 = q) := by
    show ((p, e) :: d.entries.filter (·.1 ≠ p)).find? (·.1 = q) = _
    rw [List.find?_cons_of_neg (by simpa using h), List.find?_filter]
    congr 1
    funext entry
    -- what is taken away is not what is sought
    by_cases hq : entry.1 = q
    · simp [hq, h.symm]
    · simp [hq]
  unfold entry?
  rw [hfind]

theorem entry?_put_self (d : Disk) (p : Path) (e : DiskEntry) :
    Disk.entry? (d.put p e) p = if p.isAscent then some .directory else some e := by
  have hfind : (d.put p e).entries.find? (·.1 = p) = some (p, e) := List.find?_cons_of_pos (decide_eq_true rfl)
  unfold entry?
  rw [hfind]
  rfl

theorem rowsAt_put (d : Disk) (p q : Path) (table : Option Table) :
    (d.put p (.database table)).rowsAt q = d.rowsAt q ∨ (d.put p (.database table)).rowsAt q = table.getD [] := by
  by_cases hq : p = q
  · subst hq
    rw [rowsAt, rowsAt, entry?_put_self]
    by_cases hascent : p.isAscent = true
    · have hdirectory : d.entry? p = some .directory := if_pos hascent
      rw [if_pos hascent, hdirectory]
      exact Or.inl rfl
    · rw [if_neg hascent]
      exact Or.inr rfl
  · left
    rw [rowsAt, rowsAt, entry?_put_of_ne d hq]

/-- After a database is saved a file has the rows that it had, or those of the database. -/
theorem rowsAt_save (d : Disk) (db : Database) (q : Path) :
    (d.save db).rowsAt q = d.rowsAt q ∨ (d.save db).rowsAt q = db.rows := by
  unfold save
  split
  · split
    · exact rowsAt_put d _ q db.table
    · exact rowsAt_put d _ q db.table
    · exact Or.inl rfl
  all_goals exact Or.inl rfl

end Disk

/-! ### Histories -/

/-- What can happen to a store. -/
inductive Deed where
  | init
  | ping
  | dispose
  | restart (location : Location)
  | session (how : Insertion) (ending : Ending) (calls : List Call)
  deriving DecidableEq, Repr

/-- A disk, and a database that is open on it. -/
structure Site where
  disk : Disk
  db : Database
  deriving DecidableEq, Repr

namespace Site

/-- The site of a process that opens the database at a location. -/
def start (disk : Disk) (location : Location) : Site := ⟨disk, disk.openAt location⟩

/-- A site after a deed.  What fails leaves at most a connection. -/
def after (s : Site) : Deed → Site
  | .init => { s with db := s.db.init.toOption.getD (s.db.connect.toOption.getD s.db) }
  | .ping => { s with db := s.db.ping.toOption.getD s.db }
  | .dispose => { s with db := s.db.dispose }
  | .restart location => start (s.disk.save s.db) location
  | .session how ending calls => { s with db := (s.db.session how ending calls).1 }

/-- Whether a row is named in one of the sessions among deeds, one that went in some way. -/
def NamedIn (s : Site) (deeds : List Deed) (went : Database → Insertion → Ending → List Call → Prop) (r : Row) : Prop :=
  ∃ before how ending calls rest, deeds = before ++ .session how ending calls :: rest ∧
    went (before.foldl after s).db how ending calls ∧ r.NamedBy calls

/-- Whether a deed brings a row: it is a session that names it, and it commits or leaks. -/
def Brings (db : Database) (r : Row) : Deed → Prop
  | .session how ending calls => (db.Commits how ending calls ∨ db.Leaks how ending calls) ∧ r.NamedBy calls
  | _ => False

/-- A site whose rows, on its disk and in its database, are proper. -/
structure Proper (origin : Row → Prop) (s : Site) : Prop where
  disk : ∀ p, (s.disk.rowsAt p).Proper origin
  db : s.db.rows.Proper origin

variable {origin : Row → Prop} {s : Site}

theorem Proper.mono {origin' : Row → Prop} (h : s.Proper origin) (himp : ∀ r, origin r → origin' r) :
    s.Proper origin' :=
  ⟨fun p => (h.disk p).mono himp, h.db.mono himp⟩

theorem rows_connect (db : Database) : (db.connect.toOption.getD db).rows = db.rows := by
  cases hc : db.connect with
  | error e => rfl
  | ok connected =>
    show connected.rows = db.rows
    rw [Database.rows, Database.rows, Database.table_connect hc]

theorem proper_start {disk : Disk} (h : ∀ p, (disk.rowsAt p).Proper origin) (location : Location) :
    (start disk location).Proper origin := by
  refine ⟨h, ?_⟩
  show (disk.openAt location).rows.Proper origin
  rcases disk.rows_openAt location with hrows | ⟨p, hrows⟩
  · rw [hrows]
    exact Table.proper_nil origin
  · rw [hrows]
    exact h p

/-- Only a session brings rows that were not there, and only its own. -/
theorem proper_after (h : s.Proper origin) (deed : Deed) :
    (s.after deed).Proper fun r => origin r ∨ Brings s.db r deed := by
  obtain ⟨hdisk, hdb⟩ : s.Proper fun r => origin r ∨ Brings s.db r deed := h.mono fun r => Or.inl
  cases deed with
  | init =>
    refine ⟨hdisk, ?_⟩
    have hrows : (s.db.init.toOption.getD (s.db.connect.toOption.getD s.db)).rows = s.db.rows := by
      cases hinit : s.db.init with
      | error e => exact rows_connect s.db
      | ok db => exact Database.rows_init hinit
    show Table.Proper _ (s.db.init.toOption.getD (s.db.connect.toOption.getD s.db)).rows
    rw [hrows]
    exact hdb
  | ping =>
    refine ⟨hdisk, ?_⟩
    show Table.Proper _ (s.db.connect.toOption.getD s.db).rows
    rw [rows_connect]
    exact hdb
  | dispose =>
    refine ⟨hdisk, ?_⟩
    show Table.Proper _ (s.db.dispose.table.getD [])
    rcases Database.table_dispose s.db with htable | htable
    · rw [htable]
      exact Table.proper_nil _
    · rw [htable]
      exact hdb
  | restart location =>
    refine proper_start (fun p => ?_) location
    rcases s.disk.rowsAt_save s.db p with hrows | hrows
    · rw [hrows]
      exact hdisk p
    · rw [hrows]
      exact hdb
  | session how ending calls => exact ⟨hdisk, Database.proper_session h.db how ending calls⟩

/-- Whatever happens, each row was brought in its turn. -/
theorem proper_deeds (h : s.Proper fun _ => False) (deeds : List Deed) :
    (deeds.foldl after s).Proper fun r =>
      ∃ before deed rest, deeds = before ++ deed :: rest ∧ Brings (before.foldl after s).db r deed := by
  -- from the end, since what a deed brings depends on the site that the deeds before it have left
  induction deeds using List.reverseRecOn with
  | nil => exact h.mono fun r => False.elim
  | append_singleton deeds deed ih =>
    rw [List.foldl_append]
    refine (proper_after ih deed).mono fun r hr => ?_
    rcases hr with ⟨before, earlier, rest, rfl, hbrings⟩ | hbrings
    · exact ⟨before, earlier, rest ++ [deed], by simp, hbrings⟩
    · exact ⟨deeds, deed, [], rfl, hbrings⟩

/-- Whatever happens to a store that is new, its rows have positive numbers that ascend, no two share domain and kind,
and their domains are not empty, do not start with a blank or end with a full stop, and are in small letters.  Each row
was named by an addition in a session that committed, or in one that was aborted, or left by an error, after a
savepoint had committed a row. -/
theorem rows_of_deeds (disk : Disk) (location : Location) (hnew : ∀ p, disk.rowsAt p = []) (deeds : List Deed) :
    let s := start disk location
    let t := (deeds.foldl after s).db.rows
    ((∀ r ∈ t, 0 < r.id) ∧ t.Pairwise fun r r' => r.id < r'.id) ∧
      (t.Pairwise fun r r' => ¬(r.kind = r'.kind ∧ r.domain = r'.domain)) ∧
      (∀ r ∈ t, r.domain ≠ "" ∧ (∀ c, r.domain.toList.head? = some c → Blank.isBlank c = false) ∧
        (∀ c, r.domain.toList.getLast? = some c → c ≠ '.') ∧
        Lowercase.lower r.domain.toList = r.domain.toList) ∧
      (∀ r ∈ t, s.NamedIn deeds Database.Commits r ∨ s.NamedIn deeds Database.Leaks r) ∧
      ((∀ how ending calls, .session how ending calls ∈ deeds → how = .onConflict) →
        ∀ r ∈ t, s.NamedIn deeds Database.Commits r) := by
  intro s t
  have hstart : s.Proper fun _ => False := by
    refine proper_start (fun p => ?_) location
    rw [hnew p]
    exact Table.proper_nil _
  have hproper : t.Proper _ := (proper_deeds hstart deeds).db
  have hnamed : ∀ r ∈ t, s.NamedIn deeds Database.Commits r ∨ s.NamedIn deeds Database.Leaks r := by
    intro r hr
    obtain ⟨before, deed, rest, hdeeds, hbrings⟩ := hproper.explained r hr
    cases deed with
    | session how ending calls =>
      obtain ⟨hwent, hcalls⟩ := hbrings
      refine hwent.imp (fun hcommits => ?_) fun hleaks => ?_
      · exact ⟨before, how, ending, calls, rest, hdeeds, hcommits, hcalls⟩
      · exact ⟨before, how, ending, calls, rest, hdeeds, hleaks, hcalls⟩
    | _ => exact hbrings.elim
  refine ⟨⟨hproper.numbered.positive, hproper.numbered.ascends⟩, hproper.sound.unique, ?_, hnamed, ?_⟩
  · intro r hr
    obtain ⟨hkept, hne⟩ := hproper.sound.kept r hr
    exact ⟨hne, hkept.starts, hkept.ends, Lowercase.lower_of_small hkept.small⟩
  · intro honConflict r hr
    rcases hnamed r hr with hcommits | ⟨before, how, ending, calls, rest, hdeeds, ⟨hhow, -⟩, -⟩
    · exact hcommits
    · have hmem : Deed.session how ending calls ∈ deeds := by
        rw [hdeeds]
        exact List.mem_append_right _ (List.mem_cons_self ..)
      rw [honConflict how ending calls hmem] at hhow
      cases hhow

/-- A row that was committed to a file is there in the next process, and the one of an aborted session is not. -/
theorem rows_of_deeds_restarted :
    let location := Location.file (.ofString "rules.db")
    let deeds := [.init, .session .onConflict .clean [.add .allowed [" A."]],
      .session .onConflict .abort [.add .blocked ["b"]], .restart location]
    (deeds.foldl after (start {} location)).db.rows = [⟨1, "a", .allowed⟩] ∧
      (start {} location).NamedIn deeds Database.Commits ⟨1, "a", .allowed⟩ := by
  intro location deeds
  have hrows : (deeds.foldl after (start {} location)).db.rows = [⟨1, "a", .allowed⟩] := by decide +kernel
  refine ⟨hrows, ?_⟩
  obtain ⟨-, -, -, -, hcommits⟩ := rows_of_deeds {} location Disk.rowsAt_empty deeds
  refine hcommits ?_ _ (by rw [hrows]; exact List.mem_singleton_self _)
  intro how ending calls hmem
  simp only [deeds, List.mem_cons, Deed.session.injEq, List.not_mem_nil, reduceCtorEq, or_false, false_or] at hmem
  exact hmem.elim And.left And.left

/-- A row whose only addition was in a session that was aborted, under a savepoint. -/
theorem rows_of_aborted_savepoint :
    let deeds := [.init, .session .savepoint .abort [.add .allowed ["a"]]]
    ⟨1, "a", .allowed⟩ ∈ (deeds.foldl after (start {} .memory)).db.rows ∧
      ¬(start {} .memory).NamedIn deeds Database.Commits ⟨1, "a", .allowed⟩ := by
  intro deeds
  refine ⟨by decide +kernel, ?_⟩
  rintro ⟨before, how, ending, calls, rest, hdeeds, ⟨rfl, -⟩, -⟩
  have hmem : Deed.session how .clean calls ∈ deeds := by
    rw [hdeeds]
    exact List.mem_append_right _ (List.mem_cons_self ..)
  simp [deeds] at hmem

end Site

end DomainPolicy
