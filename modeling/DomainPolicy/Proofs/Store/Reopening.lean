import DomainPolicy.Proofs.Store.History

/-!
# Closing a store and opening it again

A database that a disk `Backs` at a path has the table that the file at the path has, or will have once the database is
saved.  Opening a file gives such a database, or one that cannot be reached (`opened_openAt`), and sessions keep it so.
Saving it leaves its table in its file, and no other file changes (`Backs.tableAt_save`, `tableAt_save_of_ne`): the
next time the file is opened the rows are those at the end, with their numbers.
-/

namespace DomainPolicy

namespace Disk

variable {d : Disk} {p q : Path} {opening : Opening} {db db' : Database} {table : Option Table}

/-! ### Files and their tables -/

/-- The table of the file at a path, if it is a database that has one. -/
def tableAt (d : Disk) (p : Path) : Option Table :=
  match d.entry? p with
  | some (.database table) => table
  | _ => none

theorem rowsAt_eq (d : Disk) (p : Path) : d.rowsAt p = (d.tableAt p).getD [] := by
  unfold rowsAt tableAt
  cases d.entry? p with
  | none => rfl
  | some entry => cases entry <;> rfl

/-- Whether a database can be kept at a path: nothing is there, or a database. -/
def Takes (d : Disk) (p : Path) : Prop := d.entry? p = none ∨ ∃ table, d.entry? p = some (.database table)

theorem tableAt_of_entry (h : d.entry? p = some (.database table)) : d.tableAt p = table := by
  unfold tableAt
  rw [h]

theorem takes_of_tableAt {t : Table} (h : d.tableAt p = some t) : d.Takes p := by
  unfold tableAt at h
  split at h
  · rename_i hentry
    exact Or.inr ⟨_, hentry⟩
  · cases h

theorem tableAt_put_self (h : d.Takes p) (table : Option Table) : (d.put p (.database table)).tableAt p = table := by
  have hascent : ¬p.isAscent = true := by
    intro hascent
    have hentry : d.entry? p = some .directory := if_pos hascent
    rcases h with h | ⟨_, h⟩
    · cases hentry.symm.trans h
    · cases hentry.symm.trans h
  refine tableAt_of_entry ?_
  rw [entry?_put_self, if_neg hascent]

theorem tableAt_put_of_ne (h : p ≠ q) (entry : DiskEntry) : (d.put p entry).tableAt q = d.tableAt q := by
  unfold tableAt
  rw [entry?_put_of_ne d h]

/-! ### Saving -/

theorem save_of_takes (hlocation : db.location = .file p opening) (hconnected : db.isConnected = true)
    (h : d.Takes p) : d.save db = d.put p (.database db.table) := by
  unfold save
  rw [hlocation, hconnected]
  rcases h with h | ⟨_, h⟩
  · simp only [h]
  · simp only [h]

theorem save_of_not_takes (hlocation : db.location = .file p opening) (h : ¬(db.isConnected = true ∧ d.Takes p)) :
    d.save db = d := by
  unfold save
  rw [hlocation]
  dsimp only
  split
  · rename_i hconnected hentry
    exact absurd ⟨hconnected, Or.inl hentry⟩ h
  · rename_i hconnected hentry
    exact absurd ⟨hconnected, Or.inr ⟨_, hentry⟩⟩ h
  · rfl

theorem save_of_nowhere {obstacle : Obstacle} (h : db.location = .nowhere obstacle) : d.save db = d := by
  unfold save
  rw [h]

/-- Saving a database changes no file but its own. -/
theorem tableAt_save_of_ne (hlocation : db.location = .file p opening) (h : p ≠ q) :
    (d.save db).tableAt q = d.tableAt q := by
  by_cases hsaved : db.isConnected = true ∧ d.Takes p
  · rw [save_of_takes hlocation hsaved.1 hsaved.2]
    exact tableAt_put_of_ne h _
  · rw [save_of_not_takes hlocation hsaved]

/-! ### Open databases -/

/-- Whether a database is open on the file at a path: its table is that of the file, or will be once it is saved. -/
structure Backs (d : Disk) (p : Path) (db : Database) : Prop where
  location : ∃ opening, db.location = .file p opening
  table : db.table = d.tableAt p ∨ db.isConnected = true ∧ d.Takes p

namespace Backs

/-- Saving a database that is open on a file leaves its table in the file. -/
theorem tableAt_save (h : d.Backs p db) : (d.save db).tableAt p = db.table := by
  obtain ⟨opening, hlocation⟩ := h.location
  by_cases hsaved : db.isConnected = true ∧ d.Takes p
  · rw [save_of_takes hlocation hsaved.1 hsaved.2]
    exact tableAt_put_self hsaved.2 db.table
  · rw [save_of_not_takes hlocation hsaved]
    rcases h.table with htable | hopen
    · exact htable.symm
    · exact absurd hopen hsaved

/-- A database with a table that is open on a file can be kept in it. -/
theorem takes {t : Table} (h : d.Backs p db) (ht : db.table = some t) : d.Takes p := by
  rcases h.table with htable | ⟨-, htakes⟩
  · exact takes_of_tableAt (htable.symm.trans ht)
  · exact htakes

/-- A connection to a database is kept in mind. -/
theorem connect (h : d.Backs p db) (hconnect : db.connect = .ok db') : d.Backs p db' ∧ db'.isConnected = true := by
  obtain ⟨-, rfl⟩ := Database.reachable_of_connect hconnect
  exact ⟨⟨h.location, h.table.imp_right fun ⟨_, htakes⟩ => ⟨rfl, htakes⟩⟩, rfl⟩

theorem session (h : d.Backs p db) (how : Insertion) (ending : Database.Ending) (calls : List Call) :
    d.Backs p (db.session how ending calls).1 := by
  unfold Database.session
  split
  · exact h
  · split
    · exact h
    · rename_i connected hconnect
      obtain ⟨hconnected, hisConnected⟩ := h.connect hconnect
      split
      · exact hconnected
      · -- a database that has its table has a file that takes it
        rename_i t ht
        have htakes := hconnected.takes (Database.find_eq_ok_iff.1 ht).2
        split <;> exact ⟨hconnected.location, Or.inr ⟨hisConnected, htakes⟩⟩

end Backs

/-! ### Opening -/

/-- What the file at a path can be opened as: it cannot be reached, nothing can be kept in it, or it is a database,
perhaps one that is still to be made. -/
inductive Opened (d : Disk) (p : Path) : Database → Prop
  | refused (obstacle : Obstacle) : Opened d p { location := .nowhere obstacle }
  | blocked {db : Database} {opening : Opening} (hlocation : db.location = .file p opening) (htable : db.table = none)
      (hfile : d.tableAt p = none) (h : db.isForeign = true ∨ db.isWritable = false) : Opened d p db
  | taken (opening : Opening) (isWritable : Bool) (h : d.Takes p) :
      Opened d p { location := .file p opening, isWritable, table := d.tableAt p }

theorem opened_openFile (d : Disk) (p : Path) (opening : Opening) : Opened d p (d.openFile p opening) := by
  unfold openFile
  dsimp only
  split
  · exact .refused _
  · split
    case h_1 => exact .refused _
    case h_2 => exact .refused _
    case h_3 hentry => exact .blocked rfl rfl (by rw [tableAt, hentry]) (Or.inl rfl)
    case h_4 hentry => exact .blocked rfl rfl (by rw [tableAt, hentry]) (Or.inr rfl)
    case h_5 table hentry =>
      rw [← tableAt_of_entry hentry]
      exact .taken opening _ (Or.inr ⟨table, hentry⟩)
    case h_6 hentry =>
      split
      · exact .refused _
      · have htable : none = d.tableAt p := by rw [tableAt, hentry]
        rw [htable]
        exact .taken opening _ (Or.inl hentry)

/-- A file that has its table is opened with it. -/
theorem openFile_of_tableAt {t : Table} (h : d.tableAt p = some t) (opening : Opening)
    (hsample : opening.sample = none) :
    ∃ isWritable, d.openFile p opening = { location := .file p opening, isWritable, table := some t } := by
  refine ⟨opening.isWritable && decide (p.nameLength + journalSuffix ≤ maxName), ?_⟩
  have hentry : d.entry? p = some (.database (some t)) := by
    rcases takes_of_tableAt h with hentry | ⟨table, hentry⟩
    · rw [tableAt, hentry] at h
      cases h
    · rw [hentry, ← h, tableAt_of_entry hentry]
  unfold openFile
  simp only [hsample, hentry, Option.any_none, Bool.false_eq_true, if_false]

/-- Opening a location that is the file at a path, or none at all. -/
theorem opened_openAt {location : Location}
    (h : (∃ opening, location = .file p opening) ∨ ∃ obstacle, location = .nowhere obstacle) (d : Disk) :
    Opened d p (d.openAt location) := by
  rcases h with ⟨opening, rfl⟩ | ⟨obstacle, rfl⟩
  · exact opened_openFile d p opening
  · exact .refused obstacle

namespace Opened

/-- A file is opened with its table, unless it cannot be reached. -/
theorem backs_or (h : Opened d p db) :
    d.Backs p db ∧ db.table = d.tableAt p ∨ (∃ obstacle, db.location = .nowhere obstacle) ∧ db.table = none := by
  cases h with
  | refused => exact Or.inr ⟨⟨_, rfl⟩, rfl⟩
  | blocked hlocation htable hfile =>
    have heq : db.table = d.tableAt p := htable.trans hfile.symm
    exact Or.inl ⟨⟨⟨_, hlocation⟩, Or.inl heq⟩, heq⟩
  | taken opening isWritable h => exact Or.inl ⟨⟨⟨opening, rfl⟩, Or.inl rfl⟩, rfl⟩

/-- Initialising a file that was opened makes its table if it is absent, and changes nothing else. -/
theorem backs_of_init (h : Opened d p db) (hinit : db.init = .ok db') :
    d.Backs p db' ∧ db'.table = some (d.rowsAt p) := by
  cases h with
  | refused => cases hinit
  | blocked hlocation htable hfile h =>
    exfalso
    unfold Database.init Database.connect at hinit
    rw [hlocation] at hinit
    -- a foreign file fails first, and one that cannot be written has no table to be found
    by_cases hforeign : db.isForeign = true
    · simp [hforeign] at hinit
    · have hwritable : db.isWritable = false := h.resolve_left hforeign
      simp [hforeign, htable, hwritable] at hinit
  | taken opening isWritable h =>
    rw [rowsAt_eq]
    unfold Database.init Database.connect at hinit
    dsimp only at hinit
    split at hinit
    · cases hinit
    · split at hinit
      · cases hinit
      · cases hinit
        exact ⟨⟨⟨opening, rfl⟩, Or.inr ⟨rfl, h⟩⟩, rfl⟩

/-- Saving a file that was opened, and perhaps connected to, changes no table. -/
theorem tableAt_save (h : Opened d p db) (q : Path) :
    (d.save (db.connect.toOption.getD db)).tableAt q = d.tableAt q := by
  rcases h.backs_or with ⟨hbacks, htable⟩ | ⟨⟨obstacle, hlocation⟩, -⟩
  · obtain ⟨hopen, heq⟩ : d.Backs p (db.connect.toOption.getD db) ∧ (db.connect.toOption.getD db).table = db.table := by
      cases hconnect : db.connect with
      | error e => exact ⟨hbacks, rfl⟩
      | ok connected => exact ⟨(hbacks.connect hconnect).1, Database.table_connect hconnect⟩
    by_cases hq : p = q
    · rw [← hq, hopen.tableAt_save, heq, htable]
    · obtain ⟨_, hlocation⟩ := hopen.location
      exact tableAt_save_of_ne hlocation hq
  · have hconnect : db.connect = .error (.disconnected obstacle) := by
      unfold Database.connect
      rw [hlocation]
    rw [hconnect]
    exact congrArg (tableAt · q) (save_of_nowhere hlocation)

end Opened

end Disk

end DomainPolicy
