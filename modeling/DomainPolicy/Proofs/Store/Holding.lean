import DomainPolicy.Proofs.Store.Session

/-!
# Sessions of a database

A database that has its table runs a session on it and keeps what the session leaves behind; on any other the session
fails at once (`session_of_offers`, `session_of_not_offers`).  On a database that holds a table whose rows obey the constraint, a
session of one call is carried out or refused (`session_done`, `session_refused`), and a call of strings that one
statement can always bind is refused only if nothing can be written and the call would write (`refusal?_of_plain`).
-/

namespace DomainPolicy

open Domain (wanted)

/-! ### Databases that have their table -/

namespace Database

variable {db db' : Database} {how : Insertion} {ending : Ending} {calls : List Call} {t : Table}

theorem table_connect (h : db.connect = .ok db') : db'.table = db.table := by
  unfold connect at h
  split at h
  · cases h
  all_goals
    cases h
    rfl

theorem connect_of_reachable (h : ∀ obstacle, db.location ≠ .nowhere obstacle) :
    db.connect = .ok { db with isConnected := true } := by
  unfold connect
  split
  · rename_i obstacle hlocation
    exact absurd hlocation (h obstacle)
  all_goals rfl

theorem reachable_of_connect (h : db.connect = .ok db') :
    (∀ obstacle, db.location ≠ .nowhere obstacle) ∧ db' = { db with isConnected := true } := by
  unfold connect at h
  split at h
  · cases h
  all_goals
    rename_i hlocation
    cases h
    exact ⟨fun obstacle he => (nomatch hlocation.symm.trans he), rfl⟩

/-- Whether a database can be reached, is no foreign file, and has a table. -/
structure Offers (db : Database) (t : Table) : Prop where
  reachable : ∀ obstacle, db.location ≠ .nowhere obstacle
  isNative : db.isForeign = false
  table_eq : db.table = some t

theorem rows_eq_of_some (h : db.table = some t) : db.rows = t := by rw [rows, h]; rfl

theorem find_eq_ok_iff : db.find = .ok t ↔ db.isForeign = false ∧ db.table = some t := by
  unfold find
  cases db.isForeign with
  | true => simp
  | false => cases db.table <;> simp

/-- On a database that has its table a session runs, and the database keeps what it leaves behind. -/
theorem session_of_offers (h : db.Offers t) (hcalls : calls ≠ []) (how : Insertion) (ending : Ending) :
    db.session how ending calls =
      ({ db with isConnected := true, table := some ((Session.start db.toLimits t).left how ending calls) },
        Session.answer how db.toLimits t calls) := by
  obtain ⟨first, rest, rfl⟩ := List.exists_cons_of_ne_nil hcalls
  have hfind : find { db with isConnected := true } = .ok t := find_eq_ok_iff.2 ⟨h.isNative, h.table_eq⟩
  have hresult : ((Session.start db.toLimits t).run how (first :: rest)).2 =
      Session.answer how db.toLimits t (first :: rest) :=
    Session.run_result how (Session.start db.toLimits t) (first :: rest)
  unfold session Session.left
  simp only [connect_of_reachable h.reachable, hfind]
  rcases hrun : (Session.start db.toLimits t).run how (first :: rest) with ⟨s, f | replies⟩
  · rw [hrun] at hresult
    rw [← hresult]
  · rw [hrun] at hresult
    rw [← hresult]
    cases ending <;> rfl

/-- A database that cannot be reached says so. -/
theorem session_of_connect_error {e : StoreError} (h : db.connect = .error e) (hcalls : calls ≠ []) (how : Insertion)
    (ending : Ending) : db.session how ending calls = (db, .error { error := e }) := by
  obtain ⟨first, rest, rfl⟩ := List.exists_cons_of_ne_nil hcalls
  unfold session
  simp only [h]

/-- On a database without a table the first call fails. -/
theorem session_of_find_error {e : StoreError} (h : db.connect = .ok db') (hfind : db.find = .error e)
    (how : Insertion) (ending : Ending) (first : Call) (rest : List Call) :
    db.session how ending (first :: rest) =
      ({ db with isConnected := true }, .error { error := db.toLimits.unmet how first e }) := by
  obtain ⟨-, rfl⟩ := reachable_of_connect h
  have hfind' : find { db with isConnected := true } = .error e := hfind
  unfold session
  simp only [h, hfind']

/-- On any other database a session fails at once, and leaves at most a connection. -/
theorem session_of_not_offers (h : ∀ t, ¬db.Offers t) (hcalls : calls ≠ []) (how : Insertion) (ending : Ending) :
    ∃ e isConnected, db.session how ending calls = ({ db with isConnected }, .error { error := e }) := by
  cases hc : db.connect with
  | error e => exact ⟨e, db.isConnected, session_of_connect_error hc hcalls how ending⟩
  | ok connected =>
    cases hfind : db.find with
    | error e =>
      obtain ⟨first, rest, rfl⟩ := List.exists_cons_of_ne_nil hcalls
      exact ⟨_, true, session_of_find_error hc hfind how ending first rest⟩
    | ok t =>
      obtain ⟨hnative, htable⟩ := find_eq_ok_iff.1 hfind
      exact absurd ⟨(reachable_of_connect hc).1, hnative, htable⟩ (h t)

/-- What a session can come to: it does not run, whatever it asks, or it runs on the table. -/
theorem offers_or_not (db : Database) : (∃ t, db.Offers t) ∨ ∀ t, ¬db.Offers t := by
  by_cases h : ∃ t, db.Offers t
  · exact Or.inl h
  · exact Or.inr (not_exists.1 h)

/-! ### Sessions of one call -/

/-- A session that lists changes no row. -/
theorem table_session_list (db : Database) (kind : RuleKind) :
    (db.session .onConflict .clean [.list kind]).1.table = db.table := by
  rcases offers_or_not db with ⟨t, ht⟩ | hnot
  · rw [session_of_offers ht (List.cons_ne_nil _ _), ht.table_eq]
    rfl
  · obtain ⟨e, isConnected, hsession⟩ :=
      session_of_not_offers hnot (List.cons_ne_nil (.list kind) []) .onConflict .clean
    rw [hsession]

/-- A database that can be reached and has a table whose rows obey the constraint on domain and kind. -/
structure Holds (db : Database) (t : Table) : Prop where
  reachable : ∀ obstacle, db.location ≠ .nowhere obstacle
  isNative : db.isForeign = false
  table_eq : db.table = some t
  unique : t.Unique

/-- Initialising a database makes it hold its rows. -/
theorem holds_of_init (h : db.init = .ok db') (hu : db.rows.Unique) : db'.Holds db.rows := by
  unfold init at h
  split at h
  · cases h
  · rename_i connected hc
    obtain ⟨hreachable, rfl⟩ := reachable_of_connect hc
    split at h
    · cases h
    · rename_i hforeign
      split at h
      · cases h
      · cases h
        exact ⟨hreachable, Bool.eq_false_iff.2 hforeign, rfl, hu⟩

/-- Whether a database refuses a call because the call would write and nothing can be written. -/
def refuses (db : Database) (call : Call) : Bool := !db.isWritable && call.writes

theorem refuses_of_isWritable (h : db.isWritable = true) (call : Call) : db.refuses call = false := by
  rw [refuses, h]
  rfl

end Database

namespace Call

/-- Whether a call names strings only, and no more than one statement can always bind. -/
def Plain : Call → Prop
  | add _ ds | remove _ ds => ds.length ≤ 1000 ∧ ∀ t ∈ ds, t.Whole
  | list _ | rows => True

theorem plain_add {kind : RuleKind} {ss : List String} (h : ss.length ≤ 1000) :
    (add kind (ss.map Text.ofString)).Plain :=
  ⟨by rwa [List.length_map], List.forall_mem_map.2 fun s _ => Text.whole_ofString s⟩

theorem plain_remove {kind : RuleKind} {ss : List String} (h : ss.length ≤ 1000) :
    (remove kind (ss.map Text.ofString)).Plain :=
  ⟨by rwa [List.length_map], List.forall_mem_map.2 fun s _ => Text.whole_ofString s⟩

end Call

namespace Database

variable {db : Database} {call : Call} {t : Table}

/-- A plain call is refused only because nothing can be written. -/
theorem refusal?_of_plain (h : call.Plain) (how : Insertion) :
    call.refusal? how db.toLimits = if db.refuses call then some .unwritable else none := by
  cases hw : call.writes with
  | false =>
    rw [Call.refusal?_of_idle hw, refuses, hw, Bool.and_false]
    rfl
  | true =>
    have hrefuses : (if db.refuses call then some StoreError.unwritable else none) =
        if db.isWritable then none else some .unwritable := by
      rw [refuses, hw]
      cases db.isWritable <;> rfl
    rw [hrefuses]
    cases call with
    | add kind ds =>
      rw [Call.writes, decide_eq_true_eq] at hw
      have hlength := (Domain.length_wanted_le ds).trans h.1
      have hwhole : ∀ name ∈ wanted ds, name.Whole := fun name => Domain.whole_of_mem_wanted h.2
      cases how with
      | onConflict =>
        rw [Call.refusal?_onConflict_add hw]
        exact Limits.refusal?_of_whole (db.toLimits.not_maxValues_lt (Nat.mul_le_mul_left 3 hlength)) hwhole
      | savepoint =>
        -- where nothing can be written, the first name decides
        obtain ⟨name, rest, hwanted⟩ := List.exists_cons_of_ne_nil hw
        have hfirst : name.Whole := hwhole name (by rw [hwanted]; exact List.mem_cons_self ..)
        rw [Call.refusal?_savepoint_add, if_pos hwhole, hwanted, List.head?_cons, Option.map_some, if_pos hfirst]
    | remove kind ds =>
      rw [Call.writes, decide_eq_true_eq] at hw
      have hlength := (Domain.length_wanted_le ds).trans h.1
      rw [Call.refusal?, if_neg hw]
      exact Limits.refusal?_of_whole (db.toLimits.not_maxValues_lt (by omega)) fun name =>
        Domain.whole_of_mem_wanted h.2
    | list kind => cases hw
    | rows => cases hw

theorem refusal?_of_refuses (h : call.Plain) (hr : db.refuses call = true) (how : Insertion) :
    call.refusal? how db.toLimits = some .unwritable := by
  rw [refusal?_of_plain h, hr]
  rfl

theorem refusal?_of_not_refuses (h : call.Plain) (hr : db.refuses call = false) (how : Insertion) :
    call.refusal? how db.toLimits = none := by
  rw [refusal?_of_plain h, hr]
  rfl

namespace Holds

theorem offers (h : db.Holds t) : db.Offers t := ⟨h.reachable, h.isNative, h.table_eq⟩

theorem connected (h : db.Holds t) : ({ db with isConnected := true } : Database).Holds t :=
  ⟨h.reachable, h.isNative, h.table_eq, h.unique⟩

/-- A session of a call that is refused fails and leaves a connection behind. -/
theorem session_refused {e : StoreError} (h : db.Holds t) (hr : call.refusal? .onConflict db.toLimits = some e) :
    db.session .onConflict .clean [call] = ({ db with isConnected := true }, .error { error := e }) := by
  have hanswer := Session.answer_cons_of_refused hr t []
  have hleft : (Session.start db.toLimits t).left .onConflict .clean [call] = t := by
    rw [Session.left_rollback, Session.saved_run_onConflict]
    · rfl
    · rintro ⟨-, haccepted⟩
      cases hr.symm.trans (haccepted call (List.mem_singleton_self call))
  rw [session_of_offers h.offers (List.cons_ne_nil _ _), hanswer, hleft, ← h.table_eq]

/-- A session of any other call commits the table after it. -/
theorem session_done (h : db.Holds t) {how : Insertion} (hr : call.refusal? how db.toLimits = none) :
    db.session how .clean [call] =
      ({ db with isConnected := true, table := some (t.after call) }, .ok [call.reply (t.after call)]) := by
  have haccepted : Call.Accepted how db.toLimits [call] := Call.accepted_cons.2 ⟨hr, Call.accepted_nil⟩
  rw [session_of_offers h.offers (List.cons_ne_nil _ _), Session.answer_of_accepted haccepted,
    Session.left_clean (s := Session.start db.toLimits t) haccepted]
  rfl

theorem after (h : db.Holds t) (call : Call) :
    ({ db with isConnected := true, table := some (t.after call) } : Database).Holds (t.after call) :=
  ⟨h.reachable, h.isNative, rfl, Table.unique_after h.unique call⟩

end Holds

end Database

end DomainPolicy
