import DomainPolicy.Proofs.Store.Table
import DomainPolicy.Store.Database

/-!
# What a session does to the rows

A call is refused for what it asks and for what the database lets it do, whatever rows there are (`Call.refusal?`).  If
none of its calls is refused, a session sees and leaves the table of `Table.after`, whichever way it adds, and else it is
left at the first that is, with the replies up to there (`run_current`, `run_result`).  What each call keeps true of a
table stays true of the rows that are committed and of those that are seen, also where a call is refused half-way
(`both_run`).
-/

namespace DomainPolicy

open Domain (named storable wanted)

/-! ### Calls -/

/-- The table after a call that is carried out. -/
def Table.after (t : Table) : Call → Table
  | .add kind ds => t.add kind ds
  | .remove kind ds => t.remove kind ds
  | .list _ | .rows => t

namespace Call

/-- The reply to a call that leaves a table behind. -/
def reply (t : Table) : Call → Reply
  | .add kind _ | .remove kind _ | .list kind => .domains (t.list kind)
  | .rows => .rows t

/-- Whether a call changes rows, or would if there were such rows. -/
def writes : Call → Bool
  | add _ ds | remove _ ds => wanted ds ≠ []
  | list _ | rows => false

/-- Why a call is refused, if it is. -/
def refusal? (how : Insertion) (l : Limits) : Call → Option StoreError
  | add _ ds =>
    match how with
    | .onConflict =>
      if wanted ds = [] then none else l.refusal? (Session.rowValues * (wanted ds).length) (wanted ds)
    | .savepoint => (wanted ds).findSome? fun name => l.refusal? Session.rowValues [name]
  | remove _ ds => if wanted ds = [] then none else l.refusal? (1 + (wanted ds).length) (wanted ds)
  | list _ | rows => none

/-- Whether none of some calls is refused. -/
def Accepted (how : Insertion) (l : Limits) (calls : List Call) : Prop := ∀ c ∈ calls, c.refusal? how l = none

instance (how : Insertion) (l : Limits) (calls : List Call) : Decidable (Accepted how l calls) :=
  inferInstanceAs (Decidable (∀ c ∈ calls, c.refusal? how l = none))

variable {how : Insertion} {l : Limits} {c : Call} {calls : List Call}

@[simp] theorem accepted_nil : Accepted how l [] := fun _ => nofun

@[simp] theorem accepted_cons : Accepted how l (c :: calls) ↔ c.refusal? how l = none ∧ Accepted how l calls :=
  List.forall_mem_cons

theorem refusal?_of_idle (h : c.writes = false) (how : Insertion) (l : Limits) : c.refusal? how l = none := by
  cases c with
  | add kind ds =>
    rw [writes, decide_eq_false_iff_not, not_not] at h
    cases how <;> simp [refusal?, h]
  | remove kind ds =>
    rw [writes, decide_eq_false_iff_not, not_not] at h
    exact if_pos h
  | list kind => rfl
  | rows => rfl

end Call

theorem Limits.refusal?_eq (l : Limits) (values : Nat) (names : List Text) :
    l.refusal? values names =
      if l.maxValues < values then some .tooManyValues
      else if ∀ name ∈ names, name.Whole then (if l.isWritable then none else some .unwritable)
      else some .unencodable := by
  have hany : (names.any fun name => name.toString?.isNone) = true ↔ ¬∀ name ∈ names, name.Whole := by
    simp only [List.any_eq_true, Text.isNone_toString?_iff, not_forall, exists_prop]
  rw [refusal?]
  by_cases hwhole : ∀ name ∈ names, name.Whole
  · rw [if_neg (not_not.2 hwhole ∘ hany.1), if_pos hwhole]
  · rw [if_pos (hany.2 hwhole), if_neg hwhole]

theorem Limits.refusal?_eq_none_iff {l : Limits} {values : Nat} {names : List Text} :
    l.refusal? values names = none ↔ values ≤ l.maxValues ∧ (∀ name ∈ names, name.Whole) ∧ l.isWritable = true := by
  rw [refusal?_eq, ← Nat.not_lt]
  split_ifs with hmany hwhole hw
  · exact iff_of_false nofun fun h => h.1 hmany
  · exact iff_of_true rfl ⟨hmany, hwhole, hw⟩
  · exact iff_of_false nofun fun h => hw h.2.2
  · exact iff_of_false nofun fun h => hwhole h.2.1

/-- A statement whose names can be encoded, and which does not bind too much, is refused only because nothing can be
written. -/
theorem Limits.refusal?_of_whole {l : Limits} {values : Nat} {names : List Text} (hvalues : ¬l.maxValues < values)
    (hwhole : ∀ name ∈ names, name.Whole) :
    l.refusal? values names = if l.isWritable then none else some .unwritable := by
  rw [refusal?_eq, if_neg hvalues, if_pos hwhole]

theorem Limits.not_maxValues_lt {values : Nat} (h : values ≤ 3000) (l : Limits) : ¬l.maxValues < values :=
  Nat.not_lt.2 (h.trans l.le_maxValues)

theorem Limits.refusal?_row (l : Limits) (name : Text) :
    l.refusal? Session.rowValues [name] =
      if name.Whole then if l.isWritable then none else some .unwritable else some .unencodable := by
  rw [refusal?_eq, if_neg (l.not_maxValues_lt (by decide))]
  simp only [List.forall_mem_singleton]

namespace Call

variable {l : Limits} {kind : RuleKind} {ds : List Text}

/-- The names of an addition are refused one after the other by the first that cannot be encoded, or, where nothing can
be written, by the first of all. -/
theorem findSome?_refusal?_row (l : Limits) (names : List Text) :
    names.findSome? (fun name => l.refusal? Session.rowValues [name]) =
      if l.isWritable then (if ∀ name ∈ names, name.Whole then none else some .unencodable)
      else names.head?.map fun name => if name.Whole then .unwritable else .unencodable := by
  cases hw : l.isWritable with
  | true =>
    rw [if_pos rfl]
    induction names with
    | nil => rfl
    | cons name names ih =>
      rw [List.findSome?_cons, Limits.refusal?_row, hw]
      by_cases h : name.Whole
      · simp only [if_true, ih, List.forall_mem_cons, h, true_and]
      · simp [h]
  | false =>
    cases names with
    | nil => rfl
    | cons name names =>
      rw [List.findSome?_cons, Limits.refusal?_row, hw]
      by_cases h : name.Whole <;> simp [h]

theorem refusal?_onConflict_add (h : wanted ds ≠ []) :
    (add kind ds).refusal? .onConflict l = l.refusal? (3 * (wanted ds).length) (wanted ds) := if_neg h

theorem refusal?_savepoint_add :
    (add kind ds).refusal? .savepoint l = if l.isWritable then
        (if ∀ name ∈ wanted ds, name.Whole then none else some .unencodable)
      else (wanted ds).head?.map fun name => if name.Whole then .unwritable else .unencodable :=
  findSome?_refusal?_row l (wanted ds)

end Call

namespace Table

/-- The replies to calls that are carried out one after the other. -/
def replies (t : Table) : List Call → List Reply
  | [] => []
  | c :: cs => c.reply (t.after c) :: replies (t.after c) cs

theorem unique_after {t : Table} (h : t.Unique) (call : Call) : (t.after call).Unique := by
  cases call with
  | add kind ds => exact unique_add h kind ds
  | remove kind ds => exact unique_remove h kind ds
  | list kind => exact h
  | rows => exact h

theorem remove_of_wanted_nil {kind : RuleKind} {ds : List Text} (h : wanted ds = []) (t : Table) :
    t.remove kind ds = t := by
  rw [remove, storable, h]
  simp

end Table

namespace Session

variable {s : Session} {how : Insertion} {kind : RuleKind} {ds names : List Text} {c : Call} {calls : List Call}

/-! ### One row after the other -/

theorem current_insertUnderSavepoint (kind : RuleKind) (s : Session) (d : String) :
    (s.insertUnderSavepoint kind d).current = s.current.insert kind d := by
  unfold insertUnderSavepoint
  split
  · rename_i h
    exact (if_pos h).symm
  · split <;> rfl

theorem limits_insertUnderSavepoint (kind : RuleKind) (s : Session) (d : String) :
    (s.insertUnderSavepoint kind d).limits = s.limits := by
  unfold insertUnderSavepoint
  split
  · rfl
  · split <;> rfl

theorem current_foldl_insertUnderSavepoint (kind : RuleKind) (ds : List String) (s : Session) :
    Session.current (ds.foldl (insertUnderSavepoint kind) s) = ds.foldl (Table.insert kind) s.current := by
  induction ds generalizing s with
  | nil => rfl
  | cons d ds ih => rw [List.foldl_cons, ih, current_insertUnderSavepoint, List.foldl_cons]

theorem limits_foldl_insertUnderSavepoint (kind : RuleKind) (ds : List String) (s : Session) :
    Session.limits (ds.foldl (insertUnderSavepoint kind) s) = s.limits := by
  induction ds generalizing s with
  | nil => rfl
  | cons d ds ih => rw [List.foldl_cons, ih, limits_insertUnderSavepoint]

theorem insertEach_cons_of_refused {name : Text} {e : StoreError} (h : s.limits.refusal? rowValues [name] = some e)
    (names : List Text) : s.insertEach kind (name :: names) = (s, some e) := by
  rw [insertEach, h]

theorem insertEach_cons_of_accepted {d : String} (h : s.limits.refusal? rowValues [Text.ofString d] = none)
    (names : List Text) :
    s.insertEach kind (Text.ofString d :: names) = (s.insertUnderSavepoint kind d).insertEach kind names := by
  rw [insertEach, h, Text.toString?_ofString]
  rfl

/-- Rows are added one after the other as long as none is refused. -/
theorem exists_insertEach (kind : RuleKind) (s : Session) (names : List Text) :
    ∃ done, done <+: names.filterMap Text.toString? ∧
      (s.insertEach kind names).1 = done.foldl (insertUnderSavepoint kind) s ∧
      (s.insertEach kind names).2 = names.findSome? (fun name => s.limits.refusal? rowValues [name]) ∧
      ((s.insertEach kind names).2 = none → done = names.filterMap Text.toString?) := by
  induction names generalizing s with
  | nil => exact ⟨[], List.prefix_rfl, rfl, rfl, fun _ => rfl⟩
  | cons name names ih =>
    cases hr : s.limits.refusal? rowValues [name] with
    | some e =>
      rw [insertEach_cons_of_refused hr, List.findSome?_cons, hr]
      exact ⟨[], List.nil_prefix, rfl, rfl, nofun⟩
    | none =>
      have hwhole : name.Whole := (Limits.refusal?_eq_none_iff.1 hr).2.1 name (List.mem_singleton_self name)
      obtain ⟨d, rfl⟩ := Text.whole_iff_ofString.1 hwhole
      obtain ⟨done, hfront, hsession, hresult, hdone⟩ := ih (s.insertUnderSavepoint kind d)
      rw [limits_insertUnderSavepoint] at hresult
      rw [insertEach_cons_of_accepted hr, List.findSome?_cons, hr, List.filterMap_cons, Text.toString?_ofString]
      refine ⟨d :: done, List.cons_prefix_cons.2 ⟨rfl, hfront⟩, hsession, hresult, fun h => ?_⟩
      rw [hdone h]

theorem add_savepoint (s : Session) (kind : RuleKind) (ds : List Text) :
    s.add .savepoint kind ds = s.insertEach kind (wanted ds) := by
  unfold add
  split
  · rename_i h
    rw [h]
    rfl
  · rfl

/-! ### One statement -/

theorem execute_of_refused {values : Nat} {e : StoreError} (h : s.limits.refusal? values names = some e) (t : Table) :
    s.execute values names t = (s, some e) := by
  rw [execute, h]

theorem execute_of_accepted {values : Nat} (h : s.limits.refusal? values names = none) (t : Table) :
    s.execute values names t = (s.write t, none) := by
  rw [execute, h]

theorem execute_result (s : Session) (values : Nat) (names : List Text) (t : Table) :
    (s.execute values names t).2 = s.limits.refusal? values names := by
  cases h : s.limits.refusal? values names with
  | some e => rw [execute_of_refused h]
  | none => rw [execute_of_accepted h]

theorem add_of_wanted_nil (h : wanted ds = []) (how : Insertion) (s : Session) (kind : RuleKind) :
    s.add how kind ds = (s, none) := if_pos h

theorem add_onConflict (h : wanted ds ≠ []) (s : Session) (kind : RuleKind) :
    s.add .onConflict kind ds =
      s.execute (rowValues * (wanted ds).length) (wanted ds) (s.current.add kind ds) := if_neg h

theorem remove_of_wanted_nil (h : wanted ds = []) (s : Session) (kind : RuleKind) :
    s.remove kind ds = (s, none) := if_pos h

theorem remove_of_wanted (h : wanted ds ≠ []) (s : Session) (kind : RuleKind) :
    s.remove kind ds = s.execute (1 + (wanted ds).length) (wanted ds) (s.current.remove kind ds) := if_neg h

/-! ### One call -/

theorem add_result (how : Insertion) (s : Session) (kind : RuleKind) (ds : List Text) :
    (s.add how kind ds).2 = (Call.add kind ds).refusal? how s.limits := by
  cases how with
  | onConflict =>
    by_cases h : wanted ds = []
    · rw [add_of_wanted_nil h]
      exact (if_pos h).symm
    · rw [add_onConflict h, execute_result]
      exact (if_neg h).symm
  | savepoint =>
    obtain ⟨-, -, -, hresult, -⟩ := exists_insertEach kind s (wanted ds)
    rw [add_savepoint]
    exact hresult

theorem remove_result (how : Insertion) (s : Session) (kind : RuleKind) (ds : List Text) :
    (s.remove kind ds).2 = (Call.remove kind ds).refusal? how s.limits := by
  by_cases h : wanted ds = []
  · rw [remove_of_wanted_nil h]
    exact (if_pos h).symm
  · rw [remove_of_wanted h, execute_result]
    exact (if_neg h).symm

/-- An addition adds what it names, or, if it is refused, nothing, or under savepoints what comes first. -/
theorem exists_add (how : Insertion) (s : Session) (kind : RuleKind) (ds : List Text) :
    ∃ done, done <+: storable ds ∧ (s.add how kind ds).1.current = done.foldl (Table.insert kind) s.current ∧
      ((s.add how kind ds).2 = none → done = storable ds) := by
  cases how with
  | onConflict =>
    by_cases h : wanted ds = []
    · rw [add_of_wanted_nil h, storable, h]
      exact ⟨[], List.prefix_rfl, rfl, fun _ => rfl⟩
    · rw [add_onConflict h]
      cases hr : s.limits.refusal? (rowValues * (wanted ds).length) (wanted ds) with
      | some e =>
        rw [execute_of_refused hr]
        exact ⟨[], List.nil_prefix, rfl, fun h => absurd h (Option.some_ne_none e)⟩
      | none =>
        rw [execute_of_accepted hr]
        exact ⟨storable ds, List.prefix_rfl, rfl, fun _ => rfl⟩
  | savepoint =>
    obtain ⟨done, hfront, hsession, -, hdone⟩ := exists_insertEach kind s (wanted ds)
    rw [add_savepoint]
    refine ⟨done, hfront, ?_, hdone⟩
    rw [hsession, current_foldl_insertUnderSavepoint]

theorem current_remove (h : (s.remove kind ds).2 = none) : (s.remove kind ds).1.current = s.current.remove kind ds := by
  by_cases hwanted : wanted ds = []
  · rw [remove_of_wanted_nil hwanted, Table.remove_of_wanted_nil hwanted]
  · rw [remove_of_wanted hwanted] at h ⊢
    rw [execute_result] at h
    rw [execute_of_accepted h]
    rfl

theorem limits_execute (s : Session) (values : Nat) (names : List Text) (t : Table) :
    (s.execute values names t).1.limits = s.limits := by
  unfold execute
  split <;> rfl

theorem limits_add (how : Insertion) (s : Session) (kind : RuleKind) (ds : List Text) :
    (s.add how kind ds).1.limits = s.limits := by
  cases how with
  | onConflict =>
    by_cases h : wanted ds = []
    · rw [add_of_wanted_nil h]
    · rw [add_onConflict h, limits_execute]
  | savepoint =>
    obtain ⟨done, -, hsession, -⟩ := exists_insertEach kind s (wanted ds)
    rw [add_savepoint, hsession, limits_foldl_insertUnderSavepoint]

theorem limits_remove (s : Session) (kind : RuleKind) (ds : List Text) : (s.remove kind ds).1.limits = s.limits := by
  by_cases h : wanted ds = []
  · rw [remove_of_wanted_nil h]
  · rw [remove_of_wanted h, limits_execute]

@[simp] theorem listAfter_fst (kind : RuleKind) (p : Session × Option StoreError) : (listAfter kind p).1 = p.1 := by
  obtain ⟨s, _ | e⟩ := p <;> rfl

theorem listAfter_snd_of_none {p : Session × Option StoreError} (h : p.2 = none) :
    (listAfter kind p).2 = .ok (.domains (p.1.current.list kind)) := by
  obtain ⟨s, _ | e⟩ := p
  · rfl
  · cases h

theorem listAfter_snd_of_some {p : Session × Option StoreError} {e : StoreError} (h : p.2 = some e) :
    (listAfter kind p).2 = .error e := by
  obtain ⟨s, _ | e'⟩ := p
  · cases h
  · cases h
    rfl

theorem limits_step (how : Insertion) (s : Session) (c : Call) : (s.step how c).1.limits = s.limits := by
  cases c with
  | add kind ds => rw [step, listAfter_fst, limits_add]
  | remove kind ds => rw [step, listAfter_fst, limits_remove]
  | list kind => rfl
  | rows => rfl

/-- A call that is not refused leaves the table after it, whichever way rows are added. -/
theorem step_current (h : c.refusal? how s.limits = none) : (s.step how c).1.current = s.current.after c := by
  cases c with
  | add kind ds =>
    obtain ⟨done, -, hcurrent, hdone⟩ := exists_add how s kind ds
    rw [step, listAfter_fst, hcurrent, hdone ((add_result how s kind ds).trans h)]
    rfl
  | remove kind ds =>
    rw [step, listAfter_fst]
    exact current_remove ((remove_result how s kind ds).trans h)
  | list kind => rfl
  | rows => rfl

/-- It is answered from the table that it leaves. -/
theorem step_reply (h : c.refusal? how s.limits = none) :
    (s.step how c).2 = .ok (c.reply (s.current.after c)) := by
  have hcurrent := step_current h
  cases c with
  | add kind ds =>
    rw [step, listAfter_fst] at hcurrent
    rw [step, listAfter_snd_of_none ((add_result how s kind ds).trans h), hcurrent, Call.reply]
  | remove kind ds =>
    rw [step, listAfter_fst] at hcurrent
    rw [step, listAfter_snd_of_none ((remove_result how s kind ds).trans h), hcurrent, Call.reply]
  | list kind => rfl
  | rows => rfl

theorem step_refused {e : StoreError} (h : c.refusal? how s.limits = some e) : (s.step how c).2 = .error e := by
  cases c with
  | add kind ds => exact listAfter_snd_of_some ((add_result how s kind ds).trans h)
  | remove kind ds => exact listAfter_snd_of_some ((remove_result how s kind ds).trans h)
  | list kind => cases h
  | rows => cases h

/-- A call that changes nothing is not refused and leaves the session as it is. -/
theorem step_of_idle (h : c.writes = false) (how : Insertion) : (s.step how c).1 = s := by
  cases c with
  | add kind ds =>
    rw [Call.writes, decide_eq_false_iff_not, not_not] at h
    rw [step, listAfter_fst, add_of_wanted_nil h]
  | remove kind ds =>
    rw [Call.writes, decide_eq_false_iff_not, not_not] at h
    rw [step, listAfter_fst, remove_of_wanted_nil h]
  | list kind => rfl
  | rows => rfl

/-! ### One call after the other -/

theorem run_cons_of_refused {e : StoreError} (h : c.refusal? how s.limits = some e) (calls : List Call) :
    s.run how (c :: calls) = ((s.step how c).1, .error { error := e }) := by
  have hstep : s.step how c = ((s.step how c).1, .error e) := Prod.ext rfl (step_refused h)
  rw [run]
  split
  · rename_i heq
    rw [hstep] at heq
    cases heq
    rfl
  · rename_i heq
    rw [hstep] at heq
    cases heq

theorem run_cons_of_accepted (h : c.refusal? how s.limits = none) (calls : List Call) :
    s.run how (c :: calls) = (((s.step how c).1.run how calls).1,
      (c.reply (s.current.after c)).before ((s.step how c).1.run how calls).2) := by
  have hstep : s.step how c = ((s.step how c).1, .ok (c.reply (s.current.after c))) := Prod.ext rfl (step_reply h)
  rw [run]
  split
  · rename_i heq
    rw [hstep] at heq
    cases heq
  · rename_i heq
    rw [hstep] at heq
    cases heq
    rfl

/-- What calls are answered, by the first of them that is refused. -/
def answer (how : Insertion) (l : Limits) (t : Table) (calls : List Call) : Except SessionFailure (List Reply) :=
  match calls.findSome? (Call.refusal? how l) with
  | none => .ok (t.replies calls)
  | some e => .error ⟨t.replies (calls.takeWhile fun c => (c.refusal? how l).isNone), e⟩

theorem answer_cons_of_refused {l : Limits} {e : StoreError} (h : c.refusal? how l = some e) (t : Table)
    (calls : List Call) : answer how l t (c :: calls) = .error { error := e } := by
  have htake : (c :: calls).takeWhile (fun c => (c.refusal? how l).isNone) = [] :=
    List.takeWhile_cons_of_neg (by rw [h]; exact Bool.false_ne_true)
  rw [answer, List.findSome?_cons, h, htake]
  rfl

theorem answer_cons_of_accepted {l : Limits} (h : c.refusal? how l = none) (t : Table) (calls : List Call) :
    answer how l t (c :: calls) = (c.reply (t.after c)).before (answer how l (t.after c) calls) := by
  have htake : (c :: calls).takeWhile (fun c => (c.refusal? how l).isNone) =
      c :: calls.takeWhile fun c => (c.refusal? how l).isNone := List.takeWhile_cons_of_pos (by rw [h]; rfl)
  unfold answer
  rw [List.findSome?_cons, h, htake]
  cases calls.findSome? (Call.refusal? how l) <;> rfl

/-- The answers to calls depend on the rows that the session sees and on what the database lets it do. -/
theorem run_result (how : Insertion) (s : Session) (calls : List Call) :
    (s.run how calls).2 = answer how s.limits s.current calls := by
  induction calls generalizing s with
  | nil => rfl
  | cons c calls ih =>
    cases hr : c.refusal? how s.limits with
    | some e => rw [run_cons_of_refused hr, answer_cons_of_refused hr]
    | none => rw [run_cons_of_accepted hr, answer_cons_of_accepted hr, ih, limits_step, step_current hr]

theorem findSome?_refusal_eq_none_iff {l : Limits} :
    calls.findSome? (Call.refusal? how l) = none ↔ Call.Accepted how l calls := List.findSome?_eq_none_iff

theorem answer_of_accepted {l : Limits} (h : Call.Accepted how l calls) (t : Table) :
    answer how l t calls = .ok (t.replies calls) := by
  rw [answer, findSome?_refusal_eq_none_iff.2 h]

theorem exists_answer_eq_ok_iff {l : Limits} {t : Table} :
    (∃ rs, answer how l t calls = .ok rs) ↔ Call.Accepted how l calls := by
  rw [← findSome?_refusal_eq_none_iff, answer]
  cases calls.findSome? (Call.refusal? how l) with
  | none => exact iff_of_true ⟨_, rfl⟩ rfl
  | some e => exact iff_of_false (fun ⟨_, h⟩ => nomatch h) nofun

/-- A session that is aborted, or fails, is not carried out to a clean end. -/
theorem not_carried {l : Limits} {t : Table} {ending : Database.Ending}
    (h : ending = .abort ∨ ∃ f, answer how l t calls = .error f) :
    ¬(ending = .clean ∧ Call.Accepted how l calls) := by
  rintro ⟨rfl, haccepted⟩
  rcases h with h | ⟨f, hf⟩
  · cases h
  · rw [answer_of_accepted haccepted] at hf
    cases hf

/-- Calls of which none is refused leave the table that they leave one after the other, whichever way rows are added. -/
theorem run_current (h : Call.Accepted how s.limits calls) :
    (s.run how calls).1.current = calls.foldl Table.after s.current := by
  induction calls generalizing s with
  | nil => rfl
  | cons c calls ih =>
    obtain ⟨hc, hcalls⟩ := Call.accepted_cons.1 h
    rw [run_cons_of_accepted hc, List.foldl_cons, ← step_current hc]
    exact ih (by rwa [limits_step])

/-! ### What is committed under one statement -/

theorem saved_execute (s : Session) (values : Nat) (names : List Text) (t : Table) :
    (s.execute values names t).1.saved = s.saved := by
  unfold execute
  split <;> rfl

theorem saved_step_onConflict (s : Session) (c : Call) : (s.step .onConflict c).1.saved = s.saved := by
  cases c with
  | add kind ds =>
    rw [step, listAfter_fst]
    by_cases h : wanted ds = []
    · rw [add_of_wanted_nil h]
    · rw [add_onConflict h, saved_execute]
  | remove kind ds =>
    rw [step, listAfter_fst]
    by_cases h : wanted ds = []
    · rw [remove_of_wanted_nil h]
    · rw [remove_of_wanted h, saved_execute]
  | list kind => rfl
  | rows => rfl

/-- Under one statement nothing is committed before the end, however far a session gets. -/
theorem saved_run_onConflict (s : Session) (calls : List Call) : (s.run .onConflict calls).1.saved = s.saved := by
  induction calls generalizing s with
  | nil => rfl
  | cons c calls ih =>
    cases hr : c.refusal? .onConflict s.limits with
    | some e => rw [run_cons_of_refused hr, saved_step_onConflict]
    | none => rw [run_cons_of_accepted hr, ih, saved_step_onConflict]

end Session

/-! ### What sessions keep -/

/-- Whether a property of tables survives what calls do one row after the other. -/
structure Call.Keep (P : Table → Prop) (calls : List Call) : Prop where
  insert : ∀ {kind ds}, add kind ds ∈ calls → ∀ d ∈ named ds, ∀ t, P t → P (t.insert kind d)
  remove : ∀ {kind ds}, remove kind ds ∈ calls → ∀ t, P t → P (t.remove kind ds)

namespace Session

variable {P : Table → Prop} {s : Session}

/-- Whether a property of tables holds of the rows that are committed and of those that are seen. -/
def Both (P : Table → Prop) (s : Session) : Prop := P s.saved ∧ P s.current

theorem both_insertUnderSavepoint {kind : RuleKind} {d : String} (h : s.Both P)
    (hinsert : ∀ t, P t → P (t.insert kind d)) : (s.insertUnderSavepoint kind d).Both P := by
  refine ⟨?_, by rw [current_insertUnderSavepoint]; exact hinsert _ h.2⟩
  unfold insertUnderSavepoint
  split
  · exact h.1
  · split
    · exact h.1
    · exact hinsert _ h.2

theorem both_execute (h : s.Both P) {t : Table} (ht : P t) (values : Nat) (names : List Text) :
    (s.execute values names t).1.Both P := by
  unfold execute
  split
  · exact h
  · exact ⟨h.1, ht⟩

theorem both_step {call : Call} {calls : List Call} (h : s.Both P) (hkeep : Call.Keep P calls) (hcall : call ∈ calls)
    (how : Insertion) : (s.step how call).1.Both P := by
  cases call with
  | add kind ds =>
    have hinsert : ∀ d ∈ storable ds, ∀ t, P t → P (t.insert kind d) :=
      fun d hd => hkeep.insert hcall d (Domain.mem_storable.1 hd)
    rw [step, listAfter_fst]
    cases how with
    | onConflict =>
      by_cases hwanted : wanted ds = []
      · rwa [add_of_wanted_nil hwanted]
      · rw [add_onConflict hwanted]
        exact both_execute h (List.foldlRecOn _ _ h.2 fun t ht d hd => hinsert d hd t ht) _ _
    | savepoint =>
      obtain ⟨done, hfront, hsession, -⟩ := exists_insertEach kind s (wanted ds)
      rw [add_savepoint, hsession]
      exact List.foldlRecOn _ _ h fun s hs d hd => both_insertUnderSavepoint hs (hinsert d (hfront.subset hd))
  | remove kind ds =>
    rw [step, listAfter_fst]
    by_cases hwanted : wanted ds = []
    · rwa [remove_of_wanted_nil hwanted]
    · rw [remove_of_wanted hwanted]
      exact both_execute h (hkeep.remove hcall _ h.2) _ _
  | list kind => exact h
  | rows => exact h

/-- What survives the calls of a session holds of the rows that are committed and of those that are seen. -/
theorem both_run {calls : List Call} (h : s.Both P) (hkeep : Call.Keep P calls) (how : Insertion) :
    (s.run how calls).1.Both P := by
  -- the calls that are left are among those that keep the property
  suffices hrun : ∀ {s : Session} {rest : List Call}, rest ⊆ calls → s.Both P → (s.run how rest).1.Both P from
    hrun (List.Subset.refl calls) h
  intro s rest hrest h
  induction rest generalizing s with
  | nil => exact h
  | cons call rest ih =>
    obtain ⟨hcall, hrest⟩ := List.cons_subset.1 hrest
    have hstep := both_step h hkeep hcall how
    cases hr : call.refusal? how s.limits with
    | some e =>
      rw [run_cons_of_refused hr]
      exact hstep
    | none =>
      rw [run_cons_of_accepted hr]
      exact ih hrest hstep

/-- The table that a session leaves behind: what it sees at a clean end, and what is committed if it is aborted or
left. -/
def left (how : Insertion) (ending : Database.Ending) (calls : List Call) (s : Session) : Table :=
  match (s.run how calls).2, ending with
  | .ok _, .clean => (s.run how calls).1.commit
  | _, _ => (s.run how calls).1.rollback

theorem left_clean {how : Insertion} {calls : List Call} (h : Call.Accepted how s.limits calls) :
    s.left how .clean calls = calls.foldl Table.after s.current := by
  unfold left
  rw [run_result, answer_of_accepted h]
  exact run_current h

theorem left_rollback {how : Insertion} {ending : Database.Ending} {calls : List Call}
    (h : ¬(ending = .clean ∧ Call.Accepted how s.limits calls)) :
    s.left how ending calls = (s.run how calls).1.saved := by
  unfold left
  split
  · rename_i replies hrun
    refine absurd ⟨rfl, ?_⟩ h
    rw [run_result] at hrun
    exact exists_answer_eq_ok_iff.1 ⟨replies, hrun⟩
  · rfl

theorem left_of_both {how : Insertion} {ending : Database.Ending} {calls : List Call}
    (h : (s.run how calls).1.Both P) : P (s.left how ending calls) := by
  by_cases hclean : ending = .clean ∧ Call.Accepted how s.limits calls
  · obtain ⟨rfl, haccepted⟩ := hclean
    rw [left_clean haccepted, ← run_current haccepted]
    exact h.2
  · rw [left_rollback hclean]
    exact h.1

end Session

end DomainPolicy
