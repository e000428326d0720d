import DomainPolicy.Proofs.Store.Holding

/-!
# One statement and savepoints

The two ways of adding answer the calls of a session alike, and commit the same rows, as long as no call is refused.  An
addition that names a great deal can be too much for one statement, which is noticed even where there is no table, and a
store that cannot be written can give another reason for refusing a list than one that cannot be encoded (`Call.Parts`);
that is where the answers part (`Database.ComesApart`).  When a session is aborted or left, nothing of it remains under one statement (`saved_run_onConflict`).  A savepoint that is the
outermost commits its row when it is released, until a removal or a row that is there already opens a transaction, and
what it committed stays (`Follows`): that is where the rows part, if the first row that the session would change is a
new one (`session_savepoint_eq_iff`).
-/

namespace DomainPolicy

open Domain (wanted)

/-- Whether the first thing that calls would change in a table is to add a row that is not there: the calls before
change nothing, and the first of the names that are wanted is that of a new row. -/
def Table.StartsWithNewRow (t : Table) (calls : List Call) : Prop :=
  ∃ idle kind ds rest d, calls = idle ++ Call.add kind ds :: rest ∧ (∀ c ∈ idle, c.writes = false) ∧
    (wanted ds).head? = some (Text.ofString d) ∧ d ∉ t.domains kind

namespace Table

variable {t : Table} {call : Call} {calls : List Call}

theorem not_startsWithNewRow_nil : ¬t.StartsWithNewRow [] := by
  rintro ⟨idle, kind, ds, rest, d, hcalls, -⟩
  cases idle <;> cases hcalls

/-- A call that changes nothing does not count. -/
theorem startsWithNewRow_cons_of_idle (h : call.writes = false) :
    t.StartsWithNewRow (call :: calls) ↔ t.StartsWithNewRow calls := by
  constructor
  · rintro ⟨idle, kind, ds, rest, d, hcalls, hidle, hd, hnew⟩
    cases idle with
    | nil =>
      cases hcalls
      -- an addition that wants a name is not idle
      rw [Call.writes, decide_eq_false_iff_not, not_not] at h
      rw [h] at hd
      cases hd
    | cons c idle =>
      cases hcalls
      exact ⟨idle, kind, ds, rest, d, rfl, fun c' hc' => hidle c' (List.mem_cons_of_mem _ hc'), hd, hnew⟩
  · rintro ⟨idle, kind, ds, rest, d, rfl, hidle, hd, hnew⟩
    exact ⟨call :: idle, kind, ds, rest, d, rfl, List.forall_mem_cons.2 ⟨h, hidle⟩, hd, hnew⟩

/-- The first call that changes something decides. -/
theorem startsWithNewRow_cons_of_writes (h : call.writes = true) :
    t.StartsWithNewRow (call :: calls) ↔
      ∃ kind ds d, call = .add kind ds ∧ (wanted ds).head? = some (Text.ofString d) ∧ d ∉ t.domains kind := by
  constructor
  · rintro ⟨idle, kind, ds, rest, d, hcalls, hidle, hd, hnew⟩
    cases idle with
    | nil =>
      cases hcalls
      exact ⟨kind, ds, d, rfl, hd, hnew⟩
    | cons c idle =>
      cases hcalls
      rw [hidle call (List.mem_cons_self ..)] at h
      cases h
  · rintro ⟨kind, ds, d, rfl, hd, hnew⟩
    exact ⟨[], kind, ds, calls, d, rfl, fun _ => nofun, hd, hnew⟩

end Table

/-! ### Where the answers part -/

namespace Call

/-- Whether a call is an addition that binds too many values for one statement. -/
inductive TooMuch (l : Limits) : Call → Prop
  | add (kind : RuleKind) {ds : List Text} (h : l.maxValues < 3 * (wanted ds).length) : TooMuch l (.add kind ds)

/-- Whether the two ways refuse an addition for different reasons, or only one of them refuses it: it is too much for
one statement, or nothing can be written, and a name that can be encoded comes before one that cannot. -/
inductive Parts (l : Limits) : Call → Prop
  | tooMuch {c : Call} (h : c.TooMuch l) : Parts l c
  | unwritable (kind : RuleKind) {ds : List Text} {d : String} (hl : l.isWritable = false)
      (hfirst : (wanted ds).head? = some (Text.ofString d)) (hhalf : ∃ name ∈ wanted ds, ¬name.Whole) :
      Parts l (.add kind ds)

variable {l : Limits} {kind : RuleKind} {ds names : List Text} {c : Call}

theorem parts_add_of_le (h : ¬l.maxValues < 3 * (wanted ds).length) :
    (add kind ds).Parts l ↔ l.isWritable = false ∧ (∃ d, (wanted ds).head? = some (Text.ofString d)) ∧
      ¬∀ name ∈ wanted ds, name.Whole := by
  simp only [not_forall, exists_prop]
  constructor
  · rintro (⟨_, hmany⟩ | ⟨_, hl, hfirst, hhalf⟩)
    · exact absurd hmany h
    · exact ⟨hl, ⟨_, hfirst⟩, hhalf⟩
  · rintro ⟨hl, ⟨d, hfirst⟩, hhalf⟩
    exact .unwritable kind hl hfirst hhalf

theorem parts_add_iff :
    (add kind ds).Parts l ↔ (add kind ds).refusal? .onConflict l ≠ (add kind ds).refusal? .savepoint l := by
  by_cases hwanted : wanted ds = []
  · -- what names nothing is not refused
    have hidle : (add kind ds).writes = false := by rw [writes, hwanted]; rfl
    rw [refusal?_of_idle hidle, refusal?_of_idle hidle, parts_add_of_le (by simp [hwanted]), hwanted]
    simp
  obtain ⟨name, rest, hnames⟩ := List.exists_cons_of_ne_nil hwanted
  rw [refusal?_onConflict_add hwanted, refusal?_savepoint_add, Limits.refusal?_eq]
  by_cases hmany : l.maxValues < 3 * (wanted ds).length
  · refine iff_of_true (.tooMuch (.add kind hmany)) ?_
    rw [if_pos hmany, hnames, List.head?_cons, Option.map_some]
    split_ifs <;> simp
  rw [parts_add_of_le hmany, if_neg hmany]
  by_cases hwhole : ∀ name ∈ wanted ds, name.Whole
  · have hfirst : name.Whole := hwhole name (by rw [hnames]; exact List.mem_cons_self ..)
    refine iff_of_false (fun h => h.2.2 hwhole) fun h => h ?_
    rw [if_pos hwhole, if_pos hwhole, hnames, List.head?_cons, Option.map_some, if_pos hfirst]
  rw [if_neg hwhole, if_neg hwhole]
  cases hw : l.isWritable with
  | true => simp
  | false =>
    -- where nothing can be written, the first name alone decides for savepoints
    rw [hnames] at hwhole ⊢
    by_cases hfirst : name.Whole
    · obtain ⟨d, rfl⟩ := Text.whole_iff_ofString.1 hfirst
      exact iff_of_true ⟨rfl, ⟨d, rfl⟩, hwhole⟩ (by simp)
    · refine iff_of_false ?_ (by simp [hfirst])
      rintro ⟨-, ⟨d, hd⟩, -⟩
      cases hd
      exact hfirst (Text.whole_ofString d)

/-- The two ways refuse a call alike, but for an addition that parts them. -/
theorem parts_iff : c.Parts l ↔ c.refusal? .onConflict l ≠ c.refusal? .savepoint l := by
  cases c with
  | add kind ds => exact parts_add_iff
  | remove kind ds => exact iff_of_false (by rintro (⟨⟨⟩⟩ | _)) fun h => h rfl
  | list kind => exact iff_of_false (by rintro (⟨⟨⟩⟩ | _)) fun h => h rfl
  | rows => exact iff_of_false (by rintro (⟨⟨⟩⟩ | _)) fun h => h rfl

/-- What one statement can do savepoints can. -/
theorem refusal?_savepoint_of_onConflict (h : c.refusal? .onConflict l = none) : c.refusal? .savepoint l = none := by
  cases c with
  | add kind ds =>
    by_cases hwanted : wanted ds = []
    · exact refusal?_of_idle (by rw [writes, hwanted]; rfl) _ _
    · rw [refusal?_onConflict_add hwanted, Limits.refusal?_eq_none_iff] at h
      rw [refusal?_savepoint_add, if_pos h.2.2, if_pos h.2.1]
  | remove kind ds => exact h
  | list kind => rfl
  | rows => rfl

theorem Accepted.savepoint {calls : List Call} (h : Accepted .onConflict l calls) : Accepted .savepoint l calls :=
  fun c hc => refusal?_savepoint_of_onConflict (h c hc)

/-- Whether calls come to an addition that parts the two ways, all calls before it being taken. -/
def ComeApart (l : Limits) (calls : List Call) : Prop :=
  ∃ before c after, calls = before ++ c :: after ∧ Accepted .onConflict l before ∧ c.Parts l

theorem not_comeApart_nil : ¬ComeApart l [] := by
  rintro ⟨before, c, after, hcalls, -⟩
  cases before <;> cases hcalls

theorem comeApart_cons {calls : List Call} :
    ComeApart l (c :: calls) ↔ c.Parts l ∨ c.refusal? .onConflict l = none ∧ ComeApart l calls := by
  constructor
  · rintro ⟨before, c', after, hcalls, haccepted, hparts⟩
    cases before with
    | nil =>
      cases hcalls
      exact Or.inl hparts
    | cons c'' before =>
      cases hcalls
      obtain ⟨hc, haccepted⟩ := accepted_cons.1 haccepted
      exact Or.inr ⟨hc, before, c', after, rfl, haccepted, hparts⟩
  · rintro (hparts | ⟨hc, before, c', after, rfl, haccepted, hparts⟩)
    · exact ⟨[], c, calls, rfl, accepted_nil, hparts⟩
    · exact ⟨c :: before, c', after, rfl, accepted_cons.2 ⟨hc, haccepted⟩, hparts⟩

end Call

/-- Without a table, a call fails for the same reason unless it is too much for one statement. -/
theorem Limits.unmet_savepoint_eq_iff {l : Limits} {c : Call} {e : StoreError} (he : e ≠ .tooManyValues) :
    l.unmet .savepoint c e = l.unmet .onConflict c e ↔ ¬c.TooMuch l := by
  cases c with
  | add kind ds =>
    have hrow : l.unmet .savepoint (.add kind ds) e = e := if_neg (l.not_maxValues_lt (by decide : 3 ≤ 3000))
    rw [hrow]
    by_cases hmany : l.maxValues < 3 * (wanted ds).length
    · have hone : l.unmet .onConflict (.add kind ds) e = .tooManyValues := if_pos hmany
      rw [hone]
      exact iff_of_false he fun h => h (.add kind hmany)
    · have hone : l.unmet .onConflict (.add kind ds) e = e := if_neg hmany
      rw [hone]
      refine iff_of_true rfl ?_
      rintro ⟨_, h⟩
      exact hmany h
  | remove kind ds => exact iff_of_true rfl (by rintro ⟨⟩)
  | list kind => exact iff_of_true rfl (by rintro ⟨⟩)
  | rows => exact iff_of_true rfl (by rintro ⟨⟩)

namespace Session

theorem before_injective (r : Reply) : Function.Injective r.before := by
  rintro (⟨replies, e⟩ | rs) (⟨replies', e'⟩ | rs') h <;> cases h <;> rfl

theorem before_ne_error (r : Reply) (rest : Except SessionFailure (List Reply)) (e : StoreError) :
    r.before rest ≠ .error { error := e } := by
  cases rest <;> exact nofun

/-- The answers part exactly at the first call that is not refused alike. -/
theorem answer_savepoint_eq_iff (l : Limits) (t : Table) (calls : List Call) :
    answer .savepoint l t calls = answer .onConflict l t calls ↔ ¬Call.ComeApart l calls := by
  induction calls generalizing t with
  | nil => exact iff_of_true rfl Call.not_comeApart_nil
  | cons c calls ih =>
    rw [Call.comeApart_cons]
    by_cases hparts : c.Parts l
    · refine iff_of_false (fun h => ?_) fun h => h (Or.inl hparts)
      have hne := Call.parts_iff.1 hparts
      cases hone : c.refusal? .onConflict l with
      | none => exact hne (hone.trans (Call.refusal?_savepoint_of_onConflict hone).symm)
      | some e =>
        rw [answer_cons_of_refused hone] at h
        cases heach : c.refusal? .savepoint l with
        | none =>
          rw [answer_cons_of_accepted heach] at h
          exact before_ne_error _ _ _ h
        | some e' =>
          rw [answer_cons_of_refused heach] at h
          cases h
          exact hne (hone.trans heach.symm)
    · have halike : c.refusal? .onConflict l = c.refusal? .savepoint l := not_not.1 (mt Call.parts_iff.2 hparts)
      rw [or_iff_right hparts]
      cases hone : c.refusal? .onConflict l with
      | some e =>
        rw [answer_cons_of_refused hone, answer_cons_of_refused (halike ▸ hone)]
        exact iff_of_true rfl fun h => nomatch h.1
      | none =>
        rw [answer_cons_of_accepted hone, answer_cons_of_accepted (halike ▸ hone), (before_injective _).eq_iff, ih,
          and_iff_right rfl]

variable {s s' s'' : Session}

/-! ### Savepoints -/

/-- Outside a transaction a session sees what is committed. -/
def Settled (s : Session) : Prop := s.isOpen = false → s.saved = s.current

theorem settled_of_isOpen (h : s.isOpen = true) : s.Settled := by
  intro ho
  rw [h] at ho
  cases ho

/-- What becomes of a session under savepoints: committed rows are not lost, and in a transaction none are added to
them. -/
structure Follows (s s' : Session) : Prop where
  settled : s'.Settled
  saved_isPrefix : s.saved <+: s'.saved
  of_isOpen : s.isOpen = true → s'.isOpen = true ∧ s'.saved = s.saved

namespace Follows

theorem refl (h : s.Settled) : s.Follows s := ⟨h, List.prefix_rfl, fun ho => ⟨ho, rfl⟩⟩

theorem trans (h : s.Follows s') (h' : s'.Follows s'') : s.Follows s'' := by
  refine ⟨h'.settled, h.saved_isPrefix.trans h'.saved_isPrefix, fun ho => ?_⟩
  obtain ⟨ho', hsaved⟩ := h.of_isOpen ho
  obtain ⟨ho'', hsaved'⟩ := h'.of_isOpen ho'
  exact ⟨ho'', hsaved'.trans hsaved⟩

end Follows

/-- A row that is there opens a transaction. -/
theorem insertUnderSavepoint_of_contains {kind : RuleKind} {d : String} (h : s.current.contains kind d = true) :
    s.insertUnderSavepoint kind d = { s with isOpen := true } := if_pos h

/-- A new row is committed if no transaction is open. -/
theorem insertUnderSavepoint_of_not_contains {kind : RuleKind} {d : String} (h : s.current.contains kind d = false)
    (ho : s.isOpen = false) :
    s.insertUnderSavepoint kind d =
      { s with saved := s.current ++ [⟨s.current.nextId, d, kind⟩]
               current := s.current ++ [⟨s.current.nextId, d, kind⟩] } := by
  unfold insertUnderSavepoint Table.insert
  simp only [h, ho, Bool.false_eq_true, if_false]

theorem follows_insertUnderSavepoint (h : s.Settled) (kind : RuleKind) (d : String) :
    s.Follows (s.insertUnderSavepoint kind d) := by
  cases hc : s.current.contains kind d with
  | true =>
    rw [insertUnderSavepoint_of_contains hc]
    exact ⟨settled_of_isOpen rfl, List.prefix_rfl, fun _ => ⟨rfl, rfl⟩⟩
  | false =>
    cases ho : s.isOpen with
    | true =>
      unfold insertUnderSavepoint
      simp only [hc, ho, Bool.false_eq_true, if_false, if_true]
      exact ⟨settled_of_isOpen rfl, List.prefix_rfl, fun _ => ⟨rfl, rfl⟩⟩
    | false =>
      rw [insertUnderSavepoint_of_not_contains hc ho]
      refine ⟨fun _ => rfl, ?_, fun ho' => ?_⟩
      · rw [h ho]
        exact List.prefix_append _ _
      · rw [ho] at ho'
        cases ho'

theorem follows_foldl_insertUnderSavepoint (h : s.Settled) (kind : RuleKind) (ds : List String) :
    s.Follows (ds.foldl (insertUnderSavepoint kind) s) := by
  induction ds generalizing s with
  | nil => exact .refl h
  | cons d ds ih =>
    have hd := follows_insertUnderSavepoint h kind d
    exact hd.trans (ih hd.settled)

/-- Whether a call is refused or not, what it leaves follows. -/
theorem follows_step (h : s.Settled) (c : Call) : s.Follows (s.step .savepoint c).1 := by
  cases c with
  | add kind ds =>
    obtain ⟨done, -, hsession, -⟩ := exists_insertEach kind s (wanted ds)
    rw [step, listAfter_fst, add_savepoint, hsession]
    exact follows_foldl_insertUnderSavepoint h kind done
  | remove kind ds =>
    rw [step, listAfter_fst]
    by_cases hwanted : wanted ds = []
    · rw [remove_of_wanted_nil hwanted]
      exact .refl h
    · rw [remove_of_wanted hwanted, execute]
      split
      · exact .refl h
      · exact ⟨settled_of_isOpen rfl, List.prefix_rfl, fun _ => ⟨rfl, rfl⟩⟩
  | list kind => exact .refl h
  | rows => exact .refl h

theorem follows_run (h : s.Settled) (calls : List Call) : s.Follows (s.run .savepoint calls).1 := by
  induction calls generalizing s with
  | nil => exact .refl h
  | cons c calls ih =>
    have hstep := follows_step h c
    cases hr : c.refusal? .savepoint s.limits with
    | some e =>
      rw [run_cons_of_refused hr]
      exact hstep
    | none =>
      rw [run_cons_of_accepted hr]
      exact hstep.trans (ih hstep.settled)

/-- What a call has committed stays. -/
theorem saved_step_isPrefix_run (h : s.Settled) (c : Call) (calls : List Call) :
    (s.step .savepoint c).1.saved <+: (s.run .savepoint (c :: calls)).1.saved := by
  cases hr : c.refusal? .savepoint s.limits with
  | some e => rw [run_cons_of_refused hr]
  | none =>
    rw [run_cons_of_accepted hr]
    exact (follows_run (follows_step h c).settled calls).saved_isPrefix

/-- A new row that comes first is committed at once. -/
theorem saved_length_lt_step {kind : RuleKind} {ds : List Text} {d : String} (h : s.Settled) (ho : s.isOpen = false)
    (hw : s.limits.isWritable = true) (hd : (wanted ds).head? = some (Text.ofString d))
    (hnew : d ∉ s.current.domains kind) :
    s.saved.length < (s.step .savepoint (.add kind ds)).1.saved.length := by
  obtain ⟨rest, hwanted⟩ := List.head?_eq_some_iff.1 hd
  have hc : s.current.contains kind d = false := by
    rw [Bool.eq_false_iff, ne_eq, Table.contains_iff_mem_domains]
    exact hnew
  have hrow : s.limits.refusal? rowValues [Text.ofString d] = none := by
    rw [Limits.refusal?_row, if_pos (Text.whole_ofString d), if_pos hw]
  obtain ⟨done, -, hsession, -⟩ := exists_insertEach kind (s.insertUnderSavepoint kind d) rest
  rw [step, listAfter_fst, add_savepoint, hwanted, insertEach_cons_of_accepted hrow, hsession,
    insertUnderSavepoint_of_not_contains hc ho]
  refine Nat.lt_of_lt_of_le ?_ (follows_foldl_insertUnderSavepoint (fun _ => rfl) kind done).saved_isPrefix.length_le
  rw [h ho, List.length_append]
  exact Nat.lt_succ_self _

/-- Anything else that comes first is refused or opens a transaction. -/
theorem isOpen_step_or {c : Call} (hw : c.writes = true)
    (hnew : ¬(s.limits.isWritable = true ∧ ∃ kind ds d, c = .add kind ds ∧
      (wanted ds).head? = some (Text.ofString d) ∧ d ∉ s.current.domains kind)) :
    (s.step .savepoint c).1.saved = s.saved ∧
      ((s.step .savepoint c).1.isOpen = true ∨ ∃ e, c.refusal? .savepoint s.limits = some e) := by
  cases c with
  | add kind ds =>
    rw [Call.writes, decide_eq_true_eq] at hw
    obtain ⟨name, rest, hwanted⟩ := List.exists_cons_of_ne_nil hw
    rw [step, listAfter_fst, add_savepoint, hwanted]
    cases hr : s.limits.refusal? rowValues [name] with
    | some e =>
      rw [insertEach_cons_of_refused hr]
      refine ⟨rfl, Or.inr ⟨e, ?_⟩⟩
      rw [Call.refusal?, hwanted, List.findSome?_cons, hr]
    | none =>
      obtain ⟨-, hwhole, hwritable⟩ := Limits.refusal?_eq_none_iff.1 hr
      obtain ⟨d, rfl⟩ := Text.whole_iff_ofString.1 (hwhole name (List.mem_singleton_self name))
      have hc : s.current.contains kind d = true := by
        rw [Table.contains_iff_mem_domains]
        by_contra hd
        exact hnew ⟨hwritable, kind, ds, d, rfl, by rw [hwanted]; rfl, hd⟩
      obtain ⟨done, -, hsession, -⟩ := exists_insertEach kind (s.insertUnderSavepoint kind d) rest
      rw [insertEach_cons_of_accepted hr, hsession, insertUnderSavepoint_of_contains hc]
      have hfollows :=
        follows_foldl_insertUnderSavepoint (s := { s with isOpen := true }) (settled_of_isOpen rfl) kind done
      obtain ⟨hopen, hsaved⟩ := hfollows.of_isOpen rfl
      exact ⟨hsaved, Or.inl hopen⟩
  | remove kind ds =>
    rw [Call.writes, decide_eq_true_eq] at hw
    rw [step, listAfter_fst, remove_of_wanted hw]
    cases hr : s.limits.refusal? (1 + (wanted ds).length) (wanted ds) with
    | some e =>
      rw [execute_of_refused hr]
      exact ⟨rfl, Or.inr ⟨e, (if_neg hw).trans hr⟩⟩
    | none =>
      rw [execute_of_accepted hr]
      exact ⟨rfl, Or.inl rfl⟩
  | list kind => cases hw
  | rows => cases hw

/-- A session leaves the committed rows alone before its end if and only if nothing can be written or the first row that
it would change is not a new one. -/
theorem saved_run_savepoint_iff (h : s.Settled) (ho : s.isOpen = false) (calls : List Call) :
    (s.run .savepoint calls).1.saved = s.saved ↔
      ¬(s.limits.isWritable = true ∧ s.current.StartsWithNewRow calls) := by
  induction calls with
  | nil => exact iff_of_true rfl fun h => Table.not_startsWithNewRow_nil h.2
  | cons c calls ih =>
    cases hw : c.writes with
    | false =>
      rw [Table.startsWithNewRow_cons_of_idle hw, ← ih, run_cons_of_accepted (Call.refusal?_of_idle hw _ _),
        step_of_idle hw]
    | true =>
      rw [Table.startsWithNewRow_cons_of_writes hw]
      constructor
      · rintro hsaved ⟨hwritable, kind, ds, d, rfl, hd, hnew⟩
        have hlength := Nat.lt_of_lt_of_le (saved_length_lt_step h ho hwritable hd hnew)
          (saved_step_isPrefix_run h _ calls).length_le
        rw [hsaved] at hlength
        exact Nat.lt_irrefl _ hlength
      · intro hnew
        obtain ⟨hsaved, hopen | ⟨e, he⟩⟩ := isOpen_step_or hw hnew
        · cases hr : c.refusal? .savepoint s.limits with
          | some e => rw [run_cons_of_refused hr, hsaved]
          | none =>
            rw [run_cons_of_accepted hr]
            exact ((follows_run (follows_step h c).settled calls).of_isOpen hopen).2.trans hsaved
        · rw [run_cons_of_refused he, hsaved]

end Session

/-- Whether savepoints leave other rows than one statement: they carry everything out, where one statement is refused,
and that changes the rows; or the session is aborted or left, and the first row that it would change is a new one. -/
def Table.LeftApart (t : Table) (l : Limits) (ending : Database.Ending) (calls : List Call) : Prop :=
  if ending = .clean ∧ Call.Accepted .savepoint l calls then
    ¬Call.Accepted .onConflict l calls ∧ calls.foldl Table.after t ≠ t
  else l.isWritable = true ∧ t.StartsWithNewRow calls

theorem Table.not_leftApart_nil {t : Table} {l : Limits} {ending : Database.Ending} : ¬t.LeftApart l ending [] := by
  unfold LeftApart
  split
  · exact fun h => h.1 Call.accepted_nil
  · exact fun h => not_startsWithNewRow_nil h.2

namespace Session

variable {l : Limits} {t : Table} {ending : Database.Ending} {calls : List Call}

/-- A session that adds in one statement and is aborted or left leaves the rows as they were. -/
theorem left_onConflict (h : ¬(ending = .clean ∧ Call.Accepted .onConflict l calls)) :
    (start l t).left .onConflict ending calls = t := by
  rw [left_rollback h, saved_run_onConflict]
  rfl

theorem left_savepoint_eq_iff :
    (start l t).left .savepoint ending calls = (start l t).left .onConflict ending calls ↔
      ¬t.LeftApart l ending calls := by
  have hsettled : (start l t).Settled := fun _ => rfl
  unfold Table.LeftApart
  by_cases heach : ending = .clean ∧ Call.Accepted .savepoint l calls
  · obtain ⟨rfl, hsavepoint⟩ := heach
    rw [if_pos ⟨rfl, hsavepoint⟩, left_clean (s := start l t) hsavepoint]
    by_cases hone : Call.Accepted .onConflict l calls
    · rw [left_clean (s := start l t) hone]
      exact iff_of_true rfl fun h => h.1 hone
    · rw [left_onConflict fun h => hone h.2, and_iff_right hone, not_not]
      rfl
  · have hone : ¬(ending = .clean ∧ Call.Accepted .onConflict l calls) := fun h => heach ⟨h.1, h.2.savepoint⟩
    rw [if_neg heach, left_rollback (s := start l t) heach, left_onConflict hone]
    exact saved_run_savepoint_iff hsettled rfl calls

end Session

namespace Database

/-- Whether a session comes to an addition that parts the two ways.  Where there is no table the first call fails, and it
parts them if it is too much for one statement, which is noticed before the table is looked for. -/
def ComesApart (db : Database) (calls : List Call) : Prop :=
  (∃ t, db.Offers t) ∧ Call.ComeApart db.toLimits calls ∨
    (∀ obstacle, db.location ≠ .nowhere obstacle) ∧ ∃ first rest, calls = first :: rest ∧ first.TooMuch db.toLimits

variable {db db' : Database} {calls : List Call} {t : Table}

theorem comesApart_of_offers (h : db.Offers t) : db.ComesApart calls ↔ Call.ComeApart db.toLimits calls := by
  constructor
  · rintro (⟨-, hparts⟩ | ⟨-, first, rest, rfl, hmuch⟩)
    · exact hparts
    · exact Call.comeApart_cons.2 (Or.inl (.tooMuch hmuch))
  · exact fun hparts => Or.inl ⟨⟨t, h⟩, hparts⟩

theorem comesApart_of_not_offers (h : ∀ t, ¬db.Offers t) {first : Call} {rest : List Call} :
    db.ComesApart (first :: rest) ↔
      (∀ obstacle, db.location ≠ .nowhere obstacle) ∧ first.TooMuch db.toLimits := by
  constructor
  · rintro (⟨⟨t, ht⟩, -⟩ | ⟨hreachable, _, _, hcalls, hmuch⟩)
    · exact absurd ht (h t)
    · cases hcalls
      exact ⟨hreachable, hmuch⟩
  · rintro ⟨hreachable, hmuch⟩
    exact Or.inr ⟨hreachable, first, rest, rfl, hmuch⟩

theorem not_comesApart_nil (db : Database) : ¬db.ComesApart [] := by
  rintro (⟨-, hparts⟩ | ⟨-, _, _, hcalls, -⟩)
  · exact Call.not_comeApart_nil hparts
  · cases hcalls

theorem find_ne_tooManyValues (db : Database) : db.find ≠ .error .tooManyValues := by
  unfold find
  split
  · exact nofun
  · split <;> exact nofun

/-- Where there is no table the answers part exactly at a first call that is too much for one statement. -/
theorem answers_alike_of_not_offers (h : ∀ t, ¬db.Offers t) (ending : Ending) (first : Call) (rest : List Call) :
    (db.session .savepoint ending (first :: rest)).2 = (db.session .onConflict ending (first :: rest)).2 ↔
      ¬db.ComesApart (first :: rest) := by
  rw [comesApart_of_not_offers h]
  cases hc : db.connect with
  | error e =>
    rw [session_of_connect_error hc (List.cons_ne_nil _ _), session_of_connect_error hc (List.cons_ne_nil _ _)]
    refine iff_of_true rfl fun ⟨hreachable, _⟩ => ?_
    cases hc.symm.trans (connect_of_reachable hreachable)
  | ok connected =>
    have hreachable := (reachable_of_connect hc).1
    cases hfind : db.find with
    | error e =>
      have he : e ≠ .tooManyValues := fun he => find_ne_tooManyValues db (he ▸ hfind)
      rw [session_of_find_error hc hfind, session_of_find_error hc hfind, and_iff_right hreachable,
        ← Limits.unmet_savepoint_eq_iff he]
      simp only [Except.error.injEq, SessionFailure.mk.injEq, true_and]
    | ok t =>
      obtain ⟨hnative, htable⟩ := find_eq_ok_iff.1 hfind
      exact absurd ⟨hreachable, hnative, htable⟩ (h t)

/-- The two ways of adding answer a session alike unless it comes to an addition that parts them.  One statement leaves
nothing of a session that is aborted or left, and savepoints lose no row of it.  They leave the same rows, unless they
carry out what is too much for one statement, or the session is aborted or left and the first row that it would change
is a new one. -/
theorem session_savepoint_eq_iff (db : Database) (ending : Ending) (calls : List Call) :
    ((db.session .savepoint ending calls).2 = (db.session .onConflict ending calls).2 ↔
        ¬db.ComesApart calls) ∧
      (ending = .abort ∨ (∃ f, (db.session .onConflict ending calls).2 = .error f) →
        (db.session .onConflict ending calls).1.table = db.table) ∧
      (ending = .abort ∨ (∃ f, (db.session .savepoint ending calls).2 = .error f) →
        db.rows <+: (db.session .savepoint ending calls).1.rows) ∧
      ((db.session .savepoint ending calls).1.table = (db.session .onConflict ending calls).1.table ↔
        ¬∃ t, db.Offers t ∧ t.LeftApart db.toLimits ending calls) := by
  rcases calls with _ | ⟨first, rest⟩
  · refine ⟨iff_of_true rfl db.not_comesApart_nil, fun _ => rfl, fun _ => List.prefix_rfl, iff_of_true rfl ?_⟩
    rintro ⟨t, -, hapart⟩
    exact Table.not_leftApart_nil hapart
  have hcalls : first :: rest ≠ [] := List.cons_ne_nil _ _
  rcases offers_or_not db with ⟨t, ht⟩ | hnot
  · have hrows : db.rows = t := rows_eq_of_some ht.table_eq
    have hunique {t' : Table} (ht' : db.Offers t') : t' = t := Option.some.inj (ht'.table_eq.symm.trans ht.table_eq)
    simp only [session_of_offers ht hcalls, Option.some_inj, Session.left_savepoint_eq_iff, comesApart_of_offers ht]
    refine ⟨Session.answer_savepoint_eq_iff _ t _, fun h => ?_, fun h => ?_, not_congr ⟨fun h => ⟨t, ht, h⟩, ?_⟩⟩
    · rw [Session.left_onConflict (Session.not_carried h), ht.table_eq]
    · rw [hrows]
      show t <+: (Session.start db.toLimits t).left .savepoint ending (first :: rest)
      rw [Session.left_rollback (s := Session.start db.toLimits t) (Session.not_carried h)]
      exact (Session.follows_run (s := Session.start db.toLimits t) (fun _ => rfl) (first :: rest)).saved_isPrefix
    · rintro ⟨t', ht', h⟩
      rwa [hunique ht'] at h
  · obtain ⟨e, isConnected, heach⟩ := session_of_not_offers hnot hcalls .savepoint ending
    obtain ⟨e', isConnected', hone⟩ := session_of_not_offers hnot hcalls .onConflict ending
    refine ⟨answers_alike_of_not_offers hnot ending first rest, fun _ => ?_, fun _ => ?_, ?_⟩
    · rw [hone]
    · rw [heach]
      exact List.prefix_rfl
    · rw [heach, hone]
      exact iff_of_true rfl fun ⟨t, ht, _⟩ => hnot t ht

/-- A domain that is added to an empty table under a savepoint stays when the session is rolled back. -/
theorem session_savepoint_keeps_row :
    (session .onConflict .abort [.add .allowed ["a"]] { table := some [] }).1.table = some [] ∧
      (session .savepoint .abort [.add .allowed ["a"]] { table := some [] }).1.table =
        some [⟨1, "a", .allowed⟩] := by
  decide +kernel

end Database

end DomainPolicy
