import DomainPolicy.Proofs.Store.Atomicity
import Mathlib.Data.String.Basic

/-!
# What a call does to the rows

Adding leaves the rows as they are and appends the domains that are named and not there, in order of code points and
numbered on without a gap (`Table.Appends`, `Table.exists_appends_add`).  Removing deletes the rows that are named and
leaves the others.  A list of domains counts only for the set of names that it comes to (`Domain.wanted_congr`), and a
call that is repeated changes no row (`Table.after_after`).  The same is said of sessions, whichever way they add, and
of the rows that they commit (`Session.effect_of_step`).
-/

namespace DomainPolicy

namespace Table

open Domain (named storable)

variable {t : Table} {kind : RuleKind} {ds names : List String} {d : String}

/-! ### The next number -/

/-- Whether a number comes next in a table: one behind the largest there, or one if there is none. -/
def IsNext (t : Table) (n : Nat) : Prop :=
  (t = [] ∧ n = 1) ∨ ∃ r ∈ t, (∀ r' ∈ t, r'.id ≤ r.id) ∧ n = r.id + 1

theorem isNext_nextId (t : Table) : t.IsNext t.nextId := by
  cases t with
  | nil => exact Or.inl ⟨rfl, rfl⟩
  | cons r t =>
    have hmax : ((r :: t).map Row.id).max? = some (((r :: t).map Row.id).foldl max 0) := by
      rw [List.map_cons, List.max?_cons', List.foldl_cons, Nat.zero_max]
    obtain ⟨hmem, hle⟩ := List.max?_eq_some_iff.1 hmax
    obtain ⟨s, hs, hid⟩ := List.mem_map.1 hmem
    refine Or.inr ⟨s, hs, fun r' hr' => ?_, congrArg (· + 1) hid.symm⟩
    rw [hid]
    exact hle _ (List.mem_map_of_mem hr')

theorem isNext_iff {n : Nat} : t.IsNext n ↔ n = t.nextId := by
  refine ⟨fun h => ?_, fun h => h ▸ isNext_nextId t⟩
  rcases h, isNext_nextId t with ⟨⟨rfl, rfl⟩ | ⟨r, hr, hle, rfl⟩, ⟨hnil, hn⟩ | ⟨s, hs, hle', hn⟩⟩
  · exact hn.symm
  · cases hs
  · rw [hnil] at hr
    cases hr
  · rw [hn, Nat.le_antisymm (hle' r hr) (hle s hs)]

theorem nextId_append (t : Table) (kind : RuleKind) (d : String) :
    Table.nextId (t ++ [⟨t.nextId, d, kind⟩]) = t.nextId + 1 := by
  unfold nextId
  rw [List.map_append, List.foldl_append]
  exact congrArg (· + 1) (Nat.max_eq_right (Nat.le_succ _))

/-! ### Adding -/

/-- Whether rows are those of a kind that come next in a table for certain names, in their order. -/
structure Appends (t : Table) (kind : RuleKind) (names : List String) (new : Table) : Prop where
  kinds : ∀ r ∈ new, r.kind = kind
  domains : new.map Row.domain = names
  ids : ∃ n, t.IsNext n ∧ new.map Row.id = List.range' n new.length

theorem appends_nil (t : Table) (kind : RuleKind) : t.Appends kind [] [] :=
  ⟨fun _ => nofun, rfl, t.nextId, isNext_nextId t, rfl⟩

/-- One row more in front of those that come next once it is there. -/
theorem Appends.cons {new : Table} (h : Appends (t ++ [⟨t.nextId, d, kind⟩]) kind names new) :
    t.Appends kind (d :: names) (⟨t.nextId, d, kind⟩ :: new) := by
  obtain ⟨n, hn, hids⟩ := h.ids
  rw [isNext_iff, nextId_append] at hn
  refine ⟨List.forall_mem_cons.2 ⟨rfl, h.kinds⟩, congrArg (d :: ·) h.domains, t.nextId, isNext_nextId t, ?_⟩
  rw [List.map_cons, hids, hn, List.length_cons, List.range'_succ]

theorem exists_appends_foldl_insert (h : ds.Nodup) (t : Table) (kind : RuleKind) :
    ∃ new, ds.foldl (insert kind) t = t ++ new ∧ t.Appends kind (ds.filter (· ∉ t.domains kind)) new := by
  induction ds generalizing t with
  | nil => exact ⟨[], (List.append_nil t).symm, appends_nil t kind⟩
  | cons d ds ih =>
    rw [List.nodup_cons] at h
    rw [List.foldl_cons]
    by_cases hd : d ∈ t.domains kind
    · have hinsert : insert kind t d = t := if_pos (contains_iff_mem_domains.2 hd)
      rw [hinsert, List.filter_cons_of_neg (by simpa using hd)]
      exact ih h.2 t
    · have hinsert : insert kind t d = t ++ [⟨t.nextId, d, kind⟩] :=
        if_neg fun hc => hd (contains_iff_mem_domains.1 hc)
      -- of the names that follow, the new row makes none one that is there
      have hfilter : ds.filter (· ∉ (insert kind t d).domains kind) = ds.filter (· ∉ t.domains kind) := by
        refine List.filter_congr fun x hx => decide_eq_decide.2 (not_congr ?_)
        rw [mem_domains_insert, or_iff_left]
        rintro ⟨-, rfl⟩
        exact h.1 hx
      obtain ⟨new, hfold, hnew⟩ := ih h.2 (insert kind t d)
      rw [hfilter] at hnew
      rw [hfold, List.filter_cons_of_pos (by simpa using hd)]
      rw [hinsert] at hnew ⊢
      exact ⟨_ :: new, List.append_assoc t [_] new, hnew.cons⟩

theorem storable_sorted (ds : List Text) : (storable ds).SortedLT := by
  rw [Domain.storable_eq_sort]
  exact (named ds).sortedLT_sort

theorem filter_storable (t : Table) (kind : RuleKind) (ds : List Text) :
    (storable ds).filter (· ∉ t.domains kind) = (named ds \ t.domains kind).sort := by
  refine ((storable_sorted ds).pairwise.filter _).sortedLT.eq_of_mem_iff (Finset.sortedLT_sort _) fun d => ?_
  rw [List.mem_filter, Domain.mem_storable, decide_eq_true_eq, Finset.mem_sort, Finset.mem_sdiff]

theorem exists_appends_add (t : Table) (kind : RuleKind) (ds : List Text) :
    ∃ new, t.add kind ds = t ++ new ∧ t.Appends kind (named ds \ t.domains kind).sort new := by
  rw [← filter_storable]
  exact exists_appends_foldl_insert (storable_sorted ds).nodup t kind

/-! ### Calls -/

/-- What a call makes of a table. -/
def Effect (t : Table) : Call → Table → Prop
  | .add kind ds, t' => ∃ new, t' = t ++ new ∧ t.Appends kind (named ds \ t.domains kind).sort new
  | .remove kind ds, t' => t' = t.filter fun r => ¬(r.kind = kind ∧ r.domain ∈ named ds)
  | .list _, t' | .rows, t' => t' = t

theorem effect_after (t : Table) (c : Call) : t.Effect c (t.after c) := by
  cases c with
  | add kind ds => exact exists_appends_add t kind ds
  | remove kind ds =>
    refine List.filter_congr fun r _ => decide_eq_decide.2 ?_
    rw [Domain.mem_storable]
  | list kind => rfl
  | rows => rfl

/-- What calls make of a table, one after the other. -/
inductive Effects : Table → List Call → Table → Prop
  | nil (t : Table) : Effects t [] t
  | cons {t t' t'' : Table} {c : Call} {calls : List Call} : t.Effect c t' → Effects t' calls t'' →
      Effects t (c :: calls) t''

theorem effects_foldl_after (t : Table) (calls : List Call) : t.Effects calls (calls.foldl after t) := by
  induction calls generalizing t with
  | nil => exact .nil t
  | cons c calls ih => exact .cons (effect_after t c) (ih (t.after c))

/-- A call that is repeated changes no row. -/
theorem after_after (t : Table) (c : Call) : (t.after c).after c = t.after c := by
  cases c with
  | add kind ds =>
    refine foldl_insert_of_contains fun d hd => ?_
    rw [contains_iff_mem_domains, after, add, mem_domains_foldl_insert]
    exact Or.inr ⟨rfl, hd⟩
  | remove kind ds =>
    show List.filter _ (List.filter _ t) = List.filter _ t
    simp only [List.filter_filter, Bool.and_self]
  | list kind => rfl
  | rows => rfl

end Table

/-! ### Which calls are taken -/

namespace Call

open Domain (names wanted)

variable {how : Insertion} {l : Limits} {c : Call}

/-- Whether a database takes a call: it names nothing, or the database can be written, every name can be encoded, and
one statement is not asked to bind too much, which is three values a name to add, and one a name and one more to
remove. -/
def Taken (how : Insertion) (l : Limits) : Call → Prop
  | add _ ds => names ds = ∅ ∨ l.isWritable = true ∧ (∀ name ∈ names ds, name.Whole) ∧
      (how = .onConflict → 3 * (names ds).card ≤ l.maxValues)
  | remove _ ds => names ds = ∅ ∨ l.isWritable = true ∧ (∀ name ∈ names ds, name.Whole) ∧
      1 + (names ds).card ≤ l.maxValues
  | list _ | rows => True

theorem refusal?_eq_none_iff : c.refusal? how l = none ↔ c.Taken how l := by
  cases c with
  | add kind ds =>
    by_cases hwanted : wanted ds = []
    · exact iff_of_true (refusal?_of_idle (by rw [writes, hwanted]; rfl) how l)
        (Or.inl (Domain.wanted_eq_nil_iff.1 hwanted))
    rw [Taken, or_iff_right (mt Domain.wanted_eq_nil_iff.2 hwanted), ← Domain.length_wanted]
    simp only [← Domain.mem_wanted]
    cases how with
    | onConflict =>
      rw [refusal?_onConflict_add hwanted, Limits.refusal?_eq_none_iff]
      tauto
    | savepoint =>
      obtain ⟨name, rest, hnames⟩ := List.exists_cons_of_ne_nil hwanted
      rw [refusal?_savepoint_add, hnames, List.head?_cons, Option.map_some]
      split_ifs with hw hwhole
      · exact iff_of_true rfl ⟨hw, hwhole, False.elim⟩
      · exact iff_of_false not_false fun h => hwhole h.2.1
      · exact iff_of_false not_false fun h => hw h.1
  | remove kind ds =>
    by_cases hwanted : wanted ds = []
    · exact iff_of_true (refusal?_of_idle (by rw [writes, hwanted]; rfl) how l)
        (Or.inl (Domain.wanted_eq_nil_iff.1 hwanted))
    rw [Taken, or_iff_right (mt Domain.wanted_eq_nil_iff.2 hwanted), ← Domain.length_wanted, refusal?, if_neg hwanted,
      Limits.refusal?_eq_none_iff]
    simp only [← Domain.mem_wanted]
    tauto
  | list kind => exact iff_of_true rfl trivial
  | rows => exact iff_of_true rfl trivial

end Call

namespace Session

open Domain (names named)

variable {how : Insertion} {s : Session} {kind : RuleKind} {ds ds' : List Text} {c : Call}

/-- A list of domains counts only for the set of names that it comes to. -/
theorem step_congr (h : names ds = names ds') :
    s.step how (.add kind ds) = s.step how (.add kind ds') ∧
      s.step how (.remove kind ds) = s.step how (.remove kind ds') := by
  have hadd : s.add how kind ds = s.add how kind ds' := by
    unfold add Table.add Domain.storable
    rw [Domain.wanted_congr h]
  have hremove : s.remove kind ds = s.remove kind ds' := by
    unfold remove Table.remove Domain.storable
    rw [Domain.wanted_congr h]
  simp only [step, hadd, hremove, and_self]

theorem step_of_names_empty (h : names ds = ∅) :
    (s.step how (.add kind ds)).1 = s ∧ (s.step how (.remove kind ds)).1 = s := by
  have hwanted := Domain.wanted_eq_nil_iff.2 h
  exact ⟨step_of_idle (by rw [Call.writes, hwanted]; rfl) how, step_of_idle (by rw [Call.writes, hwanted]; rfl) how⟩

/-- A call that is refused is not answered, and under one statement it leaves the session as it is. -/
theorem step_of_not_taken (h : ¬c.Taken how s.limits) :
    (∃ e, (s.step how c).2 = .error e) ∧ (how = .onConflict → (s.step how c).1 = s) := by
  obtain ⟨e, he⟩ := Option.ne_none_iff_exists'.1 (mt Call.refusal?_eq_none_iff.1 h)
  refine ⟨⟨e, step_refused he⟩, ?_⟩
  rintro rfl
  have hwrites : c.writes = true := by
    rw [← Bool.not_eq_false]
    intro hidle
    cases he.symm.trans (Call.refusal?_of_idle hidle _ _)
  cases c with
  | add kind ds =>
    rw [Call.writes, decide_eq_true_eq] at hwrites
    have hrefused : s.limits.refusal? (rowValues * (Domain.wanted ds).length) (Domain.wanted ds) = some e :=
      (if_neg hwrites).symm.trans he
    rw [step, listAfter_fst, add_onConflict hwrites, execute_of_refused hrefused]
  | remove kind ds =>
    rw [Call.writes, decide_eq_true_eq] at hwrites
    rw [step, listAfter_fst, remove_of_wanted hwrites, execute_of_refused ((if_neg hwrites).symm.trans he)]
  | list kind => cases hwrites
  | rows => cases hwrites

/-- Whichever way a session adds, each call that the database takes makes of the rows that it sees what it says, and at
a clean end they are committed; one that it does not take is not answered, and under one statement it changes nothing.
A list of domains counts only for the set of names that it comes to, a call that is repeated changes no row, and one that
names nothing leaves the session as it is. -/
theorem effect_of_step (how : Insertion) :
    (∀ (s : Session) (c : Call), c.Taken how s.limits →
        s.current.Effect c (s.step how c).1.current ∧
          (s.step how c).2 = .ok (c.reply (s.step how c).1.current) ∧
          ((s.step how c).1.step how c).1.current = (s.step how c).1.current) ∧
      (∀ (s : Session) (c : Call), ¬c.Taken how s.limits →
        (∃ e, (s.step how c).2 = .error e) ∧ (how = .onConflict → (s.step how c).1 = s)) ∧
      (∀ (db : Database) (t : Table) (calls : List Call), db.Offers t → (∀ c ∈ calls, c.Taken how db.toLimits) →
        (∃ replies, (db.session how .clean calls).2 = .ok replies) ∧
          t.Effects calls (db.session how .clean calls).1.rows) ∧
      (∀ (s : Session) (kind : RuleKind) (ds ds' : List Text), names ds = names ds' →
        s.step how (.add kind ds) = s.step how (.add kind ds') ∧
          s.step how (.remove kind ds) = s.step how (.remove kind ds')) ∧
      ∀ (s : Session) (kind : RuleKind) (ds : List Text), names ds = ∅ →
        (s.step how (.add kind ds)).1 = s ∧ (s.step how (.remove kind ds)).1 = s := by
  refine ⟨?_, fun s c => step_of_not_taken, ?_, fun s kind ds ds' => step_congr, fun s kind ds => step_of_names_empty⟩
  · intro s c htaken
    have haccepted := Call.refusal?_eq_none_iff.2 htaken
    have hagain : c.refusal? how (s.step how c).1.limits = none := by rwa [limits_step]
    rw [step_reply haccepted, step_current hagain, step_current haccepted]
    exact ⟨Table.effect_after s.current c, rfl, Table.after_after s.current c⟩
  · intro db t calls ht htaken
    have haccepted : Call.Accepted how db.toLimits calls := fun c hc => Call.refusal?_eq_none_iff.2 (htaken c hc)
    obtain ⟨replies, hreplies⟩ := (Database.session_eq_ok_iff db how .clean calls).2 (Or.inr ⟨⟨t, ht⟩, haccepted⟩)
    refine ⟨⟨replies, hreplies⟩, ?_⟩
    rw [(Database.session_of_ok hreplies).2 rfl, Database.rows_eq_of_some ht.table_eq]
    exact Table.effects_foldl_after t calls

/-- Behind a gap in the numbers, and beside a row of the other kind, two of three domains are new; then one of them is
removed. -/
theorem effect_of_step_gap :
    let t : Table := [⟨1, "a", .blocked⟩, ⟨5, "c", .allowed⟩]
    t.Effects [.add .allowed ["D", "a.", "c", "A", " "], .remove .allowed ["d"]]
      [⟨1, "a", .blocked⟩, ⟨5, "c", .allowed⟩, ⟨6, "a", .allowed⟩] := by
  intro t
  obtain ⟨-, -, hcommitted, -, -⟩ := effect_of_step .onConflict
  have htaken : ∀ c ∈ [Call.add .allowed ["D", "a.", "c", "A", " "], .remove .allowed ["d"]],
      c.Taken .onConflict (Database.toLimits { table := some t }) :=
    List.forall_mem_cons.2 ⟨Or.inr (by decide +kernel), List.forall_mem_singleton.2 (Or.inr (by decide +kernel))⟩
  obtain ⟨⟨replies, hreplies⟩, heffects⟩ :=
    hcommitted { table := some t } t _ ⟨fun _ => nofun, rfl, rfl⟩ htaken
  rw [(Database.session_of_ok hreplies).2 rfl] at heffects
  have hstorable : Domain.storable ["D", "a.", "c", "A", " "] = ["a", "c", "d"] := by
    rw [Domain.storable_eq_sort, show named ["D", "a.", "c", "A", " "] = ["a", "c", "d"].toFinset by decide +kernel]
    exact (List.toFinset_sort _ (by decide)).2 (by decide)
  have hadd : t.add .allowed ["D", "a.", "c", "A", " "] = t ++ [⟨6, "a", .allowed⟩, ⟨7, "d", .allowed⟩] := by
    rw [Table.add, hstorable]
    decide
  have hremove : Table.remove (t ++ [⟨6, "a", .allowed⟩, ⟨7, "d", .allowed⟩]) .allowed ["d"] =
      t ++ [⟨6, "a", .allowed⟩] := by decide +kernel
  rwa [List.foldl_cons, List.foldl_cons, List.foldl_nil, Table.after, Table.after, show Database.rows _ = t from rfl,
    hadd, hremove] at heffects

/-- On a database that has its table and cannot be written, an addition inserts no row for the domain that it names. -/
theorem unwritable_inserts_nothing :
    let db : Database := { isWritable := false, table := some [], isConnected := true }
    Database.init { isWritable := false, table := some [] } = .ok db ∧
      ∀ how, (db.session how .clean [.add .allowed ["a"]]).2 = .error { error := .unwritable } ∧
        ¬Table.Effect [] (.add .allowed ["a"]) (db.session how .clean [.add .allowed ["a"]]).1.rows := by
  intro db
  refine ⟨rfl, fun how => ⟨by cases how <;> decide +kernel, ?_⟩⟩
  have hrows : (db.session how .clean [.add .allowed ["a"]]).1.rows = [] := by cases how <;> decide +kernel
  rw [hrows]
  rintro ⟨new, hnew, happends⟩
  obtain rfl : [] = new := hnew
  have hnamed : "a" ∈ (named ["a"] \ Table.domains [] .allowed).sort := (Finset.mem_sort _).2 (by decide +kernel)
  rw [← happends.domains] at hnamed
  cases hnamed

end Session

end DomainPolicy
