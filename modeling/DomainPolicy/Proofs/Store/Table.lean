import DomainPolicy.Proofs.Rule.Wanted
import DomainPolicy.Proofs.Text.ByteOrder
import DomainPolicy.Store.Table

/-!
# The rows of a table

A table stands for one set of domains a kind (`Table.domains`).  Adding unites the set of its kind with what the list
names, removing takes that away, and neither touches the other kind (`domains_add`, `domains_remove`).  The constraint
of the table, that no two rows share domain and kind (`Table.Unique`), survives both, and under it the list of a kind
is the listing of its set (`list_eq_listing`).
-/

namespace DomainPolicy

namespace Table

open Domain (named mem_storable)

/-! ### Rows -/

/-- No two rows share domain and kind. -/
def Unique (t : Table) : Prop := t.Pairwise fun r s => ¬(r.kind = s.kind ∧ r.domain = s.domain)

theorem contains_iff {t : Table} {kind : RuleKind} {d : String} :
    t.contains kind d = true ↔ ∃ r ∈ t, r.kind = kind ∧ r.domain = d := by
  simp [contains]

/-- The domains of a kind. -/
def domains (t : Table) (kind : RuleKind) : Finset String := ((t.filter (·.kind = kind)).map Row.domain).toFinset

theorem mem_domains {t : Table} {kind : RuleKind} {d : String} :
    d ∈ t.domains kind ↔ ∃ r ∈ t, r.kind = kind ∧ r.domain = d := by
  simp [domains, and_assoc]

theorem contains_iff_mem_domains {t : Table} {kind : RuleKind} {d : String} :
    t.contains kind d = true ↔ d ∈ t.domains kind := by
  rw [contains_iff, mem_domains]

/-! ### Adding -/

theorem mem_domains_insert {t : Table} {kind k : RuleKind} {d x : String} :
    x ∈ (insert kind t d).domains k ↔ x ∈ t.domains k ∨ (k = kind ∧ x = d) := by
  unfold insert
  split
  · rename_i h
    rw [contains_iff_mem_domains] at h
    constructor
    · exact Or.inl
    · rintro (hx | ⟨rfl, rfl⟩)
      · exact hx
      · exact h
  · simp only [mem_domains, List.mem_append, List.mem_singleton]
    constructor
    · rintro ⟨r, hr | rfl, hk, hd⟩
      · exact Or.inl ⟨r, hr, hk, hd⟩
      · exact Or.inr ⟨hk.symm, hd.symm⟩
    · rintro (⟨r, hr, hk, hd⟩ | ⟨rfl, rfl⟩)
      · exact ⟨r, Or.inl hr, hk, hd⟩
      · exact ⟨_, Or.inr rfl, rfl, rfl⟩

theorem mem_domains_foldl_insert {kind k : RuleKind} {ds : List String} {t : Table} {x : String} :
    x ∈ Table.domains (ds.foldl (insert kind) t) k ↔ x ∈ t.domains k ∨ (k = kind ∧ x ∈ ds) := by
  induction ds generalizing t with
  | nil => simp
  | cons d ds ih =>
    rw [List.foldl_cons, ih, mem_domains_insert, List.mem_cons]
    tauto

/-- Adding unites the set of the kind with what is named and leaves the other set alone. -/
theorem domains_add (t : Table) (kind k : RuleKind) (ds : List Text) :
    (t.add kind ds).domains k = if k = kind then t.domains k ∪ named ds else t.domains k := by
  ext x
  rw [add, mem_domains_foldl_insert, mem_storable]
  split <;> simp [*]

theorem unique_insert {t : Table} (h : t.Unique) (kind : RuleKind) (d : String) : (insert kind t d).Unique := by
  unfold insert
  split
  · exact h
  · rename_i hc
    refine List.pairwise_append.2 ⟨h, List.pairwise_singleton _ _, ?_⟩
    intro r hr s hs
    rw [List.mem_singleton] at hs
    subst hs
    exact fun he => hc (contains_iff.2 ⟨r, hr, he⟩)

theorem unique_add {t : Table} (h : t.Unique) (kind : RuleKind) (ds : List Text) : (t.add kind ds).Unique :=
  List.foldlRecOn _ _ h fun _ ht d _ => unique_insert ht kind d

/-- Adding what is there changes no row. -/
theorem foldl_insert_of_contains {kind : RuleKind} {ds : List String} {t : Table}
    (h : ∀ d ∈ ds, t.contains kind d = true) : ds.foldl (insert kind) t = t := by
  induction ds with
  | nil => rfl
  | cons d ds ih =>
    have hd : insert kind t d = t := if_pos (h d (List.mem_cons_self ..))
    rw [List.foldl_cons, hd]
    exact ih fun x hx => h x (List.mem_cons_of_mem _ hx)

/-! ### Removing -/

theorem mem_remove {t : Table} {kind : RuleKind} {ds : List Text} {r : Row} :
    r ∈ t.remove kind ds ↔ r ∈ t ∧ ¬(r.kind = kind ∧ r.domain ∈ named ds) := by
  simp only [remove, List.mem_filter, decide_eq_true_eq, mem_storable]

/-- Removing takes what is named out of the set of the kind and leaves the other set alone. -/
theorem domains_remove (t : Table) (kind k : RuleKind) (ds : List Text) :
    (t.remove kind ds).domains k = if k = kind then t.domains k \ named ds else t.domains k := by
  ext x
  have hx : x ∈ (t.remove kind ds).domains k ↔ x ∈ t.domains k ∧ ¬(k = kind ∧ x ∈ named ds) := by
    simp only [mem_domains, mem_remove]
    constructor
    · rintro ⟨r, ⟨hr, hn⟩, rfl, rfl⟩
      exact ⟨⟨r, hr, rfl, rfl⟩, hn⟩
    · rintro ⟨⟨r, hr, rfl, rfl⟩, hn⟩
      exact ⟨r, ⟨hr, hn⟩, rfl, rfl⟩
  rw [hx]
  split <;> simp [*]

theorem unique_remove {t : Table} (h : t.Unique) (kind : RuleKind) (ds : List Text) :
    (t.remove kind ds).Unique :=
  List.Pairwise.filter _ h

/-! ### Listing -/

theorem mem_list {t : Table} {kind : RuleKind} {d : String} : d ∈ t.list kind ↔ d ∈ t.domains kind := by
  rw [list, List.mem_mergeSort, domains, List.mem_toFinset]

theorem list_nodup {t : Table} (h : t.Unique) (kind : RuleKind) : (t.list kind).Nodup := by
  rw [list, (List.mergeSort_perm _ _).nodup_iff, List.Nodup, List.pairwise_map]
  refine (List.Pairwise.filter _ h).imp_of_mem ?_
  intro r s hr hs hrs he
  simp only [List.mem_filter, decide_eq_true_eq] at hr hs
  exact hrs ⟨hr.2.trans hs.2.symm, he⟩

theorem pairwise_list (t : Table) (kind : RuleKind) : (t.list kind).Pairwise fun x y => Utf8.le x y = true := by
  apply List.pairwise_mergeSort
  · intro x y z
    exact Utf8.le_trans
  · intro x y
    rw [Bool.or_eq_true]
    exact Utf8.le_total x y

/-- The list of a kind is the listing of its set. -/
theorem list_eq_listing {t : Table} (h : t.Unique) (kind : RuleKind) :
    t.list kind = Utf8.listing (t.domains kind) :=
  Utf8.eq_listing (pairwise_list t kind) (list_nodup h kind) fun _ => mem_list

end Table

end DomainPolicy
