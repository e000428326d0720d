import DomainPolicy.Proofs.Store.Effect
import DomainPolicy.Proofs.Text.CodePointOrder

/-!
# New rows in the list of a kind

An addition numbers its rows in order of code points (`Table.Appends.ascends`), and a kind is listed in order of bytes
(`Table.pairwise_list`).  The two orders are the same, so the rows of one addition are listed in the order of their
numbers, in its own answer and in every later list (`Session.listedByNumber_of_add`).
-/

namespace DomainPolicy

namespace Table

variable {t new rows : Table} {kind : RuleKind} {names : List String} {x y : String} {r r' : Row}

/-- Whether a list of domains shows rows by their numbers: the domain of each is in it, and of two rows that of the
smaller number comes first. -/
structure ListedByNumber (rows : Table) (listed : List String) : Prop where
  mem : ∀ r ∈ rows, r.domain ∈ listed
  inOrder : ∀ r ∈ rows, ∀ r' ∈ rows, r.id < r'.id →
    ∀ i j : Nat, listed[i]? = some r.domain → listed[j]? = some r'.domain → i < j

/-- Numbers and domains of new rows ascend together. -/
theorem Appends.ascends (h : t.Appends kind names new) (hnames : names.SortedLT) :
    new.Pairwise fun r r' => r.id < r'.id ∧ r.domain < r'.domain := by
  obtain ⟨n, -, hids⟩ := h.ids
  have hid : (new.map Row.id).Pairwise (· < ·) := by
    rw [hids]
    exact List.pairwise_lt_range'
  have hdomain : (new.map Row.domain).Pairwise (· < ·) := by
    rw [h.domains]
    exact hnames.pairwise
  rw [List.pairwise_map] at hid hdomain
  exact hid.and hdomain

/-- Of new rows that of the larger number has the larger domain. -/
theorem Appends.domain_lt (h : t.Appends kind names new) (hnames : names.SortedLT) (hr : r ∈ new) (hr' : r' ∈ new)
    (hid : r.id < r'.id) : r.domain < r'.domain := by
  have hascends := List.pairwise_iff_getElem.1 (h.ascends hnames)
  obtain ⟨i, hi, rfl⟩ := List.getElem_of_mem hr
  obtain ⟨j, hj, rfl⟩ := List.getElem_of_mem hr'
  rcases lt_trichotomy i j with hij | rfl | hji
  · exact (hascends i j hi hj hij).2
  · exact absurd hid (Nat.lt_irrefl _)
  · exact absurd (hascends j i hj hi hji).1 (Nat.lt_asymm hid)

/-- In the list of a kind the smaller domain comes first. -/
theorem lt_of_getElem?_list {i j : Nat} (h : x < y) (hi : (t.list kind)[i]? = some x)
    (hj : (t.list kind)[j]? = some y) : i < j := by
  obtain ⟨hi', rfl⟩ := List.getElem?_eq_some_iff.1 hi
  obtain ⟨hj', rfl⟩ := List.getElem?_eq_some_iff.1 hj
  rcases lt_trichotomy i j with hij | rfl | hji
  · exact hij
  · exact absurd h (lt_irrefl _)
  · have hle := List.pairwise_iff_getElem.1 (pairwise_list t kind) j i hj' hi' hji
    exact absurd h (not_lt.2 (Utf8.le_iff_le.1 hle))

/-- Rows of one addition are listed by their numbers in every table that has them. -/
theorem Appends.listedByNumber (h : t.Appends kind names new) (hnames : names.SortedLT) (hnew : rows ⊆ new)
    {later : Table} (hlater : rows ⊆ later) : ListedByNumber rows (later.list kind) where
  mem r hr := mem_list.2 (mem_domains.2 ⟨r, hlater hr, h.kinds r (hnew hr), rfl⟩)
  inOrder _ hr _ hr' hid _ _ hi hj :=
    lt_of_getElem?_list (h.domain_lt hnames (hnew hr) (hnew hr') hid) hi hj

end Table

namespace Session

/-- What an addition brings, whether it gets to its end or is refused on the way. -/
theorem exists_appends_step (how : Insertion) (s : Session) (kind : RuleKind) (ds : List Text) :
    ∃ names new, names <+: (Domain.named ds \ s.current.domains kind).sort ∧
      (s.step how (.add kind ds)).1.current = s.current ++ new ∧ s.current.Appends kind names new ∧
      ((Call.add kind ds).Taken how s.limits → names = (Domain.named ds \ s.current.domains kind).sort) := by
  obtain ⟨done, hfront, hcurrent, hdone⟩ := exists_add how s kind ds
  have hnodup : done.Nodup := (Table.storable_sorted ds).nodup.sublist hfront.sublist
  obtain ⟨new, hfold, hnew⟩ := Table.exists_appends_foldl_insert hnodup s.current kind
  rw [← Table.filter_storable]
  refine ⟨_, new, hfront.filter _, ?_, hnew, fun htaken => ?_⟩
  · rw [step, listAfter_fst, hcurrent, hfold]
  · rw [hdone ((add_result how s kind ds).trans (Call.refusal?_eq_none_iff.2 htaken))]

/-- Strings are in the order of their bytes exactly as they are in the order of their code points.  So, whatever rows a
session finds and whichever way it adds, an addition brings rows for the domains that are named and not there, in order
and with ascending numbers; for all of them if the database takes it, and else for the first ones.  These rows are listed
by their numbers: in its own answer, and in the list of every table that still has them. -/
theorem listedByNumber_of_add :
    (∀ x y : String, (x < y ↔ (Text.ofString x).numbers < (Text.ofString y).numbers) ∧
        (Utf8.encode x < Utf8.encode y ↔ (Text.ofString x).numbers < (Text.ofString y).numbers)) ∧
      ∀ (how : Insertion) (s : Session) (kind : RuleKind) (ds : List Text), ∃ new,
        (s.step how (.add kind ds)).1.current = s.current ++ new ∧
          new.map Row.domain <+: (Domain.named ds \ s.current.domains kind).sort ∧
          (new.Pairwise fun r r' => r.id < r'.id) ∧
          (∀ later : Table, Table.ListedByNumber (new.filter (· ∈ later)) (later.list kind)) ∧
          ((Call.add kind ds).Taken how s.limits →
            new.map Row.domain = (Domain.named ds \ s.current.domains kind).sort ∧
              ∃ listed, (s.step how (.add kind ds)).2 = .ok (.domains listed) ∧ Table.ListedByNumber new listed) := by
  refine ⟨fun x y => ⟨Utf8.numbers_lt_iff.symm, ?_⟩, fun how s kind ds => ?_⟩
  · rw [Utf8.encode_lt_iff, Utf8.numbers_lt_iff]
  · obtain ⟨names, new, hfront, hcurrent, hnew, hnames⟩ := exists_appends_step how s kind ds
    have hsorted : names.SortedLT := by
      have hall := Finset.sortedLT_sort (Domain.named ds \ s.current.domains kind)
      exact (hall.pairwise.sublist hfront.sublist).sortedLT
    refine ⟨new, hcurrent, hnew.domains ▸ hfront, (hnew.ascends hsorted).imp And.left, fun later => ?_, fun htaken => ?_⟩
    · refine hnew.listedByNumber hsorted (List.filter_subset_self new) fun r hr => ?_
      exact of_decide_eq_true (List.mem_filter.1 hr).2
    · have haccepted := Call.refusal?_eq_none_iff.2 htaken
      refine ⟨hnew.domains.trans (hnames htaken), _, step_reply haccepted, ?_⟩
      rw [← step_current haccepted, hcurrent]
      exact hnew.listedByNumber hsorted (List.Subset.refl new) (List.subset_append_right _ _)

end Session

end DomainPolicy
