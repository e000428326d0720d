import DomainPolicy.Proofs.Text.CodePointOrder
import DomainPolicy.Proofs.Text.Trim
import DomainPolicy.Proofs.Text.Whole
import DomainPolicy.Rule

/-!
# The names that a list comes to

A list of texts counts only for the set of names that it comes to (`Domain.names`, `Domain.wanted_congr`), and these are
wanted in order of code points (`Domain.wanted_ascends`).  A text with lone halves has a name with the same lone halves
(`Domain.whole_normalizeText`), so the names that can be kept are the normal spellings of the strings in the list: they
are the set `Domain.named`, in order (`Domain.storable_eq_sort`).
-/

namespace DomainPolicy

namespace Domain

variable {ds ds' : List Text} {name : Text} {d : String}

/-- Lone halves are neither taken off nor brought in. -/
theorem whole_normalizeText {t : Text} : (normalizeText t).Whole ↔ t.Whole := by
  rw [Text.whole_iff_surrogate_notMem, Text.whole_iff_surrogate_notMem]
  refine forall_congr' fun half => not_congr ?_
  constructor
  · intro h
    have hlower := (Blank.dropEnd_isPrefix _ _).subset h
    exact (Blank.trim_sublist _ _).subset ((Text.surrogate_mem_mapRunsFrom _ []).1 hlower)
  · intro h
    exact Blank.mem_dropEnd_of_not ((Text.surrogate_mem_mapRunsFrom _ []).2 (Blank.mem_trim_of_not h rfl)) rfl

/-! ### Sets of names -/

/-- The set of names that a list comes to. -/
def names (ds : List Text) : Finset Text := (ds.map normalizeText).toFinset.erase []

/-- The set of domains that a list names: the normal spellings of its strings, the empty one left out. -/
def named (ds : List Text) : Finset String := ((ds.filterMap Text.toString?).map normalize).toFinset.erase ""

theorem mem_names : name ∈ names ds ↔ name ≠ [] ∧ ∃ t ∈ ds, normalizeText t = name := by
  simp [names]

theorem mem_named : d ∈ named ds ↔ d ≠ "" ∧ ∃ s : String, Text.ofString s ∈ ds ∧ normalize s = d := by
  simp only [named, Finset.mem_erase, List.mem_toFinset, List.mem_map, List.mem_filterMap, Text.toString?_eq_some_iff,
    exists_eq_right]

theorem mem_named_ofStrings {ss : List String} :
    d ∈ named (ss.map Text.ofString) ↔ d ≠ "" ∧ ∃ s ∈ ss, normalize s = d := by
  simp only [mem_named, List.mem_map, Text.ofString_injective.eq_iff, exists_eq_right]

/-- A domain is named exactly if its text is a name. -/
theorem ofString_mem_names : Text.ofString d ∈ names ds ↔ d ∈ named ds := by
  rw [mem_names, mem_named, Text.ofString_ne_nil_iff]
  refine and_congr_right fun _ => ⟨?_, ?_⟩
  · rintro ⟨t, ht, hspelled⟩
    have hwhole : t.Whole := whole_normalizeText.1 (hspelled ▸ Text.whole_ofString d)
    obtain ⟨s, rfl⟩ := Text.whole_iff_ofString.1 hwhole
    rw [normalizeText_ofString] at hspelled
    exact ⟨s, ht, Text.ofString_injective hspelled⟩
  · rintro ⟨s, hs, rfl⟩
    exact ⟨s, hs, normalizeText_ofString s⟩

/-! ### In order -/

theorem mem_wanted : name ∈ wanted ds ↔ name ∈ names ds := by
  rw [wanted, List.mem_mergeSort, List.mem_eraseDups, List.mem_filter, mem_names, List.mem_map]
  simp [and_comm]

theorem wanted_eq_nil_iff : wanted ds = [] ↔ names ds = ∅ := by
  rw [List.eq_nil_iff_forall_not_mem, Finset.eq_empty_iff_forall_notMem]
  simp only [mem_wanted]

theorem nodup_eraseDups (ds : List Text) : ds.eraseDups.Nodup := by
  cases ds with
  | nil => exact List.nodup_nil
  | cons d ds =>
    rw [List.eraseDups_cons, List.nodup_cons]
    refine ⟨fun hd => ?_, nodup_eraseDups _⟩
    simp [List.mem_eraseDups] at hd
termination_by ds.length
decreasing_by exact Nat.lt_succ_of_le (List.length_filter_le _ _)

theorem nodup_wanted (ds : List Text) : (wanted ds).Nodup := (List.mergeSort_perm _ _).nodup_iff.2 (nodup_eraseDups _)

/-- What is wanted is in order of code points, each name once. -/
theorem wanted_ascends (ds : List Text) : (wanted ds).Pairwise fun s t => s.numbers < t.numbers := by
  have hle : (wanted ds).Pairwise fun s t => s.le t = true := by
    apply List.pairwise_mergeSort
    · intro s t u
      simp only [Text.le_iff_numbers_le]
      exact le_trans
    · intro s t
      rw [Bool.or_eq_true, Text.le_iff_numbers_le, Text.le_iff_numbers_le]
      exact le_total _ _
  refine (hle.and (nodup_wanted ds)).imp fun {s t} ⟨h, hne⟩ => ?_
  exact lt_of_le_of_ne (Text.le_iff_numbers_le.1 h) (Text.numbers_injective.ne hne)

/-- A list counts only for the set of names that it comes to. -/
theorem wanted_congr (h : names ds = names ds') : wanted ds = wanted ds' := by
  have hsorted (ds : List Text) : ((wanted ds).map Text.numbers).SortedLT :=
    (List.pairwise_map.2 (wanted_ascends ds)).sortedLT
  refine List.map_injective_iff.2 Text.numbers_injective ((hsorted ds).eq_of_mem_iff (hsorted ds') fun n => ?_)
  simp only [List.mem_map, mem_wanted, h]

/-! ### Names that can be kept -/

theorem mem_storable : d ∈ storable ds ↔ d ∈ named ds := by
  simp only [storable, List.mem_filterMap, Text.toString?_eq_some_iff, exists_eq_right, mem_wanted,
    ofString_mem_names]

/-- What can be kept is the set of domains that are named, in order of code points. -/
theorem storable_eq_sort (ds : List Text) : storable ds = (named ds).sort := by
  have hsorted : (storable ds).SortedLT := by
    refine (List.pairwise_filterMap.2 ((wanted_ascends ds).imp ?_)).sortedLT
    intro s t h x hx y hy
    rw [Text.toString?_eq_some_iff.1 hx, Text.toString?_eq_some_iff.1 hy] at h
    exact Utf8.numbers_lt_iff.1 h
  refine hsorted.eq_of_mem_iff (named ds).sortedLT_sort fun d => ?_
  rw [mem_storable, Finset.mem_sort]

/-! ### Lists of strings -/

/-- If all texts of a list are strings, so are all its names. -/
theorem whole_of_mem_wanted (h : ∀ t ∈ ds, t.Whole) (hname : name ∈ wanted ds) : name.Whole := by
  obtain ⟨-, t, ht, rfl⟩ := mem_names.1 (mem_wanted.1 hname)
  exact whole_normalizeText.2 (h t ht)

theorem wanted_eq_nil_iff_named (h : ∀ t ∈ ds, t.Whole) : wanted ds = [] ↔ named ds = ∅ := by
  rw [List.eq_nil_iff_forall_not_mem, Finset.eq_empty_iff_forall_notMem]
  constructor
  · intro hnone d hd
    exact hnone _ (mem_wanted.2 (ofString_mem_names.2 hd))
  · intro hnone name hname
    obtain ⟨d, rfl⟩ := Text.whole_iff_ofString.1 (whole_of_mem_wanted h hname)
    exact hnone d (ofString_mem_names.1 (mem_wanted.1 hname))

theorem length_wanted (ds : List Text) : (wanted ds).length = (names ds).card := by
  rw [← List.toFinset_card_of_nodup (nodup_wanted ds)]
  congr 1
  ext name
  rw [List.mem_toFinset, mem_wanted]

theorem length_wanted_le (ds : List Text) : (wanted ds).length ≤ ds.length := by
  rw [length_wanted, ← List.length_map normalizeText]
  exact (Finset.card_le_card (Finset.erase_subset _ _)).trans (List.toFinset_card_le _)

end Domain

end DomainPolicy
