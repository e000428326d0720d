import DomainPolicy.Text.Utf8
import Mathlib.Data.Finset.Sort

/-!
# The order of UTF-8 bytes

`Utf8.le` compares strings by their bytes.  It is a linear order because different strings have different bytes
(`encode_injective`), so a set of strings is listed in one way only: `Utf8.listing`.
-/

namespace DomainPolicy.Utf8

/-- Different strings have different bytes. -/
theorem encode_injective : Function.Injective encode := by
  intro s t h
  rw [← String.toByteArray_inj, ← String.utf8Encode_toList, ← String.utf8Encode_toList]
  exact congrArg List.toByteArray h

theorem le_iff {s t : String} : le s t = true ↔ encode s ≤ encode t := by
  unfold le; rw [decide_eq_true_eq]

theorem le_trans {s t u : String} (hst : le s t = true) (htu : le t u = true) : le s u = true := by
  rw [le_iff] at *
  exact List.le_trans hst htu

theorem le_total (s t : String) : le s t = true ∨ le t s = true := by
  rw [le_iff, le_iff]
  exact List.le_total _ _

theorem le_antisymm {s t : String} (hst : le s t = true) (hts : le t s = true) : s = t := by
  rw [le_iff] at *
  exact encode_injective (List.le_antisymm hst hts)

/-- The order of bytes as a relation. -/
def AtMost (s t : String) : Prop := le s t = true

instance : DecidableRel AtMost := fun s t => inferInstanceAs (Decidable (le s t = true))

instance : IsTrans String AtMost := ⟨fun _ _ _ => le_trans⟩

instance : Std.Antisymm AtMost := ⟨fun _ _ => le_antisymm⟩

instance : Std.Total AtMost := ⟨le_total⟩

/-- The strings of a set, each once, in ascending order of their bytes. -/
def listing (s : Finset String) : List String := s.sort AtMost

@[simp] theorem mem_listing {s : Finset String} {x : String} : x ∈ listing s ↔ x ∈ s := Finset.mem_sort _

theorem listing_nodup (s : Finset String) : (listing s).Nodup := Finset.sort_nodup _ _

/-- Strings in ascending order of their bytes, without repetitions. -/
def Ascends (l : List String) : Prop := l.Pairwise fun x y => encode x ≤ encode y ∧ encode x ≠ encode y

theorem listing_ascends (s : Finset String) : Ascends (listing s) := by
  have hle : (listing s).Pairwise AtMost := Finset.pairwise_sort _ _
  refine (hle.and (listing_nodup s)).imp ?_
  intro x y ⟨h, hne⟩
  exact ⟨le_iff.1 h, fun he => hne (encode_injective he)⟩

/-- A list in ascending order without repetitions is the listing of its members. -/
theorem eq_listing {l : List String} {s : Finset String} (hl : l.Pairwise fun x y => le x y = true)
    (hnd : l.Nodup) (hmem : ∀ x, x ∈ l ↔ x ∈ s) : l = listing s := by
  have hascends : (listing s).Pairwise fun x y => le x y = true := Finset.pairwise_sort _ AtMost
  have hperm : l.Perm (listing s) := by
    rw [List.perm_ext_iff_of_nodup hnd (listing_nodup s)]
    intro x
    rw [hmem, mem_listing]
  exact hperm.eq_of_pairwise (fun _ _ _ _ => le_antisymm) hl hascends

end DomainPolicy.Utf8
