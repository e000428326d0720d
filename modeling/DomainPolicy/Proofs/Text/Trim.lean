import DomainPolicy.Text.Blank
import Mathlib.Data.List.DropRight

/-!
# Ends of a text

What is trimmed does not end as what is taken off (`head?_trim`, `getLast?_dropEnd`), so a text is left as it is if and
only if neither of its ends is taken off (`trim_eq_self_iff`).
-/

namespace DomainPolicy.Blank

variable {α : Type} {p : α → Bool} {cs : List α} {c : α}

theorem dropEnd_eq_rdropWhile (p : α → Bool) (cs : List α) : dropEnd p cs = cs.rdropWhile p := rfl

theorem dropEnd_isPrefix (p : α → Bool) (cs : List α) : dropEnd p cs <+: cs := List.rdropWhile_prefix p cs

theorem getLast?_dropEnd (h : (dropEnd p cs).getLast? = some c) : p c = false := by
  have hne : cs.rdropWhile p ≠ [] := by
    intro he
    rw [dropEnd_eq_rdropWhile, he] at h
    cases h
  rw [dropEnd_eq_rdropWhile, List.getLast?_eq_getLast_of_ne_nil hne, Option.some.injEq] at h
  rw [← h, ← Bool.not_eq_true]
  exact List.rdropWhile_last_not p cs hne

theorem dropEnd_eq_self (h : ∀ c, cs.getLast? = some c → p c = false) : dropEnd p cs = cs := by
  rw [dropEnd_eq_rdropWhile, List.rdropWhile_eq_self_iff]
  intro hne
  rw [h _ (List.getLast?_eq_getLast_of_ne_nil hne)]
  exact Bool.false_ne_true

theorem head?_of_isPrefix {ds : List α} (h : cs <+: ds) (hc : cs.head? = some c) : ds.head? = some c := by
  obtain ⟨es, rfl⟩ := h
  cases cs with
  | nil => cases hc
  | cons a cs => exact hc

theorem head?_trim (h : (trim p cs).head? = some c) : p c = false := by
  have hd : (cs.dropWhile p).head? = some c := head?_of_isPrefix (dropEnd_isPrefix _ _) h
  have := List.head?_dropWhile_not p cs
  rw [hd] at this
  simpa using this

theorem trim_sublist (p : α → Bool) (cs : List α) : (trim p cs).Sublist cs :=
  (dropEnd_isPrefix _ _).sublist.trans (List.dropWhile_sublist _)

/-- What is not of the kind that is taken off stays. -/
theorem mem_dropEnd_of_not (hc : c ∈ cs) (hp : p c = false) : c ∈ dropEnd p cs := by
  rw [dropEnd_eq_rdropWhile]
  by_contra hnot
  have hsplit : cs.rdropWhile p ++ cs.rtakeWhile p = cs := List.rdropWhile_append_rtakeWhile
  rw [← hsplit, List.mem_append, or_iff_right hnot] at hc
  rw [List.mem_rtakeWhile_imp hc] at hp
  cases hp

theorem mem_trim_of_not (hc : c ∈ cs) (hp : p c = false) : c ∈ trim p cs := by
  refine mem_dropEnd_of_not ?_ hp
  have hsplit : cs.takeWhile p ++ cs.dropWhile p = cs := List.takeWhile_append_dropWhile
  rw [← hsplit, List.mem_append] at hc
  refine hc.resolve_left fun htaken => ?_
  rw [List.mem_takeWhile_imp htaken] at hp
  cases hp

theorem trim_eq_self_iff :
    trim p cs = cs ↔ (∀ c, cs.head? = some c → p c = false) ∧ ∀ c, cs.getLast? = some c → p c = false := by
  constructor
  · intro h
    refine ⟨fun c hc => ?_, fun c hc => ?_⟩
    · rw [← h] at hc
      exact head?_trim hc
    · rw [← h] at hc
      exact getLast?_dropEnd hc
  · rintro ⟨hhead, hlast⟩
    have hd : cs.dropWhile p = cs := by
      cases cs with
      | nil => rfl
      | cons c cs => exact List.dropWhile_cons_of_neg (by rw [hhead c rfl]; exact Bool.false_ne_true)
    rw [trim, hd]
    exact dropEnd_eq_self hlast

/-- What is trimmed around a text is of no account. -/
theorem trim_append_append {before after : List α} (hbefore : ∀ c ∈ before, p c = true)
    (hafter : ∀ c ∈ after, p c = true) (cs : List α) : trim p (before ++ cs ++ after) = trim p cs := by
  unfold trim
  rw [List.append_assoc, List.dropWhile_append_of_pos hbefore, List.dropWhile_append]
  split
  · rename_i hnil
    rw [List.isEmpty_iff] at hnil
    rw [hnil, List.dropWhile_eq_nil_iff.2 hafter]
  · exact dropEnd_append_of_all _ _ hafter

end DomainPolicy.Blank
