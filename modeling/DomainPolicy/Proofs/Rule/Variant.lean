import DomainPolicy.Proofs.Rule.Spelling
import DomainPolicy.Proofs.Text.Respelling

/-!
# Variants of a domain

A domain can be spelled with its letters of ASCII in any case, with full stops behind it and with blanks around that
(`IsVariant`).  All these spellings have one normal spelling (`normalize_of_isVariant`): the blanks are trimmed, and
they alone, the letters come to the same small letters, also next to a capital sigma, and the full stops, being small
and ignored for case, stay behind these until they are taken off.
-/

namespace DomainPolicy.Domain

open Blank (isBlank strip)
open Lowercase (alike_toLower)

/-- Whether `w` is a variant of `s`, which has no blank around it. -/
structure IsVariant (s w : String) : Prop where
  tight : strip s.toList = s.toList
  spelled : ∃ before cs stops after, w.toList = before ++ (cs ++ List.replicate stops '.') ++ after ∧
    (∀ c ∈ before, isBlank c = true) ∧ (∀ c ∈ after, isBlank c = true) ∧
    cs.map Char.toLower = s.toList.map Char.toLower

/-- The case of its letters does not put a blank at an end of a text. -/
theorem strip_eq_self_of_map_toLower {cs ds : List Char} (h : cs.map Char.toLower = ds.map Char.toLower)
    (hds : strip ds = ds) : strip cs = cs := by
  obtain ⟨hhead, hlast⟩ := Blank.trim_eq_self_iff.1 hds
  -- an end of the one is an end of the other but for its case
  have hend : ∀ {o o' : Option Char}, o.map Char.toLower = o'.map Char.toLower →
      (∀ d, o' = some d → isBlank d = false) → ∀ c, o = some c → isBlank c = false := by
    rintro o o' ho ho' c rfl
    obtain ⟨d, rfl, hd⟩ := Option.map_eq_some_iff.1 ho.symm
    rw [← (alike_toLower c).isBlank, ← hd, (alike_toLower d).isBlank]
    exact ho' d rfl
  refine Blank.trim_eq_self_iff.2 ⟨hend ?_ hhead, hend ?_ hlast⟩
  · rw [← List.head?_map, ← List.head?_map, h]
  · rw [← List.getLast?_map, ← List.getLast?_map, h]

theorem strip_append_stops {cs : List Char} (h : strip cs = cs) (stops : Nat) :
    strip (cs ++ List.replicate stops '.') = cs ++ List.replicate stops '.' := by
  obtain ⟨hhead, hlast⟩ := Blank.trim_eq_self_iff.1 h
  have hstop : ∀ c ∈ List.replicate stops '.', isBlank c = false := by
    intro c hc
    rw [List.eq_of_mem_replicate hc]
    rfl
  refine Blank.trim_eq_self_iff.2 ⟨fun c hc => ?_, fun c hc => ?_⟩
  · rw [List.head?_append, Option.or_eq_some_iff] at hc
    rcases hc with hc | ⟨-, hc⟩
    · exact hhead c hc
    · exact hstop c (List.mem_of_head? hc)
  · rw [List.getLast?_append, Option.or_eq_some_iff] at hc
    rcases hc with hc | ⟨-, hc⟩
    · exact hstop c (List.mem_of_getLast? hc)
    · exact hlast c hc

/-- All variants of a domain have its normal spelling. -/
theorem normalize_of_isVariant {s w : String} (h : IsVariant s w) : normalize w = normalize s := by
  obtain ⟨before, cs, stops, after, hw, hbefore, hafter, hcs⟩ := h.spelled
  have hstops : ∀ c ∈ List.replicate stops '.', Lowercase.isIgnorable c = true ∧ Lowercase.IsSmall c := by
    intro c hc
    rw [List.eq_of_mem_replicate hc]
    decide +kernel
  have hstrip : strip w.toList = cs ++ List.replicate stops '.' := by
    rw [hw, strip, Blank.trim_append_append hbefore hafter]
    exact strip_append_stops (strip_eq_self_of_map_toLower hcs h.tight) stops
  rw [← String.toList_inj, toList_normalize, toList_normalize, hstrip, h.tight, Lowercase.lower_append hstops,
    Lowercase.lower_eq_of_map_toLower hcs]
  exact Blank.dropEnd_append_of_all _ _ fun c hc => by simp [List.eq_of_mem_replicate hc]

end DomainPolicy.Domain
