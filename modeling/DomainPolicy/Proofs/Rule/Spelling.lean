import DomainPolicy.Proofs.Text.SmallLetters
import DomainPolicy.Proofs.Text.Trim
import DomainPolicy.Rule

/-!
# The spelling under which a domain is kept

What `Domain.normalize` gives consists of small characters, does not start with a blank and does not end with a full
stop (`kept_normalize`).  Taking the full stops off comes last and can lay a blank bare, so such a spelling is its own
normal spelling exactly when it does not end with a blank (`Kept.normalize_eq_iff`).
-/

namespace DomainPolicy.Domain

open Blank
open Lowercase (lower IsSmall isSmall_of_mem_lower lower_of_small)

/-! ### Kept spellings -/

/-- What all spellings under which domains are kept have in common. -/
structure Kept (s : String) : Prop where
  small : ∀ c ∈ s.toList, IsSmall c
  starts : ∀ c, s.toList.head? = some c → isBlank c = false
  ends : ∀ c, s.toList.getLast? = some c → c ≠ '.'

/-- Whether a text ends with a blank. -/
def endsBlank (s : String) : Bool := s.toList.getLast?.any isBlank

theorem endsBlank_eq_false_iff {s : String} :
    endsBlank s = false ↔ ∀ c, s.toList.getLast? = some c → isBlank c = false := by
  unfold endsBlank
  cases s.toList.getLast? <;> simp

theorem toList_normalize (s : String) : (normalize s).toList = dropStops (lower (strip s.toList)) := by
  rw [normalize, String.toList_ofList]

/-- A normal spelling is a kept one. -/
theorem kept_normalize (s : String) : Kept (normalize s) := by
  have hfront : (normalize s).toList <+: lower (strip s.toList) := by
    rw [toList_normalize]
    exact dropEnd_isPrefix _ _
  constructor
  · intro c hc
    exact isSmall_of_mem_lower (hfront.subset hc)
  · intro c hc
    exact Lowercase.isBlank_head_lower (fun _ => head?_trim) (head?_of_isPrefix hfront hc)
  · intro c hc
    rw [toList_normalize] at hc
    simpa using getLast?_dropEnd hc

namespace Kept

variable {s : String}

theorem lower_strip (h : Kept s) : lower (strip s.toList) = strip s.toList :=
  lower_of_small fun c hc => h.small c ((trim_sublist _ _).subset hc)

/-- A kept spelling is its own normal spelling exactly when it does not end with a blank. -/
theorem normalize_eq_iff (h : Kept s) : normalize s = s ↔ endsBlank s = false := by
  rw [← String.toList_inj, toList_normalize, h.lower_strip, endsBlank_eq_false_iff]
  constructor
  · intro he c hc
    -- nothing was taken off, neither a full stop nor a blank
    have hstops : (dropStops (strip s.toList)).length ≤ (strip s.toList).length := (dropEnd_isPrefix _ _).length_le
    have hstrip : strip s.toList = s.toList := by
      apply (trim_sublist _ _).eq_of_length_le
      rwa [he] at hstops
    rw [← hstrip] at hc
    exact getLast?_dropEnd hc
  · intro hlast
    rw [strip, trim_eq_self_iff.2 ⟨h.starts, hlast⟩]
    apply dropEnd_eq_self
    intro c hc
    simpa using h.ends c hc

end Kept

example : normalize " A .." = "a " ∧ normalize "a " = "a" := by decide

end DomainPolicy.Domain
