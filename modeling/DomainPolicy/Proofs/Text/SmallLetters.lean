import DomainPolicy.Text.Blank
import DomainPolicy.Text.Lowercase

/-!
# Small letters stay small

Writing a text in small letters leaves nothing that would change if it were done again (`isSmall_of_mem_lower`,
`lower_of_small`): the small letters of one run of capitals lie outside every run (`misses_runs`), and so does what a
sigma and `U+0130` become.
No small letter is blank, so a text that does not start with a blank does not start with one afterwards.
-/

namespace DomainPolicy.Lowercase

open LetterCase

/-! ### Where the small letters of a run lie -/

/-- The first of the small letters of a run. -/
def low (r : Run) : Nat := ((r.first : Int) + r.delta).toNat

/-- The last of the small letters of a run. -/
def high (r : Run) : Nat := ((r.last : Int) + r.delta).toNat

/-- Whether no small letter of `r` belongs to `q`, by their ends, or by parity where both take every second. -/
def misses (r q : Run) : Bool :=
  Nat.blt (high r) q.first || Nat.blt q.last (low r) ||
    (Nat.beq q.step 2 && (Nat.beq r.step 2 || Nat.beq (low r) (high r)) && !Nat.beq (low r % 2) (q.first % 2))

private theorem misses_runs : ∀ r ∈ lowerRuns, ∀ q ∈ lowerRuns, misses r q = true := by
  have h : (lowerRuns.all fun r => lowerRuns.all fun q => misses r q) = true := by decide +kernel
  intro r hr q hq
  exact List.all_eq_true.1 (List.all_eq_true.1 h r hr) q hq

/-- The white space of `Blank.isBlank`, the capital that has a rule of its own, and what is no character. -/
private def avoided : Ranges :=
  [(9, 13), (28, 32), (0x85, 0x85), (0xA0, 0xA0), (0x1680, 0x1680), (0x2000, 0x200A), (0x2028, 0x2029),
   (0x202F, 0x202F), (0x205F, 0x205F), (0x3000, 0x3000), (0x130, 0x130), (0xD800, 0xDFFF)]

private theorem runs_avoid : ∀ r ∈ lowerRuns, ∀ p ∈ avoided, high r < p.1 ∨ p.2 < low r := by
  have h : (lowerRuns.all fun r => avoided.all fun p => Nat.blt (high r) p.1 || Nat.blt p.2 (low r)) = true := by
    decide +kernel
  intro r hr p hp
  have := List.all_eq_true.1 (List.all_eq_true.1 h r hr) p hp
  simpa only [Bool.or_eq_true, Nat.blt_eq] using this

/-- Every run has a step, starts above its distance and ends inside Unicode. -/
private theorem runs_sound : ∀ r ∈ lowerRuns,
    0 < r.step ∧ 0 ≤ (r.first : Int) + r.delta ∧ high r < 0x110000 ∧ (r.step = 1 ∨ r.step = 2) := by
  decide +kernel

private theorem holds_iff {r : Run} {n : Nat} :
    r.holds n = true ↔ r.first ≤ n ∧ n ≤ r.last ∧ (n - r.first) % r.step = 0 := by
  simp only [Run.holds, Bool.and_eq_true, decide_eq_true_eq, beq_iff_eq, and_assoc]

/-- The small letter of a member of a run. -/
private def target (r : Run) (n : Nat) : Nat := ((n : Int) + r.delta).toNat

private theorem target_bounds {r : Run} (hr : r ∈ lowerRuns) {n : Nat} (hn : r.holds n = true) :
    low r ≤ target r n ∧ target r n ≤ high r := by
  obtain ⟨hfirst, hlast, -⟩ := holds_iff.1 hn
  have := (runs_sound r hr).2.1
  simp only [low, high, target]
  omega

/-- The small letter of a member of a run is a member of no run. -/
private theorem holds_target {r q : Run} (hr : r ∈ lowerRuns) (hq : q ∈ lowerRuns) {n : Nat}
    (hn : r.holds n = true) : q.holds (target r n) = false := by
  rw [Bool.eq_false_iff]
  intro h
  obtain ⟨hlow, hhigh⟩ := target_bounds hr hn
  obtain ⟨hqfirst, hqlast, hqstep⟩ := holds_iff.1 h
  obtain ⟨hfirst, hlast, hstep⟩ := holds_iff.1 hn
  have hstart := (runs_sound r hr).2.1
  have hm := misses_runs r hr q hq
  simp only [misses, Bool.or_eq_true, Bool.and_eq_true, Nat.blt_eq, Nat.beq_eq, Bool.not_eq_true',
    ← Bool.not_eq_true] at hm
  rcases hm with (hm | hm) | ⟨⟨hqtwo, htwo | hone⟩, hparity⟩
  · omega
  · omega
  · rw [htwo] at hstep
    rw [hqtwo] at hqstep
    simp only [low, target] at *
    omega
  · rw [hqtwo] at hqstep
    omega

/-! ### Small characters -/

/-- A character that writing in small letters leaves as it is, wherever it stands. -/
def IsSmall (c : Char) : Prop := c ≠ '\u0130' ∧ ∀ q ∈ lowerRuns, q.holds c.toNat = false

instance : DecidablePred IsSmall := fun _ => inferInstanceAs (Decidable (_ ∧ _))

theorem IsSmall.lowerChar_eq {c : Char} (h : IsSmall c) : lowerChar c = c := by
  have hnone : lowerRuns.find? (·.holds c.toNat) = none := by
    rw [List.find?_eq_none]
    intro q hq
    rw [h.2 q hq]
    exact Bool.false_ne_true
  rw [lowerChar, hnone]

theorem IsSmall.ne_sigma {c : Char} (h : IsSmall c) : c ≠ '\u03A3' := by
  rintro rfl
  exact absurd (h.2 ⟨0x03A3, 0x03AB, 1, 32⟩ (by decide)) (by decide)

theorem IsSmall.lowerAt_eq {c : Char} (h : IsSmall c) (afterCased : Bool) (rest : List Char) :
    lowerAt afterCased c rest = [c] := by
  rw [lowerAt, if_neg h.ne_sigma, if_neg h.1, h.lowerChar_eq]

/-- Of a character of a run comes a small one, which is not blank. -/
private theorem lowerChar_of_find {c : Char} {r : Run} (h : lowerRuns.find? (·.holds c.toNat) = some r) :
    IsSmall (lowerChar c) ∧ Blank.isBlank (lowerChar c) = false := by
  have hr := List.mem_of_find?_eq_some h
  have hn : r.holds c.toNat = true := by simpa using List.find?_some h
  have hb := target_bounds hr hn
  have hend := (runs_sound r hr).2.2.1
  have ha : ∀ p ∈ avoided, target r c.toNat < p.1 ∨ p.2 < target r c.toNat := by
    intro p hp
    have := runs_avoid r hr p hp
    omega
  simp only [avoided, List.forall_mem_cons] at ha
  have hv : (target r c.toNat).isValidChar := by
    unfold Nat.isValidChar
    omega
  have ht : (lowerChar c).toNat = target r c.toNat := by
    rw [lowerChar, h]
    show (Char.ofNat (target r c.toNat)).toNat = target r c.toNat
    rw [Char.ofNat, dif_pos hv]
    rfl
  refine ⟨⟨?_, ?_⟩, ?_⟩
  · intro he
    have : (lowerChar c).toNat = 0x130 := by rw [he]; rfl
    omega
  · intro q hq
    rw [ht]
    exact holds_target hr hq hn
  · rw [Bool.eq_false_iff]
    intro hblank
    simp only [Blank.isBlank, ht, Bool.or_eq_true, Bool.and_eq_true, decide_eq_true_eq, beq_iff_eq] at hblank
    omega

private theorem lowerChar_of_not_find {c : Char} (h : lowerRuns.find? (·.holds c.toNat) = none)
    (hc : c ≠ '\u0130') : IsSmall (lowerChar c) ∧ lowerChar c = c := by
  have he : lowerChar c = c := by rw [lowerChar, h]
  rw [he]
  refine ⟨⟨hc, ?_⟩, rfl⟩
  intro q hq
  have := List.find?_eq_none.1 h q hq
  simpa using this

theorem isSmall_of_mem_lowerAt {afterCased : Bool} {c d : Char} {rest : List Char}
    (h : d ∈ lowerAt afterCased c rest) : IsSmall d := by
  unfold lowerAt at h
  split at h
  · rw [List.mem_singleton] at h
    subst h
    split <;> decide +kernel
  · split at h
    · simp only [List.mem_cons, List.not_mem_nil, or_false] at h
      rcases h with rfl | rfl <;> decide +kernel
    · rw [List.mem_singleton] at h
      subst h
      rename_i hc
      cases hf : lowerRuns.find? (·.holds c.toNat) with
      | some r => exact (lowerChar_of_find hf).1
      | none => exact (lowerChar_of_not_find hf hc).1

theorem isBlank_of_mem_lowerAt {afterCased : Bool} {c d : Char} {rest : List Char} (hc : Blank.isBlank c = false)
    (h : d ∈ lowerAt afterCased c rest) : Blank.isBlank d = false := by
  unfold lowerAt at h
  split at h
  · rw [List.mem_singleton] at h
    subst h
    split <;> decide
  · split at h
    · simp only [List.mem_cons, List.not_mem_nil, or_false] at h
      rcases h with rfl | rfl <;> decide
    · rw [List.mem_singleton] at h
      subst h
      rename_i hi
      cases hf : lowerRuns.find? (·.holds c.toNat) with
      | some r => exact (lowerChar_of_find hf).2
      | none =>
        rw [(lowerChar_of_not_find hf hi).2]
        exact hc

theorem lowerAt_ne_nil (afterCased : Bool) (c : Char) (rest : List Char) : lowerAt afterCased c rest ≠ [] := by
  unfold lowerAt
  split
  · exact List.cons_ne_nil _ _
  · split <;> exact List.cons_ne_nil _ _

/-! ### Small texts -/

theorem isSmall_of_mem_lowerFrom {cs : List Char} {afterCased : Bool} {d : Char}
    (h : d ∈ lowerFrom afterCased cs) : IsSmall d := by
  induction cs generalizing afterCased with
  | nil => cases h
  | cons c cs ih =>
    rw [lowerFrom, List.mem_append] at h
    rcases h with h | h
    · exact isSmall_of_mem_lowerAt h
    · exact ih h

theorem isSmall_of_mem_lower {cs : List Char} {d : Char} (h : d ∈ lower cs) : IsSmall d :=
  isSmall_of_mem_lowerFrom h

theorem lowerFrom_of_small {cs : List Char} (h : ∀ c ∈ cs, IsSmall c) (afterCased : Bool) :
    lowerFrom afterCased cs = cs := by
  induction cs generalizing afterCased with
  | nil => rfl
  | cons c cs ih =>
    rw [lowerFrom, (h c (List.mem_cons_self ..)).lowerAt_eq, ih fun d hd => h d (List.mem_cons_of_mem _ hd)]
    rfl

/-- A text of small characters is left as it is. -/
theorem lower_of_small {cs : List Char} (h : ∀ c ∈ cs, IsSmall c) : lower cs = cs := lowerFrom_of_small h false

theorem suffix_lowerFrom {ds : List Char} (h : ∀ d ∈ ds, IsSmall d) (afterCased : Bool) (cs : List Char) :
    ds <:+ lowerFrom afterCased (cs ++ ds) := by
  induction cs generalizing afterCased with
  | nil => exact ⟨[], (lowerFrom_of_small h afterCased).symm⟩
  | cons c cs ih =>
    rw [List.cons_append, lowerFrom]
    exact (ih _).trans (List.suffix_append ..)

/-- What ends a text in small letters is still its end in small letters. -/
theorem suffix_lower {ds : List Char} (h : ∀ d ∈ ds, IsSmall d) (cs : List Char) : ds <:+ lower (cs ++ ds) :=
  suffix_lowerFrom h false cs

theorem suffix_mapRunsFrom_lower {ds : List Char} (h : ∀ d ∈ ds, IsSmall d) (run : List Char) (t : Text) :
    Text.ofChars ds <:+ Text.mapRunsFrom lower run (t ++ Text.ofChars ds) := by
  induction t generalizing run with
  | nil =>
    rw [List.nil_append, Text.mapRunsFrom_ofChars]
    exact (suffix_lower h run.reverse).map CodePoint.scalar
  | cons p t ih =>
    cases p with
    | scalar c => exact ih (c :: run)
    | surrogate half => exact ((ih []).trans (List.suffix_cons ..)).trans (List.suffix_append ..)

/-- So it is after a text that may hold lone halves. -/
theorem suffix_lowerText {ds : List Char} (h : ∀ d ∈ ds, IsSmall d) (t : Text) :
    Text.ofChars ds <:+ lowerText (t ++ Text.ofChars ds) :=
  suffix_mapRunsFrom_lower h [] t

/-- Small letters do not make a text start with a blank. -/
theorem isBlank_head_lower {cs : List Char} (h : ∀ c, cs.head? = some c → Blank.isBlank c = false) {d : Char}
    (hd : (lower cs).head? = some d) : Blank.isBlank d = false := by
  cases cs with
  | nil => cases hd
  | cons c cs =>
    obtain ⟨x, xs, hx⟩ := List.exists_cons_of_ne_nil (lowerAt_ne_nil false c cs)
    rw [lower, lowerFrom, hx, List.cons_append, List.head?_cons, Option.some.injEq] at hd
    subst hd
    exact isBlank_of_mem_lowerAt (h c rfl) (hx ▸ List.mem_cons_self ..)

end DomainPolicy.Lowercase
