import DomainPolicy.Proofs.Text.SmallLetters

/-!
# Small letters of a text that is spelled otherwise

The small letters of a text do not depend on the case of its letters of ASCII (`lower_eq_of_map_toLower`), although they
depend on what stands around a capital sigma: a letter and its small letter are cased alike and ignored alike
(`alike_toLower`).  Small characters that are ignored for case, behind a text, stay behind its small letters and change
none of them (`lower_append`).
-/

namespace DomainPolicy.Lowercase

/-! ### Letters of ASCII -/

/-- `Char.toLower` changes the capitals of ASCII only. -/
theorem toLower_eq_or_capital (c : Char) : c.toLower = c ∨ ∃ n < 26, c = Char.ofNat (65 + n) := by
  unfold Char.toLower
  split
  · rename_i h
    obtain ⟨hfirst, hlast⟩ := h
    rw [ge_iff_le, UInt32.le_iff_toNat_le] at hfirst
    rw [UInt32.le_iff_toNat_le] at hlast
    have hA : 'A'.val.toNat = 65 := rfl
    have hZ : 'Z'.val.toNat = 90 := rfl
    have hc : c.toNat = c.val.toNat := rfl
    refine Or.inr ⟨c.toNat - 65, by omega, ?_⟩
    rw [show 65 + (c.toNat - 65) = c.toNat by omega, Char.ofNat_toNat]
  · exact Or.inl rfl

/-- Two characters that a text can have in each other's place: they are blank alike, count alike for a sigma near them,
and have the same small letters. -/
structure Alike (c d : Char) : Prop where
  isBlank : Blank.isBlank c = Blank.isBlank d
  isCased : isCased c = isCased d
  isIgnorable : isIgnorable c = isIgnorable d
  lowerAt : ∀ afterCased rest, lowerAt afterCased c rest = lowerAt afterCased d rest

theorem alike_toLower (c : Char) : Alike c.toLower c := by
  rcases toLower_eq_or_capital c with h | ⟨n, hn, rfl⟩
  · rw [h]
    exact ⟨rfl, rfl, rfl, fun _ _ => rfl⟩
  · have hall : ∀ n < 26,
        let c := Char.ofNat (65 + n)
        Blank.isBlank c.toLower = Blank.isBlank c ∧ isCased c.toLower = isCased c ∧
          isIgnorable c.toLower = isIgnorable c ∧ c.toLower ≠ '\u03A3' ∧ c ≠ '\u03A3' ∧ c.toLower ≠ '\u0130' ∧
          c ≠ '\u0130' ∧ lowerChar c.toLower = lowerChar c := by decide +kernel
    obtain ⟨hblank, hcased, hignorable, hs, hs', hi, hi', hlower⟩ := hall n hn
    refine ⟨hblank, hcased, hignorable, fun afterCased rest => ?_⟩
    rw [lowerAt, lowerAt, if_neg hs, if_neg hs', if_neg hi, if_neg hi', hlower]

theorem startsCased_map_toLower (cs : List Char) : startsCased (cs.map Char.toLower) = startsCased cs := by
  induction cs with
  | nil => rfl
  | cons c cs ih =>
    have h := alike_toLower c
    rw [List.map_cons, startsCased, startsCased, h.isIgnorable, h.isCased, ih]

/-- Of what follows, a character only asks whether it starts with a cased one. -/
theorem lowerAt_congr {rest rest' : List Char} (h : startsCased rest = startsCased rest') (afterCased : Bool)
    (c : Char) : lowerAt afterCased c rest = lowerAt afterCased c rest' := by
  rw [lowerAt, lowerAt, h]

theorem lowerFrom_map_toLower (afterCased : Bool) (cs : List Char) :
    lowerFrom afterCased (cs.map Char.toLower) = lowerFrom afterCased cs := by
  induction cs generalizing afterCased with
  | nil => rfl
  | cons c cs ih =>
    have h := alike_toLower c
    rw [List.map_cons, lowerFrom, lowerFrom, h.lowerAt, h.isIgnorable, h.isCased, ih,
      lowerAt_congr (startsCased_map_toLower cs)]

/-- Small letters do not depend on the case of the letters of ASCII. -/
theorem lower_eq_of_map_toLower {cs ds : List Char} (h : cs.map Char.toLower = ds.map Char.toLower) :
    lower cs = lower ds := by
  rw [lower, lower, ← lowerFrom_map_toLower, h, lowerFrom_map_toLower]

/-! ### Characters behind a text -/

theorem startsCased_append {ds : List Char} (h : ∀ d ∈ ds, isIgnorable d = true) (cs : List Char) :
    startsCased (cs ++ ds) = startsCased cs := by
  induction cs with
  | nil =>
    induction ds with
    | nil => rfl
    | cons d ds ih =>
      obtain ⟨hd, hds⟩ := List.forall_mem_cons.1 h
      have hcons : startsCased (d :: ds) = startsCased ds := if_pos hd
      rw [List.nil_append, hcons]
      exact ih hds
  | cons c cs ih => rw [List.cons_append, startsCased, startsCased, ih]

theorem lowerFrom_append {ds : List Char} (h : ∀ d ∈ ds, isIgnorable d = true ∧ IsSmall d) (afterCased : Bool)
    (cs : List Char) : lowerFrom afterCased (cs ++ ds) = lowerFrom afterCased cs ++ ds := by
  induction cs generalizing afterCased with
  | nil => exact lowerFrom_of_small (fun d hd => (h d hd).2) afterCased
  | cons c cs ih =>
    rw [List.cons_append, lowerFrom, lowerFrom, ih, List.append_assoc,
      lowerAt_congr (startsCased_append (fun d hd => (h d hd).1) cs)]

/-- Small characters that are ignored for case change nothing in front of them. -/
theorem lower_append {ds : List Char} (h : ∀ d ∈ ds, isIgnorable d = true ∧ IsSmall d) (cs : List Char) :
    lower (cs ++ ds) = lower cs ++ ds := lowerFrom_append h false cs

end DomainPolicy.Lowercase
