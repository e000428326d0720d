import DomainPolicy.Text.CodePoint

/-!
# Texts that are strings

A text is `Whole` if it holds no lone half of a surrogate pair, and then it is the text of a string
(`whole_iff_ofString`).  Lone halves are neither taken away nor brought in where runs of characters are rewritten.
-/

namespace DomainPolicy.Text

/-- A text without lone halves. -/
def Whole (t : Text) : Prop := ∀ p ∈ t, p.isSurrogate = false

instance : DecidablePred Whole := fun t => inferInstanceAs (Decidable (∀ p ∈ t, p.isSurrogate = false))

@[simp] theorem whole_nil : Whole [] := fun _ => nofun

@[simp] theorem whole_cons {p : CodePoint} {t : Text} : Whole (p :: t) ↔ p.isSurrogate = false ∧ t.Whole :=
  List.forall_mem_cons

@[simp] theorem whole_append {s t : Text} : Whole (s ++ t) ↔ s.Whole ∧ t.Whole := List.forall_mem_append

@[simp] theorem whole_ofChars (cs : List Char) : (ofChars cs).Whole := by
  intro p hp
  obtain ⟨c, -, rfl⟩ := List.mem_map.1 hp
  rfl

@[simp] theorem whole_ofString (s : String) : (ofString s).Whole := whole_ofChars s.toList

theorem all_iff_whole {t : Text} : (t.all fun p => !p.isSurrogate) = true ↔ t.Whole := by
  simp only [List.all_eq_true, Bool.not_eq_true', Whole]

theorem toString?_eq_some_iff {t : Text} {s : String} : t.toString? = some s ↔ t = ofString s := by
  refine ⟨fun h => ?_, ?_⟩
  · obtain ⟨cs, hcs, rfl⟩ := Option.map_eq_some_iff.1 h
    rw [eq_ofChars_of_toChars? hcs, ofString, String.toList_ofList]
  · rintro rfl
    exact toString?_ofString s

/-- A text is whole if and only if it is that of a string. -/
theorem whole_iff_ofString {t : Text} : t.Whole ↔ ∃ s, t = ofString s := by
  constructor
  · intro h
    induction t with
    | nil => exact ⟨"", rfl⟩
    | cons p t ih =>
      obtain ⟨hp, ht⟩ := whole_cons.1 h
      obtain ⟨s, rfl⟩ := ih ht
      cases p with
      | scalar c =>
        refine ⟨String.ofList (c :: s.toList), ?_⟩
        show ofChars (c :: s.toList) = ofChars (String.ofList (c :: s.toList)).toList
        rw [String.toList_ofList]
      | surrogate half => cases hp
  · rintro ⟨s, rfl⟩
    exact whole_ofString s

theorem surrogate_mem_mapRunsFrom {half : Fin 2048} {t : Text} (f : List Char → List Char) (run : List Char) :
    CodePoint.surrogate half ∈ mapRunsFrom f run t ↔ CodePoint.surrogate half ∈ t := by
  have hnot (cs : List Char) : CodePoint.surrogate half ∉ ofChars cs := by simp [ofChars]
  induction t generalizing run with
  | nil => exact iff_of_false (hnot _) List.not_mem_nil
  | cons p t ih =>
    cases p with
    | scalar c =>
      rw [mapRunsFrom, List.mem_cons, or_iff_right CodePoint.noConfusion]
      exact ih (c :: run)
    | surrogate half' =>
      rw [mapRunsFrom, List.mem_append, or_iff_right (hnot _), List.mem_cons, List.mem_cons]
      exact or_congr_right (ih [])

theorem whole_iff_surrogate_notMem {t : Text} : t.Whole ↔ ∀ half, CodePoint.surrogate half ∉ t := by
  refine ⟨fun h half hmem => (nomatch h _ hmem), fun h p hp => ?_⟩
  cases p with
  | scalar c => rfl
  | surrogate half => exact absurd hp (h half)

theorem ofString_injective : Function.Injective ofString := by
  intro s t h
  have hs := toString?_ofString s
  rw [h, toString?_ofString] at hs
  exact (Option.some.inj hs).symm

theorem ofString_ne_nil_iff {s : String} : ofString s ≠ [] ↔ s ≠ "" :=
  ofString_injective.ne_iff' (show ofString "" = [] from rfl)

theorem isNone_toString?_iff {t : Text} : t.toString?.isNone = true ↔ ¬t.Whole := by
  rw [Option.isNone_iff_eq_none, whole_iff_ofString, Option.eq_none_iff_forall_ne_some, not_exists]
  exact forall_congr' fun s => not_congr toString?_eq_some_iff

end DomainPolicy.Text
