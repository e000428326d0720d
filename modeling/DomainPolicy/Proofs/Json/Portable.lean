import DomainPolicy.Json.Writer
import DomainPolicy.Proofs.Text.Whole
import Mathlib.Data.List.Basic
import Mathlib.Tactic.Tauto

/-!
# Values that JSON proper can carry

A value is `Spoilt` by a number that is not finite, or by a key or text with a lone half of a surrogate pair, anywhere
in it.  JSON proper carries exactly the values that are not (`isPortable_iff`).
-/

namespace DomainPolicy.Json

/-! ### What is written -/

theorem whole_escaped {p : CodePoint} : (escaped p).Whole ↔ p.isSurrogate = false := by
  cases p with
  | surrogate half => simp [escaped]
  | scalar c =>
    refine iff_of_true ?_ rfl
    unfold escaped
    split
    · rename_i heq
      cases heq
    · split
      all_goals try exact Text.whole_ofChars _
      split
      · exact Text.whole_ofChars _
      · exact Text.whole_ofChars [_]

theorem whole_flatMap_escaped {t : Text} : Text.Whole (t.flatMap escaped) ↔ t.Whole := by
  induction t with
  | nil => simp
  | cons p t ih => rw [List.flatMap_cons, Text.whole_append, Text.whole_cons, whole_escaped, ih]

@[simp] theorem whole_quoteOnto {t rest : Text} : (quoteOnto t rest).Whole ↔ t.Whole ∧ rest.Whole := by
  simp [quoteOnto, whole_flatMap_escaped, CodePoint.isSurrogate]

namespace Value

/-! ### What spoils a value -/

/-- Whether a value is spoilt outside its members with hidden keys. -/
inductive Spoilt (hidden : Text → Bool) : Value → Prop where
  | number {x : Binary64} (h : x.isFinite = false) : Spoilt hidden (.real x)
  | text {t : Text} (h : ¬t.Whole) : Spoilt hidden (.string t)
  | item {vs : List Value} {v : Value} (hmem : v ∈ vs) (h : Spoilt hidden v) : Spoilt hidden (.array vs)
  | key {ms : Members} {k : Text} {v : Value} (hmem : (k, v) ∈ ms) (hshown : hidden k = false) (h : ¬k.Whole) :
    Spoilt hidden (.object ms)
  | member {ms : Members} {k : Text} {v : Value} (hmem : (k, v) ∈ ms) (hshown : hidden k = false)
    (h : Spoilt hidden v) : Spoilt hidden (.object ms)

section

variable {hidden : Text → Bool}

@[simp] theorem not_spoilt_null : ¬null.Spoilt hidden := nofun

@[simp] theorem not_spoilt_boolean (b : Bool) : ¬(boolean b).Spoilt hidden := nofun

@[simp] theorem not_spoilt_integer (n : Int) : ¬(integer n).Spoilt hidden := nofun

@[simp] theorem spoilt_real {x : Binary64} : (real x).Spoilt hidden ↔ x.isFinite = false := by
  constructor
  · rintro (h | _)
    exact h
  · exact .number

@[simp] theorem spoilt_string {t : Text} : (string t).Spoilt hidden ↔ ¬t.Whole := by
  constructor
  · rintro (_ | h)
    exact h
  · exact .text

@[simp] theorem spoilt_array {vs : List Value} : (array vs).Spoilt hidden ↔ ∃ v ∈ vs, v.Spoilt hidden := by
  constructor
  · rintro (_ | _ | ⟨hmem, h⟩)
    exact ⟨_, hmem, h⟩
  · rintro ⟨v, hmem, h⟩
    exact .item hmem h

@[simp] theorem spoilt_object {ms : Members} :
    (object ms).Spoilt hidden ↔ ∃ m ∈ ms, hidden m.1 = false ∧ (¬m.1.Whole ∨ m.2.Spoilt hidden) := by
  constructor
  · rintro (_ | _ | _ | ⟨hmem, hshown, h⟩ | ⟨hmem, hshown, h⟩)
    · exact ⟨_, hmem, hshown, Or.inl h⟩
    · exact ⟨_, hmem, hshown, Or.inr h⟩
  · rintro ⟨⟨k, v⟩, hmem, hshown, h | h⟩
    · exact .key hmem hshown h
    · exact .member hmem hshown h

@[simp] theorem not_spoilt_ofString (s : String) : ¬(ofString s).Spoilt hidden := by
  simp [ofString]

end

/-- Nothing is hidden. -/
def shownAll : Text → Bool := fun _ => false

mutual

private theorem carried_value (v : Value) (rest : Text) :
    (v.isFinite = true ∧ (v.writeOnto rest).Whole) ↔ ¬v.Spoilt shownAll ∧ rest.Whole := by
  match v with
  | null => simp [isFinite, writeOnto]
  | boolean true => simp [isFinite, writeOnto]
  | boolean false => simp [isFinite, writeOnto]
  | integer n => simp [isFinite, writeOnto]
  | real x => simp [isFinite, writeOnto]
  | string t => simp [isFinite, writeOnto]
  | array [] => simp [isFinite, allFinite, writeOnto]
  | array (v :: vs) =>
    have hv := carried_value v (itemsOnto vs (.scalar ']' :: rest))
    have hvs := carried_items vs (.scalar ']' :: rest)
    simp only [isFinite, allFinite, writeOnto, Text.whole_cons, Bool.and_eq_true, spoilt_array,
      List.exists_mem_cons_iff, not_or] at hv hvs ⊢
    tauto
  | object [] => simp [isFinite, allFiniteMembers, writeOnto]
  | object ((k, v) :: ms) =>
    have hv := carried_value v (membersOnto ms (.scalar '}' :: rest))
    have hms := carried_members ms (.scalar '}' :: rest)
    simp only [isFinite, allFiniteMembers, writeOnto, Text.whole_cons, whole_quoteOnto, Bool.and_eq_true, spoilt_object,
      List.exists_mem_cons_iff, not_or, shownAll] at hv hms ⊢
    tauto

private theorem carried_items (vs : List Value) (rest : Text) :
    (allFinite vs = true ∧ (itemsOnto vs rest).Whole) ↔ (¬∃ v ∈ vs, v.Spoilt shownAll) ∧ rest.Whole := by
  match vs with
  | [] => simp [allFinite, itemsOnto]
  | v :: vs =>
    have hv := carried_value v (itemsOnto vs rest)
    have hvs := carried_items vs rest
    simp only [allFinite, itemsOnto, Text.whole_cons, Bool.and_eq_true, List.exists_mem_cons_iff, not_or] at hv hvs ⊢
    tauto

private theorem carried_members (ms : Members) (rest : Text) :
    (allFiniteMembers ms = true ∧ (membersOnto ms rest).Whole) ↔
      (¬∃ m ∈ ms, shownAll m.1 = false ∧ (¬m.1.Whole ∨ m.2.Spoilt shownAll)) ∧ rest.Whole := by
  match ms with
  | [] => simp [allFiniteMembers, membersOnto]
  | (k, v) :: ms =>
    have hv := carried_value v (membersOnto ms rest)
    have hms := carried_members ms rest
    simp only [allFiniteMembers, membersOnto, Text.whole_cons, whole_quoteOnto, Bool.and_eq_true,
      List.exists_mem_cons_iff, not_or, shownAll] at hv hms ⊢
    tauto

end

/-- JSON proper carries a value if and only if it is not spoilt. -/
theorem isPortable_iff {v : Value} : v.isPortable = true ↔ ¬v.Spoilt shownAll := by
  rw [isPortable, Bool.and_eq_true, Text.all_iff_whole, write, carried_value]
  exact and_iff_left Text.whole_nil

end Value

end DomainPolicy.Json
