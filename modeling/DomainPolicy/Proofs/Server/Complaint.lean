import DomainPolicy.Proofs.Json.Portable
import DomainPolicy.Proofs.Server.Command

/-!
# What is complained of

A check `Sorts` values into those that it takes and those in which it rejects parts, and then it complains of exactly
these parts.  So does the check of the domains of a body (`sorts_domains`).  Complaints echo what they are about, so an
answer can carry them if and only if nothing of that is spoilt outside the members that are not echoed
(`rejection?_eq_none_iff`).
-/

namespace DomainPolicy

open Json (Value Members)
open Json.Value (shownAll)

/-! ### Checks -/

/-- Whether complaints are about these parts, and name places by keys without lone halves. -/
structure About (cs : List Complaint) (parts : Value → Prop) : Prop where
  input_iff : ∀ w, (∃ c ∈ cs, c.input = w) ↔ parts w
  path : ∀ c ∈ cs, ∀ k, .key k ∈ c.path → k.Whole

theorem about_singleton {c : Complaint} {parts : Value → Prop} (hparts : ∀ w, c.input = w ↔ parts w)
    (hpath : ∀ k, .key k ∈ c.path → k.Whole) : About [c] parts := by
  refine ⟨fun w => ?_, fun c' hc' => ?_⟩
  · rw [← hparts]
    simp
  · rw [List.mem_singleton.1 hc']
    exact hpath

theorem About.append {cs cs' : List Complaint} {parts parts' : Value → Prop} (h : About cs parts)
    (h' : About cs' parts') : About (cs ++ cs') fun w => parts w ∨ parts' w := by
  refine ⟨fun w => ?_, List.forall_mem_append.2 ⟨h.path, h'.path⟩⟩
  rw [← h.input_iff, ← h'.input_iff]
  simp only [List.mem_append, or_and_right, exists_or]

/-- Whether a check gives something that is taken and nothing is rejected, or complains of what is. -/
inductive Sorts {α : Type} (takes : α → Prop) (rejects : Value → Prop) : Checked α → Prop where
  | ok {a : α} (ha : takes a) (hnone : ∀ w, ¬rejects w) : Sorts takes rejects (.ok a)
  | error {cs : List Complaint} (hsome : ∃ w, rejects w) (habout : About cs rejects) :
    Sorts takes rejects (.error cs)

namespace Sorts

variable {α β : Type} {takes : α → Prop} {rejects rejects' : Value → Prop}

theorem congr {takes' : α → Prop} {check : Checked α} (h : Sorts takes rejects check)
    (htakes : ∀ a, takes a → takes' a) (hrejects : ∀ w, rejects w ↔ rejects' w) : Sorts takes' rejects' check := by
  cases h with
  | ok ha hnone => exact .ok (htakes _ ha) fun w hw => hnone w ((hrejects w).2 hw)
  | error hsome habout =>
    refine .error (hsome.imp fun w => (hrejects w).1) ⟨fun w => ?_, habout.path⟩
    rw [← hrejects, habout.input_iff]

theorem map {check : Checked α} (h : Sorts takes rejects check) (f : α → β) :
    Sorts (fun b => ∃ a, takes a ∧ f a = b) rejects (check.map f) := by
  cases h with
  | ok ha hnone => exact .ok ⟨_, ha, rfl⟩ hnone
  | error hsome habout => exact .error hsome habout

/-- Of parts that are checked independently, what is rejected in either is rejected. -/
theorem and {takesFun : (α → β) → Prop} {f : Checked (α → β)} {a : Checked α} (hf : Sorts takesFun rejects f)
    (ha : Sorts takes rejects' a) :
    Sorts (fun b => ∃ g, takesFun g ∧ ∃ x, takes x ∧ g x = b) (fun w => rejects w ∨ rejects' w)
      (Checked.and f a) := by
  cases hf with
  | ok hg hnone =>
    cases ha with
    | ok hx hnone' => exact .ok ⟨_, hg, _, hx, rfl⟩ fun w hw => hw.elim (hnone w) (hnone' w)
    | error hsome habout =>
      refine .error (hsome.imp fun w => Or.inr) ⟨fun w => ?_, habout.path⟩
      rw [habout.input_iff]
      exact ⟨Or.inr, fun hw => hw.resolve_left (hnone w)⟩
  | error hsome habout =>
    cases ha with
    | ok hx hnone' =>
      refine .error (hsome.imp fun w => Or.inl) ⟨fun w => ?_, habout.path⟩
      rw [habout.input_iff]
      exact ⟨Or.inl, fun hw => hw.resolve_right (hnone' w)⟩
    | error hsome' habout' => exact .error (hsome.imp fun w => Or.inl) (habout.append habout')

end Sorts

namespace Server.Submission

/-! ### The check of a body -/

/-- Whether a part of the value of `domains` keeps it from being 1 to 1000 strings. -/
inductive RejectsList : Value → Value → Prop where
  | value {v : Value} (h : ∀ vs, v ≠ .array vs) : RejectsList v v
  | count {vs : List Value} (h : vs = [] ∨ maxItems < vs.length) : RejectsList (.array vs) (.array vs)
  | item {vs : List Value} {v : Value} (hle : vs.length ≤ maxItems) (hmem : v ∈ vs) (h : ∀ t, v ≠ .string t) :
    RejectsList (.array vs) v

/-- Whether a part of a value keeps it from being an object whose `domains` are 1 to 1000 strings. -/
inductive Rejects : Value → Value → Prop where
  | value {v : Value} (h : ∀ ms, v ≠ .object ms) : Rejects v v
  | missing {ms : Members} (h : Members.get? key ms = none) : Rejects (.object ms) (.object ms)
  | domains {ms : Members} {v w : Value} (hget : Members.get? key ms = some v) (h : RejectsList v w) :
    Rejects (.object ms) w

/-- Whether a value is an object whose `domains` are these texts, 1 to 1000 of them. -/
def Accepts (v : Value) (ts : List Text) : Prop :=
  ∃ ms, v = .object ms ∧ Members.get? key ms = some (.array (ts.map .string)) ∧ 1 ≤ ts.length ∧ ts.length ≤ maxItems

theorem Accepts.length_le {v : Value} {ts : List Text} (h : Accepts v ts) : ts.length ≤ maxItems := by
  obtain ⟨-, -, -, -, hlength⟩ := h
  exact hlength

theorem whole_of_mem_place {k : Text} (index : Nat) (h : PathStep.key k ∈ [PathStep.key key, .index index]) :
    k.Whole := by
  simp only [List.mem_cons, PathStep.key.injEq, reduceCtorEq, List.not_mem_nil, or_false] at h
  rw [h]
  exact Text.whole_ofString _

theorem whole_of_mem_key {k : Text} (h : PathStep.key k ∈ [PathStep.key key]) : k.Whole :=
  whole_of_mem_place 0 (List.mem_cons.2 (Or.inl (List.mem_singleton.1 h)))

theorem sorts_item (index : Nat) (v : Value) :
    Sorts (fun t => v = .string t) (fun w => v = w ∧ ∀ t, w ≠ .string t) (item index v) := by
  cases v with
  | string t =>
    refine .ok rfl fun w => ?_
    rintro ⟨rfl, hne⟩
    exact hne t rfl
  | _ =>
    refine .error ⟨_, rfl, by simp⟩ (about_singleton (fun w => ?_) fun _ => whole_of_mem_place index)
    refine ⟨?_, And.left⟩
    rintro rfl
    exact ⟨rfl, by simp⟩

/-- Items are taken if all are strings; those that are none are rejected. -/
theorem sorts_items (index : Nat) (vs : List Value) :
    Sorts (fun ts => vs = ts.map .string) (fun w => w ∈ vs ∧ ∀ t, w ≠ .string t) (items index vs) := by
  induction vs generalizing index with
  | nil => exact .ok rfl fun w hw => nomatch hw.1
  | cons v vs ih =>
    refine (((sorts_item index v).map List.cons).and (ih (index + 1))).congr ?_ fun w => ?_
    · rintro _ ⟨_, ⟨t, rfl, rfl⟩, ts, rfl, rfl⟩
      rfl
    · rw [List.mem_cons, or_and_right, eq_comm]

theorem sorts_list (v : Value) :
    Sorts (fun ts => v = .array (ts.map .string) ∧ 1 ≤ ts.length ∧ ts.length ≤ maxItems) (RejectsList v) (list v) := by
  cases v with
  | array vs =>
    by_cases hcount : vs = [] ∨ maxItems < vs.length
    · have hrejects : ∀ w, Value.array vs = w ↔ RejectsList (.array vs) w := by
        intro w
        constructor
        · rintro rfl
          exact .count hcount
        · rintro (h | h | ⟨hle, hmem, h⟩)
          · rfl
          · rfl
          · rcases hcount with rfl | hlt
            · cases hmem
            · exact absurd hle (Nat.not_le.2 hlt)
      rw [list]
      split
      · exact .error ⟨_, .count hcount⟩ (about_singleton hrejects fun _ => whole_of_mem_key)
      · rename_i hle
        rw [if_pos (List.isEmpty_iff.2 (hcount.resolve_right hle))]
        exact .error ⟨_, .count hcount⟩ (about_singleton hrejects fun _ => whole_of_mem_key)
    · obtain ⟨hne, hlt⟩ := not_or.1 hcount
      have hle := Nat.not_lt.1 hlt
      rw [list, if_neg hlt, if_neg (by rwa [List.isEmpty_iff])]
      refine (sorts_items 0 vs).congr ?_ fun w => ?_
      · rintro ts rfl
        rw [List.length_map] at hle
        exact ⟨rfl, List.length_pos_of_ne_nil fun hts => hne (by rw [hts]; rfl), hle⟩
      · constructor
        · rintro ⟨hmem, h⟩
          exact .item hle hmem h
        · rintro (h | h | ⟨-, hmem, h⟩)
          · exact absurd rfl (h vs)
          · exact absurd h hcount
          · exact ⟨hmem, h⟩
  | _ =>
    refine .error ⟨_, .value (by simp)⟩ (about_singleton (fun w => ?_) fun _ => whole_of_mem_key)
    constructor
    · rintro rfl
      exact .value (by simp)
    · rintro ⟨-⟩
      rfl

/-- The check of the domains of a value takes what the value accepts, and complains of what it rejects. -/
theorem sorts_domains (v : Value) : Sorts (Accepts v) (Rejects v) (domains v) := by
  cases v with
  | object ms =>
    cases hget : Members.get? key ms with
    | none =>
      rw [domains, hget]
      refine .error ⟨_, .missing hget⟩ (about_singleton (fun w => ?_) fun _ => whole_of_mem_key)
      constructor
      · rintro rfl
        exact .missing hget
      · rintro (h | h | ⟨hsome, h⟩)
        · rfl
        · rfl
        · cases hget.symm.trans hsome
    | some v =>
      rw [domains, hget]
      refine (sorts_list v).congr ?_ fun w => ?_
      · rintro ts ⟨rfl, hpos, hle⟩
        exact ⟨ms, rfl, hget, hpos, hle⟩
      · constructor
        · exact .domains hget
        · rintro (h | h | ⟨hsome, h⟩)
          · exact absurd rfl (h ms)
          · cases hget.symm.trans h
          · cases hget.symm.trans hsome
            exact h
  | _ =>
    refine .error ⟨_, .value (by simp)⟩ (about_singleton (fun w => ?_) (by simp))
    constructor
    · rintro rfl
      exact .value (by simp)
    · rintro ⟨-⟩
      rfl

/-- The domains of a value are those that it accepts. -/
theorem domains_eq_ok_iff {v : Value} {ts : List Text} : domains v = .ok ts ↔ Accepts v ts := by
  constructor
  · intro h
    have hsorts := sorts_domains v
    rw [h] at hsorts
    cases hsorts
    assumption
  · rintro ⟨ms, rfl, hget, hpos, hle⟩
    exact domains_of_get? hget hpos hle

/-! ### The answer to complaints -/

mutual

/-- What spoils an echo is what spoils the value outside the members that are not echoed. -/
theorem spoilt_echo (v : Value) : (echo v).Spoilt shownAll ↔ v.Spoilt isHidden := by
  match v with
  | .null | .boolean _ | .integer _ | .real _ | .string _ => simp [echo]
  | .array vs =>
    rw [echo, Value.spoilt_array, Value.spoilt_array]
    exact spoilt_echoItems vs
  | .object ms =>
    rw [echo, Value.spoilt_object, Value.spoilt_object]
    exact spoilt_echoMembers ms

theorem spoilt_echoItems (vs : List Value) :
    (∃ w ∈ echoItems vs, w.Spoilt shownAll) ↔ ∃ v ∈ vs, v.Spoilt isHidden := by
  match vs with
  | [] => simp [echoItems]
  | v :: vs => rw [echoItems, List.exists_mem_cons_iff, List.exists_mem_cons_iff, spoilt_echo v, spoilt_echoItems vs]

theorem spoilt_echoMembers (ms : Members) :
    (∃ m ∈ echoMembers ms, shownAll m.1 = false ∧ (¬m.1.Whole ∨ m.2.Spoilt shownAll)) ↔
      ∃ m ∈ ms, isHidden m.1 = false ∧ (¬m.1.Whole ∨ m.2.Spoilt isHidden) := by
  match ms with
  | [] => simp [echoMembers]
  | (k, v) :: ms =>
    rw [echoMembers, List.exists_mem_cons_iff]
    split
    · rename_i hidden
      rw [spoilt_echoMembers ms, hidden]
      simp
    · rename_i shown
      rw [List.exists_mem_cons_iff, spoilt_echoMembers ms, spoilt_echo v, Bool.eq_false_iff.2 shown]
      simp [shownAll]

end

theorem not_spoilt_context {fault : Fault} {v : Value} (h : fault.context? = some v) : ¬v.Spoilt isHidden := by
  cases fault <;> cases h <;> simp [Value.ofMembers, Value.ofNat]

theorem spoilt_ofMembers {hidden : Text → Bool} {members : List (String × Value)} :
    (Value.ofMembers members).Spoilt hidden ↔
      ∃ m ∈ members, hidden (Text.ofString m.1) = false ∧ m.2.Spoilt hidden := by
  simp only [Value.ofMembers, Value.spoilt_object, List.mem_map, exists_exists_and_eq_and, Text.whole_ofString,
    not_true_eq_false, false_or]

/-- What spoils a complaint is what spoils the value that it is about. -/
theorem spoilt_members {c : Complaint} (hpath : ∀ k, .key k ∈ c.path → k.Whole) :
    (Value.ofMembers c.members).Spoilt isHidden ↔ c.input.Spoilt isHidden := by
  rw [spoilt_ofMembers]
  constructor
  · rintro ⟨m, hm, -, h⟩
    rcases List.mem_append.1 hm with hm | hm
    · simp only [List.mem_cons, List.not_mem_nil, or_false] at hm
      rcases hm with rfl | rfl | rfl | rfl
      · exact absurd h (Value.not_spoilt_ofString _)
      · -- a place is made of keys without lone halves and of numbers
        obtain ⟨v, hv, hspoilt⟩ := Value.spoilt_array.1 h
        obtain ⟨part, hpart, rfl⟩ := List.mem_map.1 hv
        cases part with
        | key k => exact absurd (hpath k hpart) (Value.spoilt_string.1 hspoilt)
        | index n => exact absurd hspoilt (Value.not_spoilt_integer _)
      · exact absurd h (Value.not_spoilt_ofString _)
      · exact h
    · cases hcontext : c.fault.context? with
      | none =>
        rw [hcontext] at hm
        cases hm
      | some v =>
        rw [hcontext] at hm
        cases List.mem_singleton.1 hm
        exact absurd h (not_spoilt_context hcontext)
  · intro h
    have hshown : isHidden (Text.ofString "input") = false := by decide
    exact ⟨("input", c.input), List.mem_append_left _ (by simp), hshown, h⟩

theorem rejection?_eq_none_iff {cs : List Complaint} (hpath : ∀ c ∈ cs, ∀ k, .key k ∈ c.path → k.Whole) :
    rejection? cs = none ↔ ∃ c ∈ cs, c.input.Spoilt isHidden := by
  have hportable :
      (Value.ofMembers [("detail", .array (cs.map fun c => echo (.ofMembers c.members)))]).isPortable = true ↔
        ¬∃ c ∈ cs, c.input.Spoilt isHidden := by
    rw [Value.isPortable_iff, spoilt_ofMembers]
    refine not_congr ?_
    simp only [List.mem_singleton, exists_eq_left, shownAll, true_and, Value.spoilt_array, List.mem_map,
      exists_exists_and_eq_and]
    refine exists_congr fun c => and_congr_right fun hc => ?_
    rw [← spoilt_members (hpath c hc)]
    exact spoilt_echo _
  unfold rejection? Http.Response.json?
  split
  · rename_i h
    exact iff_of_false (Option.some_ne_none _) (hportable.1 h)
  · rename_i h
    exact iff_of_true rfl (not_not.1 fun hn => h (hportable.2 hn))

theorem status_rejection {cs : List Complaint} {r : Http.Response} (h : rejection? cs = some r) : r.status = 422 := by
  unfold rejection? Http.Response.json? at h
  split at h
  · cases h
    rfl
  · cases h

end Server.Submission

end DomainPolicy
