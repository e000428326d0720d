import DomainPolicy.Json.Reader
import DomainPolicy.Json.Writer
import DomainPolicy.Proofs.Text.ReadBack
import Mathlib.Data.List.Induction

/-!
# JSON read back

A value `ReadsBack` if the machine that reads JSON takes what is written of it for this value, wherever the value
stands and whatever follows.  Texts read back, with whatever characters in them, and so do arrays of what reads back,
and objects of it with different keys.  Of members with one key, an object is read with the last (`readsAs_object`,
`Members.get?_setAll`).  The bytes of an object are read as what it reads as (`readBytes_compact`, `readBytes_member`).
-/

namespace DomainPolicy.Json

namespace Machine

variable {stack : List Frame} {rest : Text}

theorem run_cons_of_step {m m' : Machine} {p : CodePoint} (h : m.step p = .ok m') (t : Text) :
    m.run (p :: t) = m'.run t := by
  rw [run, List.foldlM_cons, h]
  rfl

/-! ### Texts -/

theorem run_short {e d : Char} (hu : e ≠ 'u') (h : shortEscape? e = some d) (q : Quoted) :
    run ⟨stack, .string q⟩ (Text.ofChars ['\\', e] ++ rest) =
      run ⟨stack, .string { q with points := .scalar d :: q.points, high := false }⟩ rest := by
  have hstart : step ⟨stack, .string q⟩ (.scalar '\\') = .ok ⟨stack, .escape q⟩ := rfl
  have hend : step ⟨stack, .escape q⟩ (.scalar e) =
      .ok ⟨stack, .string { q with points := .scalar d :: q.points, high := false }⟩ := by
    simp only [step, if_neg hu, h]
  exact (run_cons_of_step hstart _).trans (run_cons_of_step hend _)

theorem value?_lower_mod (n : Nat) : Hex.value? (Hex.lower n) = some (n % 16) := by
  have hlower : Hex.lower n = Hex.lower (n % 16) := by simp only [Hex.lower, Nat.mod_mod]
  rw [hlower]
  exact Hex.value?_lower (Nat.mod_lt n (by decide))

theorem run_control {c : Char} (hc : c.toNat < 0x20) (q : Quoted) :
    run ⟨stack, .string q⟩
        (Text.ofChars ['\\', 'u', '0', '0', Hex.lower (c.toNat / 16), Hex.lower c.toNat] ++ rest) =
      run ⟨stack, .string { q with points := .scalar c :: q.points, high := false }⟩ rest := by
  have hstart : step ⟨stack, .string q⟩ (.scalar '\\') = .ok ⟨stack, .escape q⟩ := rfl
  have hunicode : step ⟨stack, .escape q⟩ (.scalar 'u') = .ok ⟨stack, .unicode q 0 0⟩ := rfl
  have hzero : step ⟨stack, .unicode q 0 0⟩ (.scalar '0') = .ok ⟨stack, .unicode q 1 0⟩ := rfl
  have hzero' : step ⟨stack, .unicode q 1 0⟩ (.scalar '0') = .ok ⟨stack, .unicode q 2 0⟩ := rfl
  have hhigh : step ⟨stack, .unicode q 2 0⟩ (.scalar (Hex.lower (c.toNat / 16))) =
      .ok ⟨stack, .unicode q 3 (c.toNat / 16)⟩ := by
    have hmod : c.toNat / 16 % 16 = c.toNat / 16 := Nat.mod_eq_of_lt (by omega)
    simp only [step, value?_lower_mod, hmod, Nat.zero_mul, Nat.zero_add]
    rfl
  have hunit : q.addUnit (c.toNat / 16 * 16 + c.toNat % 16) =
      { q with points := .scalar c :: q.points, high := false } := by
    have hnat : c.toNat / 16 * 16 + c.toNat % 16 = c.toNat := Nat.div_add_mod' c.toNat 16
    -- a control character is no half of a pair
    have hlow : decide (0xDC00 ≤ c.toNat ∧ c.toNat < 0xE000) = false := decide_eq_false (by omega)
    have hhalf : decide (0xD800 ≤ c.toNat ∧ c.toNat < 0xDC00) = false := decide_eq_false (by omega)
    rw [hnat, Quoted.addUnit, hlow]
    split
    · rename_i htrue
      cases htrue
    · simp only [CodePoint.ofNat?_toNat, Option.getD_some, hhalf]
  have hend : step ⟨stack, .unicode q 3 (c.toNat / 16)⟩ (.scalar (Hex.lower c.toNat)) =
      .ok ⟨stack, .string { q with points := .scalar c :: q.points, high := false }⟩ := by
    simp only [step, value?_lower_mod, hunit]
    rfl
  calc
    _ = run ⟨stack, .escape q⟩ _ := run_cons_of_step hstart _
    _ = run ⟨stack, .unicode q 0 0⟩ _ := run_cons_of_step hunicode _
    _ = run ⟨stack, .unicode q 1 0⟩ _ := run_cons_of_step hzero _
    _ = run ⟨stack, .unicode q 2 0⟩ _ := run_cons_of_step hzero' _
    _ = run ⟨stack, .unicode q 3 (c.toNat / 16)⟩ _ := run_cons_of_step hhigh _
    _ = _ := run_cons_of_step hend _

/-- Each code point is read back from what is written of it inside quotes. -/
theorem run_escaped (q : Quoted) (p : CodePoint) :
    run ⟨stack, .string q⟩ (escaped p ++ rest) =
      run ⟨stack, .string { q with points := p :: q.points, high := false }⟩ rest := by
  cases p with
  | surrogate half => exact run_cons_of_step rfl rest
  | scalar c =>
    unfold escaped
    dsimp only
    split
    · exact run_short (e := '"') (by decide) rfl q
    · exact run_short (e := '\\') (by decide) rfl q
    · exact run_short (e := 'n') (by decide) rfl q
    · exact run_short (e := 'r') (by decide) rfl q
    · exact run_short (e := 't') (by decide) rfl q
    · exact run_short (e := 'b') (by decide) rfl q
    · exact run_short (e := 'f') (by decide) rfl q
    · rename_i hquote hbackslash _ _ _ _ _
      split
      · rename_i hcontrol
        exact run_control hcontrol q
      · rename_i hcontrol
        refine run_cons_of_step ?_ rest
        simp only [step, if_neg hcontrol]
        rw [if_neg hquote, if_neg hbackslash]

/-- A text is read back up to the quote that ends it. -/
theorem run_text (t : Text) (q : Quoted) :
    run ⟨stack, .string q⟩ (t.flatMap escaped ++ .scalar '"' :: rest) =
      (endString stack { q with points := t.reverse ++ q.points }).bind (·.run rest) := by
  induction t generalizing q with
  | nil =>
    rw [List.flatMap_nil, List.nil_append, run, List.foldlM_cons]
    rfl
  | cons p t ih =>
    rw [List.flatMap_cons, List.append_assoc, run_escaped, ih]
    simp only [List.reverse_cons, List.append_assoc, List.singleton_append]
    rfl

theorem run_key {phase : Phase} (hphase : phase = .key ∨ phase = .keyOrEnd) (members : Members) (old k : Text) :
    run ⟨.object members old :: stack, phase⟩ (quoteOnto k (.scalar ':' :: rest)) =
      run ⟨.object members k :: stack, .value⟩ rest := by
  have hstart : step ⟨.object members old :: stack, phase⟩ (.scalar '"') =
      .ok ⟨.object members old :: stack, .string { isKey := true }⟩ := by
    rcases hphase with rfl | rfl <;> rfl
  have hcolon : step ⟨.object members k :: stack, .colon⟩ (.scalar ':') = .ok ⟨.object members k :: stack, .value⟩ :=
    rfl
  rw [quoteOnto, run_cons_of_step hstart, run_text]
  simp only [endString, List.append_nil, List.reverse_reverse, if_true]
  exact run_cons_of_step hcolon rest

end Machine

open Machine (run accept)

/-! ### Members -/

namespace Members

theorem insert_of_not_mem {ms : Members} {k : Text} (h : k ∉ ms.map Prod.fst) (v : Value) :
    insert k v ms = ms ++ [(k, v)] := by
  induction ms with
  | nil => rfl
  | cons m ms ih =>
    obtain ⟨hne, hms⟩ := not_or.1 (mt List.mem_cons.2 h)
    rw [insert, if_neg (Ne.symm hne), ih hms]
    rfl

/-- Sets members, one after the other. -/
def setAll (done ms : Members) : Members := ms.foldl (fun done m => insert m.1 m.2 done) done

theorem setAll_of_nodup {done ms : Members} (h : ((done ++ ms).map Prod.fst).Nodup) : setAll done ms = done ++ ms := by
  induction ms generalizing done with
  | nil => exact (List.append_nil done).symm
  | cons m ms ih =>
    have hk : m.1 ∉ done.map Prod.fst := by
      rw [List.map_append, List.map_cons, List.nodup_append] at h
      exact fun hmem => h.2.2 _ hmem _ (List.mem_cons_self ..) rfl
    have happend : done ++ m :: ms = done ++ [m] ++ ms := by rw [List.append_assoc]; rfl
    rw [happend] at h ⊢
    rw [setAll, List.foldl_cons, insert_of_not_mem hk]
    exact ih h

/-- Of members that are set, the last one of a key counts. -/
theorem get?_setAll (key : Text) (ms : Members) : get? key (setAll [] ms) = get? key ms.reverse := by
  induction ms using List.reverseRecOn with
  | nil => rfl
  | append_singleton ms m ih =>
    have hset : setAll [] (ms ++ [m]) = insert m.1 m.2 (setAll [] ms) := by
      rw [setAll, List.foldl_append]
      rfl
    rw [hset, List.reverse_concat]
    by_cases hkey : m.1 = key
    · rw [← hkey, get?_insert_self, get?, if_pos rfl]
    · rw [get?_insert_of_ne (Ne.symm hkey), get?, if_neg hkey, ih]

end Members

/-! ### Values -/

namespace Value

/-- Whether what is written of a value is read as `w`, where it may open so many arrays and objects. -/
def ReadsAs (depth : Nat) (v w : Value) : Prop :=
  ∀ (stack : List Frame) (rest : Text), stack.length + depth ≤ maxDepth →
    ∀ phase, phase = .value ∨ phase = .valueOrEnd →
      run ⟨stack, phase⟩ (v.writeOnto rest) = (accept stack w).run rest

/-- Whether what is written of a value is read as this value. -/
def ReadsBack (depth : Nat) (v : Value) : Prop := v.ReadsAs depth v

theorem step_of_begin {phase : Phase} (hphase : phase = .value ∨ phase = .valueOrEnd) {c : Char}
    (hspace : Machine.isSpace c = false) (hend : c ≠ ']') (stack : List Frame) :
    Machine.step ⟨stack, phase⟩ (.scalar c) = Machine.beginValue stack c := by
  rcases hphase with rfl | rfl
  · simp only [Machine.step, Machine.structural, hspace, Bool.false_eq_true, if_false]
  · simp only [Machine.step, Machine.structural, hspace, Bool.false_eq_true, if_false, if_neg hend]

theorem ReadsAs.mono {d d' : Nat} {v w : Value} (h : v.ReadsAs d w) (hle : d ≤ d') : v.ReadsAs d' w :=
  fun stack rest hlength => h stack rest (by omega)

theorem readsBack_string (t : Text) : (string t).ReadsBack 0 := by
  intro stack rest _ phase hphase
  have hstart : Machine.step ⟨stack, phase⟩ (.scalar '"') = .ok ⟨stack, .string { isKey := false }⟩ :=
    step_of_begin hphase (by decide) (by decide) stack
  rw [writeOnto, quoteOnto, Machine.run_cons_of_step hstart, Machine.run_text]
  simp only [Machine.endString, List.append_nil, List.reverse_reverse, Bool.false_eq_true, if_false]
  rfl

/-! ### Arrays -/

variable {depth : Nat} {stack : List Frame}

theorem open_of_lt (h : stack.length < maxDepth) (frame : Frame) (phase : Phase) :
    Machine.open? stack frame phase = .ok ⟨frame :: stack, phase⟩ := if_pos h

theorem run_items {vs : List Value} (hvs : ∀ v ∈ vs, v.ReadsBack depth)
    (hlength : stack.length + (depth + 1) ≤ maxDepth) (items : List Value) (rest : Text) :
    run ⟨.array items :: stack, .separator⟩ (itemsOnto vs (.scalar ']' :: rest)) =
      (accept stack (.array (items.reverse ++ vs))).run rest := by
  induction vs generalizing items with
  | nil =>
    rw [itemsOnto, List.append_nil]
    exact Machine.run_cons_of_step rfl rest
  | cons v vs ih =>
    obtain ⟨hv, hvs⟩ := List.forall_mem_cons.1 hvs
    have hcomma : Machine.step ⟨.array items :: stack, .separator⟩ (.scalar ',') =
        .ok ⟨.array items :: stack, .value⟩ := rfl
    rw [itemsOnto, Machine.run_cons_of_step hcomma, hv _ _ (by rw [List.length_cons]; omega) _ (Or.inl rfl)]
    exact (ih hvs (v :: items)).trans (by rw [List.reverse_cons, List.append_assoc]; rfl)

/-- An array of values that read back reads back, one deeper. -/
theorem readsBack_array {vs : List Value} (hvs : ∀ v ∈ vs, v.ReadsBack depth) : (array vs).ReadsBack (depth + 1) := by
  intro stack rest hlength phase hphase
  have hstart : Machine.step ⟨stack, phase⟩ (.scalar '[') = .ok ⟨.array [] :: stack, .valueOrEnd⟩ :=
    (step_of_begin hphase (by decide) (by decide) stack).trans (open_of_lt (by omega) _ _)
  cases vs with
  | nil =>
    refine (Machine.run_cons_of_step hstart _).trans ?_
    exact Machine.run_cons_of_step rfl rest
  | cons v vs =>
    obtain ⟨hv, hvs⟩ := List.forall_mem_cons.1 hvs
    rw [writeOnto, Machine.run_cons_of_step hstart, hv _ _ (by rw [List.length_cons]; omega) _ (Or.inr rfl)]
    exact run_items hvs hlength [v] rest

/-! ### Objects -/

theorem run_member {phase : Phase} (hphase : phase = .key ∨ phase = .keyOrEnd) {v : Value} (hv : v.ReadsBack depth)
    (hlength : stack.length + (depth + 1) ≤ maxDepth) (done : Members) (k rest : Text) :
    run ⟨.object done [] :: stack, phase⟩ (quoteOnto k (.scalar ':' :: v.writeOnto rest)) =
      run ⟨.object (Members.insert k v done) [] :: stack, .separator⟩ rest := by
  rw [Machine.run_key hphase, hv _ _ (by rw [List.length_cons]; omega) _ (Or.inl rfl), accept]

theorem run_members {ms : Members} (hms : ∀ m ∈ ms, m.2.ReadsBack depth)
    (hlength : stack.length + (depth + 1) ≤ maxDepth) (done : Members) (rest : Text) :
    run ⟨.object done [] :: stack, .separator⟩ (membersOnto ms (.scalar '}' :: rest)) =
      (accept stack (.object (Members.setAll done ms))).run rest := by
  induction ms generalizing done with
  | nil => exact Machine.run_cons_of_step rfl rest
  | cons m ms ih =>
    obtain ⟨k, v⟩ := m
    obtain ⟨hv, hms⟩ := List.forall_mem_cons.1 hms
    have hcomma : Machine.step ⟨.object done [] :: stack, .separator⟩ (.scalar ',') =
        .ok ⟨.object done [] :: stack, .key⟩ := rfl
    rw [membersOnto, Machine.run_cons_of_step hcomma, run_member (Or.inl rfl) hv hlength, ih hms]
    rfl

/-- An object of values that read back is read with its members set one after the other, one deeper. -/
theorem readsAs_object {ms : Members} (hms : ∀ m ∈ ms, m.2.ReadsBack depth) :
    (object ms).ReadsAs (depth + 1) (object (Members.setAll [] ms)) := by
  intro stack rest hlength phase hphase
  have hstart : Machine.step ⟨stack, phase⟩ (.scalar '\x7b') = .ok ⟨.object [] [] :: stack, .keyOrEnd⟩ :=
    (step_of_begin hphase (by decide) (by decide) stack).trans (open_of_lt (by omega) _ _)
  cases ms with
  | nil =>
    refine (Machine.run_cons_of_step hstart _).trans ?_
    exact Machine.run_cons_of_step rfl rest
  | cons m ms =>
    obtain ⟨k, v⟩ := m
    obtain ⟨hv, hms⟩ := List.forall_mem_cons.1 hms
    rw [writeOnto]
    refine (Machine.run_cons_of_step hstart _).trans ?_
    rw [run_member (Or.inr rfl) hv hlength]
    exact run_members hms hlength [(k, v)] rest

/-- Under different keys, it is read back. -/
theorem readsBack_object {ms : Members} (hms : ∀ m ∈ ms, m.2.ReadsBack depth) (hkeys : (ms.map Prod.fst).Nodup) :
    (object ms).ReadsBack (depth + 1) := by
  have hset : Members.setAll [] ms = ms := Members.setAll_of_nodup hkeys
  have hread := readsAs_object hms
  rwa [hset] at hread

/-! ### Whole texts -/

/-- The text of a value is read as what the value reads as. -/
theorem ReadsAs.read_write {v w : Value} (h : v.ReadsAs maxDepth w) : read v.write = .ok w := by
  have hrun : Machine.initial.run v.write = .ok ⟨[], .complete w⟩ :=
    h [] [] (Nat.le_of_eq (Nat.zero_add _)) .value (Or.inl rfl)
  rw [read, hrun]
  rfl

theorem ofString_toStringLossy {t : Text} (h : t.Whole) : Text.ofString t.toStringLossy = t := by
  obtain ⟨s, rfl⟩ := Text.whole_iff_ofString.1 h
  simp only [Text.ofString, Text.toStringLossy, String.toList_ofList, Text.ofChars, List.map_map]
  exact List.map_congr_left fun c _ => rfl

/-- The bytes of an object with members, if it is written without lone halves, are read as what the object reads as. -/
theorem readBytes_compact {k : Text} {v w : Value} {ms : Members} (h : (object ((k, v) :: ms)).ReadsAs maxDepth w)
    (hwhole : (object ((k, v) :: ms)).write.Whole) :
    readBytes (Utf8.encode (object ((k, v) :: ms)).compact) = .ok w := by
  have htext : Text.ofString (object ((k, v) :: ms)).compact = (object ((k, v) :: ms)).write :=
    ofString_toStringLossy hwhole
  -- what is written begins with a brace and a quote
  obtain ⟨rest, hrest⟩ : ∃ rest, (object ((k, v) :: ms)).write = .scalar '\x7b' :: .scalar '"' :: rest := by
    rw [write, writeOnto, quoteOnto]
    exact ⟨_, rfl⟩
  have hchars : (object ((k, v) :: ms)).compact.toList = '\x7b' :: '"' :: (Text.toStringLossy rest).toList := by
    rw [compact, hrest]
    simp only [Text.toStringLossy, String.toList_ofList, List.map_cons]
  have hbytes : Utf8.encode (object ((k, v) :: ms)).compact =
      0x7B :: 0x22 :: Utf8.encode (Text.toStringLossy rest) := by
    rw [Utf8.encode, hchars]
    rfl
  rw [readBytes, Scheme.decodeJson?_encode hbytes (by decide) (by decide) (by decide), htext]
  exact h.read_write

/-- The bytes of an object with one member, if JSON proper can carry it, are read as it. -/
theorem readBytes_member {name : String} {v : Value} (hv : v.ReadsBack depth) (hdepth : depth < maxDepth)
    (h : (ofMembers [(name, v)]).isPortable = true) :
    readBytes (Utf8.encode (ofMembers [(name, v)]).compact) = .ok (ofMembers [(name, v)]) := by
  have hobject : (ofMembers [(name, v)]).ReadsBack (depth + 1) := by
    refine readsBack_object ?_ (by simp)
    rintro m hm
    cases List.mem_singleton.1 hm
    exact hv
  rw [isPortable, Bool.and_eq_true, Text.all_iff_whole] at h
  exact readBytes_compact (hobject.mono hdepth) h.2

end Value

end DomainPolicy.Json
