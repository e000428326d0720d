import DomainPolicy.Proofs.Settings.Field
import Mathlib.Data.List.Forall2

/-!
# How settings are resolved

Each field is decided by itself.  If no two names of its sources are the same but for case, one value wins: that of its
keyword, else that of its variable (`winner?_eq_some_iff`), and the field holds what this value reads as, or its default
where none wins.  Settings are read if and only if each value that wins can be read and each keyword names a field; else
there is one complaint about each field whose value cannot, in the order of the fields, and then one about each keyword
that names none (`exists_complaints`).  What the sources say of one field does not touch the others (`sameBut_read`).

This goes for keywords that name settings.  Others say how sources are read; they are taken, although they name no field.
-/

namespace DomainPolicy

open Json (Value)
open Statements (fold)

namespace Settings

/-! ### Names -/

/-- Whether a keyword names a field. -/
def Field.IsKeyword (f : Field) (keyword : Text) : Prop := fold keyword = Text.ofString f.name

/-- Whether a variable names a field. -/
def Field.IsVariable (f : Field) (variableName : Text) : Prop :=
  fold variableName = fold (Text.ofString "RELAY_" ++ Text.ofString f.name)

instance (f : Field) : DecidablePred f.IsKeyword := fun _ => inferInstanceAs (Decidable (_ = _))

instance (f : Field) : DecidablePred f.IsVariable := fun _ => inferInstanceAs (Decidable (_ = _))

/-- Whether a keyword names no field. -/
def IsUnknown (keyword : Text) : Prop := ∀ f : Field, ¬f.IsKeyword keyword

theorem isUnknown_iff {keyword : Text} : IsUnknown keyword ↔ fold keyword ∉ fieldNames.map Text.ofString := by
  rw [← Field.map_name_all, List.map_map, List.mem_map]
  constructor
  · rintro h ⟨f, -, hf⟩
    exact h f hf.symm
  · exact fun h f hf => h ⟨f, Field.mem_all f, hf.symm⟩

instance : DecidablePred IsUnknown := fun _ => decidable_of_iff _ isUnknown_iff.symm

/-! ### Sources -/

/-- Whether no two names of sources that count are the same but for case: what names one field is one entry. -/
structure Clear (s : Sources) : Prop where
  keywords : ∀ f : Field, ∀ p ∈ s.keywords, ∀ q ∈ s.keywords, f.IsKeyword p.1 → f.IsKeyword q.1 → q = p
  environment : ∀ f : Field, ∀ p ∈ s.environment, ∀ q ∈ s.environment, f.IsVariable p.1 → f.IsVariable q.1 → q = p

/-- Whether no keyword says how sources are read, or stands for the settings themselves. -/
def Plain (s : Sources) : Prop := ∀ p ∈ s.keywords, p.1 ∉ Options.names.map Text.ofString ∧ Options.isSelf p.1 = false

/-- What sources say by themselves. -/
def said (s : Sources) : Statements := { keywords := s.keywords, environment := s.environment }

variable {s s' : Sources} {f g : Field} {v v' : Value}

theorem value?_of_plain (h : Plain s) {option : String} (hoption : option ∈ Options.names) :
    Options.value? s.keywords option = none := by
  have hnone : s.keywords.find? (·.1 = Text.ofString option) = none := by
    refine List.find?_eq_none.2 fun p hp => ?_
    rw [decide_eq_true_eq]
    intro hname
    exact (h p hp).1 (hname ▸ List.mem_map_of_mem hoption)
  rw [Options.value?, hnone]

/-- Sources without such keywords are read as they are. -/
theorem ofSources_of_plain (h : Plain s) : Statements.ofSources s = .ok (said s) := by
  have hself : (s.keywords.any fun p => Options.isSelf p.1) = false :=
    List.any_eq_false.2 fun p hp => by rw [(h p hp).2]; exact Bool.false_ne_true
  have hkept : Options.others s.keywords = s.keywords :=
    List.filter_eq_self.2 fun p hp => by simpa using (h p hp).1
  have hnone : ∀ option ∈ Options.names, Options.value? s.keywords option = none := fun _ => value?_of_plain h
  have hoff : ∀ option ∈ Options.names, Options.isSwitchedOn s.keywords option = false := by
    intro option hoption
    rw [Options.isSwitchedOn, hnone option hoption]
    rfl
  have hparts : Options.checkParts s.keywords = .ok () := by
    rw [Options.checkParts, hnone "_env_nested_max_split" (by decide)]
  have hprefix : Options.prefixText? s.keywords = .ok (some ({} : Options.VariableOptions).variablePrefix) := by
    rw [Options.prefixText?, hnone "_env_prefix" (by decide)]
  have hfiles : Options.checkFiles s.keywords = .ok () := by
    rw [Options.checkFiles, hnone "_env_file" (by decide)]
  have hcommand : CommandLine.read s.keywords = .ok [] := by
    rw [CommandLine.read, hnone "_cli_parse_args" (by decide)]
  have htarget : Options.hasPrefix s.keywords = true := by
    rw [Options.hasPrefix, hnone "_env_prefix_target" (by decide)]
  have hoptions : Options.variableOptions s.keywords (some ({} : Options.VariableOptions).variablePrefix) = .ok {} := by
    rw [Options.variableOptions, htarget, hoff "_case_sensitive" (by decide), hoff "_env_ignore_empty" (by decide),
      hnone "_env_parse_none_str" (by decide)]
    rfl
  have hdirectories : Options.checkDirectories s.keywords = .ok () := by
    rw [Options.checkDirectories, hnone "_secrets_dir" (by decide)]
  unfold Statements.ofSources
  simp only [hself, hnone "_build_sources" (by decide), bind, Except.bind, hparts, hprefix, hfiles, hcommand, hoptions,
    hdirectories, hkept, said]

theorem read_of_plain (h : Plain s) : read s = (ofStatements (said s)).mapError .complaints := by
  rw [read, ofSources_of_plain h]

/-! ### The value that wins -/

/-- Whether a value wins a field: as the value of its keyword, or of its variable where there is no such keyword. -/
inductive Wins (s : Sources) (f : Field) : Value → Prop
  | ofKeyword {p : Text × Value} (hp : p ∈ s.keywords) (hname : f.IsKeyword p.1) : Wins s f p.2
  | ofVariable {p : Text × Text} (hp : p ∈ s.environment) (hname : f.IsVariable p.1)
    (hnone : ∀ q ∈ s.keywords, ¬f.IsKeyword q.1) : Wins s f (.string p.2)

theorem winner?_said (s : Sources) (f : Field) :
    (said s).winner? f.name = ((s.keywords.find? fun p => f.IsKeyword p.1).map Prod.snd).or
      ((s.environment.reverse.find? fun p => f.IsVariable p.1).map fun p => .string p.2) := by
  have hcounted : (said s).counted = s.environment := List.filter_eq_self.2 fun _ _ => rfl
  show ((none : Option Value).or _).or ((said s).fromVariables? f.name) = _
  rw [Statements.fromVariables?, hcounted, Option.none_or]
  rfl

theorem find?_eq_some_iff_of_unique {α : Type} {l : List α} {P : α → Bool} {p : α}
    (h : ∀ p ∈ l, ∀ q ∈ l, P p = true → P q = true → q = p) : l.find? P = some p ↔ p ∈ l ∧ P p = true := by
  constructor
  · intro hfound
    exact ⟨List.mem_of_find?_eq_some hfound, List.find?_some hfound⟩
  · rintro ⟨hp, hP⟩
    cases hfound : l.find? P with
    | none => exact absurd hP (List.find?_eq_none.1 hfound p hp)
    | some q => rw [h p hp q (List.mem_of_find?_eq_some hfound) hP (List.find?_some hfound)]

/-- Among names that are clear, the value that decides a field is the one that wins it. -/
theorem winner?_eq_some_iff (h : Clear s) : (said s).winner? f.name = some v ↔ Wins s f v := by
  have hkeyword {p} : (s.keywords.find? fun p => f.IsKeyword p.1) = some p ↔ p ∈ s.keywords ∧ f.IsKeyword p.1 := by
    rw [find?_eq_some_iff_of_unique, decide_eq_true_eq]
    simpa only [decide_eq_true_eq] using h.keywords f
  have hvariable {p} : (s.environment.reverse.find? fun p => f.IsVariable p.1) = some p ↔
      p ∈ s.environment ∧ f.IsVariable p.1 := by
    rw [find?_eq_some_iff_of_unique, decide_eq_true_eq, List.mem_reverse]
    simpa only [decide_eq_true_eq, List.mem_reverse] using h.environment f
  rw [winner?_said]
  cases hfound : s.keywords.find? fun p => f.IsKeyword p.1 with
  | some p =>
    obtain ⟨hp, hname⟩ := hkeyword.1 hfound
    -- the keyword is found first, whatever the variables are
    rw [Option.map_some, Option.some_or, Option.some.injEq]
    constructor
    · rintro rfl
      exact .ofKeyword hp hname
    · intro hwins
      cases hwins with
      | ofKeyword hq hname' => rw [h.keywords f _ hq _ hp hname' hname]
      | ofVariable _ _ hnone => exact absurd hname (hnone p hp)
  | none =>
    have hnone : ∀ q ∈ s.keywords, ¬f.IsKeyword q.1 := by simpa using hfound
    rw [Option.map_none, Option.none_or, Option.map_eq_some_iff]
    constructor
    · rintro ⟨p, hp, rfl⟩
      obtain ⟨hp, hname⟩ := hvariable.1 hp
      exact .ofVariable hp hname hnone
    · intro hwins
      cases hwins with
      | ofKeyword hp hname => exact absurd hname (hnone _ hp)
      | ofVariable hp hname => exact ⟨_, hvariable.2 ⟨hp, hname⟩, rfl⟩

theorem Wins.unique (h : Clear s) (hv : Wins s f v) (hv' : Wins s f v') : v' = v :=
  Option.some.inj (((winner?_eq_some_iff h).2 hv').symm.trans ((winner?_eq_some_iff h).2 hv))

/-! ### What is read as a field -/

/-- Whether sources decide what a field holds: it is what the value that wins it reads as, or the default. -/
inductive Decides (s : Sources) (f : Field) : f.Carrier → Prop
  | won {v : Value} {a : f.Carrier} (hv : Wins s f v) (ha : f.read v = .ok a) : Decides s f a
  | default (hnone : ∀ v, ¬Wins s f v) : Decides s f (Settings.default.get f)

/-- Whether a complaint is about a field: it names the field, and the value that wins it, with the fault in this. -/
inductive Blames (s : Sources) (f : Field) : Complaint → Prop
  | won {v : Value} {fault : Fault} (hv : Wins s f v) (hfault : f.read v = .error fault) :
    Blames s f ⟨[.key (Text.ofString f.name)], fault, v⟩

theorem winner?_eq_none_iff (h : Clear s) : (said s).winner? f.name = none ↔ ∀ v, ¬Wins s f v := by
  rw [Option.eq_none_iff_forall_ne_some]
  exact forall_congr' fun v => not_congr (winner?_eq_some_iff h)

/-- A field is read as what is decided. -/
theorem checked_eq_ok_iff (h : Clear s) {a : f.Carrier} : checked (said s) f = .ok a ↔ Decides s f a := by
  rw [checked, field]
  constructor
  · intro hchecked
    split at hchecked
    · rename_i hwinner
      cases hchecked
      exact .default ((winner?_eq_none_iff h).1 hwinner)
    · rename_i v hwinner
      split at hchecked
      · rename_i hread
        cases hchecked
        exact .won ((winner?_eq_some_iff h).1 hwinner) hread
      · cases hchecked
  · rintro (⟨hv, ha⟩ | hnone)
    · simp only [(winner?_eq_some_iff h).2 hv, ha]
    · simp only [(winner?_eq_none_iff h).2 hnone]

/-- Else there is one complaint, which is about the field. -/
theorem checked_eq_error_iff (h : Clear s) {cs : List Complaint} :
    checked (said s) f = .error cs ↔ ∃ c, cs = [c] ∧ Blames s f c := by
  rw [checked, field]
  constructor
  · intro hchecked
    split at hchecked
    · cases hchecked
    · rename_i v hwinner
      split at hchecked
      · cases hchecked
      · rename_i hread
        cases hchecked
        exact ⟨_, rfl, .won ((winner?_eq_some_iff h).1 hwinner) hread⟩
  · rintro ⟨_, rfl, hv, hfault⟩
    simp only [(winner?_eq_some_iff h).2 hv, hfault]

theorem checked_cases (h : Clear s) (f : Field) :
    (∃ a, checked (said s) f = .ok a ∧ Decides s f a) ∨ ∃ c, checked (said s) f = .error [c] ∧ Blames s f c := by
  cases hchecked : checked (said s) f with
  | ok a => exact Or.inl ⟨a, rfl, (checked_eq_ok_iff h).1 hchecked⟩
  | error cs =>
    obtain ⟨c, rfl, hc⟩ := (checked_eq_error_iff h).1 hchecked
    exact Or.inr ⟨c, rfl, hc⟩

theorem not_decides_of_blames (h : Clear s) {c : Complaint} (hc : Blames s f c) {a : f.Carrier} : ¬Decides s f a :=
  fun ha => nomatch ((checked_eq_ok_iff h).2 ha).symm.trans ((checked_eq_error_iff h).2 ⟨c, rfl, hc⟩)

/-! ### All fields -/

/-- The complaint about a keyword that names no field. -/
def keywordComplaint (p : Text × Value) : Complaint := ⟨[.key p.1], .notPermitted, p.2⟩

theorem unknownKeywords_said (s : Sources) :
    unknownKeywords (said s) = (s.keywords.filter fun p => IsUnknown p.1).map keywordComplaint := by
  have hfilter : (s.keywords.filter fun p => !(fieldNames.map Text.ofString).contains (fold p.1)) =
      s.keywords.filter fun p => IsUnknown p.1 := by
    refine List.filter_congr fun p _ => ?_
    rw [Bool.eq_iff_iff, decide_eq_true_eq, isUnknown_iff]
    simp
  exact congrArg (List.map keywordComplaint) hfilter

/-- Settings are read if and only if they hold what is decided and each keyword names a field. -/
theorem read_eq_ok_iff (hclear : Clear s) (hplain : Plain s) {settings : Settings} :
    read s = .ok settings ↔ (∀ f, Decides s f (settings.get f)) ∧ ∀ p ∈ s.keywords, ¬IsUnknown p.1 := by
  have hread : read s = .ok settings ↔ ofStatements (said s) = .ok settings := by
    rw [read_of_plain hplain]
    cases ofStatements (said s) <;> simp [Except.mapError]
  rw [hread, ofStatements_eq_ok_iff_get, unknownKeywords_said, List.map_eq_nil_iff, List.filter_eq_nil_iff]
  simp only [checked_eq_ok_iff hclear, decide_eq_true_eq]

/-- Of some fields, the complaints are about those that are at fault, one about each, in their order. -/
theorem exists_blamed (h : Clear s) (l : List Field) :
    ∃ fs cs, fs.Sublist l ∧ (∀ f, f ∈ fs ↔ f ∈ l ∧ ∃ c, Blames s f c) ∧ List.Forall₂ (Blames s) fs cs ∧
      (l.flatMap fun f => (checked (said s) f).complaints) = cs := by
  induction l with
  | nil => exact ⟨[], [], List.Sublist.refl _, fun f => by simp, .nil, rfl⟩
  | cons f l ih =>
    -- a field adds its one complaint in front of those of the fields after it, or nothing
    obtain ⟨fs, cs, hsub, hmem, hblames, hcs⟩ := ih
    rw [List.flatMap_cons, hcs]
    rcases checked_cases h f with ⟨a, heq, ha⟩ | ⟨c, heq, hc⟩
    · have hnone : ¬∃ c, Blames s f c := fun ⟨_, hc⟩ => not_decides_of_blames h hc ha
      refine ⟨fs, cs, hsub.cons f, fun g => ?_, hblames, by rw [heq]; rfl⟩
      rw [hmem, List.mem_cons]
      constructor
      · exact fun hg => ⟨Or.inr hg.1, hg.2⟩
      · rintro ⟨rfl | hg, hc⟩
        · exact absurd hc hnone
        · exact ⟨hg, hc⟩
    · refine ⟨f :: fs, c :: cs, hsub.cons_cons f, fun g => ?_, .cons hc hblames, by rw [heq]; rfl⟩
      rw [List.mem_cons, List.mem_cons, hmem]
      constructor
      · rintro (rfl | hg)
        · exact ⟨Or.inl rfl, c, hc⟩
        · exact ⟨Or.inr hg.1, hg.2⟩
      · rintro ⟨rfl | hg, hc⟩
        · exact Or.inl rfl
        · exact Or.inr ⟨hg, hc⟩

/-- What is complained of. -/
def complaintsOf : Except ReadError Settings → List Complaint
  | .error (.complaints cs) => cs
  | _ => []

theorem complaintsOf_read (h : Plain s) :
    complaintsOf (read s) = (Field.all.flatMap fun f => (checked (said s) f).complaints) ++
      (s.keywords.filter fun p => IsUnknown p.1).map keywordComplaint := by
  rw [← unknownKeywords_said, ← complaints_ofStatements, read_of_plain h]
  cases ofStatements (said s) <;> rfl

/-- Settings that are not read are complained of. -/
theorem read_eq_error (h : Plain s) (hnone : ∀ settings, read s ≠ .ok settings) :
    read s = .error (.complaints (complaintsOf (read s))) := by
  rw [read_of_plain h] at hnone ⊢
  cases hof : ofStatements (said s) with
  | ok settings => exact absurd (by rw [hof]; rfl) (hnone settings)
  | error cs => rfl

/-! ### Two runs -/

/-- Whether sources differ in what they say of one field at most, and in variables that name none. -/
structure SameBut (f : Field) (s s' : Sources) : Prop where
  keywords : ∀ g : Field, g ≠ f →
    (s'.keywords.filter fun p => g.IsKeyword p.1) = s.keywords.filter fun p => g.IsKeyword p.1
  environment : ∀ g : Field, g ≠ f →
    (s'.environment.filter fun p => g.IsVariable p.1) = s.environment.filter fun p => g.IsVariable p.1
  unknown : (s'.keywords.filter fun p => IsUnknown p.1) = s.keywords.filter fun p => IsUnknown p.1

/-- Whether a complaint names a field. -/
def IsAbout (f : Field) (c : Complaint) : Prop := c.path = [.key (Text.ofString f.name)]

instance (f : Field) : DecidablePred (IsAbout f) := fun _ => inferInstanceAs (Decidable (_ = _))

theorem checked_of_sameBut (h : SameBut f s s') (hg : g ≠ f) : checked (said s') g = checked (said s) g := by
  have hwinner : (said s').winner? g.name = (said s).winner? g.name := by
    simp only [winner?_said, ← List.head?_filter, h.keywords g hg, List.filter_reverse, h.environment g hg]
  rw [checked, checked, field, field, hwinner]

theorem isAbout_of_mem_complaints {c : Complaint} (h : c ∈ (checked (said s) f).complaints) : IsAbout f c := by
  unfold checked field at h
  split at h
  · cases h
  · split at h
    · cases h
    · cases List.mem_singleton.1 h
      rfl

/-- What sources say of one field leaves the complaints about the other fields as they are, and about keywords, and what
settings hold for the others. -/
theorem sameBut_read (hplain : Plain s) (hplain' : Plain s') (h : SameBut f s s') :
    ((complaintsOf (read s')).filter fun c => ¬IsAbout f c) = (complaintsOf (read s)).filter fun c => ¬IsAbout f c := by
  have hfield : (fun g => (checked (said s') g).complaints.filter fun c => ¬IsAbout f c) =
      fun g => (checked (said s) g).complaints.filter fun c => ¬IsAbout f c := by
    funext g
    by_cases hg : g = f
    · subst hg
      have hnil {s : Sources} : ((checked (said s) g).complaints.filter fun c => ¬IsAbout g c) = [] :=
        List.filter_eq_nil_iff.2 fun c hc => by simpa using isAbout_of_mem_complaints hc
      -- whatever is complained of in either run names this field, so nothing is left
      rw [hnil, hnil]
    · rw [checked_of_sameBut h hg]
  rw [complaintsOf_read hplain, complaintsOf_read hplain', h.unknown, List.filter_append, List.filter_append,
    List.filter_flatMap, List.filter_flatMap, hfield]

/-- If both are read, the settings hold the same for the other fields. -/
theorem get_of_sameBut (hplain : Plain s) (hplain' : Plain s') (h : SameBut f s s') {settings settings' : Settings}
    (hread : read s = .ok settings) (hread' : read s' = .ok settings') (hg : g ≠ f) :
    settings'.get g = settings.get g := by
  have hchecked {s : Sources} {settings : Settings} (hplain : Plain s) (hread : read s = .ok settings) :
      checked (said s) g = .ok (settings.get g) := by
    rw [read_of_plain hplain] at hread
    cases hof : ofStatements (said s) with
    | ok settings' =>
      rw [hof] at hread
      cases hread
      exact (ofStatements_eq_ok_iff_get.1 hof).1 g
    | error cs =>
      rw [hof] at hread
      cases hread
  exact Except.ok.inj ((hchecked hplain' hread').symm.trans ((checked_of_sameBut h hg).trans (hchecked hplain hread)))

/-! ### Field by field -/

theorem exists_blames_iff : (∃ c, Blames s f c) ↔ ∃ v fault, Wins s f v ∧ f.read v = .error fault := by
  constructor
  · rintro ⟨_, ⟨hv, hfault⟩⟩
    exact ⟨_, _, hv, hfault⟩
  · rintro ⟨v, fault, hv, hfault⟩
    exact ⟨_, .won hv hfault⟩

/-- Settings are read if and only if every value that wins can be read and every keyword names a field. -/
theorem exists_read_iff (hclear : Clear s) (hplain : Plain s) :
    (∃ settings, read s = .ok settings) ↔
      (∀ f v, Wins s f v → ∃ a, f.read v = .ok a) ∧ ∀ p ∈ s.keywords, ¬IsUnknown p.1 := by
  constructor
  · rintro ⟨settings, hread⟩
    obtain ⟨hdecides, hknown⟩ := (read_eq_ok_iff hclear hplain).1 hread
    refine ⟨fun f v hv => ?_, hknown⟩
    cases hread : f.read v with
    | ok a => exact ⟨a, rfl⟩
    | error fault => exact absurd (hdecides f) (not_decides_of_blames hclear (.won hv hread))
  · rintro ⟨hvalid, hknown⟩
    have hall : ∀ f, ∃ a, checked (said s) f = .ok a := by
      intro f
      rcases checked_cases hclear f with ⟨a, heq, -⟩ | ⟨_, -, ⟨hv, hfault⟩⟩
      · exact ⟨a, heq⟩
      · obtain ⟨a, ha⟩ := hvalid f _ hv
        cases ha.symm.trans hfault
    obtain ⟨settings, hsettings⟩ := exists_get hall
    exact ⟨settings, (read_eq_ok_iff hclear hplain).2 ⟨fun f => (checked_eq_ok_iff hclear).1 (hsettings f), hknown⟩⟩

/-- Settings that are not read are complained of: once for each field whose value cannot be read, in the order of the
fields, and then for each keyword that names none. -/
theorem exists_complaints (hclear : Clear s) (hplain : Plain s) (hnone : ∀ settings, read s ≠ .ok settings) :
    ∃ fs cs, fs.Sublist Field.all ∧ (∀ f, f ∈ fs ↔ ∃ v fault, Wins s f v ∧ f.read v = .error fault) ∧
      List.Forall₂ (Blames s) fs cs ∧
      read s = .error (.complaints (cs ++ (s.keywords.filter fun p => IsUnknown p.1).map keywordComplaint)) := by
  obtain ⟨fs, cs, hsub, hmem, hblames, hcs⟩ := exists_blamed hclear Field.all
  refine ⟨fs, cs, hsub, fun f => ?_, hblames, ?_⟩
  · rw [hmem, and_iff_right (Field.mem_all f), exists_blames_iff]
  · rw [read_eq_error hplain hnone, complaintsOf_read hplain, hcs]

/-- Of sources whose names are clear, without keywords that say how they are read, each field is decided by the one
value that wins it, and settings are read if and only if each such value can be read and each keyword names a field.
Else each field at fault is complained of, once and in order, and then each other keyword.  Sources that differ in one
field leave the others as they are, and settings that are read are within their bounds. -/
theorem read_field_by_field (hclear : Clear s) (hplain : Plain s) :
    (∀ f v v', Wins s f v → Wins s f v' → v' = v) ∧
      (∀ settings, read s = .ok settings ↔
        (∀ f, Decides s f (settings.get f)) ∧ ∀ p ∈ s.keywords, ¬IsUnknown p.1) ∧
      ((∃ settings, read s = .ok settings) ↔
        (∀ f v, Wins s f v → ∃ a, f.read v = .ok a) ∧ ∀ p ∈ s.keywords, ¬IsUnknown p.1) ∧
      ((∀ settings, read s ≠ .ok settings) →
        ∃ fs cs, fs.Sublist Field.all ∧ (∀ f, f ∈ fs ↔ ∃ v fault, Wins s f v ∧ f.read v = .error fault) ∧
          List.Forall₂ (Blames s) fs cs ∧
          read s = .error (.complaints (cs ++ (s.keywords.filter fun p => IsUnknown p.1).map keywordComplaint))) ∧
      (∀ f s', Plain s' → SameBut f s s' →
        ((complaintsOf (read s')).filter fun c => ¬IsAbout f c) =
            ((complaintsOf (read s)).filter fun c => ¬IsAbout f c) ∧
          ∀ settings settings', read s = .ok settings → read s' = .ok settings' →
            ∀ g ≠ f, settings'.get g = settings.get g) ∧
      ∀ settings, read s = .ok settings → settings.env ∈ [.dev, .test, .prod] ∧
        (4 ≤ settings.bcryptRounds ∧ settings.bcryptRounds ≤ 31) ∧ 1 ≤ settings.verifyWorkers := by
  refine ⟨fun f v v' => Wins.unique hclear, fun settings => read_eq_ok_iff hclear hplain,
    exists_read_iff hclear hplain, exists_complaints hclear hplain, fun f s' hplain' h => ⟨?_, ?_⟩, ?_⟩
  · exact sameBut_read hplain hplain' h
  · exact fun settings settings' hread hread' g hg => get_of_sameBut hplain hplain' h hread hread' hg
  · intro settings hread
    refine ⟨?_, bounds_of_read hread⟩
    cases settings.env <;> decide

/-- A keyword wins over a variable that could not be read. -/
theorem read_field_by_field_keyword :
    let s : Sources :=
      { keywords := [("API_PORT", .integer 81)], environment := [("relay_env", "prod"), ("RELAY_API_PORT", "x")] }
    Clear s ∧ Plain s ∧ Wins s .apiPort (.integer 81) ∧
      ∃ settings, read s = .ok settings ∧ Decides s .apiPort settings.apiPort ∧ settings.apiPort = 81 ∧
        settings.env = .prod := by
  intro s
  have hclear : Clear s := by
    refine ⟨fun f p hp q hq _ _ => (List.mem_singleton.1 hq).trans (List.mem_singleton.1 hp).symm, fun f => ?_⟩
    have hall : ∀ f ∈ Field.all, ∀ p ∈ s.environment, ∀ q ∈ s.environment, f.IsVariable p.1 → f.IsVariable q.1 →
        q = p := by decide +kernel
    exact hall f (Field.mem_all f)
  have hplain : Plain s := List.forall_mem_singleton.2 (by decide +kernel)
  have hname : Field.apiPort.IsKeyword "API_PORT" := by decide +kernel
  have hwins : Wins s .apiPort (.integer 81) :=
    .ofKeyword (p := ("API_PORT", .integer 81)) (List.mem_singleton_self _) hname
  have hread : read s = .ok { env := .prod, apiPort := 81 } := read_eq_ok_of_toOption (by decide +kernel)
  obtain ⟨-, hok, -⟩ := read_field_by_field hclear hplain
  exact ⟨hclear, hplain, hwins, _, hread, ((hok _).1 hread).1 .apiPort, rfl, rfl⟩

/-- A keyword that says how sources are read is taken although it names no field, and can lose a variable. -/
theorem option_is_taken :
    let s : Sources := { keywords := [("_case_sensitive", .boolean true)], environment := [("RELAY_ENV", "test")] }
    Clear s ∧ IsUnknown "_case_sensitive" ∧ Wins s .env (.ofString "test") ∧
      ∃ settings, read s = .ok settings ∧ settings.env = .dev := by
  intro s
  have hclear : Clear s :=
    ⟨fun f p hp q hq _ _ => (List.mem_singleton.1 hq).trans (List.mem_singleton.1 hp).symm,
      fun f p hp q hq _ _ => (List.mem_singleton.1 hq).trans (List.mem_singleton.1 hp).symm⟩
  have hunknown : IsUnknown "_case_sensitive" := by decide +kernel
  have hname : Field.env.IsVariable "RELAY_ENV" := by decide +kernel
  have hwins : Wins s .env (.ofString "test") := by
    refine .ofVariable (p := ("RELAY_ENV", "test")) (List.mem_singleton_self _) hname fun q hq => ?_
    rw [List.mem_singleton.1 hq]
    exact hunknown .env
  have hread : read s = .ok {} := read_eq_ok_of_toOption (by decide +kernel)
  exact ⟨hclear, hunknown, hwins, _, hread, rfl⟩

end Settings

end DomainPolicy
