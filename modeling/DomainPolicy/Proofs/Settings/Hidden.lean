import DomainPolicy.Proofs.Settings.Options
import DomainPolicy.Proofs.Settings.Resolution
import DomainPolicy.Proofs.Text.SmallLetters
import DomainPolicy.Proofs.Text.Whole
import Mathlib.Data.Option.Defs

/-!
# What settings tell of the token

Two sources that differ only in the secrets that they give as the token (`SameButToken`) are read alike
(`read_hides_token`): they are refused for the same reasons or give settings that hold the same but for the token, and
are shown in the same way (`view`).

* A keyword of the token is no option, so options are followed alike, and a variable whose name ends like the token's is
  read for no other field, whatever comes before the names of variables (`eq_token_of_endsLikeToken`).
* So the same value wins each other field, and two secrets win the token or none does (`winner?_rel`).

A variable is no secret if its text is the one that keywords name to mean none (`not_every_text_is_hidden`).
-/

namespace DomainPolicy

open Json (Value)
open Options (VariableOptions)
open Statements (fold)

namespace Settings

/-! ### Entries that differ in a secret -/

/-- Whether two entries are the same, or both give a secret under one name that stands for it. -/
inductive SameButSecret {α : Type} (isNamed : Text → Prop) (isSecret : α → Prop) : Text × α → Text × α → Prop
  | same (p : Text × α) : SameButSecret isNamed isSecret p p
  | secret {name : Text} {v w : α} (hname : isNamed name) (hv : isSecret v) (hw : isSecret w) :
      SameButSecret isNamed isSecret (name, v) (name, w)

namespace SameButSecret

variable {α : Type} {isNamed : Text → Prop} {isSecret isSecret' : α → Prop} {p q : Text × α}
variable {l l' : List (Text × α)}

theorem name_eq (h : SameButSecret isNamed isSecret p q) : q.1 = p.1 := by
  cases h <;> rfl

theorem eq_of_not_isNamed (h : SameButSecret isNamed isSecret p q) (hname : ¬isNamed p.1) : q = p := by
  cases h with
  | same => rfl
  | secret hsecret => exact absurd hsecret hname

theorem symm (h : SameButSecret isNamed isSecret p q) : SameButSecret isNamed isSecret q p := by
  cases h with
  | same => exact .same _
  | secret hname hv hw => exact .secret hname hw hv

theorem mono (himp : ∀ v, isSecret v → isSecret' v) (h : SameButSecret isNamed isSecret p q) :
    SameButSecret isNamed isSecret' p q := by
  cases h with
  | same => exact .same _
  | secret hname hv hw => exact .secret hname (himp _ hv) (himp _ hw)

/-- What is looked up by name is found in both, or in neither. -/
theorem find?_rel (h : List.Forall₂ (SameButSecret isNamed isSecret) l l') (byName : Text → Bool) :
    Option.Rel (SameButSecret isNamed isSecret) (l.find? fun p => byName p.1) (l'.find? fun p => byName p.1) := by
  induction h with
  | nil => exact .none
  | @cons p q l l' hpq _ ih =>
    rw [List.find?_cons, List.find?_cons, hpq.name_eq]
    cases byName p.1 with
    | true => exact .some hpq
    | false => exact ih

/-- If the name is not one of the secret, the same is found. -/
theorem find?_eq (h : List.Forall₂ (SameButSecret isNamed isSecret) l l') {byName : Text → Bool}
    (hname : ∀ name, byName name = true → ¬isNamed name) :
    (l'.find? fun p => byName p.1) = l.find? fun p => byName p.1 := by
  induction h with
  | nil => rfl
  | @cons p q l l' hpq _ ih =>
    rw [List.find?_cons, List.find?_cons, hpq.name_eq]
    cases hp : byName p.1 with
    | true => rw [hpq.eq_of_not_isNamed (hname _ hp)]
    | false => exact ih

theorem map_name_eq (h : List.Forall₂ (SameButSecret isNamed isSecret) l l') :
    l'.map Prod.fst = l.map Prod.fst := by
  induction h with
  | nil => rfl
  | cons hpq _ ih => rw [List.map_cons, List.map_cons, hpq.name_eq, ih]

/-- What is kept for the same names and secrets is the same but for secrets. -/
theorem forall₂_filter (h : List.Forall₂ (SameButSecret isNamed isSecret) l l') {keep : Text × α → Bool}
    (hkeep : ∀ p q, SameButSecret isNamed isSecret p q → keep q = keep p) :
    List.Forall₂ (SameButSecret isNamed isSecret) (l.filter keep) (l'.filter keep) := by
  refine List.rel_filter (fun p q hpq => ?_) h
  show keep p = true ↔ keep q = true
  rw [hkeep p q hpq]

/-- What is kept without the names of the secret is the same. -/
theorem filter_eq (h : List.Forall₂ (SameButSecret isNamed isSecret) l l') {byName : Text → Bool}
    (hname : ∀ name, byName name = true → ¬isNamed name) :
    (l'.filter fun p => byName p.1) = l.filter fun p => byName p.1 := by
  induction h with
  | nil => rfl
  | @cons p q l l' hpq _ ih =>
    rw [List.filter_cons, List.filter_cons, hpq.name_eq, ih]
    cases hp : byName p.1 with
    | true => rw [hpq.eq_of_not_isNamed (hname _ hp)]
    | false => rfl

theorem forall₂_symm (h : List.Forall₂ (SameButSecret isNamed isSecret) l l') :
    List.Forall₂ (SameButSecret isNamed isSecret) l' l :=
  h.flip.imp fun _ _ => symm

end SameButSecret

/-! ### Names of the token -/

/-- Whether a variable has a name that ends like the token's, whatever comes before. -/
def EndsLikeToken (variableName : Text) : Prop := Text.ofString Field.apiToken.name <:+ fold variableName

instance : DecidablePred EndsLikeToken := fun _ => inferInstanceAs (Decidable (_ <:+ _))

/-- The characters of the names of fields. -/
def nameCharacters : List Char := "_abcdefghijklmnopqrstuvwxyz".toList

theorem isSmall_of_mem_nameCharacters {c : Char} (h : c ∈ nameCharacters) : Lowercase.IsSmall c := by
  have hall : (nameCharacters.all fun c => Lowercase.IsSmall c) = true := by decide +kernel
  exact of_decide_eq_true (List.all_eq_true.1 hall c h)

theorem suffix_fold_append (f : Field) (before : Text) :
    Text.ofString f.name <:+ fold (before ++ Text.ofString f.name) := by
  have hnames : (Field.all.all fun f => f.name.toList.all fun c => c ∈ nameCharacters) = true := by decide +kernel
  have hname := List.all_eq_true.1 (List.all_eq_true.1 hnames f (Field.mem_all f))
  exact Lowercase.suffix_lowerText (fun c hc => isSmall_of_mem_nameCharacters (of_decide_eq_true (hname c hc))) before

/-- A name that ends like the token's stands for no other field. -/
theorem eq_token_of_endsLikeToken {variableName before : Text} {f : Field} (h : EndsLikeToken variableName)
    (hname : fold variableName = fold (before ++ Text.ofString f.name)) : f = .apiToken := by
  have hends : ∀ f ∈ Field.all, Text.ofString f.name <:+ Text.ofString Field.apiToken.name ∨
      Text.ofString Field.apiToken.name <:+ Text.ofString f.name → f = .apiToken := by decide
  have hsuffix := suffix_fold_append f before
  rw [← hname] at hsuffix
  exact hends f (Field.mem_all f) (List.suffix_or_suffix_of_suffix hsuffix h)

theorem fold_eq_of_foldVariable_eq {s : Statements} {a b : Text} (h : s.foldVariable a = s.foldVariable b) :
    fold a = fold b := by
  unfold Statements.foldVariable at h
  split at h
  · rw [h]
  · exact h

/-! ### Sources that differ in the token -/

/-- Whether a value is a text that can be a secret. -/
def IsSecretValue (v : Value) : Prop := ∃ t : Text, t ≠ [] ∧ v = .string t

/-- Whether keywords say that a text of a variable means none. -/
def MeansNone (ks : Keywords) (t : Text) : Prop := Options.value? ks "_env_parse_none_str" = some (.string t)

/-- Whether sources are the same but for the secrets that they give as the token, by keywords of its name or by
variables whose names end like it. -/
structure SameButToken (s s' : Sources) : Prop where
  keywords : List.Forall₂ (SameButSecret Field.apiToken.IsKeyword IsSecretValue) s.keywords s'.keywords
  environment : List.Forall₂ (SameButSecret EndsLikeToken fun t => t ≠ [] ∧ ¬MeansNone s.keywords t)
    s.environment s'.environment

/-- Whether statements are, which are read in the same way. -/
structure SaySameButToken (s s' : Statements) : Prop where
  arguments : s'.arguments = s.arguments
  options : s'.options = s.options
  keywords : List.Forall₂ (SameButSecret Field.apiToken.IsKeyword IsSecretValue) s.keywords s'.keywords
  environment : List.Forall₂ (SameButSecret EndsLikeToken fun t => t ≠ [] ∧ s.options.noneText ≠ some t)
    s.environment s'.environment

/-- The keyword of the token is no option: an option begins with an underscore. -/
theorem not_isKeyword_of_mem_names {option : String} (h : option ∈ Options.names) :
    ¬Field.apiToken.IsKeyword (Text.ofString option) := by
  have hall : ∀ option ∈ Options.names, option.toList = '_' :: option.toList.tail := by decide
  have hsmall : Lowercase.IsSmall '_' := isSmall_of_mem_nameCharacters (by decide)
  intro hname
  have hchars : Lowercase.lower option.toList = Field.apiToken.name.toList := by
    rw [Field.IsKeyword, fold, Text.ofString, Lowercase.lowerText_ofChars] at hname
    exact (List.map_inj_right fun _ _ => CodePoint.scalar.inj).1 hname
  rw [hall option h, Lowercase.lower, Lowercase.lowerFrom, hsmall.lowerAt_eq] at hchars
  exact absurd (List.cons.inj hchars).1 (by decide)

namespace SameButToken

variable {s s' : Sources}

theorem options (h : SameButToken s s') : Options.Same s.keywords s'.keywords := by
  intro option hoption
  have hname : ∀ name, decide (name = Text.ofString option) = true → ¬Field.apiToken.IsKeyword name := by
    intro name hname
    rw [of_decide_eq_true hname]
    exact not_isKeyword_of_mem_names hoption
  rw [Options.value?, SameButSecret.find?_eq h.keywords hname, Options.value?]

theorem any_isSelf (h : SameButToken s s') :
    (s'.keywords.any fun p => Options.isSelf p.1) = s.keywords.any fun p => Options.isSelf p.1 := by
  have hmap (ks : Keywords) : (ks.any fun p => Options.isSelf p.1) = (ks.map Prod.fst).any Options.isSelf := by
    rw [List.any_map]
    rfl
  rw [hmap, hmap, SameButSecret.map_name_eq h.keywords]

/-- Sources that are the same but for the token are read as the same statements, or as statements that are. -/
theorem ofSources_cases (h : SameButToken s s') :
    Statements.ofSources s' = Statements.ofSources s ∨
      ∃ st st', Statements.ofSources s = .ok st ∧ Statements.ofSources s' = .ok st' ∧ SaySameButToken st st' := by
  rcases Statements.ofSources_congr h.any_isSelf h.options with heq | ⟨arguments, before, options, hoptions, hs, hs'⟩
  · exact Or.inl heq
  · refine Or.inr ⟨_, _, hs, hs', rfl, rfl, ?_, ?_⟩
    · exact SameButSecret.forall₂_filter h.keywords fun p q hpq => by rw [hpq.name_eq]
    · refine h.environment.imp fun p q hpq => hpq.mono fun t ht => ⟨ht.1, fun hnone => ht.2 ?_⟩
      exact (Options.noneText_eq_some_iff hoptions).1 hnone

end SameButToken

/-! ### The value that wins -/

/-- Whether two values of a field are the same, or secrets given as the token. -/
def SameValue (f : Field) (v w : Value) : Prop := w = v ∨ f = .apiToken ∧ IsSecretValue v ∧ IsSecretValue w

theorem optionRel_map {α β : Type} {R : α → α → Prop} {S : β → β → Prop} {a b : Option α} {g : α → β}
    (h : Option.Rel R a b) (hg : ∀ p q, a = some p → R p q → S (g p) (g q)) : Option.Rel S (a.map g) (b.map g) := by
  cases h with
  | none => exact .none
  | some hpq => exact .some (hg _ _ rfl hpq)

theorem optionRel_or {α : Type} {R : α → α → Prop} {a b a' b' : Option α} (h : Option.Rel R a a')
    (h' : Option.Rel R b b') : Option.Rel R (a.or b) (a'.or b') := by
  cases h with
  | none => exact h'
  | some hpq => exact .some hpq

namespace SaySameButToken

variable {s s' : Statements}

theorem fromKeywords?_rel (h : SaySameButToken s s') (f : Field) :
    Option.Rel (SameValue f) (s.fromKeywords? f.name) (s'.fromKeywords? f.name) := by
  have hfield : ∀ f ∈ Field.all, f.name = Field.apiToken.name → f = .apiToken := by decide
  refine optionRel_map (SameButSecret.find?_rel h.keywords fun name => decide (fold name = Text.ofString f.name))
    fun p q hp hpq => ?_
  cases hpq with
  | same => exact Or.inl rfl
  | secret hname hv hw =>
    have hfound := List.find?_some hp
    rw [decide_eq_true_eq] at hfound
    exact Or.inr ⟨hfield f (Field.mem_all f) (Text.ofString_injective (hfound.symm.trans hname)), hv, hw⟩

/-- The variables that count are the same but for secrets, none of which is empty. -/
theorem counted (h : SaySameButToken s s') :
    List.Forall₂ (SameButSecret EndsLikeToken fun t => t ≠ [] ∧ s.options.noneText ≠ some t)
      s.counted s'.counted := by
  have hcounted : s'.counted = s'.environment.filter fun p => !(s.options.ignoresEmpty && p.2.isEmpty) := by
    rw [Statements.counted, h.options]
  rw [hcounted]
  refine SameButSecret.forall₂_filter h.environment fun p q hpq => ?_
  cases hpq with
  | same => rfl
  | secret hname hv hw =>
    rw [List.isEmpty_eq_false_iff.2 hv.1, List.isEmpty_eq_false_iff.2 hw.1]

theorem fromVariables?_rel (h : SaySameButToken s s') (f : Field) :
    Option.Rel (SameValue f) (s.fromVariables? f.name) (s'.fromVariables? f.name) := by
  have hfold : s'.foldVariable = s.foldVariable := by
    funext name
    rw [Statements.foldVariable, h.options, Statements.foldVariable]
  have hvalue : s'.valueOf = s.valueOf := by
    funext t
    rw [Statements.valueOf, h.options, Statements.valueOf]
  unfold Statements.fromVariables?
  rw [hfold, hvalue, h.options]
  let isNamed (name : Text) : Bool :=
    s.foldVariable name = s.foldVariable (s.options.variablePrefix ++ Text.ofString f.name)
  have hfound := SameButSecret.find?_rel (List.forall₂_reverse_iff.2 h.counted) isNamed
  refine optionRel_map hfound fun p q hp hpq => ?_
  cases hpq with
  | same => exact Or.inl rfl
  | secret hname hv hw =>
    -- a text that does not mean none is the value of its variable
    have htext {t : Text} (ht : t ≠ [] ∧ s.options.noneText ≠ some t) : IsSecretValue (s.valueOf t) :=
      ⟨t, ht.1, if_neg ht.2⟩
    have hfound := List.find?_some hp
    rw [decide_eq_true_eq] at hfound
    exact Or.inr ⟨eq_token_of_endsLikeToken hname (fold_eq_of_foldVariable_eq hfound), htext hv, htext hw⟩

/-- Each field is won by the same value, or the token by two secrets. -/
theorem winner?_rel (h : SaySameButToken s s') (f : Field) :
    Option.Rel (SameValue f) (s.winner? f.name) (s'.winner? f.name) := by
  have harguments : Option.Rel (SameValue f) (s.fromArguments? f.name) (s'.fromArguments? f.name) := by
    rw [Statements.fromArguments?, Statements.fromArguments?, h.arguments]
    cases (s.arguments.find? (·.1 = f.name)).map Prod.snd with
    | none => exact .none
    | some v => exact .some (Or.inl rfl)
  exact optionRel_or (optionRel_or harguments (h.fromKeywords?_rel f)) (h.fromVariables?_rel f)

end SaySameButToken

/-! ### What is read -/

namespace SaySameButToken

variable {s s' : Statements}

theorem checked_eq (h : SaySameButToken s s') {f : Field} (hf : f ≠ .apiToken) : checked s' f = checked s f := by
  have hwinner : s'.winner? f.name = s.winner? f.name := by
    have hrel := h.winner?_rel f
    generalize s.winner? f.name = a, s'.winner? f.name = b at hrel ⊢
    cases hrel with
    | none => rfl
    | some hv =>
      rcases hv with rfl | ⟨hf', -⟩
      · rfl
      · exact absurd hf' hf
  rw [checked, field, hwinner, checked, field]

/-- The token is complained of in the same way, or it is read as two secrets. -/
theorem checked_token_cases (h : SaySameButToken s s') :
    checked s' .apiToken = checked s .apiToken ∨
      ∃ t t', t ≠ [] ∧ t' ≠ [] ∧ checked s .apiToken = .ok (some t) ∧ checked s' .apiToken = .ok (some t') := by
  have hrel := h.winner?_rel .apiToken
  unfold checked field
  generalize s.winner? Field.apiToken.name = a, s'.winner? Field.apiToken.name = b at hrel ⊢
  cases hrel with
  | none => exact Or.inl rfl
  | some hv =>
    rcases hv with rfl | ⟨-, ⟨t, ht, rfl⟩, t', ht', rfl⟩
    · exact Or.inl rfl
    · exact Or.inr ⟨t, t', ht, ht', rfl, rfl⟩

/-- Nothing is complained of in one that is not in the other. -/
theorem complaints_eq (h : SaySameButToken s s') (f : Field) :
    (checked s' f).complaints = (checked s f).complaints := by
  by_cases hf : f = .apiToken
  · subst hf
    rcases h.checked_token_cases with heq | ⟨t, t', -, -, ht, ht'⟩
    · rw [heq]
    · rw [ht, ht']
      rfl
  · rw [h.checked_eq hf]

theorem unknownKeywords_eq (h : SaySameButToken s s') : unknownKeywords s' = unknownKeywords s := by
  have hname : ∀ name, (!(fieldNames.map Text.ofString).contains (fold name)) = true →
      ¬Field.apiToken.IsKeyword name := by
    intro name hunknown hname
    rw [hname] at hunknown
    exact absurd hunknown (by decide)
  rw [unknownKeywords, SameButSecret.filter_eq h.keywords hname, unknownKeywords]

theorem symm (h : SaySameButToken s s') : SaySameButToken s' s := by
  refine ⟨h.arguments.symm, h.options.symm, SameButSecret.forall₂_symm h.keywords, ?_⟩
  rw [h.options]
  exact SameButSecret.forall₂_symm h.environment

/-- If one is read, the other is, and they hold the same but for the token, which is shown alike. -/
theorem exists_of_ofStatements (h : SaySameButToken s s') {settings : Settings}
    (hread : ofStatements s = .ok settings) :
    ∃ settings', ofStatements s' = .ok settings' ∧ (∀ f ≠ .apiToken, settings'.get f = settings.get f) ∧
      settings'.tokenShown = settings.tokenShown := by
  obtain ⟨hfields, hkeywords⟩ := ofStatements_eq_ok_iff_get.1 hread
  have hall : ∀ f, ∃ a, checked s' f = .ok a := by
    intro f
    by_cases hf : f = .apiToken
    · subst hf
      rcases h.checked_token_cases with heq | ⟨t, t', -, -, -, ht'⟩
      · exact ⟨_, heq.trans (hfields .apiToken)⟩
      · exact ⟨_, ht'⟩
    · exact ⟨_, (h.checked_eq hf).trans (hfields f)⟩
  obtain ⟨settings', hfields'⟩ := exists_get hall
  refine ⟨settings', ofStatements_eq_ok_iff_get.2 ⟨hfields', h.unknownKeywords_eq.trans hkeywords⟩, fun f hf => ?_, ?_⟩
  · exact Except.ok.inj ((hfields' f).symm.trans ((h.checked_eq hf).trans (hfields f)))
  · have htoken := hfields .apiToken
    have htoken' := hfields' .apiToken
    show secretShown (settings'.get .apiToken) = secretShown (settings.get .apiToken)
    rcases h.checked_token_cases with heq | ⟨t, t', ht, ht', hs, hs'⟩
    · rw [Except.ok.inj (htoken'.symm.trans (heq.trans htoken))]
    · rw [Except.ok.inj (htoken'.symm.trans hs'), Except.ok.inj (htoken.symm.trans hs), secretShown, secretShown,
        if_neg ht, if_neg ht']

end SaySameButToken

/-! ### What can be seen -/

/-- What can be seen of settings but for the token itself: what else they hold, how they are shown, and how the token
is. -/
structure View where
  others : Settings
  shown : String
  tokenShown : String
  deriving DecidableEq, Repr

def view (settings : Settings) : View :=
  ⟨{ settings with apiToken := none }, settings.shown, settings.tokenShown⟩

theorem view_eq {settings settings' : Settings} (h : ∀ f ≠ .apiToken, settings'.get f = settings.get f)
    (htoken : settings'.tokenShown = settings.tokenShown) : settings'.view = settings.view := by
  obtain ⟨env, serviceName, logLevel, jsonLogs, apiHost, apiPort, apiToken, bcryptRounds, verifyWorkers, databaseUrl⟩ :=
    settings
  obtain rfl : settings'.env = env := h .env (by decide)
  obtain rfl : settings'.serviceName = serviceName := h .serviceName (by decide)
  obtain rfl : settings'.logLevel = logLevel := h .logLevel (by decide)
  obtain rfl : settings'.jsonLogs = jsonLogs := h .jsonLogs (by decide)
  obtain rfl : settings'.apiHost = apiHost := h .apiHost (by decide)
  obtain rfl : settings'.apiPort = apiPort := h .apiPort (by decide)
  obtain rfl : settings'.bcryptRounds = bcryptRounds := h .bcryptRounds (by decide)
  obtain rfl : settings'.verifyWorkers = verifyWorkers := h .verifyWorkers (by decide)
  obtain rfl : settings'.databaseUrl = databaseUrl := h .databaseUrl (by decide)
  rw [view, view, htoken]
  rfl

theorem ofStatements_view {s s' : Statements} (h : SaySameButToken s s') :
    (ofStatements s').map view = (ofStatements s).map view := by
  cases hread : ofStatements s with
  | ok settings =>
    obtain ⟨settings', hread', hget, htoken⟩ := h.exists_of_ofStatements hread
    rw [hread', Except.map, Except.map, view_eq hget htoken]
  | error cs =>
    have hcomplaints : (ofStatements s').complaints = (ofStatements s).complaints := by
      rw [complaints_ofStatements, complaints_ofStatements, h.unknownKeywords_eq]
      simp only [h.complaints_eq]
    cases hread' : ofStatements s' with
    | ok settings' =>
      obtain ⟨settings, hread'', -⟩ := h.symm.exists_of_ofStatements hread'
      cases hread.symm.trans hread''
    | error cs' =>
      rw [hread, hread'] at hcomplaints
      rw [show cs' = cs from hcomplaints]

theorem map_view_read {s : Sources} {st : Statements} (h : Statements.ofSources s = .ok st) :
    (read s).map view = ((ofStatements st).map view).mapError .complaints := by
  have hread : read s = (ofStatements st).mapError .complaints := by rw [read, h]
  rw [hread]
  cases ofStatements st <;> rfl

/-- Sources that differ only in the secrets that they give as the token are read alike: they are refused for the same
reasons, with the same values named, or settings can be seen to hold and to show the same. -/
theorem read_hides_token {s s' : Sources} (h : SameButToken s s') : (read s').map view = (read s).map view := by
  rcases h.ofSources_cases with heq | ⟨st, st', hs, hs', hsay⟩
  · rw [read, read, heq]
  · rw [map_view_read hs, map_view_read hs', ofStatements_view hsay]

/-- A port that cannot be read is complained of alike beside two secrets, one of which is no text in UTF-8. -/
theorem read_hides_token_complaint :
    let s (secret : Text) : Sources :=
      { keywords := [("Api_Token", .string secret), ("api_port", .ofString "x")]
        environment := [("RELAY_API_TOKEN", secret)] }
    let foreign : Text := [.surrogate 0]
    SameButToken (s "s3cr3t") (s foreign) ∧ (read (s foreign)).map view = (read (s "s3cr3t")).map view ∧
      (complaintsOf (read (s foreign))).map (fun c => (c.path, c.fault)) =
        [([.key (Text.ofString "api_port")], .integerUnreadable)] := by
  intro s foreign
  have hsame : SameButToken (s "s3cr3t") (s foreign) := by
    refine ⟨.cons ?_ (.cons (.same _) .nil), .cons ?_ .nil⟩
    · exact .secret (by decide +kernel) ⟨_, by decide, rfl⟩ ⟨_, by decide, rfl⟩
    · have hnone : ∀ t, ¬MeansNone (s "s3cr3t").keywords t := fun t ht => nomatch ht
      exact .secret (by decide +kernel) ⟨by decide, hnone _⟩ ⟨by decide, hnone _⟩
  exact ⟨hsame, read_hides_token hsame, by decide +kernel⟩

/-- A text that means none is no secret: it shows that there is no token. -/
theorem not_every_text_is_hidden :
    let s (secret : Text) : Sources :=
      { keywords := [("_env_parse_none_str", .ofString "null")], environment := [("RELAY_API_TOKEN", secret)] }
    ∃ settings settings', read (s "null") = .ok settings ∧ read (s "s3cr3t") = .ok settings' ∧
      settings.tokenShown = "None" ∧ settings'.tokenShown = "**********" := by
  intro s
  have hnone : read (s "null") = .ok {} := read_eq_ok_of_toOption (by decide +kernel)
  have hsome : read (s "s3cr3t") = .ok { apiToken := some (Text.ofString "s3cr3t") } :=
    read_eq_ok_of_toOption (by decide +kernel)
  exact ⟨_, _, hnone, hsome, rfl, rfl⟩

end Settings

end DomainPolicy
