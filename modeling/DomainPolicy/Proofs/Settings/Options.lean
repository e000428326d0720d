import DomainPolicy.Settings.Sources

/-!
# What options decide

Keywords that say how sources are read are looked up by their names.  So keywords that have the same options are
followed alike, whatever else there is among them (`ofSources_congr`): the same variables are read under the same names,
the same files are looked at, and the same command is read.
-/

namespace DomainPolicy

open Json (Value)

namespace Options

/-- Whether keywords have the same options. -/
def Same (ks ks' : Keywords) : Prop := ∀ option ∈ names, value? ks' option = value? ks option

variable {ks ks' : Keywords}

theorem Same.isSwitchedOn (h : Same ks ks') (option : String) (hoption : option ∈ names) :
    isSwitchedOn ks' option = isSwitchedOn ks option := by
  rw [Options.isSwitchedOn, h option hoption, Options.isSwitchedOn]

theorem Same.checkParts (h : Same ks ks') : checkParts ks' = checkParts ks := by
  rw [Options.checkParts, h "_env_nested_max_split" (by decide), Options.checkParts]

theorem Same.prefixText? (h : Same ks ks') : prefixText? ks' = prefixText? ks := by
  rw [Options.prefixText?, h "_env_prefix" (by decide), Options.prefixText?]

theorem Same.checkFiles (h : Same ks ks') : checkFiles ks' = checkFiles ks := by
  rw [Options.checkFiles, h "_env_file" (by decide), Options.checkFiles]

theorem Same.checkDirectories (h : Same ks ks') : checkDirectories ks' = checkDirectories ks := by
  rw [Options.checkDirectories, h "_secrets_dir" (by decide), Options.checkDirectories]

theorem Same.hasPrefix (h : Same ks ks') : hasPrefix ks' = hasPrefix ks := by
  rw [Options.hasPrefix, h "_env_prefix_target" (by decide), Options.hasPrefix]

theorem Same.variableOptions (h : Same ks ks') (before : Option Text) :
    variableOptions ks' before = variableOptions ks before := by
  simp only [Options.variableOptions, h.hasPrefix, h.isSwitchedOn "_case_sensitive" (by decide),
    h.isSwitchedOn "_env_ignore_empty" (by decide), h "_env_parse_none_str" (by decide)]

end Options

/-! ### The command -/

namespace CommandLine

open Options (Same)

variable {ks ks' : Keywords}

theorem prefixText_congr (h : Same ks ks') : prefixText ks' = prefixText ks := by
  rw [prefixText, h "_cli_prefix" (by decide), prefixText]

theorem markValue?_congr (h : Same ks ks') : markValue? ks' = markValue? ks :=
  h "_cli_flag_prefix_char" (by decide)

theorem checkMarks_congr (h : Same ks ks') : checkMarks ks' = checkMarks ks := by
  rw [checkMarks, markValue?_congr h, checkMarks]

theorem marks_congr (h : Same ks ks') : marks ks' = marks ks := by
  rw [marks, markValue?_congr h, marks]

theorem optionName_congr (h : Same ks ks') (name : Text) : optionName ks' name = optionName ks name := by
  rw [optionName, isNotFalse, h "_cli_kebab_case" (by decide), optionName, isNotFalse]

theorem withAliases_congr (h : Same ks ks') (taken names : List Text) :
    withAliases ks' taken names = withAliases ks taken names := by
  rw [withAliases, h "_cli_shortcuts" (by decide), withAliases]

theorem effect_congr (h : Same ks ks') (field : String) : effect ks' field = effect ks field := by
  rw [effect, h "_cli_implicit_flags" (by decide), effect]

theorem noneText_congr (h : Same ks ks') : noneText ks' = noneText ks := by
  rw [noneText, h "_env_parse_none_str" (by decide), h "_cli_parse_none_str" (by decide),
    h "_cli_avoid_json" (by decide), noneText]

theorem grammar_congr (h : Same ks ks') (marks before : Text) :
    grammar ks' marks before = grammar ks marks before := by
  have hfield : addField ks' marks before = addField ks marks before := by
    funext state field
    simp only [addField, noneText_congr h, h.isSwitchedOn "_cli_hide_none_type" (by decide),
      optionName_congr h, withAliases_congr h, effect_congr h]
  rw [grammar, hfield, grammar]

theorem argument_congr (h : Same ks ks') (marks : Text) : argument ks' marks = argument ks marks := by
  funext v
  simp only [argument, h "_case_sensitive" (by decide)]

theorem settle_congr (h : Same ks ks') (g : Arguments.Grammar) (arguments : List Arguments.Argument) :
    settle ks' g arguments = settle ks g arguments := by
  rw [settle, h "_cli_exit_on_error" (by decide), h.isSwitchedOn "_cli_ignore_unknown_args" (by decide), settle]

theorem outcome_congr (h : Same ks ks') (set : List (String × Value)) : outcome ks' set = outcome ks set := by
  have hvalue : valueOf ks' = valueOf ks := by
    funext v
    cases v with
    | string t => rw [valueOf, noneText_congr h, valueOf]
    | _ => rfl
  rw [outcome, hvalue, outcome]

/-- The command that keywords bring along is read by their options. -/
theorem read_congr (h : Same ks ks') : read ks' = read ks := by
  simp only [read, h "_cli_parse_args" (by decide), checkMarks_congr h, prefixText_congr h, marks_congr h,
    grammar_congr h, argument_congr h, settle_congr h, outcome_congr h]

end CommandLine

/-! ### Sources -/

namespace Statements

/-- What sources say by their own keywords and variables, beside arguments that set fields. -/
def own (arguments : List (String × Value)) (options : Options.VariableOptions) (s : Sources) : Statements :=
  { arguments, keywords := Options.others s.keywords, environment := s.environment, options }

/-- Sources with the same options are read alike: neither gives anything of its own, or both give their own keywords and
variables, and these are read in the same way. -/
theorem ofSources_congr {s s' : Sources}
    (hself : (s'.keywords.any fun p => Options.isSelf p.1) = s.keywords.any fun p => Options.isSelf p.1)
    (h : Options.Same s.keywords s'.keywords) :
    ofSources s' = ofSources s ∨
      ∃ arguments before options, Options.variableOptions s.keywords before = .ok options ∧
        ofSources s = .ok (own arguments options s) ∧ ofSources s' = .ok (own arguments options s') := by
  simp only [ofSources, hself, h "_build_sources" (by decide), h.checkParts, h.prefixText?, h.checkFiles,
    CommandLine.read_congr h, h.variableOptions, h.checkDirectories]
  split
  · exact Or.inl rfl
  · exact Or.inl rfl
  -- each check that fails, fails for both, and then there are options
  · cases Options.checkParts s.keywords with
    | error e => exact Or.inl rfl
    | ok _ =>
    cases Options.prefixText? s.keywords with
    | error e => exact Or.inl rfl
    | ok before =>
    cases Options.checkFiles s.keywords with
    | error e => exact Or.inl rfl
    | ok _ =>
    cases CommandLine.read s.keywords with
    | error e => exact Or.inl rfl
    | ok arguments =>
    cases hoptions : Options.variableOptions s.keywords before with
    | error e =>
      left
      simp only [bind, Except.bind, hoptions]
    | ok options =>
    cases Options.checkDirectories s.keywords with
    | error e =>
      left
      simp only [bind, Except.bind, hoptions]
    | ok _ =>
      right
      refine ⟨arguments, before, options, hoptions, ?_, ?_⟩
      · simp only [bind, Except.bind, hoptions, own]
      · simp only [bind, Except.bind, hoptions, own]

end Statements

/-- The text of variables that means none is the one that keywords name. -/
theorem Options.noneText_eq_some_iff {ks : Keywords} {before : Option Text} {options : VariableOptions}
    (h : variableOptions ks before = .ok options) {t : Text} :
    options.noneText = some t ↔ value? ks "_env_parse_none_str" = some (.string t) := by
  unfold variableOptions at h
  cases hgiven : hasPrefix ks with
  | false =>
    rw [if_neg (by rw [hgiven]; exact Bool.false_ne_true)] at h
    cases h
    cases value? ks "_env_parse_none_str" with
    | none => simp
    | some v => cases v <;> simp
  | true =>
    rw [if_pos hgiven] at h
    cases before with
    | none => cases h
    | some before =>
      cases h
      cases value? ks "_env_parse_none_str" with
      | none => simp
      | some v => cases v <;> simp

end DomainPolicy
