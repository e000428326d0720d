import DomainPolicy.Settings.Arguments
import DomainPolicy.Settings.Options
import DomainPolicy.Text.Identifier

/-!
# Settings among the arguments of a command

* If keywords bring arguments of a command along, settings are read from them first (`CommandLine.read`). Other keywords
  say what the options of the command are called and how they are written.
* An option is called like its setting, after two marks. It takes a text; one text means none (`noneText`).
-/

namespace DomainPolicy.CommandLine

open Json (Value)
open Options (value? isOn isSwitchedOn)

/-! ### Names -/

/-- What comes before the names of settings, and whether values can be found under such names. -/
def prefixText (ks : Keywords) : Except SourceError (Text × Bool) :=
  let point : CodePoint := '.'
  match value? ks "_cli_prefix" with
  | none => .ok ([], true)
  | some (.string t) =>
    if t = [] then .ok ([], true)
    else if t.head? = some point ∨ t.getLast? = some point ∨
        !(Text.toChars? (t.filter (· ≠ point))).any Identifier.isIdentifier then .error .sourceUnusable
    else .ok (t ++ [point], true)
  | some v =>
    if isOn v then .error .kindForeign
    else
      match v with
      | .array _ => .ok ("[]", false)
      | .object _ => .ok ("\x7b\x7d", false)
      | _ => .error .kindUnusable

def markValue? (ks : Keywords) : Option Value := value? ks "_cli_flag_prefix_char"

/-- The characters that the names of options begin with have to be something that can be doubled. -/
def checkMarks (ks : Keywords) : Except SourceError Unit :=
  match markValue? ks with
  | some (.object _) => .error .kindUnusable
  | _ => .ok ()

/-- The characters that the names of options begin with. A list of them is none. -/
def marks (ks : Keywords) : Except SourceError Text :=
  match markValue? ks with
  | none => .ok "-"
  | some (.string t) => if t.isEmpty then .error .nameless else .ok t
  | some (.array []) => .error .nameless
  | some (.array (v :: vs)) =>
    let isMinus : Value → Bool
      | .string t => t == Text.ofString "-"
      | _ => false
    match v with
    | .string t => .error (if t.length = 1 ∨ (v :: vs).any isMinus then .kindUnusable else .valueUnusable)
    | _ => .error .kindUnusable
  | some _ => .error .kindUnusable

/-- Whether an option is switched on that everything but `false` and zero switches on. -/
def isNotFalse (ks : Keywords) (name : String) : Bool :=
  match value? ks name with
  | none => false
  | some (.boolean b) => b
  | some (.integer n) => n ≠ 0
  | some (.real x) => x.toInt? ≠ some 0
  | some _ => true

/-- A name as an option has it, perhaps with hyphens in the place of underscores. -/
def optionName (ks : Keywords) (name : Text) : Text :=
  if isNotFalse ks "_cli_kebab_case" then name.map fun p => if p = .scalar '_' then .scalar '-' else p else name

/-- Other names that an option is given. A list or a table is never asked for as a name. -/
def aliasNames (v : Value) : Except SourceError (List Text) :=
  match Options.items v with
  | .error e => .error e
  | .ok vs => (vs.mapM name).map List.flatten
where
  name : Value → Except SourceError (List Text)
    | .string t => .ok [t]
    | .array [] | .object [] => .error .valueUnusable
    | .array _ | .object _ => .ok []
    | _ => .error .kindUnusable

/-- The names of an option with the other names that it is given, of which those that are taken do not count. -/
def withAliases (ks : Keywords) (taken names : List Text) : Except SourceError (List Text) :=
  match value? ks "_cli_shortcuts" with
  | none => .ok names
  | some (.object ms) =>
    ms.foldlM (fun names (target, v) =>
      if names.contains target then (aliasNames v).map fun more => names ++ more.filter (!taken.contains ·)
      else .ok names) names
  | some v => if isOn v then .error .kindForeign else .ok names

/-! ### Options -/

/-- What the option of a setting does. A setting that is a truth value may need no value. -/
def effect (ks : Keywords) (field : String) : Arguments.Effect :=
  if field ≠ "json_logs" then .take
  else
    match (value? ks "_cli_implicit_flags").filter isOn with
    | some (.string t) => if t = Text.ofString "toggle" then .clear else .switch
    | some _ => .switch
    | none => .take

/-- The text that means none, if it is a text. -/
def noneText (ks : Keywords) : Option Text :=
  match (value? ks "_env_parse_none_str").filter isOn, (value? ks "_cli_parse_none_str").filter isOn with
  | some (.string t), _ | none, some (.string t) => some t
  | some _, _ | none, some _ => none
  | none, none =>
    match value? ks "_cli_avoid_json" with
    | some (.boolean true) => some "None"
    | _ => some "null"

def faultError : Arguments.EntryFault → SourceError
  | .nameless => .nameless
  | .unmarked => .valueUnusable
  | .taken => .nameTaken

/-- Adds the option of a setting, unless its name is taken; the names taken grow. The text that means none is shown
where a setting may be none, and has to be a text for that. -/
def addField (ks : Keywords) (marks before : Text) (state : Arguments.Grammar × List Text) (field : String) :
    Except SourceError (Arguments.Grammar × List Text) :=
  let (g, taken) := state
  if field = "api_token" ∧ noneText ks = none ∧ !isSwitchedOn ks "_cli_hide_none_type" then .error .kindUnusable
  else
    let name := optionName ks (before ++ Text.ofString field)
    match withAliases ks taken (if taken.contains name then [] else [name]) with
    | .error e => .error e
    | .ok [] => .ok state
    | .ok names =>
      let effect := effect ks field
      let lead := marks ++ marks ++ if effect = .clear then Text.ofString "no-" else []
      match g.add { names := names.map fun n => lead.take n.length ++ n, effect, field } with
      | .error fault => .error (faultError fault)
      | .ok g => .ok (g, taken ++ names)

/-- The option that shows help. -/
def helpEntry (marks : Text) : Arguments.Entry :=
  let mark := if marks.contains (.scalar '-') then Text.ofString "-" else marks.take 1
  { names := [mark ++ Text.ofString "h", mark ++ mark ++ Text.ofString "help"], effect := .help }

/-- The options of the command. -/
def grammar (ks : Keywords) (marks before : Text) : Except SourceError Arguments.Grammar :=
  (Settings.fieldNames.foldlM (addField ks marks before) (⟨marks, [helpEntry marks]⟩, [])).map Prod.fst

/-! ### Arguments -/

/-- An argument with the name of its option in small letters. A line feed after the name ends it. -/
def foldArgument (marks argument : Text) : Text :=
  let name := argument.takeWhile fun p => !p.satisfies fun c => Blank.isBlank c || c = '='
  if marks.isPrefixOf name && marks.length < name.length then
    Lowercase.lowerText name ++ (argument.drop name.length).takeWhile (· ≠ .scalar '\n')
  else argument

/-- An argument as it is read. What is no text has to be empty. If the case of names does not count, it is an empty
text. -/
def argument (ks : Keywords) (marks : Text) (v : Value) : Except SourceError Arguments.Argument :=
  let foldsCase : Bool := match value? ks "_case_sensitive" with
    | none | some (.boolean false) => true
    | some _ => false
  match v, isOn v, foldsCase with
  | .string t, _, true => .ok { text := foldArgument marks t }
  | .string t, _, false => .ok { text := t }
  | _, true, _ => .error .kindUnusable
  | _, false, true => .ok { text := [] }
  | v, false, false => .ok { text := [], value := v }

/-- Whether a value is a text. -/
def isText : Value → Bool
  | .string _ => true
  | _ => false

/-- What arguments set. A command that fails ends at once, unless it is told not to. What is left over fails it, and is
to be named then. -/
def settle (ks : Keywords) (g : Arguments.Grammar) (arguments : List Arguments.Argument) :
    Except SourceError (List (String × Value)) :=
  let misused := match value? ks "_cli_exit_on_error" with
    | none => SourceError.commandEnded
    | some v => if isOn v then .commandEnded else .sourceUnusable
  match g.read arguments with
  | .error .help => .error .commandEnded
  | .error .misuse => .error misused
  | .ok (set, left) =>
    if left.isEmpty || isSwitchedOn ks "_cli_ignore_unknown_args" then .ok set
    else .error (if left.all isText then misused else .kindUnusable)

/-- A value, or none if its text says so. An empty list stands for its text. -/
def valueOf (ks : Keywords) : Value → Value
  | .string t => if noneText ks = some t then .null else .string t
  | .array _ => .ofString "[]"
  | v => v

/-- What each setting is set to in the end, if it is set to something. -/
def outcome (ks : Keywords) (set : List (String × Value)) : List (String × Value) :=
  Settings.fieldNames.filterMap fun field =>
    match set.reverse.find? (·.1 = field) with
    | none | some (_, .null) => none
    | some (_, v) => some (field, valueOf ks v)

/-- The arguments that keywords bring along: a list, or a truth value without any. -/
def argumentsOf (v : Value) : Except SourceError (List Value) :=
  match v with
  | .boolean _ => .ok []
  | .array vs => .ok vs
  | v => if isOn v then .error .sourceUnusable else
    match v with
    | .integer _ | .real _ => .ok []
    | _ => .error .sourceUnusable

/-- The settings among the arguments that keywords bring along, if they do. -/
def read (ks : Keywords) : Except SourceError (List (String × Value)) :=
  match value? ks "_cli_parse_args" with
  | none => .ok []
  | some v => do
    checkMarks ks
    let (before, isUsable) ← prefixText ks
    let marks ← marks ks
    let g ← grammar ks marks before
    let arguments ← (← argumentsOf v).mapM (argument ks marks)
    let set ← settle ks g arguments
    if isUsable then .ok (outcome ks set) else .error .sourceUnusable

end DomainPolicy.CommandLine
