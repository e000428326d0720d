import DomainPolicy.Settings.CommandLine

/-!
# Where settings come from

* A field is decided by an argument that sets it, else by the first keyword of its name, else by the last
  environment variable of its name after a prefix (`Statements.winner?`). Case does not count in the names of keywords.
* `Statements.ofSources` follows the keywords that say how sources are read.
-/

namespace DomainPolicy

open Json (Value)

/-- What settings are read from, both in order. -/
structure Sources where
  environment : List (Text × Text) := []
  keywords : Keywords := []
  deriving Repr

/-- What sources say: arguments by the field that they set, keywords by name, and variables as they are to be read. -/
structure Statements where
  arguments : List (String × Value) := []
  keywords : Keywords := []
  environment : List (Text × Text) := []
  options : Options.VariableOptions := {}
  deriving Repr

namespace Statements

/-- A name in small letters. -/
def fold (name : Text) : Text := Lowercase.lowerText name

/-- The name of a variable as it is compared. -/
def foldVariable (s : Statements) (name : Text) : Text :=
  if s.options.isCaseSensitive then name else fold name

/-- What the text of a variable says. -/
def valueOf (s : Statements) (text : Text) : Value :=
  if s.options.noneText = some text then .null else .string text

/-- The variables that count. -/
def counted (s : Statements) : List (Text × Text) :=
  s.environment.filter fun p => !(s.options.ignoresEmpty && p.2.isEmpty)

/-- What a field is set to by an argument. -/
def fromArguments? (s : Statements) (field : String) : Option Value :=
  (s.arguments.find? (·.1 = field)).map Prod.snd

/-- The value of the first keyword of a name. -/
def fromKeywords? (s : Statements) (field : String) : Option Value :=
  (s.keywords.find? fun p => fold p.1 = Text.ofString field).map Prod.snd

/-- The value of the last variable of a name after the prefix. -/
def fromVariables? (s : Statements) (field : String) : Option Value :=
  let name := s.foldVariable (s.options.variablePrefix ++ Text.ofString field)
  (s.counted.reverse.find? fun p => s.foldVariable p.1 = name).map fun p => s.valueOf p.2

/-- The value that decides a field. -/
def winner? (s : Statements) (field : String) : Option Value :=
  ((s.fromArguments? field).or (s.fromKeywords? field)).or (s.fromVariables? field)

/-- What the environment says. -/
def ofEnvironment (environment : List (Text × Text)) : Statements := { environment }

/-! ### Sources -/

/-- What sources say that are brought along ready, two things of which the first holds them. None can be. -/
def ofReady (v : Value) : Except SourceError Statements :=
  let ready (v : Value) : Except SourceError Statements := if Options.isOn v then .error .kindUnusable else .ok {}
  match v with
  | .array [sources, _] => ready sources
  | .object [(sources, _), _] => ready (.string sources)
  | .string [c, _] => ready (.string [c])
  | .array _ | .object _ | .string _ => .error .valueUnusable
  | _ => .error .kindUnusable

/-- What sources say, if they can be read. -/
def ofSources (s : Sources) : Except SourceError Statements :=
  let ks := s.keywords
  match ks.any fun p => Options.isSelf p.1, Options.value? ks "_build_sources" with
  | true, _ => .error .keywordTaken
  | false, some v => ofReady v
  | false, none => do
    Options.checkParts ks
    let prefixText ← Options.prefixText? ks
    Options.checkFiles ks
    let arguments ← CommandLine.read ks
    let options ← Options.variableOptions ks prefixText
    Options.checkDirectories ks
    .ok { arguments, keywords := Options.others ks, environment := s.environment, options }

end Statements

end DomainPolicy
