import DomainPolicy.Json.Value
import DomainPolicy.Store.Disk
import DomainPolicy.Text.Lowercase

/-!
# How settings are read

* Some keywords name no setting but say how the sources of settings are read. `Options.value?` looks one up; `null`
  leaves things as they are.
* `VariableOptions` are about the variables of the environment. The files and directories that are named as sources have
  to be names of files at least (`Options.checkFiles`, `Options.checkDirectories`); there is nothing to read in them.
-/

namespace DomainPolicy

open Json (Value)

/-- Why sources cannot be read: an option has a value of a kind that is no use, or that is asked for what its kind does
not have, or it has another value that is no use; a keyword would stand for the settings themselves; a home directory is
not known; a path is too long, or begins with a user whose name is no name of a file; a source says nothing that can be
understood; an argument of the command has no name, or a name that another one has; or the command ends at once. -/
inductive SourceError where
  | keywordTaken
  | kindUnusable
  | kindForeign
  | valueUnusable
  | homeUnknown
  | userForeign
  | pathTooLong
  | sourceUnusable
  | nameless
  | nameTaken
  | commandEnded
  deriving DecidableEq, Repr

/-- Keywords, in order. -/
abbrev Keywords := List (Text × Value)

/-- The names of the settings, in order. -/
def Settings.fieldNames : List String :=
  ["env", "service_name", "log_level", "json_logs", "api_host", "api_port", "api_token", "bcrypt_rounds",
    "verify_workers", "database_url"]

namespace Options

/-- The keywords that say how sources are read. -/
def names : List String :=
  ["_case_sensitive", "_nested_model_default_partial_update", "_env_prefix", "_env_prefix_target", "_env_file",
    "_env_file_depth", "_env_file_encoding", "_env_ignore_empty", "_env_nested_delimiter", "_env_nested_max_split",
    "_env_parse_none_str", "_env_parse_enums", "_cli_prog_name", "_cli_parse_args", "_cli_settings_source",
    "_cli_parse_none_str", "_cli_hide_none_type", "_cli_avoid_json", "_cli_enforce_required",
    "_cli_use_class_docs_for_groups", "_cli_exit_on_error", "_cli_prefix", "_cli_flag_prefix_char",
    "_cli_implicit_flags", "_cli_ignore_unknown_args", "_cli_kebab_case", "_cli_shortcuts", "_cli_show_env_vars",
    "_secrets_dir", "_build_sources"]

/-- The keywords that do not say how sources are read. -/
def others (ks : Keywords) : Keywords := ks.filter fun p => !(names.map Text.ofString).contains p.1

/-- Whether a keyword would stand for the settings that are being read, which are there already. -/
def isSelf (name : Text) : Bool :=
  (Text.ofString "__").isPrefixOf name && (Text.ofString "_self__").isSuffixOf name

/-- The value of an option. -/
def value? (ks : Keywords) (name : String) : Option Value :=
  match ks.find? (·.1 = Text.ofString name) with
  | none | some (_, .null) => none
  | some (_, v) => some v

/-- Whether a value switches something on. What is false, zero or empty does not. -/
def isOn : Value → Bool
  | .null => false
  | .boolean b => b
  | .integer n => n ≠ 0
  | .real x => x.toInt? ≠ some 0
  | .string t => !t.isEmpty
  | .array vs => !vs.isEmpty
  | .object ms => !ms.isEmpty

/-- Whether an option is switched on. -/
def isSwitchedOn (ks : Keywords) (name : String) : Bool := (value? ks name).any isOn

/-- The texts that a value lists: one text, the items of an array, or the keys of an object. -/
def items : Value → Except SourceError (List Value)
  | .string t => .ok [.string t]
  | .array vs => .ok vs
  | .object ms => .ok (ms.map fun m => .string m.1)
  | _ => .error .kindUnusable

/-! ### Variables -/

/-- How variables are read: whether the case of names counts, what comes before the name of a setting, whether empty
variables are passed over, and which text means none. -/
structure VariableOptions where
  isCaseSensitive : Bool := false
  variablePrefix : Text := "RELAY_"
  ignoresEmpty : Bool := false
  noneText : Option Text := none
  deriving DecidableEq, Repr

/-- What comes before the names of settings, if it is a text. It has to have a length in any case. -/
def prefixText? (ks : Keywords) : Except SourceError (Option Text) :=
  match value? ks "_env_prefix" with
  | none => .ok (some ({} : VariableOptions).variablePrefix)
  | some (.string t) => .ok (some t)
  | some (.array _) | some (.object _) => .ok none
  | some _ => .error .kindUnusable

/-- Whether anything comes before the names of settings. -/
def hasPrefix (ks : Keywords) : Bool :=
  match value? ks "_env_prefix_target" with
  | none => true
  | some (.string t) => t = Text.ofString "variable" || t = Text.ofString "all"
  | some _ => false

/-- The number of parts of a variable has to be a number. -/
def checkParts (ks : Keywords) : Except SourceError Unit :=
  match value? ks "_env_nested_max_split" with
  | none | some (.boolean _) | some (.integer _) | some (.real _) => .ok ()
  | some v => if isOn v then .error .kindUnusable else .ok ()

/-- The options about variables, given what comes before their names. -/
def variableOptions (ks : Keywords) (prefixText : Option Text) : Except SourceError VariableOptions :=
  let options (before : Text) : VariableOptions :=
    { isCaseSensitive := isSwitchedOn ks "_case_sensitive"
      variablePrefix := before
      ignoresEmpty := isSwitchedOn ks "_env_ignore_empty"
      noneText := match value? ks "_env_parse_none_str" with
        | some (.string t) => some t
        | _ => none }
  if hasPrefix ks then prefixText.elim (.error .sourceUnusable) (.ok <| options ·) else .ok (options [])

/-! ### Files -/

/-- The home directories of users, as parts of a path. The user who reads settings is `root`. -/
def homes : List (String × List String) :=
  [("root", ["root"]), ("daemon", ["usr", "sbin"]), ("bin", ["bin"]), ("sys", ["dev"]), ("sync", ["bin"]),
    ("games", ["usr", "games"]), ("man", ["var", "cache", "man"]), ("lp", ["var", "spool", "lpd"]),
    ("mail", ["var", "mail"]), ("news", ["var", "spool", "news"]), ("uucp", ["var", "spool", "uucp"]),
    ("proxy", ["bin"]), ("www-data", ["var", "www"]), ("backup", ["var", "backups"]), ("list", ["var", "list"]),
    ("irc", ["run", "ircd"]), ("_apt", ["nonexistent"]), ("nobody", ["nonexistent"])]

/-- The home directory of a user. Without a name it is that of the user who reads settings. -/
def home? (user : Text) : Option (List Text) :=
  let name := if user = [] then Text.ofString "root" else user
  (homes.find? fun h => Text.ofString h.1 = name).map fun h => h.2.map Text.ofString

/-- A path in parts that count, from the root if it begins with a slash. -/
def joinPath (isAbsolute : Bool) (parts : List Text) : Text :=
  let rest := Split.join (.scalar '/') parts
  if isAbsolute then .scalar '/' :: rest else if rest = [] then Text.ofString "." else rest

/-- Why the home directory of a user is not known. -/
def homeError (user : Text) : SourceError :=
  match Path.bytes? user with
  | none => .userForeign
  | some bs => if bs.contains 0 then .valueUnusable else .homeUnknown

/-- A path without what does not count. One that begins with a tilde begins with the home directory of a user. -/
def expand (path : Text) : Except SourceError Text :=
  let isAbsolute := (Text.ofString "/").isPrefixOf path
  let parts := (Split.pieces (.scalar '/') path).filter fun part => part ≠ [] ∧ part ≠ Text.ofString "."
  match isAbsolute, parts with
  | false, (.scalar '~' :: user) :: rest =>
    match home? user with
    | some home => .ok (joinPath true (home ++ rest))
    | none => .error (homeError user)
  | _, _ => .ok (joinPath isAbsolute parts)

/-- A path that is named as a source. -/
def path : Value → Except SourceError Text
  | .string t => expand t
  | _ => .error .kindUnusable

/-- What is at a path. There is nothing under what is no name. -/
def found (path : Text) : Except SourceError (Option DiskEntry) :=
  match (Path.bytes? path).map Disk.usual.find with
  | some .tooLong => .error .pathTooLong
  | some (.entry e) => .ok (some e)
  | some .nothing | none => .ok none

/-- Looks at the files that variables are to be read from. -/
def checkFiles (ks : Keywords) : Except SourceError Unit :=
  match value? ks "_env_file" with
  | none => .ok ()
  | some v => ((items v).bind (·.mapM fun item => (path item).bind found)).map fun _ => ()

/-- Looks at the directories that secrets are to be read from. -/
def checkDirectories (ks : Keywords) : Except SourceError Unit :=
  match value? ks "_secrets_dir" with
  | none => .ok ()
  | some v =>
    match (items v).bind (·.mapM path) with
    | .error e => .error e
    | .ok paths =>
      match paths.mapM found with
      | .error e => .error e
      | .ok entries => if (entries.filterMap id).all DiskEntry.isDirectory then .ok () else .error .sourceUnusable

end Options

end DomainPolicy
