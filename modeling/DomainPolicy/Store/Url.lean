import DomainPolicy.Number.Real
import DomainPolicy.Text.Alphanumeric
import DomainPolicy.Text.Lowercase
import DomainPolicy.Text.Percent
import DomainPolicy.Text.Quoted

/-!
# Database URLs

* A `DatabaseUrl` names a system and, after a plus sign, a driver, then perhaps a user, a host and a port, then the
  database, then a query. `DatabaseUrl.parse?` splits one.
* Fields of the query are options of the driver (`optionFault?`), or are handed on to the database with its name
  (`reference?`). Some options are looked at again once there is to be a connection (`connectionFault?`).
-/

namespace DomainPolicy

/-- The parts of a database URL. -/
structure DatabaseUrl where
  system : String
  hasUser : Bool
  host : Text
  port : Option Text
  database : Option Text
  query : List (Text × Text)
  deriving DecidableEq, Repr

namespace DatabaseUrl

/-! ### The parts -/

/-- Letters, digits and signs for numbers of every script, underscores and plus signs. -/
def isNameChar (c : Char) : Bool := Alphanumeric.isAlphanumeric c || c == '_' || c == '+'

/-- Whether a code point is none of some characters. -/
def isNoneOf (cs : List Char) (p : CodePoint) : Bool := !p.satisfies cs.contains

/-- What follows the user, if one is named, and whether one is. A name ends at the last sign in front of the first
colon, or, if a password follows the colon, at the first sign after it. -/
def dropUser (t : Text) : Bool × Text :=
  let name := t.takeWhile (isNoneOf [':', '/'])
  let rest := t.drop name.length
  let withoutPassword :=
    match Split.cutLast? (.scalar '@') name with
    | some (user, more) => (!user.isEmpty, more ++ rest)
    | none => (false, t)
  match rest with
  | .scalar ':' :: password =>
    if password.contains (.scalar '@') then
      (!name.isEmpty || password.head? ≠ some (.scalar '@'), (password.dropWhile (isNoneOf ['@'])).drop 1)
    else withoutPassword
  | _ => withoutPassword

/-- The host, in brackets or up to a colon, and what follows it. -/
def splitHost (t : Text) : Text × Text :=
  let plain := (t.takeWhile (isNoneOf [':', '/', '?']), t.dropWhile (isNoneOf [':', '/', '?']))
  match t with
  | .scalar '[' :: more =>
    match Split.cutLast? (.scalar ']') (more.takeWhile (isNoneOf ['/', '?'])) with
    | some (host, _) => if host.isEmpty then plain else (host, more.drop (host.length + 1))
    | none => plain
  | _ => plain

/-- The port after a colon, if there is one, and what follows it. -/
def splitPort (t : Text) : Option Text × Text :=
  match t with
  | .scalar ':' :: more => (some (more.takeWhile (isNoneOf ['/', '?'])), more.dropWhile (isNoneOf ['/', '?']))
  | _ => (none, t)

/-- The database after a slash, and what follows it. -/
def splitDatabase (t : Text) : Option Text × Text :=
  match t with
  | .scalar '/' :: more => (some (more.takeWhile (isNoneOf ['?'])), more.dropWhile (isNoneOf ['?']))
  | _ => (none, t)

/-- The fields after a question mark, up to the end of the line. -/
def fieldsOf (t : Text) : List (Text × Text) :=
  match t with
  | .scalar '?' :: query => Percent.fields (query.takeWhile (isNoneOf ['\n']))
  | _ => []

/-- The parts of a URL that has a system. -/
def parse? (url : Text) : Option DatabaseUrl :=
  match url.spanChars isNameChar with
  | (c :: system, .scalar ':' :: .scalar '/' :: .scalar '/' :: rest) =>
    let (hasUser, rest) := dropUser rest
    let (host, rest) := splitHost rest
    let (port, rest) := splitPort rest
    let (database, rest) := splitDatabase rest
    some
      { system := String.ofList (c :: system), hasUser, host, port, database := database.map Percent.text
        query := fieldsOf rest }
  | _ => none

/-! ### Options -/

/-- The number of the port, if one is named. -/
def portNumber? (u : DatabaseUrl) : Option (Option Int) := u.port.map fun port => port.toChars?.bind Integer.read?

/-- The values of a field, in order. -/
def values (u : DatabaseUrl) (name : Text) : List Text := (u.query.filter (·.1 = name)).map Prod.snd

/-- What is wrong with an option. -/
inductive OptionFault where
  | unreadable
  | repeated
  deriving DecidableEq, Repr

/-- What an option can be. -/
inductive OptionKind where
  | truth
  | real
  | text
  | whole
  deriving DecidableEq, Repr

/-- The options of the driver, in the order in which they are looked at. -/
def options : List (String × OptionKind) :=
  [("uri", .truth), ("timeout", .real), ("isolation_level", .text), ("detect_types", .whole),
    ("check_same_thread", .truth), ("cached_statements", .whole)]

/-- The truth value of a word. -/
def truth? (word : Text) : Option Bool :=
  match word.toChars?.map fun cs => String.ofList (Lowercase.lower (Blank.strip cs)) with
  | some "true" | some "yes" | some "on" | some "y" | some "t" | some "1" => some true
  | some "false" | some "no" | some "off" | some "n" | some "f" | some "0" => some false
  | _ => none

/-- What is wrong with the values of an option. Truth values and texts can be given twice. -/
def fault? (kind : OptionKind) (values : List Text) : Option OptionFault :=
  match kind, values with
  | _, [] | .text, _ => none
  | .truth, [word] => if (truth? word).isSome then none else some .unreadable
  | .real, [t] => if t.toChars?.any RealText.isReal then none else some .unreadable
  | .whole, [t] => if (t.toChars?.bind Integer.read?).isSome then none else some .unreadable
  | .truth, _ => none
  | .real, _ | .whole, _ => some .repeated

/-- What is wrong with the first option with which something is. -/
def optionFault? (u : DatabaseUrl) : Option OptionFault :=
  options.findSome? fun (name, kind) => fault? kind (u.values (.ofString name))

/-- What is wrong with an option once there is to be a connection. -/
inductive ConnectionFault where
  | tooLarge
  | unknownIsolation
  deriving DecidableEq, Repr

/-- Whether a whole number has at most 32 bits with its sign. -/
def isNarrow (values : List Text) : Bool :=
  values.all fun t => (t.toChars?.bind Integer.read?).all fun n => -0x80000000 ≤ n && n < 0x80000000

/-- What is wrong with the first option with which something is then. One level of isolation is left aside, and
several are none that is known. -/
def connectionFault? (u : DatabaseUrl) : Option ConnectionFault :=
  if !isNarrow (u.values "detect_types") then some .tooLarge
  else if 1 < (u.values "isolation_level").length then some .unknownIsolation
  else if !isNarrow (u.values "cached_statements") then some .tooLarge
  else none

/-! ### The name of the database -/

/-- Whether the name of the database is a reference with fields of its own. -/
def isReference (u : DatabaseUrl) : Bool :=
  match u.values "uri" with
  | [] => false
  | [word] => (truth? word).getD false
  | _ => true

/-- Fields that are not handed on: options of the driver, and what asks for extensions. -/
def keptFields : List Text := (options.map Prod.fst ++ ["plugin", "plugins"]).map Text.ofString

/-- The text of the values of one name. Several are written as a list of quoted texts. -/
def joined (values : List Text) : Text :=
  match values with
  | [value] => value
  | _ => .ofString ("(" ++ String.intercalate ", " (values.map Text.quoted) ++ ")")

/-- The fields that are handed on, in the order of their names. -/
def ownFields (u : DatabaseUrl) : List (Text × Text) :=
  let names := ((u.query.map Prod.fst).filter fun n => !keptFields.contains n).eraseDups
  (names.mergeSort Text.le).map fun n => (n, joined (u.values n))

/-- The name of the database with the fields that go with it. Without a name there can be no fields, and the word that
says so stands for it. -/
def reference? (u : DatabaseUrl) : Option Text :=
  match u.database, u.ownFields with
  | none, [] => some "None"
  | none, _ => none
  | some name, [] => some name
  | some name, fields =>
    some (name ++ .scalar '?' :: Split.join (.scalar '&') (fields.map fun f => f.1 ++ .scalar '=' :: f.2))

end DatabaseUrl

end DomainPolicy
