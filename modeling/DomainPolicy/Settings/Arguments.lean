import DomainPolicy.Json.Value
import DomainPolicy.Number.Digit
import DomainPolicy.Text.Split

/-!
# Arguments of a command

* A `Grammar` holds the options of a command. The name of an option begins with a mark; behind one mark more it is a
  long name, else a short one.
* `Grammar.read` goes through arguments in order. An option takes the argument after it, unless that looks like an
  option too, or a value in its own argument: after an equals sign, or, with a short name, at once. Options with short
  names that take nothing may be put together.
* An argument is a text that stands for itself, or an empty one that stands for another value.
* What belongs to no option is left over, and so is everything behind two minus signs alone.
-/

namespace DomainPolicy.Arguments

open Json (Value)

/-- What an option does: it shows help, takes a value for its field, or sets its field to a truth value. A switch sets
it to no under a name that says so. -/
inductive Effect where
  | help
  | take
  | switch
  | clear
  deriving DecidableEq, Repr

/-- An option, with the names that it has. -/
structure Entry where
  names : List Text
  effect : Effect
  field : String := ""
  deriving DecidableEq, Repr

/-- The characters that names begin with, and the options. -/
structure Grammar where
  marks : Text
  entries : List Entry := []
  deriving DecidableEq, Repr

/-- Why an option cannot be added to others. -/
inductive EntryFault where
  | nameless
  | unmarked
  | taken
  deriving DecidableEq, Repr

/-- Why arguments cannot be read: help was asked for, or an option is misused. -/
inductive Stop where
  | help
  | misuse
  deriving DecidableEq, Repr

/-- A text, and what it stands for. -/
structure Argument where
  text : Text
  value : Value := .string text
  deriving Repr

/-- A value that is written in the argument of its option, and whether an equals sign comes before it. -/
structure Attached where
  isSeparate : Bool
  value : Text
  deriving DecidableEq, Repr

/-- What an argument is: the sign that no options follow, a plain one, or one that looks like an option. -/
inductive Word where
  | separator
  | plain (a : Argument)
  | unknown (text : Text)
  | option (entry : Entry) (name : Text) (value : Option Attached)
  deriving Repr

namespace Grammar

def names (g : Grammar) : List Text := g.entries.flatMap Entry.names

def find? (g : Grammar) (name : Text) : Option Entry := g.entries.find? (·.names.contains name)

/-- The name under which a switch says no. -/
def negation? (name : Text) : Option Text :=
  if (Text.ofString "--").isPrefixOf name then some (Text.ofString "--no-" ++ name.drop 2) else none

/-- What is wrong with the first of some names with which something is. -/
def nameFault? (g : Grammar) (names : List Text) : Option EntryFault :=
  names.findSome? fun name =>
    match name with
    | [] => some .nameless
    | c :: _ => if g.marks.contains c then none else some .unmarked

/-- Adds an option. A switch gets the names that say no as well. -/
def add (g : Grammar) (e : Entry) : Except EntryFault Grammar :=
  let all := if e.effect = .switch then e.names.flatMap fun n => n :: (negation? n).toList else e.names
  match g.nameFault? e.names with
  | some fault => .error fault
  | none =>
    if all.any g.names.contains then .error .taken
    else .ok { g with entries := g.entries ++ [{ e with names := all }] }

/-! ### Single arguments -/

/-- Whether a text is a negative number without an exponent. A line feed may end it. -/
def isNegativeNumber (text : Text) : Bool :=
  match text.toChars?.map (·.map Digit.plain) with
  | some ('-' :: rest) =>
    let rest := if rest.getLast? = some '\n' then rest.dropLast else rest
    let fraction := (rest.dropWhile Char.isDigit).drop 1
    (rest ≠ [] && rest.all Char.isDigit) ||
      ((rest.dropWhile Char.isDigit).head? = some '.' && fraction ≠ [] && fraction.all Char.isDigit)
  | _ => false

/-- The options that an argument may begin with, by short names, and the values that are left for them. -/
def shortForms (g : Grammar) (text : Text) : List (Text × Option Attached) :=
  if (text.drop 1).head?.any g.marks.contains then []
  else
    g.names.filterMap fun name =>
      if name = text.take 2 then some (name, some ⟨false, text.drop 2⟩)
      else if text.isPrefixOf name then some (name, none)
      else none

/-- What a text is that begins with a mark and is no name. -/
def classifyMarked (g : Grammar) (text : Text) : Except Stop Word :=
  let (name, value) := Split.cut (.scalar '=') text
  match value, g.find? name with
  | some value, some e => .ok (.option e name (some ⟨true, value⟩))
  | _, _ =>
    match g.shortForms text with
    | [(name, value)] => .ok ((g.find? name).elim (.unknown text) (.option · name value))
    | _ :: _ :: _ => .error .misuse
    | [] =>
      if (isNegativeNumber text && !g.names.any isNegativeNumber) || text.contains (.scalar ' ') then
        .ok (.plain { text })
      else .ok (.unknown text)

def classify (g : Grammar) (a : Argument) : Except Stop Word :=
  match a.text with
  | [] => .ok (.plain a)
  | c :: rest =>
    if !g.marks.contains c then .ok (.plain a)
    else
      match g.find? a.text with
      | some e => .ok (.option e a.text none)
      | none => if rest = [] then .ok (.plain a) else g.classifyMarked a.text

/-- What arguments are. All of them are plain behind the separator. -/
def classifyAll (g : Grammar) : List Argument → Except Stop (List Word)
  | [] => .ok []
  | a :: rest =>
    if a.text = Text.ofString "--" then .ok (.separator :: rest.map Word.plain)
    else
      match g.classify a, g.classifyAll rest with
      | .error e, _ | .ok _, .error e => .error e
      | .ok w, .ok ws => .ok (w :: ws)

/-! ### Options in order -/

/-- An option under a name, and what it takes. -/
structure Use where
  entry : Entry
  name : Text
  value : Value := .null

/-- The options that one argument uses, whether the last of them still needs a value, and what is left of the
argument. -/
structure Uses where
  uses : List Use
  isOpen : Bool := false
  left : Option Text := none

/-- Whether a name is a long one. -/
def isLong (g : Grammar) (name : Text) : Bool := (name.drop 1).head?.any g.marks.contains

/-- The short name of a code point like another name. -/
def shortName (name : Text) (p : CodePoint) : Text := name.take 1 ++ [p]

/-- The options of one argument that has a value for the first of them. If that takes none, the value begins with the
short name of the next. -/
def spread (g : Grammar) (e : Entry) (name : Text) (isSeparate : Bool) (value : Text) : Except Stop Uses :=
  if e.effect = .take then .ok ⟨[⟨e, name, .string value⟩], false, none⟩
  else
    let first : Use := { entry := e, name }
    let withFirst (us : Uses) : Uses := { us with uses := first :: us.uses }
    match value with
    | [] => .error .misuse
    | c :: more =>
      if isSeparate ∨ g.isLong name ∨ g.marks.contains c then .error .misuse
      else
        let next := shortName name c
        match g.find? next, more with
        | none, more => .ok ⟨[first], false, some (next ++ more)⟩
        | some e', [] => .ok ⟨[first, { entry := e', name := next }], e'.effect = .take, none⟩
        | some e', .scalar '=' :: more => (g.spread e' next true more).map withFirst
        | some e', d :: more => (g.spread e' next false (d :: more)).map withFirst

/-- What a use of an option sets. -/
def effectOf (u : Use) : Except Stop (String × Value) :=
  match u.entry.effect with
  | .help => .error .help
  | .clear => .ok (u.entry.field, .boolean false)
  | .switch => .ok (u.entry.field, .boolean !(Text.ofString "--no-").isPrefixOf u.name)
  | .take => .ok (u.entry.field, u.value)

/-- Gives a value to the last of some uses. -/
def fill (us : List Use) (value : Value) : List Use :=
  us.dropLast ++ us.getLast?.toList.map fun u => { u with value }

/-- What arguments set, in order, and what is left over. -/
abbrev Reading := Except Stop (List (String × Value) × List Value)

/-- A reading with something more that is left over. -/
def withLeft (v : Value) (r : Reading) : Reading := r.map fun (set, left) => (set, v :: left)

/-- A reading with uses of options in front. -/
def withUses (us : List Use) (r : Reading) : Reading :=
  match us.mapM effectOf, r with
  | .error e, _ | .ok _, .error e => .error e
  | .ok set, .ok (more, left) => .ok (set ++ more, left)

def settle (g : Grammar) : List Word → Reading
  | [] => .ok ([], [])
  | .separator :: rest => withLeft (.ofString "--") (g.settle rest)
  | .plain a :: rest => withLeft a.value (g.settle rest)
  | .unknown text :: rest => withLeft (.string text) (g.settle rest)
  | .option e name attached :: rest =>
    let uses : Except Stop Uses := match attached with
      | some a => g.spread e name a.isSeparate a.value
      | none => .ok ⟨[{ entry := e, name }], e.effect = .take, none⟩
    match uses, rest with
    | .error e, _ => .error e
    | .ok ⟨us, true, _⟩, .plain a :: rest => withUses (fill us a.value) (g.settle rest)
    | .ok ⟨_, true, _⟩, _ => .error .misuse
    | .ok ⟨us, false, some text⟩, rest => withUses us (withLeft (.string text) (g.settle rest))
    | .ok ⟨us, false, none⟩, rest => withUses us (g.settle rest)

/-- Reads the arguments of a command. -/
def read (g : Grammar) (arguments : List Argument) : Reading :=
  match g.classifyAll arguments with
  | .error e => .error e
  | .ok words => g.settle words

end Grammar

end DomainPolicy.Arguments
