import DomainPolicy.Number.Decimal
import DomainPolicy.Number.Hex
import DomainPolicy.Text.Blank
import DomainPolicy.Text.Charset
import DomainPolicy.Text.Latin1
import DomainPolicy.Text.Lowercase
import DomainPolicy.Text.Split

/-!
# The character set of a content type

* A content type is cut into parameters at semicolons outside quotes. The first parameter `charset` names the character
  set of a text.
* If there is none, the name may come in parts: parameters `charset*0`, `charset*1` and so on, or `charset*` alone. Parts
  with another asterisk at the end have percent forms, and then what they make up together begins with a character set
  of its own and a language, each before an apostrophe.
* No parameter may come in parts with numbers and without, and then nothing is known of the others either.
* If no character set is named, or none that is known, the text is in UTF-8.
-/

namespace DomainPolicy.ContentType

/-- Why the character set cannot even be looked up. -/
inductive LookupError where
  | nameCut
  | partsMixed
  deriving DecidableEq, Repr

/-! ### Parameters -/

/-- The number of quotes in a text, without those after a backslash. -/
def quotes : List Char → Nat
  | [] => 0
  | '\\' :: '"' :: cs => quotes cs
  | c :: cs => (if c = '"' then 1 else 0) + quotes cs

/-- Joins pieces again that were cut inside quotes. `held` is the piece that goes on, if one does. -/
def rejoin (held : Option (List Char)) : List (List Char) → List (List Char)
  | [] => held.toList
  | p :: ps =>
    let piece := held.elim p (· ++ ';' :: p)
    if quotes piece % 2 = 1 then rejoin (some piece) ps else piece :: rejoin none ps

/-- A parameter: its name, and its value, which is empty where there is none. The case of a name counts only where there
is no value. -/
structure Parameter where
  name : List Char
  value : List Char := []
  deriving DecidableEq, Repr

def Parameter.ofPiece (piece : List Char) : Parameter :=
  match Split.cut '=' piece with
  | (name, some value) => ⟨Lowercase.lower (Blank.strip name), Blank.strip value⟩
  | (name, none) => ⟨Blank.strip name, []⟩

/-- The parameters of a content type, the type itself being the first. -/
def parameters (contentType : String) : List Parameter :=
  (rejoin none (Split.pieces ';' contentType.toList)).map Parameter.ofPiece

/-- A text without backslashes in front of quotes and of backslashes. -/
def unescape : List Char → List Char
  | '\\' :: '\\' :: cs => '\\' :: unescape cs
  | '\\' :: '"' :: cs => '"' :: unescape cs
  | c :: cs => c :: unescape cs
  | [] => []

/-- A text without the quotes, or the angle brackets, around it. -/
def unquote (cs : List Char) : List Char :=
  match cs, cs.getLast? with
  | '"' :: rest@(_ :: _), some '"' => unescape rest.dropLast
  | '<' :: rest@(_ :: _), some '>' => rest.dropLast
  | _, _ => cs

/-! ### Names in parts -/

/-- A part of a value: the name of the whole, its number, if it has one, its text, and whether it has percent forms. -/
structure Part where
  name : List Char
  number : Option Nat
  text : List Char
  isPercent : Bool
  deriving DecidableEq, Repr

/-- A character of a name in parts. -/
def isNameChar (c : Char) : Bool := c.isAlphanum || c == '_'

/-- The part that a parameter is, if it is one. -/
def part? (p : Parameter) : Option Part :=
  match Split.cut '*' p.name with
  | (name, some rest) =>
    if name.isEmpty || !name.all isNameChar then none
    else if rest.isEmpty then some ⟨name, none, unquote p.value, true⟩
    else
      let part (digits : List Char) (isPercent : Bool) : Option Part :=
        if !digits.isEmpty && digits.all Decimal.isDigit then
          some ⟨name, some (Decimal.value digits), unquote p.value, isPercent⟩
        else none
      match Split.cut '*' rest with
      | (digits, none) => part digits false
      | (digits, some []) => part digits true
      | _ => none
  | _ => none

/-- A text without percent forms; the byte of one is the character of its number. -/
def unpercent : List Char → List Char
  | '%' :: a :: b :: cs =>
    match Hex.value? a, Hex.value? b with
    | some x, some y => Char.ofNat (x * 16 + y) :: unpercent cs
    | _, _ => '%' :: unpercent (a :: b :: cs)
  | c :: cs => c :: unpercent cs
  | [] => []

/-- Parts in the order of their numbers, and of equal numbers in the order of their texts. -/
def Part.le (p q : Part) : Bool :=
  let n := p.number.getD 0
  let m := q.number.getD 0
  n < m || (n == m && (p.text < q.text || (p.text == q.text && (!p.isPercent || q.isPercent))))

/-- The last digits of a number, in base 16. -/
def hexDigits : Nat → Nat → List Char
  | 0, _ => []
  | count + 1, n => hexDigits count (n / 16) ++ [Hex.lower n]

/-- The byte of a character. One that has none is written as its number. -/
def rawByte (c : Char) : List Char :=
  if c.toNat < 256 then [c]
  else if c.toNat < 65536 then '\\' :: 'u' :: hexDigits 4 c.toNat
  else '\\' :: 'U' :: hexDigits 8 c.toNat

/-- Reads a name that tells its own character set. If it cannot be read so, it is taken as it is. -/
def readName (cs : List Char) : Except LookupError (List Char) :=
  match Split.cut '\'' cs with
  | (own, some rest) =>
    match Split.cut '\'' rest with
    | (_, some name) => inCharset own name
    | _ => inCharset [] cs
  | _ => inCharset [] cs
where
  inCharset (own name : List Char) : Except LookupError (List Char) :=
    if '\x00' ∈ own then .error .nameCut
    else
      let charset := if own.isEmpty then some .ascii else Charset.ofName? own
      let text := charset.bind fun c => c.strict? (Latin1.encode (String.ofList (name.flatMap rawByte)))
      .ok ((text.bind Text.toChars?).getD name)

/-- What parts make up together. -/
def join (parts : List Part) : Except LookupError (List Char) :=
  let cs := (parts.mergeSort Part.le).flatMap fun p => if p.isPercent then unpercent p.text else p.text
  if parts.any (·.isPercent) then readName cs else .ok cs

/-- Whether a part has a number and another of the same name has none. -/
def areMixed (parts : List Part) : Bool :=
  parts.any fun p => parts.any fun q => p.name == q.name && p.number.isSome && q.number.isNone

/-! ### The character set -/

/-- Whether a name is the one that is looked for. -/
def isCharset (name : List Char) : Bool := Lowercase.lower name == "charset".toList

/-- The name of the character set, as far as one is told. -/
def name? (contentType : String) : Except LookupError (Option (List Char)) :=
  let ps := parameters contentType
  let parts := (ps.drop 1).filterMap part?
  if areMixed parts then .error .partsMixed
  else
    match ps.find? (isCharset ·.name) with
    | some p => .ok (some (unquote p.value))
    | none =>
      match parts.find? (isCharset ·.name) with
      | none => .ok none
      | some first => (join (parts.filter (·.name = first.name))).map some

/-- The character set of a text under a content type. A name outside ASCII is none. -/
def charset (contentType : String) : Except LookupError Charset :=
  match name? contentType with
  | .error e => .error e
  | .ok none => .ok (.unicode .utf8)
  | .ok (some name) =>
    if name.any fun c => 128 ≤ c.toNat then .ok (.unicode .utf8)
    else if '\x00' ∈ name then .error .nameCut
    else .ok ((Charset.ofName? name).getD (.unicode .utf8))

end DomainPolicy.ContentType
