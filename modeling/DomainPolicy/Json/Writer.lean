import DomainPolicy.Json.Value
import DomainPolicy.Number.Hex
import DomainPolicy.Number.Shortest
import DomainPolicy.Text.Utf8

/-!
# Writing JSON

* `Value.writeOnto` writes a value in front of a text: no blanks, members in order, all characters but quotes,
  backslashes and controls as they are.
* `Value.compact` is the written string of a value, and `Value.compact?` gives it only if JSON proper can carry the
  value: all numbers finite, no lone surrogate.
-/

namespace DomainPolicy.Json

/-- A code point inside quotes. -/
def escaped (p : CodePoint) : Text :=
  match p with
  | .surrogate _ => [p]
  | .scalar c =>
    match c with
    | '"' => Text.ofChars ['\\', '"']
    | '\\' => Text.ofChars ['\\', '\\']
    | '\n' => Text.ofChars ['\\', 'n']
    | '\r' => Text.ofChars ['\\', 'r']
    | '\t' => Text.ofChars ['\\', 't']
    | '\x08' => Text.ofChars ['\\', 'b']
    | '\x0c' => Text.ofChars ['\\', 'f']
    | _ =>
      if c.toNat < 0x20 then
        Text.ofChars ['\\', 'u', '0', '0', Hex.lower (c.toNat / 16), Hex.lower c.toNat]
      else [p]

/-- A quoted text in front of `rest`. -/
def quoteOnto (t : Text) (rest : Text) : Text :=
  .scalar '"' :: (t.flatMap escaped ++ .scalar '"' :: rest)

namespace Value

mutual

/-- A value, written in front of `rest`. -/
def writeOnto (v : Value) (rest : Text) : Text :=
  match v with
  | null => Text.ofChars ['n', 'u', 'l', 'l'] ++ rest
  | boolean true => Text.ofChars ['t', 'r', 'u', 'e'] ++ rest
  | boolean false => Text.ofChars ['f', 'a', 'l', 's', 'e'] ++ rest
  | integer n => Text.ofChars (Decimal.intDigits n) ++ rest
  | real x => Text.ofChars (x.text "NaN" "Infinity") ++ rest
  | string t => quoteOnto t rest
  | array [] => Text.ofChars ['[', ']'] ++ rest
  | array (v :: vs) => .scalar '[' :: writeOnto v (itemsOnto vs (.scalar ']' :: rest))
  | object [] => Text.ofChars ['{', '}'] ++ rest
  | object ((k, v) :: ms) =>
    .scalar '{' :: quoteOnto k (.scalar ':' :: writeOnto v (membersOnto ms (.scalar '}' :: rest)))

/-- Items after the first. -/
def itemsOnto (vs : List Value) (rest : Text) : Text :=
  match vs with
  | [] => rest
  | v :: vs => .scalar ',' :: writeOnto v (itemsOnto vs rest)

/-- Members after the first. -/
def membersOnto (ms : List (Text × Value)) (rest : Text) : Text :=
  match ms with
  | [] => rest
  | (k, v) :: ms => .scalar ',' :: quoteOnto k (.scalar ':' :: writeOnto v (membersOnto ms rest))

end

/-- The written text of a value. -/
def write (v : Value) : Text := v.writeOnto []

mutual

/-- Whether all numbers in a value are finite. -/
def isFinite (v : Value) : Bool :=
  match v with
  | real x => x.isFinite
  | array vs => allFinite vs
  | object ms => allFiniteMembers ms
  | _ => true

def allFinite (vs : List Value) : Bool :=
  match vs with
  | [] => true
  | v :: vs => v.isFinite && allFinite vs

def allFiniteMembers (ms : List (Text × Value)) : Bool :=
  match ms with
  | [] => true
  | (_, v) :: ms => v.isFinite && allFiniteMembers ms

end

/-- The written string of a value; a lone surrogate in it becomes `U+FFFD`. -/
def compact (v : Value) : String := v.write.toStringLossy

/-- Whether JSON proper can carry a value: its numbers are finite and its texts hold no lone surrogate. -/
def isPortable (v : Value) : Bool := v.isFinite && v.write.all (!·.isSurrogate)

/-- The written string of a value that JSON proper can carry. -/
def compact? (v : Value) : Option String := if v.isPortable then some v.compact else none

end Value

end DomainPolicy.Json
