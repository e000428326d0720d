import DomainPolicy.Json.Value
import DomainPolicy.Number.Decimal
import DomainPolicy.Number.Hex
import DomainPolicy.Text.Decoding

/-!
# Reading JSON

* `Json.read` runs a machine with a stack over the code points of a text, one step a code point, so that the first
  fault from the left is the one reported.
* Beside standard JSON it takes `NaN`, `Infinity` and `-Infinity`; of equal keys the last value counts, at the place of
  the first. A lone escaped surrogate is a code point of the string.
* Whole numbers of more than `maxDigits` digits and nesting deeper than `maxDepth` are refused.
* `Json.readBytes` finds the encoding of the bytes first.
-/

namespace DomainPolicy.Json

/-- Why a text or its bytes are no JSON value. -/
inductive ReadError where
  | malformed
  | undecodable
  | tooManyDigits
  | tooDeep
  deriving DecidableEq, Repr

/-- The most digits of a whole number. -/
def maxDigits : Nat := 4300

/-- How deep values may be nested. An interpreter has a limit of its own, of which this is a lower estimate. -/
def maxDepth : Nat := 900

/-! ### The machine -/

/-- An array or object that is open. The items come last first; `key` is the key whose value is being read. -/
inductive Frame where
  | array (items : List Value)
  | object (members : Members) (key : Text)
  deriving Repr

/-- How far a number has been read. -/
inductive NumeralPart where
  | minus
  | zero
  | whole
  | point
  | fraction
  | mark
  | markSign
  | exponent
  deriving DecidableEq, Repr

/-- A number that is being read: all its digits as one coefficient, and how many of them stand where. -/
structure Numeral where
  part : NumeralPart
  negative : Bool := false
  coefficient : Nat := 0
  wholeDigits : Nat := 0
  fractionDigits : Nat := 0
  exponentNegative : Bool := false
  exponent : Nat := 0
  deriving DecidableEq, Repr

/-- A string that is being read: its code points last first, and whether the last is an escaped high surrogate, which
an escaped low one completes. -/
structure Quoted where
  isKey : Bool
  points : Text := []
  high : Bool := false
  deriving DecidableEq, Repr

/-- Adds the unit of an escape to a string. -/
def Quoted.addUnit (q : Quoted) (u : Nat) : Quoted :=
  match q.high, q.points, decide (0xDC00 ≤ u ∧ u < 0xE000) with
  | true, p :: rest, true =>
    let joined := 0x10000 + (p.toNat - 0xD800) * 1024 + (u - 0xDC00)
    { q with points := (CodePoint.ofNat? joined).getD default :: rest, high := false }
  | _, points, _ =>
    { q with points := (CodePoint.ofNat? u).getD default :: points, high := decide (0xD800 ≤ u ∧ u < 0xDC00) }

/-- What may come next. -/
inductive Phase where
  | value
  | valueOrEnd
  | keyOrEnd
  | key
  | colon
  | separator
  | string (q : Quoted)
  | escape (q : Quoted)
  | unicode (q : Quoted) (digits : Nat) (unit : Nat)
  | numeral (n : Numeral)
  | word (rest : List Char) (v : Value)
  | complete (v : Value)
  deriving Repr

structure Machine where
  stack : List Frame
  phase : Phase
  deriving Repr

namespace Machine

def initial : Machine := ⟨[], .value⟩

def isSpace (c : Char) : Bool := c == ' ' || c == '\t' || c == '\n' || c == '\r'

/-- Puts a value that has been read where it belongs. -/
def accept (stack : List Frame) (v : Value) : Machine :=
  match stack with
  | [] => ⟨[], .complete v⟩
  | .array items :: rest => ⟨.array (v :: items) :: rest, .separator⟩
  | .object members key :: rest => ⟨.object (Members.insert key v members) [] :: rest, .separator⟩

/-- The value of a number that ends here. -/
def numeralValue (n : Numeral) : Except ReadError Value :=
  match n.part with
  | .minus => .error .malformed
  | .zero | .whole =>
    if n.wholeDigits ≤ maxDigits then
      .ok (.integer (if n.negative then -(n.coefficient : Int) else n.coefficient))
    else .error .tooManyDigits
  | .fraction | .exponent =>
    let shift : Int := if n.exponentNegative then -(n.exponent : Int) else n.exponent
    .ok (.real (Binary64.ofDecimal n.negative n.coefficient (shift - n.fractionDigits)))
  | .point | .mark | .markSign =>
    if n.fractionDigits = 0 ∧ maxDigits < n.wholeDigits then .error .tooManyDigits else .error .malformed

/-- A digit, point, sign or exponent mark that continues a number. -/
def extend? (n : Numeral) (c : Char) : Option Numeral :=
  let d := Decimal.digitValue c
  if Decimal.isDigit c then
    match n.part with
    | .minus => some { n with part := if c = '0' then .zero else .whole, coefficient := d, wholeDigits := 1 }
    | .zero => none
    | .whole => some { n with coefficient := n.coefficient * 10 + d, wholeDigits := n.wholeDigits + 1 }
    | .point | .fraction =>
      some { n with part := .fraction, coefficient := n.coefficient * 10 + d, fractionDigits := n.fractionDigits + 1 }
    | .mark | .markSign | .exponent => some { n with part := .exponent, exponent := n.exponent * 10 + d }
  else
    match n.part, c with
    | .zero, '.' | .whole, '.' => some { n with part := .point }
    | .zero, 'e' | .zero, 'E' | .whole, 'e' | .whole, 'E' | .fraction, 'e' | .fraction, 'E' =>
      some { n with part := .mark }
    | .mark, '+' => some { n with part := .markSign }
    | .mark, '-' => some { n with part := .markSign, exponentNegative := true }
    | _, _ => none

/-- Opens an array or object. -/
def open? (stack : List Frame) (frame : Frame) (phase : Phase) : Except ReadError Machine :=
  if stack.length < maxDepth then .ok ⟨frame :: stack, phase⟩ else .error .tooDeep

/-- The first code point of a value. -/
def beginValue (stack : List Frame) (c : Char) : Except ReadError Machine :=
  match c with
  | '"' => .ok ⟨stack, .string { isKey := false }⟩
  | '[' => open? stack (.array []) .valueOrEnd
  | '{' => open? stack (.object [] []) .keyOrEnd
  | '-' => .ok ⟨stack, .numeral { part := .minus, negative := true }⟩
  | 'n' => .ok ⟨stack, .word "ull".toList .null⟩
  | 't' => .ok ⟨stack, .word "rue".toList (.boolean true)⟩
  | 'f' => .ok ⟨stack, .word "alse".toList (.boolean false)⟩
  | 'N' => .ok ⟨stack, .word "aN".toList (.real .nan)⟩
  | 'I' => .ok ⟨stack, .word "nfinity".toList (.real (.infinite false))⟩
  | _ =>
    match extend? { part := .minus } c with
    | some n => .ok ⟨stack, .numeral n⟩
    | none => .error .malformed

/-- What may stand after a value in an array or object. -/
def separate (stack : List Frame) (c : Char) : Except ReadError Machine :=
  match stack, c with
  | .array _ :: _, ',' => .ok ⟨stack, .value⟩
  | .array items :: rest, ']' => .ok (accept rest (.array items.reverse))
  | .object _ _ :: _, ',' => .ok ⟨stack, .key⟩
  | .object members _ :: rest, '}' => .ok (accept rest (.object members))
  | _, _ => .error .malformed

/-- Ends a string. -/
def endString (stack : List Frame) (q : Quoted) : Except ReadError Machine :=
  let t := q.points.reverse
  if q.isKey then
    match stack with
    | .object members _ :: rest => .ok ⟨.object members t :: rest, .colon⟩
    | _ => .error .malformed
  else .ok (accept stack (.string t))

/-- The character that a short escape stands for. -/
def shortEscape? : Char → Option Char
  | '"' => some '"'
  | '\\' => some '\\'
  | '/' => some '/'
  | 'b' => some '\x08'
  | 'f' => some '\x0c'
  | 'n' => some '\n'
  | 'r' => some '\r'
  | 't' => some '\t'
  | _ => none

/-- A character where no string, number or word is being read. -/
def structural (m : Machine) (c : Char) : Except ReadError Machine :=
  if isSpace c then .ok m
  else
    match m.phase with
    | .value => beginValue m.stack c
    | .valueOrEnd => if c = ']' then separate m.stack c else beginValue m.stack c
    | .keyOrEnd =>
      if c = '}' then separate m.stack c
      else if c = '"' then .ok ⟨m.stack, .string { isKey := true }⟩ else .error .malformed
    | .key => if c = '"' then .ok ⟨m.stack, .string { isKey := true }⟩ else .error .malformed
    | .colon => if c = ':' then .ok ⟨m.stack, .value⟩ else .error .malformed
    | .separator => separate m.stack c
    | _ => .error .malformed

/-- One code point. -/
def step (m : Machine) (p : CodePoint) : Except ReadError Machine :=
  match m.phase, p with
  | .string q, .surrogate _ => .ok ⟨m.stack, .string { q with points := p :: q.points, high := false }⟩
  | .string q, .scalar c =>
    if c = '"' then endString m.stack q
    else if c = '\\' then .ok ⟨m.stack, .escape q⟩
    else if c.toNat < 0x20 then .error .malformed
    else .ok ⟨m.stack, .string { q with points := p :: q.points, high := false }⟩
  | .escape q, .scalar c =>
    if c = 'u' then .ok ⟨m.stack, .unicode q 0 0⟩
    else
      match shortEscape? c with
      | some d => .ok ⟨m.stack, .string { q with points := .scalar d :: q.points, high := false }⟩
      | none => .error .malformed
  | .unicode q digits unit, .scalar c =>
    match Hex.value? c with
    | some h =>
      if digits < 3 then .ok ⟨m.stack, .unicode q (digits + 1) (unit * 16 + h)⟩
      else .ok ⟨m.stack, .string (q.addUnit (unit * 16 + h))⟩
    | none => .error .malformed
  | .numeral n, .scalar c =>
    match extend? n c with
    | some n => .ok ⟨m.stack, .numeral n⟩
    | none =>
      if n.part = .minus ∧ c = 'I' then .ok ⟨m.stack, .word "nfinity".toList (.real (.infinite true))⟩
      else
        match numeralValue n with
        | .error e => .error e
        | .ok v => structural (accept m.stack v) c
  | .numeral n, .surrogate _ =>
    match numeralValue n with
    | .error e => .error e
    | .ok _ => .error .malformed
  | .word (w :: rest) v, .scalar c =>
    if c = w then
      match rest with
      | [] => .ok (accept m.stack v)
      | _ => .ok ⟨m.stack, .word rest v⟩
    else .error .malformed
  | _, .scalar c => structural m c
  | _, .surrogate _ => .error .malformed

/-- The value when the text ends here. -/
def finish (m : Machine) : Except ReadError Value :=
  match m.stack, m.phase with
  | _, .complete v => .ok v
  | stack, .numeral n =>
    match numeralValue n with
    | .error e => .error e
    | .ok v => if stack.isEmpty then .ok v else .error .malformed
  | _, _ => .error .malformed

def run (m : Machine) (t : Text) : Except ReadError Machine := t.foldlM step m

end Machine

/-- The value that a text writes. -/
def read (t : Text) : Except ReadError Value := (Machine.initial.run t).bind Machine.finish

/-- The value that bytes write. -/
def readBytes (bs : Bytes) : Except ReadError Value :=
  match Scheme.decodeJson? bs with
  | some t => read t
  | none => .error .undecodable

end DomainPolicy.Json
