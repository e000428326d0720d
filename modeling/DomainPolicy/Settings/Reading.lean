import DomainPolicy.Number.Decimal
import DomainPolicy.Text.Blank
import DomainPolicy.Validation

/-!
# Reading single settings

* Whole numbers are read from numbers without a fraction, from truth values, and from text: decimal digits with a sign,
  single underscores between digits, zeros in front, and a fraction of zeros. A minus sign may also follow the zeros.
* Truth values are read from `0` and `1` and from the usual words in any ASCII case. Texts are read from texts only.
* A text with a lone half is a text as it is, but nothing else is read from it.
-/

namespace DomainPolicy.Reading

open Json (Value)

/-! ### Whole numbers -/

/-- One more than the greatest whole number of 64 bits. -/
def wordBound : Int := 9223372036854775808

def isSmall (n : Int) : Bool := -wordBound ≤ n && n < wordBound

/-- The number that decimal digits without a needless zero write, perhaps after a minus sign. -/
def plainInt? (cs : List Char) : Option Int :=
  let (negative, ds) := match cs with
    | '-' :: rest => (true, rest)
    | _ => (false, cs)
  if ds.all Decimal.isDigit && (ds == ['0'] || (ds != [] && ds.head? != some '0')) then
    some (if negative then -(Decimal.value ds : Int) else Decimal.value ds)
  else none

/-- Whether a number begins with more digits than are read. -/
def isOversized (cs : List Char) : Bool :=
  let ds := match cs with
    | '-' :: rest => rest
    | _ => cs
  ds.head? != some '0' && 4300 < (ds.takeWhile Decimal.isDigit).length

/-- A text that begins with a digit, without the zeros, and underscores among them, in front. -/
def dropLeadingZeros (cs : List Char) : Option (List Char) :=
  match cs with
  | '0' :: rest =>
    match rest.dropWhile fun c => c = '0' ∨ c = '_' with
    | [] => some [rest.getLast?.getD '0']
    | '.' :: more => some ((('0' :: rest).takeWhile (· ≠ '.')).getLast?.getD '0' :: '.' :: more)
    | rest => some rest
  | c :: _ => if Decimal.isDigit c then some cs else none
  | [] => none

/-- A text without a fraction of zeros. -/
def dropZeroFraction (cs : List Char) : List Char :=
  match cs.dropWhile (· ≠ '.') with
  | _ :: zeros => if zeros ≠ [] ∧ zeros.all (· = '0') then cs.takeWhile (· ≠ '.') else cs
  | [] => cs

/-- Whether two underscores stand side by side. -/
def hasDoubleUnderscore : List Char → Bool
  | '_' :: '_' :: _ => true
  | _ :: rest => hasDoubleUnderscore rest
  | [] => false

/-- A text without its underscores, if all of them stand alone inside it. -/
def dropUnderscores (cs : List Char) : List Char :=
  if cs.head? = some '_' ∨ cs.getLast? = some '_' ∨ hasDoubleUnderscore cs then cs else cs.filter (· ≠ '_')

/-- The plain spelling of a number without a sign. -/
def plainDigits? (cs : List Char) : Option (List Char) :=
  (dropLeadingZeros cs).map fun cs => dropUnderscores (dropZeroFraction cs)

/-- The plain spelling of a number. Of two signs, neither is one. -/
def plainSpelling? (cs : List Char) : Option (List Char) :=
  match cs with
  | '+' :: '-' :: _ => none
  | '+' :: rest => plainDigits? rest
  | '-' :: rest => (plainDigits? rest).map ('-' :: ·)
  | _ => plainDigits? cs

/-- A number in its plain spelling, or in another that has no more digits than are read. -/
def intOfText (cs : List Char) : Except Fault Int :=
  let cs := Blank.trim Blank.isSpace cs
  if isOversized cs then .error .integerOversized
  else
    match plainInt? cs with
    | some n => .ok n
    | none =>
      match (plainSpelling? cs).filter (!isOversized ·) >>= plainInt? with
      | some n => .ok n
      | none => .error .integerUnreadable

/-- A finite number without a fraction, unless it has more than 64 bits. -/
def wordOfReal? (x : Binary64) : Option Int := x.toInt?.filter fun n => -wordBound < n && n < wordBound

def int (v : Value) : Except Fault Int :=
  match v with
  | .boolean b => .ok (if b then 1 else 0)
  | .integer n => .ok n
  | .real x =>
    if !x.isFinite then .error .notFinite
    else
      match x.toInt? with
      | none => .error .integerFractional
      | some _ => (wordOfReal? x).elim (.error .integerOversized) .ok
  | .string t =>
    match t.toChars? with
    | some cs => intOfText cs
    | none => .error .textUndecodable
  | _ => .error .integerExpected

/-- A whole number between bounds. -/
def intWithin (least most : Option Int) (v : Value) : Except Fault Int :=
  match int v with
  | .error e => .error e
  | .ok n =>
    match least, most with
    | some l, some m => if n < l then .error (.belowLeast l) else if m < n then .error (.aboveMost m) else .ok n
    | some l, none => if n < l then .error (.belowLeast l) else .ok n
    | none, some m => if m < n then .error (.aboveMost m) else .ok n
    | none, none => .ok n

/-! ### Truth values and texts -/

def boolOfInt (n : Int) : Except Fault Bool :=
  if n = 0 then .ok false else if n = 1 then .ok true
  else .error (if isSmall n then .booleanUnreadable else .booleanExpected)

def boolOfText (s : String) : Except Fault Bool :=
  match String.ofList (s.toList.map Char.toLower) with
  | "0" | "f" | "n" | "no" | "off" | "false" => .ok false
  | "1" | "t" | "y" | "on" | "yes" | "true" => .ok true
  | _ => .error .booleanUnreadable

def bool (v : Value) : Except Fault Bool :=
  match v with
  | .boolean b => .ok b
  | .integer n => boolOfInt n
  | .real x => (wordOfReal? x).elim (.error .booleanExpected) boolOfInt
  | .string t =>
    match t.toString? with
    | some s => boolOfText s
    | none => .error .textUndecodable
  | _ => .error .booleanExpected

def text (v : Value) : Except Fault Text :=
  match v with
  | .string t => .ok t
  | _ => .error .textExpected

/-- A text, or nothing. -/
def textOrNull (v : Value) : Except Fault (Option Text) :=
  match v with
  | .null => .ok none
  | _ => (text v).map some

end DomainPolicy.Reading
