import DomainPolicy.Json.Value

/-!
# Complaints about values

* A `Complaint` says where a value is at fault, what the fault is, and what the value was.
* Each `Fault` has a code, a message and perhaps figures that go with it.
* Parts that are read independently are joined by `Checked.and`: all complaints are kept, in the order of the parts.
-/

namespace DomainPolicy

inductive PathStep where
  | key (k : Text)
  | index (n : Nat)
  deriving DecidableEq, Repr

/-- What is wrong with a value. -/
inductive Fault where
  | notListed (choices : List String)
  | textExpected
  | textUndecodable
  | booleanExpected
  | booleanUnreadable
  | integerExpected
  | integerUnreadable
  | integerFractional
  | integerOversized
  | notFinite
  | belowLeast (least : Int)
  | aboveMost (most : Int)
  | notPermitted
  | missing
  | objectExpected (model : String)
  | listExpected
  | tooShort (least actual : Nat)
  | tooLong (most actual : Nat)
  | jsonInvalid
  deriving DecidableEq, Repr

namespace Fault

def code : Fault → String
  | notListed _ => "literal_error"
  | textExpected => "string_type"
  | textUndecodable => "string_unicode"
  | booleanExpected => "bool_type"
  | booleanUnreadable => "bool_parsing"
  | integerExpected => "int_type"
  | integerUnreadable => "int_parsing"
  | integerFractional => "int_from_float"
  | integerOversized => "int_parsing_size"
  | notFinite => "finite_number"
  | belowLeast _ => "greater_than_equal"
  | aboveMost _ => "less_than_equal"
  | notPermitted => "extra_forbidden"
  | missing => "missing"
  | objectExpected _ => "model_type"
  | listExpected => "list_type"
  | tooShort .. => "too_short"
  | tooLong .. => "too_long"
  | jsonInvalid => "json_invalid"

/-- Choices in quotes, the last after an "or". -/
def choiceText : List String → String
  | [] => ""
  | [c] => "'" ++ c ++ "'"
  | [c, d] => "'" ++ c ++ "' or '" ++ d ++ "'"
  | c :: cs => "'" ++ c ++ "', " ++ choiceText cs

def itemCount (n : Nat) : String := toString n ++ if n = 1 then " item" else " items"

def message : Fault → String
  | notListed choices => "Input should be " ++ choiceText choices
  | textExpected => "Input should be a valid string"
  | textUndecodable => "Input should be a valid string, unable to parse raw data as a unicode string"
  | booleanExpected => "Input should be a valid boolean"
  | booleanUnreadable => "Input should be a valid boolean, unable to interpret input"
  | integerExpected => "Input should be a valid integer"
  | integerUnreadable => "Input should be a valid integer, unable to parse string as an integer"
  | integerFractional => "Input should be a valid integer, got a number with a fractional part"
  | integerOversized => "Unable to parse input string as an integer, exceeded maximum size"
  | notFinite => "Input should be a finite number"
  | belowLeast least => "Input should be greater than or equal to " ++ toString least
  | aboveMost most => "Input should be less than or equal to " ++ toString most
  | notPermitted => "Extra inputs are not permitted"
  | missing => "Field required"
  | objectExpected model => "Input should be a valid dictionary or instance of " ++ model
  | listExpected => "Input should be a valid list"
  | tooShort least actual =>
    "List should have at least " ++ itemCount least ++ " after validation, not " ++ toString actual
  | tooLong most actual =>
    "List should have at most " ++ itemCount most ++ " after validation, not " ++ toString actual
  | jsonInvalid => "JSON decode error"

/-- The figures of a fault. -/
def context? : Fault → Option Json.Value
  | notListed choices => some (.ofMembers [("expected", .ofString (choiceText choices))])
  | belowLeast least => some (.ofMembers [("ge", .integer least)])
  | aboveMost most => some (.ofMembers [("le", .integer most)])
  | objectExpected model => some (.ofMembers [("class_name", .ofString model)])
  | tooShort least actual =>
    some (.ofMembers [("field_type", .ofString "List"), ("min_length", .ofNat least), ("actual_length", .ofNat actual)])
  | tooLong most actual =>
    some (.ofMembers [("field_type", .ofString "List"), ("max_length", .ofNat most), ("actual_length", .ofNat actual)])
  | _ => none

end Fault

structure Complaint where
  path : List PathStep
  fault : Fault
  input : Json.Value
  deriving Repr

namespace Complaint

/-- A complaint in JSON, its parts in this order, the figures only if there are some. -/
def members (c : Complaint) : List (String × Json.Value) :=
  [("type", .ofString c.fault.code),
    ("loc", .array (c.path.map fun | .key k => .string k | .index n => .ofNat n)),
    ("msg", .ofString c.fault.message), ("input", c.input)]
  ++ match c.fault.context? with
    | some v => [("ctx", v)]
    | none => []

end Complaint

/-- A value, or the complaints about its parts. -/
abbrev Checked (α : Type) := Except (List Complaint) α

/-- Joins parts that are read independently. -/
def Checked.and {α β : Type} (f : Checked (α → β)) (a : Checked α) : Checked β :=
  match f, a with
  | .ok f, .ok a => .ok (f a)
  | .ok _, .error e => .error e
  | .error e, .ok _ => .error e
  | .error e, .error e' => .error (e ++ e')

end DomainPolicy
