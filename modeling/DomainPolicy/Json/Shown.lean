import DomainPolicy.Json.Value
import DomainPolicy.Number.Shortest
import DomainPolicy.Text.Quoted

/-!
# Shown JSON values

* `Value.shown` is a value for human readers: words for nothing, truth and what is not finite, blanks after commas and
  colons, strings in quotes.
* `Value.plain` is a string itself, and any other value as it is shown.
-/

namespace DomainPolicy.Json.Value

mutual

def shown (v : Value) : String :=
  match v with
  | null => "None"
  | boolean true => "True"
  | boolean false => "False"
  | integer n => toString n
  | real x => String.ofList (x.text "nan" "inf")
  | string t => Text.quoted t
  | array [] => "[]"
  | array (v :: vs) => "[" ++ v.shown ++ shownItems vs ++ "]"
  | object [] => "\x7b\x7d"
  | object ((k, v) :: ms) => "\x7b" ++ Text.quoted k ++ ": " ++ v.shown ++ shownMembers ms ++ "\x7d"

/-- Items after the first. -/
def shownItems (vs : List Value) : String :=
  match vs with
  | [] => ""
  | v :: vs => ", " ++ v.shown ++ shownItems vs

/-- Members after the first. -/
def shownMembers (ms : List (Text × Value)) : String :=
  match ms with
  | [] => ""
  | (k, v) :: ms => ", " ++ Text.quoted k ++ ": " ++ v.shown ++ shownMembers ms

end

def plain (v : Value) : Text :=
  match v with
  | string t => t
  | v => Text.ofString v.shown

end DomainPolicy.Json.Value
