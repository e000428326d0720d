import DomainPolicy.Text.CodePoint
import DomainPolicy.Number.Binary64

/-!
# JSON values

* Whole numbers are exact, other numbers have 64 bits. Strings and keys are texts, which may hold lone surrogates.
* An object keeps its members in the order in which their keys first came; `Members.insert` replaces the value of a
  key that is there.
-/

namespace DomainPolicy.Json

inductive Value where
  | null
  | boolean (b : Bool)
  | integer (n : Int)
  | real (x : Binary64)
  | string (t : Text)
  | array (items : List Value)
  | object (members : List (Text × Value))
  deriving Repr, Inhabited

/-- The members of an object, in order. -/
abbrev Members := List (Text × Value)

namespace Members

/-- The value of a key. -/
def get? (key : Text) : Members → Option Value
  | [] => none
  | (k, v) :: rest => if k = key then some v else get? key rest

/-- Sets the value of a key, in its place if the key is there, else at the end. -/
def insert (key : Text) (value : Value) : Members → Members
  | [] => [(key, value)]
  | (k, v) :: rest => if k = key then (k, value) :: rest else (k, v) :: insert key value rest

theorem get?_insert_self (key : Text) (value : Value) (ms : Members) :
    get? key (insert key value ms) = some value := by
  induction ms with
  | nil => simp [insert, get?]
  | cons m ms ih => by_cases h : m.1 = key <;> simp [insert, get?, h, ih]

theorem get?_insert_of_ne {key other : Text} (h : other ≠ key) (value : Value) (ms : Members) :
    get? other (insert key value ms) = get? other ms := by
  induction ms with
  | nil => simp [insert, get?, h.symm]
  | cons m ms ih =>
    obtain ⟨k, v⟩ := m
    by_cases hk : k = key
    · subst hk; simp [insert, get?, h.symm]
    · by_cases ho : k = other
      · subst ho; simp [insert, get?, hk]
      · simp [insert, get?, hk, ho, ih]

end Members

namespace Value

def ofString (s : String) : Value := string (Text.ofString s)

def ofNat (n : Nat) : Value := integer n

/-- The object of members whose keys are strings. -/
def ofMembers (members : List (String × Value)) : Value :=
  object (members.map fun (k, v) => (Text.ofString k, v))

/-- The value of a key of an object. -/
def get? (v : Value) (key : String) : Option Value :=
  match v with
  | object members => Members.get? (Text.ofString key) members
  | _ => none

end Value

end DomainPolicy.Json
