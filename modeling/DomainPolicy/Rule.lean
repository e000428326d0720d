import DomainPolicy.Text.Blank
import DomainPolicy.Text.Lowercase
import DomainPolicy.Text.Quoted

/-!
# Rules on domains

* A rule allows or blocks a domain. A domain is kept in a normal spelling (`Domain.normalize`): without blanks at its
  ends, in small letters, without full stops at its end.
* A text with lone halves of surrogate pairs has a normal spelling too (`Domain.normalizeText`), but it cannot be kept.
* `Domain.wanted` are the names that a list of texts comes to, in ascending order, and `Domain.storable` those of them
  that can be kept.
-/

namespace DomainPolicy

/-- The two lists that rules are on. -/
inductive RuleKind where
  | allowed
  | blocked
  deriving DecidableEq, Repr

/-- A name that is not the name of a kind. -/
structure UnknownKind where
  name : String
  deriving DecidableEq, Repr

def UnknownKind.message (e : UnknownKind) : String :=
  Text.quoted (Text.ofString e.name) ++ " is not a valid DomainRuleKind"

namespace RuleKind

/-- The public name of a kind. -/
def name : RuleKind → String
  | allowed => "ALLOWED"
  | blocked => "BLOCKED"

/-- The name of a kind in the table. -/
def stored : RuleKind → String
  | allowed => "allowed"
  | blocked => "blocked"

def ofName (s : String) : Except UnknownKind RuleKind :=
  if s = allowed.name then .ok allowed else if s = blocked.name then .ok blocked else .error ⟨s⟩

end RuleKind

namespace Domain

/-- A domain without the full stops at its end. -/
def dropStops (cs : List Char) : List Char := Blank.dropEnd (· == '.') cs

/-- The spelling under which a domain is kept. -/
def normalize (s : String) : String :=
  String.ofList (dropStops (Lowercase.lower (Blank.strip s.toList)))

/-- The normal spelling of a text. -/
def normalizeText (t : Text) : Text :=
  Blank.dropEnd (CodePoint.satisfies (· == '.'))
    (Lowercase.lowerText (Blank.trim (CodePoint.satisfies Blank.isBlank) t))

@[simp] theorem normalizeText_ofString (s : String) : normalizeText s = Text.ofString (normalize s) := by
  have hscalar (p : Char → Bool) : CodePoint.satisfies p ∘ CodePoint.scalar = p := rfl
  have htrim (p : Char → Bool) (cs : List Char) :
      Blank.trim (CodePoint.satisfies p) (Text.ofChars cs) = Text.ofChars (Blank.trim p cs) := Blank.trim_map ..
  have hdrop (p : Char → Bool) (cs : List Char) :
      Blank.dropEnd (CodePoint.satisfies p) (Text.ofChars cs) = Text.ofChars (Blank.dropEnd p cs) := Blank.dropEnd_map ..
  rw [normalizeText, Text.ofString, htrim, Lowercase.lowerText_ofChars, hdrop, Text.ofString, normalize,
    String.toList_ofList]
  rfl

/-- The names that a list of texts comes to: normal spellings, each once, in order of code points, the empty one left
out. -/
def wanted (domains : List Text) : List Text :=
  (((domains.map normalizeText).filter (· ≠ [])).eraseDups).mergeSort Text.le

/-- The names that can be kept. -/
def storable (domains : List Text) : List String := (wanted domains).filterMap Text.toString?

end Domain

end DomainPolicy
