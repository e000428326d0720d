/-!
# Text as code points

* A `CodePoint` is a character, or half of a surrogate pair that stands alone. Text read from outside can hold such
  halves; a `String` cannot.
* `Text.toString?` gives the string of a text exactly when the text holds no lone half.
* `Text.mapRuns` rewrites the characters of a text, each run between two lone halves by itself.
-/

namespace DomainPolicy

/-- A character, or half of a surrogate pair that stands alone (counted from `0xD800`). -/
inductive CodePoint where
  | scalar (c : Char)
  | surrogate (half : Fin 2048)
  deriving DecidableEq, Repr, Inhabited

namespace CodePoint

instance : Coe Char CodePoint := ⟨scalar⟩

/-- The number of a code point. -/
def toNat : CodePoint → Nat
  | scalar c => c.toNat
  | surrogate half => 0xD800 + half.val

/-- The code point of a number, if there is one. -/
def ofNat? (n : Nat) : Option CodePoint :=
  if h : n.isValidChar then some (scalar (Char.ofNatAux n h))
  else if h : n - 0xD800 < 2048 then
    if 0xD800 ≤ n then some (surrogate ⟨n - 0xD800, h⟩) else none
  else none

def isSurrogate : CodePoint → Bool
  | scalar _ => false
  | surrogate _ => true

/-- Whether a code point is a character of some kind. -/
def satisfies (p : Char → Bool) : CodePoint → Bool
  | scalar c => p c
  | surrogate _ => false

end CodePoint

/-- A sequence of code points. -/
abbrev Text := List CodePoint

namespace Text

/-- The text of characters. -/
def ofChars (cs : List Char) : Text := cs.map .scalar

def ofString (s : String) : Text := ofChars s.toList

instance : Coe String Text := ⟨ofString⟩

/-- The characters of a text that holds no lone half. -/
def toChars? : Text → Option (List Char)
  | [] => some []
  | .scalar c :: rest => (toChars? rest).map (c :: ·)
  | .surrogate _ :: _ => none

/-- The string of a text that holds no lone half. -/
def toString? (t : Text) : Option String := t.toChars?.map String.ofList

/-- The numbers of the code points of a text. -/
def numbers (t : Text) : List Nat := t.map CodePoint.toNat

/-- Texts in the order of their code points. -/
def le (s t : Text) : Bool := !decide (t.numbers < s.numbers)

/-- A text with each run of characters rewritten, from a run on that is given backwards. A lone half ends it. -/
def mapRunsFrom (f : List Char → List Char) (run : List Char) : Text → Text
  | [] => ofChars (f run.reverse)
  | .scalar c :: rest => mapRunsFrom f (c :: run) rest
  | .surrogate half :: rest => ofChars (f run.reverse) ++ .surrogate half :: mapRunsFrom f [] rest

/-- A text with each run of characters rewritten. -/
def mapRuns (f : List Char → List Char) (t : Text) : Text := mapRunsFrom f [] t

/-- The characters that a text begins with of which each satisfies `p`, and what follows them. -/
def spanChars (p : Char → Bool) : Text → List Char × Text
  | [] => ([], [])
  | .scalar c :: rest =>
    if p c then ((c :: (spanChars p rest).1), (spanChars p rest).2) else ([], .scalar c :: rest)
  | .surrogate half :: rest => ([], .surrogate half :: rest)

/-- The string of a text, with `U+FFFD` for each lone half. -/
def toStringLossy (t : Text) : String :=
  String.ofList (t.map fun | .scalar c => c | .surrogate _ => '\uFFFD')

@[simp] theorem toChars?_ofChars (cs : List Char) : toChars? (ofChars cs) = some cs := by
  induction cs with
  | nil => rfl
  | cons c cs ih => simpa [ofChars, toChars?] using ih

@[simp] theorem toString?_ofString (s : String) : toString? (ofString s) = some s := by
  simp [toString?, ofString]

theorem eq_ofChars_of_toChars? {t : Text} {cs : List Char} (h : t.toChars? = some cs) : t = ofChars cs := by
  induction t generalizing cs with
  | nil => simp [toChars?] at h; subst h; rfl
  | cons p t ih =>
    cases p with
    | surrogate half => simp [toChars?] at h
    | scalar c =>
      obtain ⟨ds, hd, rfl⟩ := Option.map_eq_some_iff.1 h
      simp [ofChars, ih hd]

theorem mapRunsFrom_ofChars (f : List Char → List Char) (run cs : List Char) :
    mapRunsFrom f run (ofChars cs) = ofChars (f (run.reverse ++ cs)) := by
  induction cs generalizing run with
  | nil => rw [List.append_nil]; rfl
  | cons c cs ih =>
    have happend : (c :: run).reverse ++ cs = run.reverse ++ c :: cs := by simp
    rw [← happend]
    exact ih (c :: run)

@[simp] theorem mapRuns_ofChars (f : List Char → List Char) (cs : List Char) :
    mapRuns f (ofChars cs) = ofChars (f cs) :=
  mapRunsFrom_ofChars f [] cs

end Text

end DomainPolicy
