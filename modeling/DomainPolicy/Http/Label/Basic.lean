import DomainPolicy.Http.Label.Letters
import DomainPolicy.Text.Direction
import DomainPolicy.Text.Joining
import DomainPolicy.Text.NormalForm
import DomainPolicy.Text.Punycode
import DomainPolicy.Text.Split

/-!
# Labels of names of hosts

* A name is made of labels with points between them. A `Label` is sound (`Label.check`) if it is in its normal form, has
  no hyphens where they mean something, begins with no mark, holds only characters that a name may have, each of them
  where it may be, and can be read in one direction.
* A label with characters outside ASCII has a form in ASCII (`Label.form?`). `Label.read` gives the label that a form
  stands for.
-/

namespace DomainPolicy.Http

/-- Why a label is not sound. -/
inductive LabelFault where
  | malformed
  | foreignCharacter
  | misplacedCharacter
  | mixedDirections
  deriving DecidableEq, Repr

namespace Label

/-- The most characters of a label, which is as many as a name may have. -/
def maxLength : Nat := 254

/-- What the ASCII form of a label with other characters begins with. -/
def mark : List Char := "xn--".toList

/-! ### Characters and their places -/

def isArabicDigit (c : Char) : Bool := 0x0660 ≤ c.toNat && c.toNat ≤ 0x0669

def isPersianDigit (c : Char) : Bool := 0x06F0 ≤ c.toNat && c.toNat ≤ 0x06F9

/-- Whether a letter before has lost its vowel. -/
def followsVowelless (before : List Char) : Bool := before.head?.any fun c => Marks.classOf c = Marks.vowelless

/-- Where a character may be that is not allowed everywhere, by the part before it, read backwards, and the part
after it. -/
def place? (c : Char) : Option (List Char → List Char → Bool) :=
  if c = '\u00B7' then some fun before after => before.head? = some 'l' && after.head? = some 'l'
  else if c = '\u0375' then some fun _ after => after.head?.any fun d => Letters.greekRanges.holds d.toNat
  else if c = '\u05F3' ∨ c = '\u05F4' then
    some fun before _ => before.head?.any fun d => Letters.hebrewRanges.holds d.toNat
  else if c = '\u30FB' then
    some fun before after => (before ++ after).any fun d => Letters.japaneseRanges.holds d.toNat
  else if isArabicDigit c then some fun before after => !(before ++ after).any isPersianDigit
  else if isPersianDigit c then some fun before after => !(before ++ after).any isArabicDigit
  else if c = '\u200C' then some fun before after => followsVowelless before || Joining.isBetween before after
  else if c = '\u200D' then some fun before _ => followsVowelless before
  else none

/-- Whether a character joins letters, or keeps them apart. -/
def isJoiner (c : Char) : Bool := c == '\u200C' || c == '\u200D'

/-- Whether a character has no name of its own, so that nothing is known of what may follow it. -/
def isNameless (c : Char) : Bool := Direction.of c = .unknown || Letters.numberedRanges.holds c.toNat

/-- What is wrong with a character that has to be in a certain place, if anything is. Behind a character without a name
a joiner makes the label malformed. -/
def fault? (fits : List Char → List Char → Bool) (before : List Char) (c : Char) (after : List Char) :
    Option LabelFault :=
  if isJoiner c && before.head?.any isNameless then some .malformed
  else if fits before after then none
  else some .misplacedCharacter

/-- Checks the characters after a part, which is read backwards. -/
def checkFrom (before : List Char) : List Char → Except LabelFault Unit
  | [] => .ok ()
  | c :: after =>
    if Letters.isPlain c then checkFrom (c :: before) after
    else
      match place? c with
      | none => .error .foreignCharacter
      | some fits =>
        match fault? fits before c after with
        | some e => .error e
        | none => checkFrom (c :: before) after

/-! ### Labels -/

/-- Whether hyphens stand at an end, or in the third and the fourth place. -/
def hasBadHyphens (cs : List Char) : Bool :=
  cs.head? = some '-' || cs.getLast? = some '-' || (cs.drop 2).take 2 == ['-', '-']

def check (cs : List Char) : Except LabelFault Unit :=
  if cs = [] ∨ maxLength < cs.length ∨ ¬NormalForm.isNormal cs ∨ hasBadHyphens cs ∨ cs.head?.any Marks.isMark then
    .error .malformed
  else
    match checkFrom [] cs with
    | .error e => .error e
    | .ok () => if Direction.isOrdered cs then .ok () else .error .mixedDirections

/-- A label that is sound. -/
def checked (cs : List Char) : Except LabelFault (List Char) := (check cs).map fun () => cs

/-- The characters of a reading, if it is whole. A half of a pair becomes `U+FFFD`. -/
def characters? (r : Punycode.Reading) : Option (List Char) :=
  if r.isWhole then
    some (r.pieces.map fun
      | .point (.scalar c) => c
      | _ => '\uFFFD')
  else none

/-- The label that a form stands for. Behind its mark a form ends with no hyphen, and begins with none that sets nothing
off. -/
def read (form : List Char) : Except LabelFault (List Char) :=
  let form := form.map Char.toLower
  if mark.isPrefixOf form then
    let rest := form.drop mark.length
    if rest = [] ∨ rest.getLast? = some '-' ∨ (Split.cutLast? '-' rest).any (·.1 = []) then .error .malformed
    else
      match (Punycode.read? (rest.map (·.toNat.toUInt8))).bind characters? with
      | none => .error .malformed
      | some label => checked label
  else checked form

/-- The most characters of a form that is written. -/
def maxFormLength : Nat := 63

/-- The form of a label, if the label is sound and the form is not too long. -/
def form? (label : List Char) : Option (List Char) :=
  let form? :=
    if label.all (·.toNat < 128) then (read label).toOption.map fun _ => label
    else (check label).toOption.map fun _ => mark ++ Punycode.write label
  form?.filter (·.length ≤ maxFormLength)

end Label

end DomainPolicy.Http
