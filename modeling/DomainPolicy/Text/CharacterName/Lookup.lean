import DomainPolicy.Number.Hex
import DomainPolicy.Text.CharacterName.Ancient
import DomainPolicy.Text.CharacterName.Asia
import DomainPolicy.Text.CharacterName.East
import DomainPolicy.Text.CharacterName.Others
import DomainPolicy.Text.CharacterName.Pictures
import DomainPolicy.Text.CharacterName.Signs
import DomainPolicy.Text.CharacterName.West
import DomainPolicy.Text.Ranges

/-!
# Characters by name

* `CharacterName.find?` gives the character of a name. Most names are listed, and then the case of their letters means
  nothing.
* A Chinese character has its number in its name, and a syllable of Korea its letters. Such a name is in capital
  letters.
-/

namespace DomainPolicy.CharacterName

/-- What follows a beginning of a text. -/
def after? (start text : List Char) : Option (List Char) :=
  if start.isPrefixOf text then some (text.drop start.length) else none

/-! ### Syllables of Korea -/

def leading : List String :=
  ["G", "GG", "N", "D", "DD", "R", "M", "B", "BB", "S", "SS", "", "J", "JJ", "C", "K", "T", "P", "H"]

def vowels : List String :=
  ["A", "AE", "YA", "YAE", "EO", "E", "YEO", "YE", "O", "WA", "WAE", "OE", "YO", "U", "WEO", "WE", "WI", "YU", "EU",
   "YI", "I"]

def trailing : List String :=
  ["", "G", "GG", "GS", "N", "NJ", "NH", "D", "L", "LG", "LM", "LB", "LS", "LT", "LP", "LH", "M", "B", "BS", "S", "SS",
   "NG", "J", "C", "K", "T", "P", "H"]

/-- Something found behind one of some beginnings, with the number of that beginning. -/
def behind {α : Type} (starts : List String) (text : List Char) (find : Nat → List Char → Option α) : Option α :=
  starts.zipIdx.findSome? fun (start, i) => (after? start.toList text).bind (find i)

/-- The syllable of three letters, by their numbers. -/
def syllable (l v t : Nat) : Char := Char.ofNat (0xAC00 + (l * vowels.length + v) * trailing.length + t)

/-- The syllable that is spelt. -/
def syllable? (text : List Char) : Option Char :=
  behind leading text fun l text => behind vowels text fun v text =>
    (trailing.idxOf? (String.ofList text)).map (syllable l v)

/-! ### Chinese characters -/

/-- The Chinese characters that are named by their numbers. -/
def numberedRanges : Ranges :=
  [(0x3400, 0x4DBF), (0x4E00, 0x9FFF), (0x20000, 0x2A6DF), (0x2A700, 0x2B738), (0x2B740, 0x2B81D), (0x2B820, 0x2CEA1),
   (0x2CEB0, 0x2EBE0), (0x30000, 0x3134A)]

/-- The character of a number of four or five digits. -/
def numbered? (text : List Char) : Option Char :=
  if (text.length = 4 ∨ text.length = 5) ∧ !text.any Char.isLower then
    match text.mapM Hex.value? with
    | none => none
    | some ds =>
      let n := ds.foldl (fun n d => n * 16 + d) 0
      if numberedRanges.holds n then some (Char.ofNat n) else none
  else none

/-! ### All names -/

def blocks : List Block := west ++ east ++ signs ++ asia ++ ancient ++ pictures ++ others

/-- The character of a listed name. -/
def listed? (name : List Char) : Option Char :=
  let name := name.map Char.toUpper
  if name = [] then none else blocks.findSome? (Block.find? name)

/-- The character of a name. -/
def find? (name : List Char) : Option Char :=
  match after? "HANGUL SYLLABLE ".toList name, after? "CJK UNIFIED IDEOGRAPH-".toList name with
  | some text, _ => syllable? text
  | _, some text => numbered? text
  | _, _ => listed? name

end DomainPolicy.CharacterName
