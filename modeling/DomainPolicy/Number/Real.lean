import DomainPolicy.Number.Integer

/-!
# Real numbers as they are written by hand

* `RealText.isReal` holds of decimal digits with a sign, a point and an exponent, with blanks around them and single
  underscores between digits, and of the names of what is infinite or no number.
-/

namespace DomainPolicy.RealText

/-- A text without the underscores that stand between two digits, if all of them do. -/
def dropUnderscores? : List Char → Option (List Char)
  | [] => some []
  | '_' :: _ => none
  | [c] => some [c]
  | c :: '_' :: d :: rest =>
    if Decimal.isDigit c && Decimal.isDigit d then (dropUnderscores? (d :: rest)).map (c :: ·) else none
  | c :: d :: rest => (dropUnderscores? (d :: rest)).map (c :: ·)

/-- A text without a sign in front. -/
def dropSign (cs : List Char) : List Char :=
  match cs with
  | '+' :: rest | '-' :: rest => rest
  | _ => cs

def dropDigits (cs : List Char) : List Char := cs.dropWhile Decimal.isDigit

/-- Nothing, or an exponent. -/
def isExponent (cs : List Char) : Bool :=
  match cs with
  | [] => true
  | c :: rest => (c == 'e' || c == 'E') && dropSign rest != [] && (dropSign rest).all Decimal.isDigit

/-- Digits with a point before, among or after them, or without one, and perhaps an exponent. -/
def isPlain (cs : List Char) : Bool :=
  match dropDigits cs with
  | '.' :: rest => (dropDigits rest).length + 1 < cs.length && isExponent (dropDigits rest)
  | rest => rest.length < cs.length && isExponent rest

def isName (cs : List Char) : Bool := ["inf", "infinity", "nan"].contains (String.ofList (cs.map Char.toLower))

/-- Whether a text writes a real number. -/
def isReal (cs : List Char) : Bool :=
  match dropUnderscores? ((Blank.trim Blank.isSpace cs).map Digit.plain) with
  | none => false
  | some cs => isName (dropSign cs) || isPlain (dropSign cs)

end DomainPolicy.RealText
