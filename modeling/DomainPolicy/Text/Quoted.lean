import DomainPolicy.Number.Hex
import DomainPolicy.Text.CodePoint
import DomainPolicy.Text.Printable

/-!
# Quoted text

* `Text.quoted` shows a text between quotes, with escapes for what cannot be printed. Single quotes are used unless the
  text holds a single quote and no double one.
-/

namespace DomainPolicy.Text

/-- The last `width` hexadecimal digits of a number. -/
def hex (width n : Nat) : List Char :=
  (List.range width).map fun i => Hex.lower (n / Nat.pow 16 (width - 1 - i))

/-- The numbered escape of a code point, in the shortest of its three widths. -/
def escapeNumber (n : Nat) : List Char :=
  if n < 0x100 then '\\' :: 'x' :: hex 2 n
  else if n < 0x10000 then '\\' :: 'u' :: hex 4 n
  else '\\' :: 'U' :: hex 8 n

/-- A code point between quotes of one kind. -/
def showPoint (quote : Char) : CodePoint → List Char
  | .surrogate half => escapeNumber (0xD800 + half.val)
  | .scalar c =>
    if c = quote ∨ c = '\\' then ['\\', c]
    else if c = '\n' then ['\\', 'n']
    else if c = '\r' then ['\\', 'r']
    else if c = '\t' then ['\\', 't']
    else if c = ' ' ∨ Printable.isPrintable c.toNat then [c]
    else escapeNumber c.toNat

/-- The kind of quotes for a text. -/
def quoteFor (t : Text) : Char :=
  if t.contains (.scalar '\'') && !t.contains (.scalar '"') then '"' else '\''

/-- A text between quotes. -/
def quoted (t : Text) : String :=
  let q := quoteFor t
  String.ofList (q :: (t.flatMap (showPoint q) ++ [q]))

end DomainPolicy.Text
