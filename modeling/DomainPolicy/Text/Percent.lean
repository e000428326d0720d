import DomainPolicy.Number.Hex
import DomainPolicy.Text.Decoding
import DomainPolicy.Text.Split

/-!
# Percent forms

* A percent sign and two hexadecimal digits stand for a byte (`Percent.bytes`). A percent sign without them stands for
  itself, and so does a lone half (`Percent.text`).
* `Percent.fields` are the names and values of a query.
-/

namespace DomainPolicy.Percent

/-- The bytes that characters stand for, each of which stands for some bytes by itself. -/
def bytes (ofChar : Char → Bytes) : List Char → Bytes
  | '%' :: a :: b :: cs =>
    match Hex.value? a, Hex.value? b with
    | some x, some y => (x * 16 + y).toUInt8 :: bytes ofChar cs
    | _, _ => 0x25 :: bytes ofChar (a :: b :: cs)
  | c :: cs => ofChar c ++ bytes ofChar cs
  | [] => []

/-- The characters that characters stand for. What is not UTF-8 becomes `U+FFFD`. -/
def chars (cs : List Char) : List Char :=
  ((Piece.lenient (Scheme.utf8.pieces false (bytes String.utf8EncodeChar cs))).toChars?).getD []

/-- The text that a text stands for. -/
def text (t : Text) : Text := t.mapRuns chars

/-- The fields of a query, each a name and a value with an equals sign between them. A plus sign stands for a space. What
has no value is left out. -/
def fields (query : Text) : List (Text × Text) :=
  (Split.pieces (.scalar '&') query).filterMap fun field =>
    match Split.cut (.scalar '=') field with
    | (name, some (c :: value)) => some (read name, read (c :: value))
    | _ => none
where
  read (t : Text) : Text := text (t.map fun p => if p = .scalar '+' then .scalar ' ' else p)

end DomainPolicy.Percent
