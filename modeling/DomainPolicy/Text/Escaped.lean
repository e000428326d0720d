import DomainPolicy.Number.Hex
import DomainPolicy.Text.CharacterName.Lookup
import DomainPolicy.Text.Piece
import DomainPolicy.Text.Utf8

/-!
# Text with escapes

* A backslash and `u` or `U` with four or eight hexadecimal digits after it is the code point of that number; other
  bytes are the characters of their numbers (`Escaped.numbers`).
* `Escaped.all` also knows escapes of two digits and of up to three octal ones, of quotes, of white space and controls,
  of an end of line, which leaves nothing, and of characters by their names. An escape that ends early is broken up to
  where it ends.
-/

namespace DomainPolicy.Escaped

def character (b : UInt8) : Char := Char.ofNat b.toNat

/-- The number of hexadecimal digits that stand in front, at most so many, and how many they are. -/
def leadingHex (most : Nat) (bs : Bytes) : Nat × Nat :=
  let ds := (((bs.take most).map fun b => Hex.value? (character b)).takeWhile Option.isSome).filterMap id
  (ds.foldl (fun n d => n * 16 + d) 0, ds.length)

/-- A code point of so many hexadecimal digits, and how many bytes it takes. -/
def hexPiece (digits : Nat) (bs : Bytes) : Piece × Nat :=
  let (n, found) := leadingHex digits bs
  (if found = digits then Piece.ofNat n else .broken, found)

/-- A code point of up to three octal digits, and how many bytes it takes. -/
def octalPiece (bs : Bytes) : Piece × Nat :=
  let ds := (bs.take 3).takeWhile fun b => 48 ≤ b && b ≤ 55
  (Piece.ofNat (ds.foldl (fun n b => n * 8 + (b.toNat - 48)) 0), ds.length)

/-- What a single letter or sign stands for after a backslash. -/
def simple? (c : Char) : Option (List Piece) :=
  match c with
  | '\n' => some []
  | '\\' | '\'' | '"' => some [Piece.ofChar c]
  | 'a' => some [Piece.ofNat 7]
  | 'b' => some [Piece.ofNat 8]
  | 't' => some [Piece.ofNat 9]
  | 'n' => some [Piece.ofNat 10]
  | 'v' => some [Piece.ofNat 11]
  | 'f' => some [Piece.ofNat 12]
  | 'r' => some [Piece.ofNat 13]
  | _ => none

/-- How many digits the number of a code point has after a letter. -/
def numberDigits? (c : Char) : Option Nat :=
  match c with
  | 'u' => some 4
  | 'U' => some 8
  | _ => none

/-- What follows a backslash in a text with numbers only, and how many bytes of it are taken. -/
def afterNumberSign (bs : Bytes) : List Piece × Nat :=
  match bs with
  | [] => ([Piece.ofChar '\\'], 0)
  | b :: rest =>
    match numberDigits? (character b) with
    | some digits => let (p, n) := hexPiece digits rest; ([p], n + 1)
    | none => ([Piece.ofChar '\\', Piece.ofNat b.toNat], 1)

/-- The character of a name in curly brackets, and how many bytes it takes. A name that is empty ends before its second
bracket, which it may also lack. -/
def namedPiece (bs : Bytes) : Piece × Nat :=
  match bs with
  | 0x7B :: rest =>
    let name := rest.takeWhile (· ≠ 0x7D)
    if name.length = rest.length ∨ name.isEmpty then (.broken, 1 + name.length)
    else ((CharacterName.find? (name.map character)).elim .broken Piece.ofChar, 2 + name.length)
  | _ => (.broken, 0)

/-- What follows a backslash, and how many bytes of it are taken. -/
def afterSign (bs : Bytes) : List Piece × Nat :=
  match bs with
  | [] => ([.broken], 0)
  | b :: rest =>
    let c := character b
    match simple? c with
    | some ps => (ps, 1)
    | none =>
      if c = 'x' then let (p, n) := hexPiece 2 rest; ([p], n + 1)
      else if c = 'N' then let (p, n) := namedPiece rest; ([p], n + 1)
      else if 48 ≤ b ∧ b ≤ 55 then let (p, n) := octalPiece bs; ([p], n)
      else afterNumberSign bs

/-- Reads bytes; `skip` of them have been taken already. -/
def read (after : Bytes → List Piece × Nat) (skip : Nat) : Bytes → List Piece
  | [] => []
  | b :: rest =>
    match skip with
    | n + 1 => read after n rest
    | 0 =>
      if b = 0x5C then let (ps, n) := after rest; ps ++ read after n rest else Piece.ofNat b.toNat :: read after 0 rest

/-- Text in which code points are escaped by their numbers. -/
def numbers (bs : Bytes) : List Piece := read afterNumberSign 0 bs

/-- Text with escapes of all kinds. -/
def all (bs : Bytes) : List Piece := read afterSign 0 bs

end DomainPolicy.Escaped
