import DomainPolicy.Text.Piece
import DomainPolicy.Text.Utf8

/-!
# Code pages

* A `CodePage` gives bytes characters of their own, one each. Its rows have sixteen characters, the last of them for the
  bytes from `0xF0` on; bytes that no row speaks of are the characters of their numbers.
* A place in a row that holds `U+FFFD` is empty.
-/

namespace DomainPolicy

/-- Characters for bytes, and the names that they go by. -/
structure CodePage where
  name : String
  aliases : List String := []
  rows : List String
  deriving DecidableEq, Repr

namespace CodePage

/-- The first byte that the rows speak of. -/
def first (p : CodePage) : Nat := 256 - 16 * p.rows.length

/-- The character of a byte. -/
def piece (p : CodePage) (b : UInt8) : Piece :=
  let n := b.toNat
  if n < p.first then Piece.ofNat n
  else
    match p.rows[(n - p.first) / 16]?.bind fun row => row.toList[n % 16]? with
    | some c => if c = '\uFFFD' then .broken else Piece.ofChar c
    | none => .broken

def pieces (p : CodePage) (bs : Bytes) : List Piece := bs.map p.piece

end CodePage

end DomainPolicy
