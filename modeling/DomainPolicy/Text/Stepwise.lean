import DomainPolicy.Text.Piece
import DomainPolicy.Text.Utf8

/-!
# Reading bytes step by step

* A step looks at the bytes in front, takes at least one of them, and may change the state; or it needs more bytes than
  there are.
* `Stepwise.read` goes on to the end, and tells how many bytes are left over where a step needs more.
-/

namespace DomainPolicy

/-- What a step gives: pieces, the next state, and the number of bytes taken. -/
inductive Step (σ : Type) where
  | next (pieces : List Piece) (state : σ) (taken : Nat)
  | short

namespace Step

/-- A step that reads a character. -/
def char {σ : Type} (c : Char) (state : σ) (taken : Nat) : Step σ := .next [.ofChar c] state taken

/-- A step over bytes that encode nothing. -/
def wrong {σ : Type} (state : σ) (taken : Nat) : Step σ := .next [.broken] state taken

/-- A step that reads a character if there is one, else goes over bytes. -/
def ofChar? {σ : Type} (c : Option Char) (state : σ) (taken skipped : Nat) : Step σ :=
  match c with
  | some c => char c state taken
  | none => wrong state skipped

end Step

namespace Stepwise

/-- Reads bytes, of which `skip` have been taken already. Gives the number of bytes left over, too. -/
def read {σ : Type} (step : σ → UInt8 → Bytes → Step σ) : Nat → σ → Bytes → List Piece × Nat
  | _, _, [] => ([], 0)
  | skip + 1, s, _ :: rest => read step skip s rest
  | 0, s, b :: rest =>
    match step s b rest with
    | .short => ([], rest.length + 1)
    | .next ps s taken => let (qs, left) := read step (taken - 1) s rest; (ps ++ qs, left)

/-- The code points of bytes; what is left over is broken. -/
def pieces {σ : Type} (step : σ → UInt8 → Bytes → Step σ) (s : σ) (bs : Bytes) : List Piece :=
  let (ps, left) := read step 0 s bs
  if left = 0 then ps else ps ++ [.broken]

end Stepwise

end DomainPolicy
