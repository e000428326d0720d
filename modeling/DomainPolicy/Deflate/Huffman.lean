import DomainPolicy.Deflate.Bits

/-!
# Codes of varying length

* A `Code` is made from the lengths of its words, one a symbol, zero for a symbol without a word. Words of one length
  are consecutive numbers in the order of their symbols, and follow the shorter ones.
* Lengths make a code only if its words use up all room, but for a code of one word of one bit (`Code.ofLengths?`).
-/

namespace DomainPolicy.Deflate

/-- How many words have one bit, two bits and so on, and the symbols in the order of their words. -/
structure Code where
  counts : List Nat
  symbols : Array Nat
  deriving Repr

namespace Code

/-- The most bits of a word. -/
def maxLength : Nat := 15

/-- The room that words leave, from the shorter to the longer, unless they take too much. -/
def room? : Nat → List Nat → Option Nat
  | left, [] => some left
  | left, n :: counts => if 2 * left < n then none else room? (2 * left - n) counts

/-- The code with words of these lengths. A code without words is let be if `mayBeSmall`, and so is one of one bit. -/
def ofLengths? (mayBeSmall : Bool) (lengths : List Nat) : Option Code :=
  let counts := (List.range maxLength).map fun i => lengths.count (i + 1)
  let symbols := (List.range maxLength).flatMap fun i =>
    (lengths.zipIdx.filter (·.1 = i + 1)).map Prod.snd
  let isSmall := lengths.all (· ≤ 1)
  match room? 1 counts with
  | none => none
  | some left =>
    if left = 0 ∨ symbols = [] ∨ (mayBeSmall ∧ isSmall) then some ⟨counts, symbols.toArray⟩ else none

/-- Reads a word bit by bit, as long as there are longer words. `word` is what has been read, `first` the first word of
this length, and `index` its place among all words. -/
def decodeFrom (symbols : Array Nat) : List Nat → Nat → Nat → Nat → Bits → Except Halt (Nat × Bits)
  | [], _, _, _, _ => .error .broken
  | _ :: _, _, _, _, [] => .error .short
  | n :: counts, word, first, index, b :: bits =>
    let word := word + b.toNat
    if word < first + n then
      match symbols[index + (word - first)]? with
      | some s => .ok (s, bits)
      | none => .error .broken
    else if counts.all (· = 0) then .error .broken
    else decodeFrom symbols counts (2 * word) (2 * (first + n)) (index + n) bits

/-- A code in which either bit stands for zero. -/
def zeros : Code := ⟨[2], #[0, 0]⟩

/-- The symbol of the word in front, and the bits after it. -/
def decode (c : Code) (bits : Bits) : Except Halt (Nat × Bits) := decodeFrom c.symbols c.counts 0 0 0 bits

end Code

end DomainPolicy.Deflate
