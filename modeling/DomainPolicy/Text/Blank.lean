/-!
# Blank characters

* `isBlank` holds of the 29 characters that count as white space around a domain name: the Unicode spaces, the
  line and paragraph separators, and the ASCII controls that separate.
* `strip` removes them from both ends of a text. Around a number some of them do not count (`isSpace`).
-/

namespace DomainPolicy.Blank

/-- White space, the separators `U+001C` to `U+001F` and `U+0085` included. -/
def isBlank (c : Char) : Bool :=
  let n := c.toNat
  (9 ≤ n && n ≤ 13) || (28 ≤ n && n ≤ 32) || n == 0x85 || n == 0xA0 || n == 0x1680 ||
    (0x2000 ≤ n && n ≤ 0x200A) || n == 0x2028 || n == 0x2029 || n == 0x202F || n == 0x205F || n == 0x3000

/-- White space around a number; the separators `U+001C` to `U+001F` do not count. -/
def isSpace (c : Char) : Bool := isBlank c && !(28 ≤ c.toNat && c.toNat ≤ 31)

variable {α β : Type}

/-- Drops what satisfies `p` at the end of a list. -/
def dropEnd (p : α → Bool) (xs : List α) : List α := (xs.reverse.dropWhile p).reverse

/-- Drops what satisfies `p` at both ends of a list. -/
def trim (p : α → Bool) (xs : List α) : List α := dropEnd p (xs.dropWhile p)

/-- A text without the blanks at its ends. -/
def strip (cs : List Char) : List Char := trim isBlank cs

theorem dropEnd_append_of_all {p : α → Bool} (xs ys : List α) (h : ∀ y ∈ ys, p y = true) :
    dropEnd p (xs ++ ys) = dropEnd p xs := by
  simp only [dropEnd, List.reverse_append]
  rw [List.dropWhile_append_of_pos (by simpa using h)]

theorem dropEnd_map (p : β → Bool) (f : α → β) (xs : List α) :
    dropEnd p (xs.map f) = (dropEnd (p ∘ f) xs).map f := by
  simp only [dropEnd, ← List.map_reverse, List.dropWhile_map]

theorem trim_map (p : β → Bool) (f : α → β) (xs : List α) : trim p (xs.map f) = (trim (p ∘ f) xs).map f := by
  simp only [trim, List.dropWhile_map, dropEnd_map]

end DomainPolicy.Blank
