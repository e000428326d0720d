import DomainPolicy.Proofs.Text.ByteOrder
import DomainPolicy.Text.CodePoint
import Mathlib.Data.List.Lex
import Mathlib.Data.String.Basic

/-!
# The order of code points

Strings are in the order of their bytes if and only if they are in the order of their code points (`encode_lt_iff`,
`numbers_lt_iff`).  The bytes of a character hold the digits of its number to the base 64, the first of them under a
mark that tells how many follow.  So of two characters with equally many bytes the digits decide
(`following_append_lt`), and otherwise the marks do (`first_lt_or_eq`); either way the larger number has the later
bytes, whatever comes behind (`utf8EncodeChar_append_lt`).
-/

namespace DomainPolicy

/-! ### Numbers -/

theorem CodePoint.toNat_injective : Function.Injective toNat := by
  -- the number of a character is not that of a half
  have hne (c : Char) (half : Fin 2048) : toNat (.scalar c) ≠ toNat (.surrogate half) := by
    have hvalid := c.valid
    have hhalf := half.isLt
    show c.toNat ≠ 0xD800 + half.val
    simp only [UInt32.isValidChar, Nat.isValidChar, Char.toNat_val] at hvalid
    omega
  intro p q h
  cases p with
  | scalar c =>
    cases q with
    | scalar d => exact congrArg scalar (Char.toNat_inj.1 h)
    | surrogate half => exact absurd h (hne c half)
  | surrogate half =>
    cases q with
    | scalar d => exact absurd h.symm (hne d half)
    | surrogate half' => exact congrArg surrogate (Fin.ext (Nat.add_left_cancel h))

namespace Text

theorem numbers_injective : Function.Injective numbers := List.map_injective_iff.2 CodePoint.toNat_injective

theorem le_iff_numbers_le {s t : Text} : s.le t = true ↔ s.numbers ≤ t.numbers := by
  rw [le, Bool.not_eq_true', decide_eq_false_iff_not, not_lt]

end Text

namespace Utf8

/-! ### The bytes of a character -/

/-- How many bytes follow the first byte of a character. -/
def more (n : Nat) : Nat := if n ≤ 0x7F then 0 else if n ≤ 0x7FF then 1 else if n ≤ 0xFFFF then 2 else 3

/-- The mark on a first byte, by the number of bytes that follow. -/
def mark : Nat → Nat
  | 0 => 0
  | 1 => 0xC0
  | 2 => 0xE0
  | _ => 0xF0

/-- The first byte of a character, as a number. -/
def first (n : Nat) : Nat := n / 64 ^ more n + mark (more n)

/-- The last digits of a number to the base 64, as bytes that follow a first one. -/
def following (n : Nat) : Nat → Bytes
  | 0 => []
  | k + 1 => UInt8.ofNat (n / 64 ^ k % 64 + 0x80) :: following n k

theorem toNat_lt (c : Char) : c.toNat < 0x110000 := c.valid.elim (fun h => Nat.lt_trans h (by decide)) And.right

theorem utf8EncodeChar_eq (c : Char) :
    String.utf8EncodeChar c = UInt8.ofNat (first c.toNat) :: following c.toNat (more c.toNat) := by
  have hlarge := toNat_lt c
  simp only [String.utf8EncodeChar, first, more, Char.toNat_val]
  generalize c.toNat = n at hlarge ⊢
  -- the digit in the first byte is whatever the others leave
  split_ifs
  · simp [mark, following]
  · have hdigit : n / 64 % 32 = n / 64 := Nat.mod_eq_of_lt (by omega)
    simp [mark, following, hdigit]
  · have hdigit : n / 4096 % 16 = n / 4096 := Nat.mod_eq_of_lt (by omega)
    simp [mark, following, hdigit]
  · have hdigit : n / 262144 % 8 = n / 262144 := Nat.mod_eq_of_lt (by omega)
    simp [mark, following, hdigit]

/-! ### Which bytes come first -/

theorem ofNat_lt_ofNat {a b : Nat} (h : a < b) (hb : b < 256) : UInt8.ofNat a < UInt8.ofNat b := by
  rw [UInt8.lt_iff_toNat_lt, UInt8.toNat_ofNat_of_lt' (Nat.lt_trans h hb), UInt8.toNat_ofNat_of_lt' hb]
  exact h

/-- Of numbers that agree but for their last digits, the larger one has the later digits. -/
theorem following_append_lt {m n : Nat} (h : m < n) {k : Nat} (hk : m / 64 ^ k = n / 64 ^ k) (u v : Bytes) :
    following m k ++ u < following n k ++ v := by
  induction k with
  | zero =>
    rw [Nat.pow_zero, Nat.div_one, Nat.div_one] at hk
    exact absurd hk (Nat.ne_of_lt h)
  | succ k ih =>
    have hfront : m / 64 ^ k / 64 = n / 64 ^ k / 64 := by
      rwa [Nat.div_div_eq_div_mul, Nat.div_div_eq_div_mul, ← Nat.pow_succ]
    rcases Nat.eq_or_lt_of_le (Nat.div_le_div_right (c := 64 ^ k) (Nat.le_of_lt h)) with heq | hlt
    · rw [following, following, heq]
      exact List.Lex.cons (ih heq)
    · -- the digits in front agree, so it is the next one that is smaller
      have hdigit : m / 64 ^ k % 64 < n / 64 ^ k % 64 := by omega
      exact List.Lex.rel (ofNat_lt_ofNat (by omega) (by omega))

/-- A larger number has a larger first byte, or else the same digit in it and equally many that follow. -/
theorem first_lt_or_eq {m n : Nat} (h : m < n) :
    first m < first n ∨ more m = more n ∧ m / 64 ^ more n = n / 64 ^ more n := by
  unfold first more
  split_ifs <;> simp only [mark, Nat.reducePow, true_and] <;> omega

theorem first_lt {n : Nat} (hn : n < 0x110000) : first n < 256 := by
  unfold first more
  split_ifs <;> simp only [mark, Nat.reducePow] <;> omega

/-- A character of a larger number has the later bytes, whatever comes behind. -/
theorem utf8EncodeChar_append_lt {a b : Char} (h : a < b) (u v : Bytes) :
    String.utf8EncodeChar a ++ u < String.utf8EncodeChar b ++ v := by
  have hnat : a.toNat < b.toNat := UInt32.lt_iff_toNat_lt.1 h
  rw [utf8EncodeChar_eq, utf8EncodeChar_eq]
  rcases first_lt_or_eq hnat with hlt | ⟨hmore, hdigit⟩
  · exact List.Lex.rel (ofNat_lt_ofNat hlt (first_lt (toNat_lt b)))
  · have hfirst : first a.toNat = first b.toNat := by rw [first, first, hmore, hdigit]
    rw [hfirst, hmore]
    exact List.Lex.cons (following_append_lt hnat hdigit u v)

/-! ### Strings -/

theorem flatMap_utf8EncodeChar_lt {l m : List Char} (h : l < m) :
    l.flatMap String.utf8EncodeChar < m.flatMap String.utf8EncodeChar := by
  induction h with
  | nil =>
    rw [List.flatMap_nil, List.flatMap_cons, utf8EncodeChar_eq]
    exact List.Lex.nil
  | rel h => exact utf8EncodeChar_append_lt h _ _
  | cons _ ih => exact List.Lex.append_left _ ih _

theorem encode_lt {s t : String} (h : s < t) : encode s < encode t :=
  flatMap_utf8EncodeChar_lt (String.lt_iff_toList_lt.1 h)

theorem encode_lt_iff {s t : String} : encode s < encode t ↔ s < t := by
  refine ⟨fun h => ?_, encode_lt⟩
  rcases lt_trichotomy s t with hst | rfl | hts
  · exact hst
  · exact absurd h (List.lt_irrefl _)
  · exact absurd h (List.lt_asymm (encode_lt hts))

theorem le_iff_le {s t : String} : le s t = true ↔ s ≤ t := by
  rw [le_iff, ← List.not_lt, encode_lt_iff, not_lt]

theorem numbers_lt_iff {s t : String} : (Text.ofString s).numbers < (Text.ofString t).numbers ↔ s < t := by
  have hmono : StrictMono fun cs : List Char => (Text.ofChars cs).numbers := by
    intro l m h
    have hmap : ∀ cs, (Text.ofChars cs).numbers = cs.map Char.toNat := fun cs => List.map_map
    show (Text.ofChars l).numbers < (Text.ofChars m).numbers
    rw [hmap, hmap]
    exact List.map_lt (fun _ _ hab => UInt32.lt_iff_toNat_lt.1 hab) h
  rw [String.lt_iff_toList_lt]
  exact hmono.lt_iff_lt

/-- Units of sixteen bits have these the other way round. -/
example : le "\uFB00" "😀" = true ∧ le "😀" "\uFB00" = false := by decide

end Utf8

end DomainPolicy
