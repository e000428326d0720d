import DomainPolicy.Proofs.Text.Whole
import DomainPolicy.Text.Decoding

/-!
# UTF-8 read back

The bytes of a character are read as this character (`pieces_utf8EncodeChar`), so the bytes of a string are read as the
string (`strict_pieces_encode`).  Bytes that do not start with a mark and have no zero among the first two are taken for
UTF-8 where the encoding has to be found out (`decodeJson?_encode`).
-/

namespace DomainPolicy

theorem CodePoint.ofNat?_toNat (c : Char) : ofNat? c.toNat = some (.scalar c) := by
  have hvalid : c.toNat.isValidChar := c.valid
  rw [ofNat?, dif_pos hvalid]
  rfl

theorem Piece.ofNat_toNat (c : Char) : ofNat c.toNat = .point (.scalar c) := by
  rw [ofNat, CodePoint.ofNat?_toNat]

namespace Utf8

variable {halves : Bool} {rest : Bytes}

/-! ### One byte -/

theorem pieces_of_start {b : UInt8} {q : Pending} (h : start halves b = .inr q) :
    pieces halves none (b :: rest) = pieces halves (some q) rest := by
  rw [pieces, h]

theorem toNat_byte {n : Nat} (hn : n < 256) : (UInt8.ofNat n).toNat = n := UInt8.toNat_ofNat_of_lt' hn

/-- A byte with six more bits, within the bounds of the next one. -/
theorem within {low high : UInt8} {n : Nat} (hn : n < 64) (hlow : low.toNat ≤ n + 128) (hhigh : n + 128 ≤ high.toNat) :
    (low ≤ UInt8.ofNat (n + 128) ∧ UInt8.ofNat (n + 128) ≤ high) ∧ (UInt8.ofNat (n + 128)).toNat - 0x80 = n := by
  have hnat : (UInt8.ofNat (n + 128)).toNat = n + 128 := toNat_byte (by omega)
  refine ⟨⟨?_, ?_⟩, ?_⟩
  · rwa [UInt8.le_iff_toNat_le, hnat]
  · rwa [UInt8.le_iff_toNat_le, hnat]
  · rw [hnat]
    exact Nat.add_sub_cancel ..

theorem pieces_of_more {low high : UInt8} {bits n left : Nat} (hn : n < 64) (hlow : low.toNat ≤ n + 128)
    (hhigh : n + 128 ≤ high.toNat) :
    pieces halves (some ⟨left + 2, low, high, bits⟩) (UInt8.ofNat (n + 128) :: rest) =
      pieces halves (some ⟨left + 1, 0x80, 0xBF, bits * 64 + n⟩) rest := by
  obtain ⟨hwithin, hbits⟩ := within hn hlow hhigh
  rw [pieces, if_pos hwithin]
  simp only [hbits]
  exact if_neg (by omega)

theorem pieces_of_last {low high : UInt8} {bits n : Nat} (hn : n < 64) (hlow : low.toNat ≤ n + 128)
    (hhigh : n + 128 ≤ high.toNat) :
    pieces halves (some ⟨1, low, high, bits⟩) (UInt8.ofNat (n + 128) :: rest) =
      Piece.ofNat (bits * 64 + n) :: pieces halves none rest := by
  obtain ⟨hwithin, hbits⟩ := within hn hlow hhigh
  rw [pieces, if_pos hwithin]
  simp only [hbits]
  exact if_pos (Nat.le_refl 1)

/-- Any six bits may follow but after the first byte of more than two. -/
theorem any_follows {n : Nat} (hn : n < 64) : (0x80 : UInt8).toNat ≤ n + 128 ∧ n + 128 ≤ (0xBF : UInt8).toNat :=
  ⟨show 128 ≤ n + 128 by omega, show n + 128 ≤ 191 by omega⟩

/-! ### First bytes -/

theorem start_one {n : Nat} (hn : n < 128) : start halves (UInt8.ofNat n) = .inl (Piece.ofNat n) := by
  have hnat : (UInt8.ofNat n).toNat = n := toNat_byte (Nat.lt_trans hn (by decide))
  unfold start
  simp only [hnat]
  exact if_pos hn

theorem start_two {n : Nat} (hlow : 2 ≤ n) (hhigh : n < 32) :
    start halves (UInt8.ofNat (n + 192)) = .inr ⟨1, 0x80, 0xBF, n⟩ := by
  have hnat : (UInt8.ofNat (n + 192)).toNat = n + 192 := toNat_byte (by omega)
  unfold start
  simp only [hnat]
  rw [if_neg (by omega), if_neg (by omega), if_pos (by omega), Nat.add_sub_cancel]

/-- The bounds after the first of three bytes let through what is neither overlong nor a surrogate. -/
theorem start_three (halves : Bool) {n : Nat} (hn : n < 16) :
    ∃ low high, start halves (UInt8.ofNat (n + 224)) = .inr ⟨2, low, high, n⟩ ∧
      ∀ m < 64, (n = 0 → 32 ≤ m) → (n = 13 → m < 32) → low.toNat ≤ m + 128 ∧ m + 128 ≤ high.toNat := by
  have hnat : (UInt8.ofNat (n + 224)).toNat = n + 224 := toNat_byte (by omega)
  unfold start
  simp only [hnat]
  rw [if_neg (by omega), if_neg (by omega), if_neg (by omega)]
  by_cases hzero : n = 0
  · subst hzero
    refine ⟨0xA0, 0xBF, rfl, fun m hm hfirst _ => ?_⟩
    have := hfirst rfl
    exact ⟨show 160 ≤ m + 128 by omega, show m + 128 ≤ 191 by omega⟩
  · rw [if_neg (by omega)]
    by_cases hhalf : n = 13
    · subst hhalf
      refine ⟨0x80, _, rfl, fun m hm _ hlast => ⟨show 128 ≤ m + 128 by omega, ?_⟩⟩
      have := hlast rfl
      cases halves
      · exact show m + 128 ≤ 159 by omega
      · exact show m + 128 ≤ 191 by omega
    · rw [if_neg (by omega), if_pos (by omega), Nat.add_sub_cancel]
      exact ⟨0x80, 0xBF, rfl, fun m hm _ _ => any_follows hm⟩

/-- The bounds after the first of four bytes let through what is neither overlong nor too large. -/
theorem start_four (halves : Bool) {n : Nat} (hn : n < 5) :
    ∃ low high, start halves (UInt8.ofNat (n + 240)) = .inr ⟨3, low, high, n⟩ ∧
      ∀ m < 64, (n = 0 → 16 ≤ m) → (n = 4 → m < 16) → low.toNat ≤ m + 128 ∧ m + 128 ≤ high.toNat := by
  have hnat : (UInt8.ofNat (n + 240)).toNat = n + 240 := toNat_byte (by omega)
  unfold start
  simp only [hnat]
  rw [if_neg (by omega), if_neg (by omega), if_neg (by omega), if_neg (by omega), if_neg (by omega), if_neg (by omega)]
  by_cases hzero : n = 0
  · subst hzero
    refine ⟨0x90, 0xBF, rfl, fun m hm hfirst _ => ?_⟩
    have := hfirst rfl
    exact ⟨show 144 ≤ m + 128 by omega, show m + 128 ≤ 191 by omega⟩
  · rw [if_neg (by omega)]
    by_cases hlarge : n = 4
    · subst hlarge
      refine ⟨0x80, 0x8F, rfl, fun m hm _ hlast => ?_⟩
      have := hlast rfl
      exact ⟨show 128 ≤ m + 128 by omega, show m + 128 ≤ 143 by omega⟩
    · rw [if_pos (by omega), Nat.add_sub_cancel]
      exact ⟨0x80, 0xBF, rfl, fun m hm _ _ => any_follows hm⟩

/-! ### Characters -/

/-- The bytes of a character are read as the character. -/
theorem pieces_utf8EncodeChar (c : Char) :
    pieces halves none (String.utf8EncodeChar c ++ rest) = .point (.scalar c) :: pieces halves none rest := by
  rw [← Piece.ofNat_toNat]
  have hvalid : c.toNat < 0xD800 ∨ 0xDFFF < c.toNat ∧ c.toNat < 0x110000 := c.valid
  generalize hn : c.toNat = n at hvalid ⊢
  have hbytes : String.utf8EncodeChar c =
      if n ≤ 127 then [UInt8.ofNat n]
      else if n ≤ 2047 then [UInt8.ofNat (n / 64 % 32 + 192), UInt8.ofNat (n % 64 + 128)]
      else if n ≤ 65535 then
        [UInt8.ofNat (n / 4096 % 16 + 224), UInt8.ofNat (n / 64 % 64 + 128), UInt8.ofNat (n % 64 + 128)]
      else
        [UInt8.ofNat (n / 262144 % 8 + 240), UInt8.ofNat (n / 4096 % 64 + 128), UInt8.ofNat (n / 64 % 64 + 128),
          UInt8.ofNat (n % 64 + 128)] := by
    rw [← hn]
    rfl
  have hlast := any_follows (Nat.mod_lt n (show 64 > 0 by decide))
  have hthird := any_follows (Nat.mod_lt (n / 64) (show 64 > 0 by decide))
  rw [hbytes]
  -- one case for each number of bytes
  split
  · show pieces halves none (UInt8.ofNat n :: rest) = _
    rw [pieces, start_one (by omega)]
  · split
    · show pieces halves none (UInt8.ofNat (n / 64 % 32 + 192) :: UInt8.ofNat (n % 64 + 128) :: rest) = _
      rw [pieces_of_start (start_two (by omega) (by omega)), pieces_of_last (by omega) hlast.1 hlast.2]
      congr 2
      omega
    · split
      · obtain ⟨low, high, hstart, hbounds⟩ := start_three halves (n := n / 4096 % 16) (by omega)
        obtain ⟨hlow, hhigh⟩ := hbounds (n / 64 % 64) (by omega) (by omega) (by omega)
        show pieces halves none (UInt8.ofNat (n / 4096 % 16 + 224) :: UInt8.ofNat (n / 64 % 64 + 128) ::
          UInt8.ofNat (n % 64 + 128) :: rest) = _
        rw [pieces_of_start hstart, pieces_of_more (by omega) hlow hhigh, pieces_of_last (by omega) hlast.1 hlast.2]
        congr 2
        omega
      · obtain ⟨low, high, hstart, hbounds⟩ := start_four halves (n := n / 262144 % 8) (by omega)
        obtain ⟨hlow, hhigh⟩ := hbounds (n / 4096 % 64) (by omega) (by omega) (by omega)
        show pieces halves none (UInt8.ofNat (n / 262144 % 8 + 240) :: UInt8.ofNat (n / 4096 % 64 + 128) ::
          UInt8.ofNat (n / 64 % 64 + 128) :: UInt8.ofNat (n % 64 + 128) :: rest) = _
        rw [pieces_of_start hstart, pieces_of_more (by omega) hlow hhigh,
          pieces_of_more (by omega) hthird.1 hthird.2, pieces_of_last (by omega) hlast.1 hlast.2]
        congr 2
        omega

/-- The bytes of a string are unbroken, and read as the string. -/
theorem strict_pieces_encode (halves : Bool) (s : String) :
    Piece.strict (pieces halves none (encode s)) = some (Text.ofString s) := by
  show Piece.strict (pieces halves none (s.toList.flatMap String.utf8EncodeChar)) = some (Text.ofChars s.toList)
  induction s.toList with
  | nil => rfl
  | cons c cs ih =>
    rw [List.flatMap_cons, pieces_utf8EncodeChar, Piece.strict, ih]
    rfl

end Utf8

namespace Scheme

/-- A mark starts with a zero or with a byte that is none of ASCII. -/
theorem head_of_mem_marks {m : Bytes × Scheme} (hm : m ∈ marks) :
    ∃ x rest, m.1 = x :: rest ∧ (x = 0 ∨ ¬x < 128) := by
  have hheads : ∀ m ∈ marks, m.1.head?.any (fun x => x = 0 ∨ ¬x < 128) = true := by decide
  have hhead := hheads m hm
  cases hmark : m.1 with
  | nil =>
    rw [hmark] at hhead
    cases hhead
  | cons x rest =>
    rw [hmark] at hhead
    exact ⟨x, rest, rfl, of_decide_eq_true hhead⟩

theorem unmarked_of_ne {a b : UInt8} (ha : a ≠ 0) (hb : b ≠ 0) (rest : Bytes) : unmarked (a :: b :: rest) = utf8 := by
  match rest with
  | [] => rw [unmarked, if_neg ha, if_neg hb]
  | [_] => rfl
  | _ :: _ :: _ => rw [unmarked, if_neg ha, if_neg hb]

/-- Bytes that start with one of ASCII, and without a zero among the first two, are taken for UTF-8. -/
theorem detect_of_ascii {a b : UInt8} (ha : a ≠ 0) (hascii : a < 128) (hb : b ≠ 0) (rest : Bytes) :
    detect (a :: b :: rest) = (utf8, a :: b :: rest) := by
  have hnone : marks.find? (·.1.isPrefixOf (a :: b :: rest)) = none := by
    refine List.find?_eq_none.2 fun m hm hprefix => ?_
    obtain ⟨x, tail, hmark, hx⟩ := head_of_mem_marks hm
    rw [hmark, List.isPrefixOf_cons_cons, Bool.and_eq_true, beq_iff_eq] at hprefix
    obtain ⟨rfl, -⟩ := hprefix
    exact hx.elim ha fun h => h hascii
  rw [detect, hnone, unmarked_of_ne ha hb]

/-- The bytes of a string that starts so are read as the string. -/
theorem decodeJson?_encode {s : String} {a b : UInt8} {rest : Bytes} (h : Utf8.encode s = a :: b :: rest) (ha : a ≠ 0)
    (hascii : a < 128) (hb : b ≠ 0) : decodeJson? (Utf8.encode s) = some (Text.ofString s) := by
  have hstrict := Utf8.strict_pieces_encode true s
  rw [h] at hstrict ⊢
  rw [decodeJson?, detect_of_ascii ha hascii hb]
  exact hstrict

end Scheme

end DomainPolicy
