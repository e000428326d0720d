import DomainPolicy.Proofs.Text.ByteOrder
import DomainPolicy.Proofs.Token.Header

/-!
# Tokens that can be sent

A token that can be sent is header text, and among other headers its header presents it (`presents_of_header`).
-/

namespace DomainPolicy.Token

theorem isHeaderChar_iff {c : Char} : isHeaderChar c = true ↔ c.toNat = 9 ∨ 0x20 ≤ c.toNat ∧ c.toNat ≤ 0x7E := by
  have htab : c = '\t' ↔ c.toNat = 9 := by
    rw [← Char.toNat_inj]
    rfl
  rw [isHeaderChar, Bool.or_eq_true, beq_iff_eq, Bool.and_eq_true, decide_eq_true_eq, decide_eq_true_eq, htab]
  exact Iff.rfl

/-- A character of header text is one byte of it. -/
theorem utf8EncodeChar_of_isHeaderChar {c : Char} (h : isHeaderChar c = true) :
    ∃ b, String.utf8EncodeChar c = [b] ∧ (b = 0x09 ∨ 0x20 ≤ b ∧ b ≤ 0x7E) := by
  have hle : c.toNat ≤ 127 := by
    have := isHeaderChar_iff.1 h
    omega
  have hnat : (UInt8.ofNat c.toNat).toNat = c.toNat := UInt8.toNat_ofNat_of_lt' (Nat.lt_of_le_of_lt hle (by decide))
  refine ⟨UInt8.ofNat c.toNat, if_pos hle, ?_⟩
  rw [← UInt8.toNat_inj, UInt8.le_iff_toNat_le, UInt8.le_iff_toNat_le, hnat]
  exact isHeaderChar_iff.1 h

theorem isText_encode {s : String} (hne : s.toList ≠ []) (h : s.toList.all isHeaderChar = true) :
    IsText (Utf8.encode s) := by
  rw [List.all_eq_true] at h
  constructor
  · obtain ⟨c, cs, hcs⟩ := List.exists_cons_of_ne_nil hne
    obtain ⟨b, hb, -⟩ := utf8EncodeChar_of_isHeaderChar (h c (by rw [hcs]; exact List.mem_cons_self ..))
    rw [Utf8.encode, hcs, List.flatMap_cons, hb]
    exact List.cons_ne_nil _ _
  · intro b hb
    obtain ⟨c, hc, hb⟩ := List.mem_flatMap.1 hb
    obtain ⟨b', hb', htext⟩ := utf8EncodeChar_of_isHeaderChar (h c hc)
    rw [hb', List.mem_singleton] at hb
    rwa [hb]

/-- A token that can be sent is sent as it is, and is header text. -/
theorem isText_of_encode {t : Token} {value : String} (h : t.encode = .ok value) :
    value = t.value ∧ IsText (Utf8.encode t.value) := by
  unfold encode at h
  dsimp only at h
  split at h
  · cases h
  · rename_i hne
    split at h
    · cases h
    · split at h
      · rename_i hall
        cases h
        exact ⟨rfl, isText_encode hne hall⟩
      · cases h

theorem decode_encode_of_isText {s : String} (h : IsText (Utf8.encode s)) : Latin1.decode (Utf8.encode s) = s :=
  Utf8.encode_injective (encode_value_of_isText h)

theorem spells_headerName : Spells (Utf8.encode headerName) := isHeaderName_iff.1 (by decide +kernel)

/-- Among other headers, that of a token presents the token. -/
theorem presents_of_header {t : Token} {h : Bytes × Bytes} (hh : t.header = .ok h) {before after : Headers}
    (hothers : ∀ p ∈ before ++ after, ¬Spells p.1) :
    Presents (before ++ h :: after) (Utf8.encode t.value) ∧ Latin1.decode (Utf8.encode t.value) = t.value := by
  cases hvalue : t.encode with
  | error e =>
    rw [header, hvalue] at hh
    cases hh
  | ok value =>
    obtain ⟨rfl, htext⟩ := isText_of_encode hvalue
    rw [header, hvalue] at hh
    cases hh
    exact ⟨⟨⟨before, _, after, rfl, spells_headerName, hothers⟩, htext⟩, decode_encode_of_isText htext⟩

end DomainPolicy.Token
