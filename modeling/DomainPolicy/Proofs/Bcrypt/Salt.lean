import DomainPolicy.Bcrypt.Cipher
import DomainPolicy.Proofs.Bcrypt.Hash

/-!
# Fresh hashes

A text is a salt if it has one piece between dollar signs, which begins with the 22 characters of bytes (`IsSalt`).  The
setting of a fresh hash is read if and only if it ends with a salt, and then it says the cost that it was written with
and the 22 characters of the salt (`read?_freshSetting_iff`).  What is hashed under it has 60 characters, of which the
last 31 are those of a digest (`isHash_write`).
-/

namespace DomainPolicy.Bcrypt

/-! ### Salts -/

/-- Whether a text is a salt of 22 characters: those of bytes, at the beginning of the only piece that it has. -/
structure IsSalt (salt : String) (chars : List Char) : Prop where
  piece : ∃ rest, pieces salt.toList = [chars ++ rest]
  length : chars.length = 22
  bytes : ∃ bs, chars = Radix64.encode bs

/-- The 22 characters of 16 bytes are a salt. -/
theorem isSalt_encode {bs : Bytes} (h : bs.length = 16) :
    IsSalt (String.ofList (Radix64.encode bs)) (Radix64.encode bs) := by
  have hlength : (Radix64.encode bs).length = 22 := by rw [Radix64.length_encode, h]
  have hdollar : '$' ∉ Radix64.encode bs := fun hmem => (Radix64.ascii_of_mem_encode hmem).2 rfl
  have hne : Radix64.encode bs ≠ [] := fun hnil => by
    rw [hnil] at hlength
    cases hlength
  refine ⟨⟨[], ?_⟩, hlength, bs, rfl⟩
  rw [String.toList_ofList, pieces_of_isPiece ⟨hne, hdollar⟩, List.append_nil]

theorem pieces_freshSetting {n : Nat} (h : 4 ≤ n ∧ n ≤ 31) (salt : String) :
    pieces (freshSetting n salt).toList = ['2', 'b'] :: Decimal.padded 2 n :: pieces salt.toList := by
  have htext : (freshSetting n salt).toList =
      '$' :: (['2', 'b'] ++ '$' :: (Decimal.padded 2 n ++ '$' :: salt.toList)) :=
    calc
      _ = "$2b$".toList ++ Decimal.padded 2 n ++ '$' :: salt.toList := String.toList_ofList
      _ = "$2b$".toList ++ (Decimal.padded 2 n ++ '$' :: salt.toList) := List.append_assoc ..
      _ = _ := rfl
  rw [htext, pieces_dollar_cons, pieces_append_dollar (isPiece_version rfl), pieces_append_dollar (isPiece_padded h)]

/-- The setting of a fresh hash is read if and only if it ends with a salt. -/
theorem read?_freshSetting_iff {n : Nat} (hn : 4 ≤ n ∧ n ≤ 31) {salt : String} {s : Setting} :
    Setting.read? (freshSetting n salt).toList = some s ↔
      s.version = ['2', 'b'] ∧ s.cost = n ∧ IsSalt salt s.salt ∧ s.salt = Radix64.encode s.saltBytes := by
  rw [Setting.read?_eq_some_iff, pieces_freshSetting hn]
  constructor
  · rintro ⟨hs, cost, rest, hpieces, hcost⟩
    obtain ⟨hversion, rfl, hrest⟩ :
        ['2', 'b'] = s.version ∧ Decimal.padded 2 n = cost ∧ pieces salt.toList = [s.salt ++ rest] := by
      simpa using hpieces
    rw [readCost?_padded hn, Option.some_inj] at hcost
    have hchars := Radix64.decode?_eq_some_iff.1 hs.salt_read
    exact ⟨hversion.symm, hcost.symm, ⟨⟨rest, hrest⟩, hs.salt_length, _, hchars⟩, hchars⟩
  · rintro ⟨hversion, rfl, ⟨⟨rest, hrest⟩, hlength, -⟩, hchars⟩
    refine ⟨⟨by rw [hversion]; rfl, hn, hlength, Radix64.decode?_eq_some_iff.2 hchars⟩, _, rest, ?_, readCost?_padded hn⟩
    rw [hversion, hrest]

/-! ### Hashes -/

/-- Whether a text is a hash of version `2b`: it says a cost in two digits and the 22 characters of a salt, and ends
with 31 characters of the alphabet. -/
def IsHash (hash : String) (cost : Nat) (salt : List Char) : Prop :=
  ∃ digits checksum, hash.toList = "$2b$".toList ++ digits ++ '$' :: (salt ++ checksum) ∧
    (digits.length = 2 ∧ (∀ c ∈ digits, Decimal.isDigit c = true) ∧ Decimal.value digits = cost) ∧
    (salt.length = 22 ∧ ∀ c ∈ salt, c ∈ Radix64.alphabet) ∧
    checksum.length = 31 ∧ ∀ c ∈ checksum, c ∈ Radix64.alphabet

theorem IsHash.length {hash : String} {cost : Nat} {salt : List Char} (h : IsHash hash cost salt) :
    hash.length = 60 := by
  obtain ⟨digits, checksum, htext, ⟨hdigits, -⟩, ⟨hsalt, -⟩, hchecksum, -⟩ := h
  rw [← String.length_toList, htext]
  simp [hdigits, hsalt, hchecksum]

/-- A digest of 23 bytes is written in 31 characters behind a setting. -/
theorem isHash_write {s : Setting} (hs : s.Sound) (hversion : s.version = ['2', 'b']) {digest : Bytes}
    (hdigest : digest.length = 23) : IsHash (String.ofList (s.write digest)) s.cost s.salt := by
  refine ⟨Decimal.padded 2 s.cost, Radix64.encode digest, ?_, ⟨?_, ?_, ?_⟩, ⟨hs.salt_length, ?_⟩, ?_, ?_⟩
  · rw [String.toList_ofList, Setting.write, hversion]
    simp
  · exact Decimal.length_padded_two (by have := hs.cost_le.2; omega)
  · exact fun c => Decimal.isDigit_of_mem_padded
  · exact Decimal.value_padded 2 s.cost
  · intro c hc
    rw [Radix64.decode?_eq_some_iff.1 hs.salt_read] at hc
    exact Radix64.mem_alphabet_of_mem_encode hc
  · rw [Radix64.length_encode, hdigest]
  · exact fun c => Radix64.mem_alphabet_of_mem_encode

/-- The cipher gives 23 bytes. -/
theorem length_digest (cost : Nat) (salt key : Bytes) : (digest cost salt key).length = 23 := by
  unfold digest
  simp only [List.length_take, List.length_flatMap, magicBlocks, wordBytes, List.map_cons, List.map_nil]
  rfl

end DomainPolicy.Bcrypt
