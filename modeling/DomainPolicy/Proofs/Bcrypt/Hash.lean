import DomainPolicy.Proofs.Bcrypt.Piece
import DomainPolicy.Proofs.Bcrypt.Radix64

/-!
# Checking a password against a hash

A setting that was read is `Sound`, and the text that it writes is read back as the same setting
(`Sound.read?_write`).  So a password is checked under the cost and the salt of the password that was hashed, and has
the hash if and only if the two have the same digest (`check?_of_hash?`).
-/

namespace DomainPolicy.Bcrypt

namespace Setting

/-- A setting that the text of a hash can say. -/
structure Sound (s : Setting) : Prop where
  version : isVersion s.version = true
  cost_le : 4 ≤ s.cost ∧ s.cost ≤ 31
  salt_length : s.salt.length = 22
  salt_read : Radix64.decode? s.salt = some s.saltBytes

/-! ### Settings that were read -/

/-- What is read is a sound setting from three pieces: its version, its cost and what begins with its salt. -/
theorem read?_eq_some_iff {cs : List Char} {s : Setting} :
    read? cs = some s ↔
      s.Sound ∧ ∃ cost rest, pieces cs = [s.version, cost, s.salt ++ rest] ∧ readCost? cost = some s.cost := by
  constructor
  · intro h
    unfold read? at h
    split at h
    · rename_i version cost rest hpieces
      split at h
      · rename_i hversion
        obtain ⟨n, hn, h⟩ := Option.bind_eq_some_iff.1 h
        obtain ⟨-, ds, -, -, hds, rfl⟩ := readCost?_eq_some_iff.1 hn
        simp only at h
        split at h
        · rename_i hlength
          obtain ⟨bs, hbs, rfl⟩ := Option.map_eq_some_iff.1 h
          refine ⟨⟨hversion, hds.bounds, hlength, hbs⟩, cost, rest.drop 22, ?_, hn⟩
          rw [List.take_append_drop, hpieces]
        · cases h
      · cases h
    · cases h
  · rintro ⟨hs, cost, rest, hpieces, hcost⟩
    have htake : (s.salt ++ rest).take 22 = s.salt := by rw [← hs.salt_length, List.take_left]
    unfold read?
    rw [hpieces]
    simp only [hs.version, hcost, htake, hs.salt_length, hs.salt_read, if_true, Option.bind_some, Option.map_some]

theorem sound_of_read? {cs : List Char} {s : Setting} (h : read? cs = some s) : s.Sound := (read?_eq_some_iff.1 h).1

/-! ### Its text -/

namespace Sound

variable {s : Setting}

theorem mem_salt (h : s.Sound) : ∀ c ∈ s.salt, c.toNat < 128 ∧ c ≠ '$' := Radix64.ascii_of_decode? h.salt_read

theorem isPiece_salt (h : s.Sound) : IsPiece s.salt :=
  ⟨List.ne_nil_of_length_eq_add_one h.salt_length, fun hmem => (h.mem_salt _ hmem).2 rfl⟩

/-- What a setting writes is read back, whatever the digest behind it. -/
theorem read?_write (h : s.Sound) (digest : Bytes) : read? (s.write digest) = some s := by
  refine read?_eq_some_iff.2 ⟨h, Decimal.padded 2 s.cost, Radix64.encode digest, ?_, readCost?_padded h.cost_le⟩
  have hwrite : s.write digest =
      '$' :: (s.version ++ '$' :: (Decimal.padded 2 s.cost ++ '$' :: (s.salt ++ Radix64.encode digest))) := by
    simp [write]
  have hrest : IsPiece (s.salt ++ Radix64.encode digest) :=
    h.isPiece_salt.append fun hmem => (Radix64.ascii_of_mem_encode hmem).2 rfl
  rw [hwrite, pieces_dollar_cons, pieces_append_dollar (isPiece_version h.version),
    pieces_append_dollar (isPiece_padded h.cost_le), pieces_of_isPiece hrest]

theorem ascii_write (h : s.Sound) (digest : Bytes) : ∀ c ∈ s.write digest, c.toNat < 128 := by
  intro c hc
  simp only [write, List.cons_append, List.append_assoc, List.mem_cons, List.mem_append] at hc
  rcases hc with rfl | hc | rfl | hc | rfl | hc | hc
  · decide
  · exact ascii_of_isVersion h.version c hc
  · decide
  · have hdigit := Decimal.isDigit_of_mem_padded hc
    simp only [Decimal.isDigit, Bool.and_eq_true, decide_eq_true_eq] at hdigit
    omega
  · decide
  · exact (h.mem_salt c hc).1
  · exact (Radix64.ascii_of_mem_encode hc).1

end Sound

/-- Different digests are written differently. -/
theorem write_injective (s : Setting) : Function.Injective s.write := by
  intro d d' h
  exact Radix64.encode_injective (List.append_cancel_left h)

end Setting

/-! ### Checking -/

variable {digest : Digest} {p : Bytes} {setting hash : String}

/-- A hash is ASCII. -/
theorem ascii_of_hash? (h : hash? digest p setting = some hash) : ∀ c ∈ hash.toList, c.toNat < 128 := by
  obtain ⟨s, hs, rfl⟩ := Option.map_eq_some_iff.1 h
  rw [String.toList_ofList]
  exact (Setting.sound_of_read? hs).ascii_write _

/-- A password has the hash of another one if and only if both have the same digest. -/
theorem check?_of_hash? (h : hash? digest p setting = some hash) :
    ∃ cost salt, ∀ q, check? digest q hash =
      some (decide (digest cost salt (cyclicKey q) = digest cost salt (cyclicKey p))) := by
  obtain ⟨s, hs, rfl⟩ := Option.map_eq_some_iff.1 h
  refine ⟨s.cost, s.saltBytes, fun q => ?_⟩
  -- the hash is hashed again under the setting that it says itself
  have hread : Setting.read? (s.write (digest s.cost s.saltBytes (cyclicKey p))) = some s :=
    (Setting.sound_of_read? hs).read?_write _
  rw [check?, hash?, String.toList_ofList, hread, Option.map_some, Option.map_some, Option.some_inj]
  rw [Bool.eq_iff_iff, beq_iff_eq, decide_eq_true_eq, String.ofList_inj]
  exact s.write_injective.eq_iff

end DomainPolicy.Bcrypt
