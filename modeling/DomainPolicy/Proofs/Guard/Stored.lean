import DomainPolicy.Proofs.Bcrypt.Reading
import DomainPolicy.Proofs.Guard.Stage

/-!
# Stored texts that no hash was written as

A credential may hold any text.  Whether the text can be compared with, and if not for what cause, does not depend on
the token (`Fault`, `verify_eq_error_iff`).  A text that can be compared with is matched by a token if and only if it is
what is written for the token under some setting (`matches_iff`), so only a canonical text is ever matched.
-/

namespace DomainPolicy.Credential

open Bcrypt (Digest IsReadable IsCanonical cyclicKey)

variable {digest : Digest} {c : Credential} {t : Token} {r : Refusal}

/-- What is wrong with a stored text: a character outside ASCII, or else that it cannot be read as a hash. -/
inductive Fault (hash : String) : Cause → Prop
  | notAscii : (∃ x ∈ hash.toList, 128 ≤ x.toNat) → Fault hash (.hashNotAscii hash)
  | unreadable : (∀ x ∈ hash.toList, x.toNat < 128) → ¬IsReadable hash.toList → Fault hash .invalidSalt

theorem isUsable_iff : c.IsUsable ↔ (∀ x ∈ c.hash.toList, x.toNat < 128) ∧ IsReadable c.hash.toList := by
  rw [← Bcrypt.exists_read?_iff]
  exact ⟨fun h => ⟨h.ascii, h.setting⟩, fun h => ⟨h.1, h.2⟩⟩

/-- A stored text can be compared with if and only if nothing is wrong with it. -/
theorem isUsable_iff_not_fault : c.IsUsable ↔ ∀ cause, ¬Fault c.hash cause := by
  rw [isUsable_iff]
  constructor
  · rintro ⟨hascii, hreadable⟩ cause (⟨x, hx, hle⟩ | ⟨-, hnot⟩)
    · exact absurd (hascii x hx) (Nat.not_lt.2 hle)
    · exact hnot hreadable
  · intro h
    have hascii : ∀ x ∈ c.hash.toList, x.toNat < 128 :=
      fun x hx => Nat.lt_of_not_le fun hle => h _ (.notAscii ⟨x, hx, hle⟩)
    exact ⟨hascii, by_contra fun hnot => h _ (.unreadable hascii hnot)⟩

/-- A comparison with a text that something is wrong with is refused for that cause. -/
theorem verify_of_fault (digest : Digest) (ht : Utf8.size t.value ≤ maxSecretBytes) {cause : Cause}
    (h : Fault c.hash cause) : c.verify digest t = .error ⟨.verify, some cause⟩ := by
  rw [verify, if_neg (Nat.not_lt.2 ht)]
  cases h with
  | notAscii h =>
    obtain ⟨x, hx, hle⟩ := h
    refine if_neg fun hall => ?_
    exact absurd (of_decide_eq_true (List.all_eq_true.1 hall x hx)) (Nat.not_lt.2 hle)
  | unreadable hascii hnot =>
    have hread : Bcrypt.Setting.read? c.hash.toList = none :=
      Option.eq_none_iff_forall_ne_some.2 fun s hs => hnot (Bcrypt.exists_read?_iff.1 ⟨s, hs⟩)
    rw [if_pos (List.all_eq_true.2 fun x hx => decide_eq_true (hascii x hx)), Bcrypt.check?, Bcrypt.hash?, hread]
    rfl

/-- Whether a comparison is refused, and for what cause, the stored text alone decides. -/
theorem verify_eq_error_iff (ht : Utf8.size t.value ≤ maxSecretBytes) :
    c.verify digest t = .error r ↔ ∃ cause, Fault c.hash cause ∧ r = ⟨.verify, some cause⟩ := by
  constructor
  · intro h
    by_cases husable : c.IsUsable
    · obtain ⟨b, hb, -⟩ := verify_of_isUsable digest ht husable
      cases h.symm.trans hb
    · obtain ⟨cause, hcause⟩ : ∃ cause, Fault c.hash cause := by
        rw [isUsable_iff_not_fault, not_forall] at husable
        exact husable.imp fun _ => not_not.1
      cases h.symm.trans (verify_of_fault digest ht hcause)
      exact ⟨cause, hcause, rfl⟩
  · rintro ⟨cause, hcause, rfl⟩
    exact verify_of_fault digest ht hcause

/-- A password matches a stored text that is what is written for it under some setting. -/
theorem matches_iff {password : Bytes} :
    c.Matches digest password ↔ ∃ s : Bcrypt.Setting, s.Sound ∧
      c.hash.toList = s.write (digest s.cost s.saltBytes (cyclicKey password)) := Bcrypt.hash?_eq_self_iff

/-- What is matched is canonical. -/
theorem Matches.isCanonical {password : Bytes} (hdigest : ∀ cost salt key, (digest cost salt key).length = 23)
    (h : c.Matches digest password) : IsCanonical c.hash.toList := by
  obtain ⟨s, hs, hhash⟩ := matches_iff.1 h
  rw [hhash]
  exact Bcrypt.isCanonical_write hs (hdigest ..)

theorem verify_eq_true_iff_matches :
    c.verify digest t = .ok true ↔ Utf8.size t.value ≤ maxSecretBytes ∧ c.Matches digest (Utf8.encode t.value) := by
  by_cases ht : Utf8.size t.value ≤ maxSecretBytes
  · constructor
    · intro h
      by_cases husable : c.IsUsable
      · obtain ⟨b, hb, hmatches⟩ := verify_of_isUsable digest ht husable
        cases h.symm.trans hb
        exact ⟨ht, hmatches.1 rfl⟩
      · obtain ⟨r, hr, -⟩ := verify_of_not_isUsable digest ht husable
        cases h.symm.trans hr
    · rintro ⟨-, h⟩
      obtain ⟨b, hb, hmatches⟩ := verify_of_isUsable digest ht h.isUsable
      rw [hb, hmatches.2 h]
  · rw [verify_of_long (Nat.not_le.1 ht)]
    exact iff_of_false (fun h => nomatch h) fun h => ht h.1

/-- Whatever text is stored, a token gets one of three answers.  It matches if and only if it has at most 72 bytes and
the text is what is written for it under some setting, and then the text is canonical; any other text that can be read
is matched by no token.  A longer token matches no text; for others the comparison is refused if and only if something
is wrong with the text, and the cause says what. -/
theorem verify_of_stored (c : Credential) (t : Token) :
    (c.verify Bcrypt.digest t = .ok true ∨ c.verify Bcrypt.digest t = .ok false ∨
        ∃ r, c.verify Bcrypt.digest t = .error r ∧ r.kind = .verify) ∧
      (c.verify Bcrypt.digest t = .ok true ↔ Utf8.size t.value ≤ maxSecretBytes ∧ ∃ s : Bcrypt.Setting, s.Sound ∧
        c.hash.toList = s.write (Bcrypt.digest s.cost s.saltBytes (cyclicKey (Utf8.encode t.value)))) ∧
      (c.verify Bcrypt.digest t = .ok true → IsCanonical c.hash.toList) ∧
      ((∀ x ∈ c.hash.toList, x.toNat < 128) → IsReadable c.hash.toList → ¬IsCanonical c.hash.toList →
        c.verify Bcrypt.digest t = .ok false) ∧
      (maxSecretBytes < Utf8.size t.value → c.verify Bcrypt.digest t = .ok false) ∧
      (Utf8.size t.value ≤ maxSecretBytes → ∀ r, c.verify Bcrypt.digest t = .error r ↔
        ∃ cause, Fault c.hash cause ∧ r = ⟨.verify, some cause⟩) := by
  have hmatches : c.verify Bcrypt.digest t = .ok true → IsCanonical c.hash.toList := fun h =>
    (verify_eq_true_iff_matches.1 h).2.isCanonical Bcrypt.length_digest
  have hanswers : Utf8.size t.value ≤ maxSecretBytes → c.IsUsable → ∃ b, c.verify Bcrypt.digest t = .ok b := by
    intro ht husable
    obtain ⟨b, hb, -⟩ := verify_of_isUsable Bcrypt.digest ht husable
    exact ⟨b, hb⟩
  refine ⟨?_, ?_, hmatches, ?_, verify_of_long, fun ht r => verify_eq_error_iff ht⟩
  · rcases Nat.lt_or_ge maxSecretBytes (Utf8.size t.value) with ht | ht
    · exact Or.inr (Or.inl (verify_of_long ht))
    · by_cases husable : c.IsUsable
      · obtain ⟨b, hb⟩ := hanswers ht husable
        rw [hb]
        cases b with
        | true => exact Or.inl rfl
        | false => exact Or.inr (Or.inl rfl)
      · exact Or.inr (Or.inr (verify_of_not_isUsable Bcrypt.digest ht husable))
  · rw [verify_eq_true_iff_matches, matches_iff]
  · intro hascii hreadable hnot
    rcases Nat.lt_or_ge maxSecretBytes (Utf8.size t.value) with ht | ht
    · exact verify_of_long ht
    · obtain ⟨b, hb⟩ := hanswers ht (isUsable_iff.2 ⟨hascii, hreadable⟩)
      cases b with
      | true => exact absurd (hmatches hb) hnot
      | false => exact hb

/-- A hash of `s3cr3t` with a plus sign in front of its cost can be read and is not canonical: `s3cr3t` does not match
it. -/
theorem verify_of_stored_plus_sign :
    let c : Credential := ⟨"$2b$+04$abcdefghijklmnopqrstuu35fBIWlNgF8BcAW/t2cO158N8svSFHy"⟩
    IsReadable c.hash.toList ∧ ¬IsCanonical c.hash.toList ∧ c.verify Bcrypt.digest ⟨"s3cr3t"⟩ = .ok false := by
  intro c
  have hreadable : IsReadable c.hash.toList :=
    Bcrypt.exists_read?_iff.1 (Option.isSome_iff_exists.1 (by decide +kernel))
  have hascii : c.hash.toList.all (fun x => decide (x.toNat < 128)) = true := by decide +kernel
  have hnot : ¬IsCanonical c.hash.toList := fun h => absurd h.length (by decide +kernel)
  obtain ⟨-, -, -, hfalse, -, -⟩ := verify_of_stored c ⟨"s3cr3t"⟩
  refine ⟨hreadable, hnot, hfalse (fun x hx => ?_) hreadable hnot⟩
  exact of_decide_eq_true (List.all_eq_true.1 hascii x hx)

end DomainPolicy.Credential
