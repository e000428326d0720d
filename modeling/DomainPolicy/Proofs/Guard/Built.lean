import DomainPolicy.Proofs.Bcrypt.Salt
import DomainPolicy.Proofs.Guard.Secret

/-!
# Credentials that were built

A secret that is not too long gets a credential at every cost within bounds if and only if the salt is one
(`exists_build_iff`).  The hash that is stored then has one form, with the cost and the salt as they were given, and the
secret matches it whatever its characters are (`verify_of_salted`).
-/

namespace DomainPolicy.Credential

open Bcrypt (Digest IsSalt IsHash cyclicKey)

variable {digest : Digest} {secret salt : String} {rounds : Int} {chars : List Char} {c : Credential}

/-- A secret that is not too long is hashed at a cost within bounds, if there is a salt to hash it with. -/
theorem build_of_bounds (hsecret : Utf8.size secret ≤ maxSecretBytes) (hrounds : 4 ≤ rounds ∧ rounds ≤ 31) :
    build digest secret rounds salt =
      match Bcrypt.hash? digest (Utf8.encode secret) (Bcrypt.freshSetting rounds.toNat salt) with
      | some hash => .ok ⟨hash⟩
      | none => .error (.refused ⟨.hash, some .invalidSalt⟩) := by
  unfold build
  simp only
  rw [if_neg (by omega), if_neg (by omega)]
  exact if_neg (by omega)

/-- With a salt, what is stored is written from the cost, the 22 characters of the salt and the digest. -/
theorem build_of_isSalt (digest : Digest) (hsecret : Utf8.size secret ≤ maxSecretBytes)
    (hrounds : 4 ≤ rounds ∧ rounds ≤ 31) (hsalt : IsSalt salt chars) :
    ∃ s : Bcrypt.Setting, s.Sound ∧ s.version = ['2', 'b'] ∧ s.cost = rounds.toNat ∧ s.salt = chars ∧
      build digest secret rounds salt =
        .ok ⟨String.ofList (s.write (digest s.cost s.saltBytes (cyclicKey (Utf8.encode secret))))⟩ := by
  obtain ⟨bs, hbs⟩ := hsalt.bytes
  have hcost : 4 ≤ rounds.toNat ∧ rounds.toNat ≤ 31 := by omega
  have hread : Bcrypt.Setting.read? (Bcrypt.freshSetting rounds.toNat salt).toList =
      some ⟨['2', 'b'], rounds.toNat, chars, bs⟩ :=
    (Bcrypt.read?_freshSetting_iff hcost).2 ⟨rfl, rfl, hsalt, hbs⟩
  refine ⟨_, Bcrypt.Setting.sound_of_read? hread, rfl, rfl, rfl, ?_⟩
  rw [build_of_bounds hsecret hrounds, Bcrypt.hash?, hread]
  rfl

/-- There is a credential if and only if the salt is one. -/
theorem exists_build_iff (digest : Digest) (hsecret : Utf8.size secret ≤ maxSecretBytes)
    (hrounds : 4 ≤ rounds ∧ rounds ≤ 31) :
    (∃ c, build digest secret rounds salt = .ok c) ↔ ∃ chars, IsSalt salt chars := by
  constructor
  · rintro ⟨c, hc⟩
    rw [build_of_bounds hsecret hrounds, Bcrypt.hash?] at hc
    cases hread : Bcrypt.Setting.read? (Bcrypt.freshSetting rounds.toNat salt).toList with
    | none =>
      rw [hread] at hc
      cases hc
    | some s =>
      have hcost : 4 ≤ rounds.toNat ∧ rounds.toNat ≤ 31 := by omega
      obtain ⟨-, -, hsalt, -⟩ := (Bcrypt.read?_freshSetting_iff hcost).1 hread
      exact ⟨s.salt, hsalt⟩
  · rintro ⟨chars, hsalt⟩
    obtain ⟨s, -, -, -, -, hbuild⟩ := build_of_isSalt digest hsecret hrounds hsalt
    exact ⟨_, hbuild⟩

/-- With a digest of 23 bytes, what is stored has the form of a hash. -/
theorem isHash_of_build (hdigest : ∀ cost salt key, (digest cost salt key).length = 23)
    (hrounds : 4 ≤ rounds ∧ rounds ≤ 31) (hsalt : IsSalt salt chars)
    (h : build digest secret rounds salt = .ok c) : IsHash c.hash rounds.toNat chars := by
  obtain ⟨s, hs, hversion, hcost, hchars, hbuild⟩ := build_of_isSalt digest (hash?_of_build h).1 hrounds hsalt
  cases h.symm.trans hbuild
  rw [← hcost, ← hchars]
  exact Bcrypt.isHash_write hs hversion (hdigest ..)

/-- A secret of at most 72 bytes gets a credential at every cost from 4 to 31 with exactly the texts that are salts, and
the secret matches it.  What is stored are 60 characters of ASCII: the version, the cost in two digits, the 22
characters of the salt, and 31 others of the same alphabet. -/
theorem verify_of_salted (hsecret : Utf8.size secret ≤ maxSecretBytes) (hrounds : 4 ≤ rounds ∧ rounds ≤ 31) :
    (∀ salt, (∃ c, build Bcrypt.digest secret rounds salt = .ok c) ↔ ∃ chars, IsSalt salt chars) ∧
      ∀ salt chars, IsSalt salt chars → ∃ c, build Bcrypt.digest secret rounds salt = .ok c ∧
        c.verify Bcrypt.digest ⟨secret⟩ = .ok true ∧
        IsHash c.hash rounds.toNat chars ∧ c.hash.length = 60 ∧ ∀ x ∈ c.hash.toList, x.toNat < 128 := by
  refine ⟨fun salt => exists_build_iff Bcrypt.digest hsecret hrounds, fun salt chars hsalt => ?_⟩
  obtain ⟨c, hc⟩ := (exists_build_iff Bcrypt.digest hsecret hrounds).2 ⟨chars, hsalt⟩
  have hhash : IsHash c.hash rounds.toNat chars := isHash_of_build Bcrypt.length_digest hrounds hsalt hc
  have hascii : ∀ x ∈ c.hash.toList, x.toNat < 128 := by
    obtain ⟨-, setting, hsetting⟩ := hash?_of_build hc
    exact Bcrypt.ascii_of_hash? hsetting
  exact ⟨c, hc, verify_self hc, hhash, hhash.length, hascii⟩

/-- A secret with a character zero and one outside ASCII, at the greatest cost, with a salt of 16 bytes. -/
theorem verify_of_salted_zero :
    ∃ c, build Bcrypt.digest "a\x00ü" 31 (saltText (List.replicate 16 255)) = .ok c ∧
      c.verify Bcrypt.digest ⟨"a\x00ü"⟩ = .ok true ∧
      IsHash c.hash 31 (Bcrypt.Radix64.encode (List.replicate 16 255)) ∧ c.hash.length = 60 := by
  have hsalt : IsSalt (saltText (List.replicate 16 255)) (Bcrypt.Radix64.encode (List.replicate 16 255)) :=
    Bcrypt.isSalt_encode rfl
  have hsecret : Utf8.size "a\x00ü" ≤ maxSecretBytes := by decide
  have hrounds : (4 : Int) ≤ 31 ∧ (31 : Int) ≤ 31 := by decide
  obtain ⟨-, hsalted⟩ := verify_of_salted hsecret hrounds
  obtain ⟨c, hc, hverify, hhash, hlength, -⟩ := hsalted _ _ hsalt
  exact ⟨c, hc, hverify, hhash, hlength⟩

end DomainPolicy.Credential
