import DomainPolicy.Guard
import DomainPolicy.Proofs.Bcrypt.Hash
import DomainPolicy.Proofs.Bcrypt.Key
import DomainPolicy.Proofs.Text.ByteOrder

/-!
# What opens the guard

A credential says of every token that is short enough whether it has the digest of the secret (`verify_of_build`).  A
token that a header carries has no zero byte, so with a digest that tells the two keys apart it matches if and only if
the secret repeats it with zero bytes between.  A secret without a zero byte is matched by itself alone; one such as
`a\0a` is matched by `a`.
-/

namespace DomainPolicy

open Bcrypt (Digest cyclicKey repeats)

/-! ### Zero bytes -/

namespace Utf8

theorem eq_of_zero_mem_utf8EncodeChar {c : Char} (h : 0 ∈ String.utf8EncodeChar c) : c = '\x00' := by
  -- every byte of a character that takes more than one is at least 128
  have hne : ∀ n, 128 ≤ n → n < 256 → (0 : UInt8) ≠ UInt8.ofNat n := by
    intro n hlow hhigh he
    have := congrArg UInt8.toNat he
    rw [UInt8.toNat_ofNat_of_lt' hhigh] at this
    change 0 = n at this
    omega
  unfold String.utf8EncodeChar at h
  simp only at h
  split at h
  · rename_i hsmall
    rw [List.mem_singleton] at h
    have := congrArg UInt8.toNat h
    rw [UInt8.toNat_ofNat_of_lt' (Nat.lt_of_le_of_lt hsmall (by decide))] at this
    exact Char.toNat_inj.1 this.symm
  · exfalso
    split at h
    · simp only [List.mem_cons, List.not_mem_nil, or_false] at h
      rcases h with h | h <;> exact hne _ (by omega) (by omega) h
    · split at h
      · simp only [List.mem_cons, List.not_mem_nil, or_false] at h
        rcases h with h | h | h <;> exact hne _ (by omega) (by omega) h
      · simp only [List.mem_cons, List.not_mem_nil, or_false] at h
        rcases h with h | h | h | h <;> exact hne _ (by omega) (by omega) h

/-- A string without the character zero has no zero byte. -/
theorem zero_not_mem_encode {s : String} (h : '\x00' ∉ s.toList) : 0 ∉ encode s := by
  intro hzero
  obtain ⟨c, hc, hzero⟩ := List.mem_flatMap.1 hzero
  rw [eq_of_zero_mem_utf8EncodeChar hzero] at hc
  exact h hc

end Utf8

/-- A header carries no character zero. -/
theorem Token.zero_not_mem {headers : Headers} {t : Token} (h : Token.parse headers = .ok t) :
    '\x00' ∉ t.value.toList := by
  unfold Token.parse at h
  split at h
  · cases h
  · rename_i value hvalues
    split at h
    · rename_i hvalue
      cases h
      intro hzero
      rw [Latin1.decode, String.toList_ofList] at hzero
      obtain ⟨b, hb, hbzero⟩ := List.mem_map.1 hzero
      have hbyte := List.all_eq_true.1 hvalue.2 b hb
      have hb0 : b.toNat = 0 := by
        rw [← Latin1.toNat_ofNat_of_lt b.toNat_lt, hbzero]
        rfl
      rw [UInt8.toNat_inj.1 (hb0.trans (UInt8.toNat_zero).symm)] at hbyte
      cases hbyte
    · cases h
  · cases h

/-! ### Credentials -/

namespace Credential

variable {digest : Digest} {secret salt : String} {rounds : Int} {c : Credential} {t : Token}

theorem hash?_of_build (h : build digest secret rounds salt = .ok c) :
    Utf8.size secret ≤ maxSecretBytes ∧
      ∃ setting, Bcrypt.hash? digest (Utf8.encode secret) setting = some c.hash := by
  unfold build at h
  simp only at h
  split at h
  · cases h
  · rename_i hsize
    split at h
    · cases h
    · split at h
      · cases h
      · split at h
        · rename_i hash hhash
          cases h
          exact ⟨Nat.not_lt.1 hsize, _, hhash⟩
        · cases h

/-- A token short enough is compared with the secret by their digests. -/
theorem verify_of_build (h : build digest secret rounds salt = .ok c) (ht : Utf8.size t.value ≤ maxSecretBytes) :
    ∃ cost salt, c.verify digest t = .ok (decide
      (digest cost salt (cyclicKey (Utf8.encode t.value)) = digest cost salt (cyclicKey (Utf8.encode secret)))) := by
  obtain ⟨-, setting, hhash⟩ := hash?_of_build h
  obtain ⟨cost, salt, hcheck⟩ := Bcrypt.check?_of_hash? hhash
  have hascii : (c.hash.toList.all fun c => decide (c.toNat < 128)) = true := by
    rw [List.all_eq_true]
    exact fun x hx => decide_eq_true (Bcrypt.ascii_of_hash? hhash x hx)
  refine ⟨cost, salt, ?_⟩
  rw [verify, if_neg (Nat.not_lt.2 ht), if_pos hascii, hcheck]

/-- Whether a digest gives two passwords with different keys different digests, whatever the cost and the salt. -/
def Separates (digest : Digest) (p q : Bytes) : Prop :=
  ∀ cost salt, digest cost salt (cyclicKey p) = digest cost salt (cyclicKey q) → cyclicKey p = cyclicKey q

/-- A token that is too long matches no secret, and any other one matches those with its key. -/
theorem verify_eq_decide (h : build digest secret rounds salt = .ok c)
    (hdigest : Separates digest (Utf8.encode t.value) (Utf8.encode secret)) :
    c.verify digest t = .ok (decide (Utf8.size t.value ≤ maxSecretBytes ∧
      cyclicKey (Utf8.encode secret) = cyclicKey (Utf8.encode t.value))) := by
  by_cases ht : Utf8.size t.value ≤ maxSecretBytes
  · obtain ⟨cost, salt, hverify⟩ := verify_of_build h ht
    rw [hverify, Except.ok.injEq, decide_eq_decide]
    constructor
    · exact fun he => ⟨ht, (hdigest cost salt he).symm⟩
    · rintro ⟨-, hkey⟩
      rw [hkey]
  · rw [verify, if_pos (Nat.not_le.1 ht)]
    simp [ht]

/-- The secret itself matches, with any digest. -/
theorem verify_self (h : build digest secret rounds salt = .ok c) : c.verify digest ⟨secret⟩ = .ok true := by
  obtain ⟨cost, salt, hverify⟩ := verify_of_build (t := ⟨secret⟩) h (hash?_of_build h).1
  rw [hverify, decide_eq_true rfl]

/-- A secret, a cost and a salt that can be used give a credential, whose hash is written from them. -/
theorem build_of_sound {s : Bcrypt.Setting} (hs : s.Sound) (hversion : s.version = ['2', 'b'])
    (hsecret : Utf8.size secret ≤ maxSecretBytes) :
    build digest secret s.cost (String.ofList s.salt) =
      .ok ⟨String.ofList (s.write (digest s.cost s.saltBytes (cyclicKey (Utf8.encode secret))))⟩ := by
  have hsetting : Bcrypt.Setting.read? (Bcrypt.freshSetting s.cost (String.ofList s.salt)).toList = some s := by
    have hsalt : (String.ofList s.salt).toList = s.salt := String.toList_ofList
    have hwrite : (Bcrypt.freshSetting s.cost (String.ofList s.salt)).toList = s.write [] :=
      calc
        _ = "$2b$".toList ++ Decimal.padded 2 s.cost ++ '$' :: (String.ofList s.salt).toList := String.toList_ofList
        _ = s.write [] := by
          rw [hsalt, Bcrypt.Setting.write, hversion, Bcrypt.Radix64.encode, List.append_nil]
          rfl
    rw [hwrite]
    exact hs.read?_write []
  have hcost := hs.cost_le
  unfold build
  simp only
  rw [if_neg (Nat.not_lt.2 hsecret), if_neg (by omega), if_neg (by omega), Int.toNat_natCast, Bcrypt.hash?, hsetting]
  rfl

/-- Every secret that is not too long has a credential. -/
theorem exists_build (digest : Digest) (hsecret : Utf8.size secret ≤ maxSecretBytes) :
    ∃ c, build digest secret 4 "abcdefghijklmnopqrstuu" = .ok c := by
  let s : Bcrypt.Setting :=
    { version := ['2', 'b'], cost := 4, salt := "abcdefghijklmnopqrstuu".toList,
      saltBytes := (Bcrypt.Radix64.decode? "abcdefghijklmnopqrstuu".toList).getD [] }
  have hs : s.Sound := ⟨by decide, by decide, by decide, by decide⟩
  exact ⟨_, build_of_sound hs rfl hsecret⟩

/-- The bytes of a salt as they stand in a hash. -/
def saltText (salt : Bytes) : String := String.ofList (Bcrypt.Radix64.encode salt)

/-- With 16 bytes of salt, every secret that is not too long has a credential at every cost that is within bounds, and
the credential says that cost. -/
theorem exists_build_of_cost (digest : Digest) {saltBytes : Bytes} (hsecret : Utf8.size secret ≤ maxSecretBytes)
    (hrounds : 4 ≤ rounds ∧ rounds ≤ 31) (hsalt : saltBytes.length = 16) :
    ∃ c setting, build digest secret rounds (saltText saltBytes) = .ok c ∧
      Bcrypt.Setting.read? c.hash.toList = some setting ∧ (setting.cost : Int) = rounds := by
  let s : Bcrypt.Setting :=
    { version := ['2', 'b'], cost := rounds.toNat, salt := Bcrypt.Radix64.encode saltBytes, saltBytes }
  have hlength : (Bcrypt.Radix64.encode saltBytes).length = 22 := by rw [Bcrypt.Radix64.length_encode, hsalt]
  have hbounds : 4 ≤ rounds.toNat ∧ rounds.toNat ≤ 31 := by omega
  have hs : s.Sound := ⟨rfl, hbounds, hlength, Bcrypt.Radix64.decode?_encode saltBytes⟩
  have hcost : (s.cost : Int) = rounds := Int.toNat_of_nonneg (by omega)
  have hbuild : build digest secret s.cost (String.ofList s.salt) = .ok _ := build_of_sound hs rfl hsecret
  rw [hcost] at hbuild
  refine ⟨_, s, hbuild, ?_, hcost⟩
  rw [String.toList_ofList]
  exact hs.read?_write _

theorem exists_build_of_rounds (digest : Digest) {saltBytes : Bytes} (hsecret : Utf8.size secret ≤ maxSecretBytes)
    (hrounds : 4 ≤ rounds ∧ rounds ≤ 31) (hsalt : saltBytes.length = 16) :
    ∃ c, build digest secret rounds (saltText saltBytes) = .ok c := by
  obtain ⟨c, -, hc, -⟩ := exists_build_of_cost digest hsecret hrounds hsalt
  exact ⟨c, hc⟩

/-- At any other cost there is the same error for all secrets that are not too long. -/
theorem exists_error_of_rounds (digest : Digest) (hrounds : ¬(4 ≤ rounds ∧ rounds ≤ 31)) :
    ∃ e, ∀ secret salt, Utf8.size secret ≤ maxSecretBytes → build digest secret rounds salt = .error e := by
  by_cases hreach : rounds < 0 ∨ 65535 < rounds
  · refine ⟨.roundsOutOfReach, fun secret salt hsecret => ?_⟩
    unfold build
    simp only
    rw [if_neg (Nat.not_lt.2 hsecret), if_pos hreach]
  · refine ⟨.refused ⟨.hash, some .invalidRounds⟩, fun secret salt hsecret => ?_⟩
    unfold build
    simp only
    rw [if_neg (Nat.not_lt.2 hsecret), if_neg hreach, if_pos (by omega)]

end Credential

/-! ### The guard -/

namespace Guard

variable {δ : Type} {digest : Digest} {headers : Headers} {registry : Registry δ}

/-- What the guard grants presents a token that the credential matches. -/
theorem verify_of_granted {admin : Admin δ} (h : requireAdmin digest registry headers = .granted admin) :
    ∃ c t, registry.credential.get? = some c ∧ Token.parse headers = .ok t ∧ c.verify digest t = .ok true := by
  unfold requireAdmin at h
  split at h
  · cases h
  · rename_i c hc
    split at h
    · cases h
    · rename_i t ht
      refine ⟨c, t, hc, ht, ?_⟩
      split at h
      · cases h
      · cases h
      · cases h
      · rename_i hcompare
        unfold compare at hcompare
        split at hcompare
        · cases hcompare
        · exact Option.some.inj hcompare

/-- A token that the credential matches is granted where nothing is missing. -/
theorem granted_of_verify {c : Credential} {t : Token} (ht : Token.parse headers = .ok t)
    (h : c.verify digest t = .ok true) (db : δ) :
    ∃ admin, requireAdmin digest ⟨.holds c, .holds db, .holds .ready⟩ headers = .granted admin := by
  unfold requireAdmin
  simp only [Slot.get?, ht, compare, h]
  exact ⟨_, rfl⟩

/-- Whether a secret is a token, short enough, over and over with zero bytes between, perhaps cut off. -/
def Repeats (secret token : String) : Prop :=
  Utf8.size token ≤ maxSecretBytes ∧
    ∃ k, Utf8.encode secret = (repeats (Utf8.encode token) k).take maxSecretBytes

theorem repeats_iff_eq {secret token : String} (hsecret : Utf8.size secret ≤ maxSecretBytes)
    (hzero : '\x00' ∉ secret.toList) : Repeats secret token ↔ token = secret := by
  constructor
  · rintro ⟨hsize, k, hk⟩
    exact Utf8.encode_injective (Bcrypt.eq_of_take_repeats (Utf8.zero_not_mem_encode hzero) hsize hk).symm
  · rintro rfl
    refine ⟨hsecret, 0, ?_⟩
    exact (List.take_of_length_le hsecret).symm

variable {secret salt : String} {rounds : Int} {c : Credential} {t : Token}

theorem verify_eq_true_iff (hbuild : Credential.build digest secret rounds salt = .ok c)
    (hparse : Token.parse headers = .ok t)
    (hdigest : Credential.Separates digest (Utf8.encode t.value) (Utf8.encode secret)) :
    c.verify digest t = .ok true ↔ Repeats secret t.value := by
  rw [Credential.verify_eq_decide hbuild hdigest, Except.ok.injEq, decide_eq_true_eq,
    Bcrypt.cyclicKey_eq_iff (Credential.hash?_of_build hbuild).1
      (Utf8.zero_not_mem_encode (Token.zero_not_mem hparse))]
  rfl

/-- A token from headers gets an answer of the credential of a secret, and matches it if and only if the secret
repeats the token.  Only such tokens open the guard, and if the secret has no character zero, then only the secret. -/
theorem opened_by_secret (hbuild : Credential.build digest secret rounds salt = .ok c)
    (hparse : Token.parse headers = .ok t)
    (hdigest : Credential.Separates digest (Utf8.encode t.value) (Utf8.encode secret)) :
    (∃ b, c.verify digest t = .ok b) ∧ (c.verify digest t = .ok true ↔ Repeats secret t.value) ∧
      (∀ (registry : Registry δ) admin, registry.credential.get? = some c →
        requireAdmin digest registry headers = .granted admin → Repeats secret t.value) ∧
      ('\x00' ∉ secret.toList → (Repeats secret t.value ↔ t.value = secret)) := by
  refine ⟨⟨_, Credential.verify_eq_decide hbuild hdigest⟩, verify_eq_true_iff hbuild hparse hdigest, ?_, ?_⟩
  · intro registry admin hc hgranted
    obtain ⟨c', t', hc', ht', hverify⟩ := verify_of_granted hgranted
    cases hc.symm.trans hc'
    cases hparse.symm.trans ht'
    exact (verify_eq_true_iff hbuild hparse hdigest).1 hverify
  · exact repeats_iff_eq (Credential.hash?_of_build hbuild).1

theorem opened_by_secret_s3cr3t :
    ∃ c t, Credential.build Bcrypt.digest "s3cr3t" 4 "abcdefghijklmnopqrstuu" = .ok c ∧
      Token.parse [(Utf8.encode "X-API-Token", Utf8.encode "s3cr3t")] = .ok t ∧
      (c.verify Bcrypt.digest t = .ok true ↔ Repeats "s3cr3t" t.value) ∧
      (Repeats "s3cr3t" t.value ↔ t.value = "s3cr3t") := by
  have hsize : Utf8.size "s3cr3t" ≤ maxSecretBytes := by decide
  obtain ⟨c, hc⟩ := Credential.exists_build Bcrypt.digest hsize
  have hparse : Token.parse [(Utf8.encode "X-API-Token", Utf8.encode "s3cr3t")] = .ok ⟨"s3cr3t"⟩ := by decide
  have h := opened_by_secret (δ := Unit) hc hparse fun _ _ _ => rfl
  exact ⟨c, _, hc, hparse, h.2.1, h.2.2.2 (by decide)⟩

/-- The token `a` matches the secret `a\0a`. -/
theorem verify_zero_between :
    ∃ c t, Credential.build Bcrypt.digest "a\x00a" 4 "abcdefghijklmnopqrstuu" = .ok c ∧
      Token.parse [(Utf8.encode "x-api-token", Utf8.encode "a")] = .ok t ∧
      c.verify Bcrypt.digest t = .ok true ∧ t.value ≠ "a\x00a" := by
  have hsize : Utf8.size "a\x00a" ≤ maxSecretBytes := by decide
  obtain ⟨c, hc⟩ := Credential.exists_build Bcrypt.digest hsize
  have hparse : Token.parse [(Utf8.encode "x-api-token", Utf8.encode "a")] = .ok ⟨"a"⟩ := by decide
  obtain ⟨cost, salt, hverify⟩ := Credential.verify_of_build (t := ⟨"a"⟩) hc (by decide)
  have hkey : cyclicKey (Utf8.encode "a\x00a") = cyclicKey (Utf8.encode "a") :=
    Bcrypt.cyclicKey_take_repeats (Utf8.encode "a") 1
  refine ⟨c, _, hc, hparse, ?_, by decide⟩
  rw [hverify, hkey, decide_eq_true rfl]

end Guard

end DomainPolicy
