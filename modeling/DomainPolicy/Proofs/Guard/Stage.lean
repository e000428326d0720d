import DomainPolicy.Proofs.Guard.Secret
import DomainPolicy.Proofs.Token.Header

/-!
# The stages of the guard

A request goes through five stages: a credential is held, the headers present a token, the stored hash can be used, the
token has the hash, and a database is held.  What each of them asks is said of the registry and of the raw headers
alone (`Stage.Passed`).  The guard refuses with the kind of the first stage that fails and grants, with the database
that is held, if none does (`refused_of_failsFirst`, `granted_of_passed`); so the stages decide how the guard ends
(`requireAdmin_decided`).
-/

namespace DomainPolicy

open Bcrypt (Digest)
open Token (Presents)

/-! ### Hashes -/

namespace Credential

variable {digest : Digest} {c : Credential} {value : Bytes}

/-- Whether a hash can be compared with: it is ASCII and says how to hash. -/
structure IsUsable (c : Credential) : Prop where
  ascii : ∀ x ∈ c.hash.toList, x.toNat < 128
  setting : ∃ s, Bcrypt.Setting.read? c.hash.toList = some s

/-- Whether a password has the hash: hashed in the way that the hash says, it gives the hash. -/
def Matches (digest : Digest) (c : Credential) (password : Bytes) : Prop :=
  Bcrypt.hash? digest password c.hash = some c.hash

theorem Matches.isUsable (h : c.Matches digest value) : c.IsUsable := by
  obtain ⟨s, hs, -⟩ := Option.map_eq_some_iff.1 h
  exact ⟨Bcrypt.ascii_of_hash? h, s, hs⟩

theorem check?_eq_some_true_iff : Bcrypt.check? digest value c.hash = some true ↔ c.Matches digest value := by
  rw [Bcrypt.check?, Matches, Option.map_eq_some_iff]
  simp only [beq_iff_eq]
  constructor
  · rintro ⟨hash, hhash, rfl⟩
    exact hhash
  · intro h
    exact ⟨c.hash, h, rfl⟩

theorem exists_check?_of_isUsable (digest : Digest) (value : Bytes) (h : c.IsUsable) :
    ∃ b, Bcrypt.check? digest value c.hash = some b := by
  obtain ⟨s, hs⟩ := h.setting
  rw [Bcrypt.check?, Bcrypt.hash?, hs]
  exact ⟨_, rfl⟩

variable {t : Token}

theorem verify_of_long (h : maxSecretBytes < Utf8.size t.value) : c.verify digest t = .ok false := if_pos h

/-- A token that is short enough and a hash that cannot be used. -/
theorem verify_of_not_isUsable (digest : Digest) (ht : Utf8.size t.value ≤ maxSecretBytes) (h : ¬c.IsUsable) :
    ∃ r, c.verify digest t = .error r ∧ r.kind = .verify := by
  rw [verify, if_neg (Nat.not_lt.2 ht)]
  split
  · rename_i hascii
    have hascii' : ∀ x ∈ c.hash.toList, x.toNat < 128 := fun x hx => of_decide_eq_true (List.all_eq_true.1 hascii x hx)
    have hread : Bcrypt.Setting.read? c.hash.toList = none :=
      Option.eq_none_iff_forall_ne_some.2 fun s hs => h ⟨hascii', s, hs⟩
    rw [Bcrypt.check?, Bcrypt.hash?, hread]
    exact ⟨_, rfl, rfl⟩
  · exact ⟨_, rfl, rfl⟩

/-- A token that is short enough and a hash that can be used. -/
theorem verify_of_isUsable (digest : Digest) (ht : Utf8.size t.value ≤ maxSecretBytes) (h : c.IsUsable) :
    ∃ b, c.verify digest t = .ok b ∧ (b = true ↔ c.Matches digest (Utf8.encode t.value)) := by
  obtain ⟨b, hb⟩ := exists_check?_of_isUsable digest (Utf8.encode t.value) h
  have hascii : c.hash.toList.all (fun x => decide (x.toNat < 128)) = true :=
    List.all_eq_true.2 fun x hx => decide_eq_true (h.ascii x hx)
  refine ⟨b, ?_, ?_⟩
  · rw [verify, if_neg (Nat.not_lt.2 ht), if_pos hascii, hb]
  · rw [← check?_eq_some_true_iff, hb, Option.some_inj]

end Credential

namespace Guard

variable {δ : Type} {digest : Digest} {registry : Registry δ} {headers : Headers}

/-! ### Stages -/

/-- What a request goes through, in this order. -/
inductive Stage where
  | credential
  | header
  | hash
  | comparison
  | database
  deriving DecidableEq, Repr

namespace Stage

/-- The stages before another one. -/
def before : Stage → List Stage
  | credential => []
  | header => [credential]
  | hash => [credential, header]
  | comparison => [credential, header, hash]
  | database => [credential, header, hash, comparison]

/-- The kind of refusal that a stage ends with. -/
def kind : Stage → Refusal.Kind
  | credential => .missingConfig
  | header => .parseHeader
  | hash => .verify
  | comparison => .invalid
  | database => .missingDb

/-- Whether a stage lets a request pass. -/
def Passed (digest : Digest) (registry : Registry δ) (headers : Headers) : Stage → Prop
  | credential => ∃ c, registry.credential = .holds c
  | header => ∃ value, Presents headers value
  | hash => ∀ c value, registry.credential = .holds c → Presents headers value → value.length ≤ maxSecretBytes →
      c.IsUsable
  | comparison => ∀ c value, registry.credential = .holds c → Presents headers value →
      value.length ≤ maxSecretBytes ∧ c.Matches digest value
  | database => ∃ db, registry.db = .holds db

/-- Whether a stage is the first that a request does not pass. -/
def FailsFirst (digest : Digest) (registry : Registry δ) (headers : Headers) (s : Stage) : Prop :=
  ¬s.Passed digest registry headers ∧ ∀ s' ∈ s.before, s'.Passed digest registry headers

/-- Some stage fails first, unless all are passed. -/
theorem exists_failsFirst_or_passed (digest : Digest) (registry : Registry δ) (headers : Headers) :
    (∃ s, FailsFirst digest registry headers s) ∨ ∀ s, Passed digest registry headers s := by
  by_cases hfails : ∃ s, FailsFirst digest registry headers s
  · exact Or.inl hfails
  · -- then every stage is passed once those before it are
    have hnext : ∀ s, (∀ s' ∈ before s, Passed digest registry headers s') → Passed digest registry headers s :=
      fun s hbefore => by_contra fun h => hfails ⟨s, h, hbefore⟩
    have hcredential := hnext credential (by simp [before])
    have hheader := hnext header (by simp [before, hcredential])
    have hhash := hnext hash (by simp [before, hcredential, hheader])
    have hcomparison := hnext comparison (by simp [before, hcredential, hheader, hhash])
    have hdatabase := hnext database (by simp [before, hcredential, hheader, hhash, hcomparison])
    refine Or.inr fun s => ?_
    cases s <;> assumption

end Stage

/-! ### How the guard ends -/

theorem get?_eq_some_iff {α : Type} {s : Slot α} {a : α} : s.get? = some a ↔ s = .holds a := by
  cases s <;> simp [Slot.get?]

theorem get?_eq_none_iff {α : Type} {s : Slot α} : s.get? = none ↔ ¬∃ a, s = .holds a := by
  cases s <;> simp [Slot.get?]

/-- Which pool compares does not matter, as long as it is open. -/
theorem compare_of_open {pool : Slot Pool} (hpool : pool ≠ .holds .closed) (digest : Digest) (c : Credential)
    (t : Token) : compare digest pool c t = some (c.verify digest t) := by
  unfold compare
  split
  · rename_i h
    exact absurd (get?_eq_some_iff.1 h) hpool
  · rfl

/-- A request that presents a token where a credential is held ends as the comparison says. -/
theorem requireAdmin_of_presents (hpool : registry.pool ≠ .holds .closed) {c : Credential}
    (hc : registry.credential = .holds c) {value : Bytes} (hvalue : Presents headers value) :
    (∀ r, c.verify digest ⟨Latin1.decode value⟩ = .error r → requireAdmin digest registry headers = .refused r) ∧
      (c.verify digest ⟨Latin1.decode value⟩ = .ok false →
        requireAdmin digest registry headers = .refused ⟨.invalid, none⟩) ∧
      (c.verify digest ⟨Latin1.decode value⟩ = .ok true →
        (registry.db.get? = none → requireAdmin digest registry headers = .refused ⟨.missingDb, none⟩) ∧
          ∀ db, registry.db.get? = some db →
            ∃ admin, requireAdmin digest registry headers = .granted admin ∧ admin.db = db) := by
  unfold requireAdmin
  simp only [get?_eq_some_iff.2 hc, hvalue.parse_eq, compare_of_open hpool]
  refine ⟨fun r hr => by rw [hr], fun hb => by rw [hb], fun hb => ?_⟩
  rw [hb]
  refine ⟨fun hdb => by rw [hdb], fun db hdb => ?_⟩
  rw [hdb]
  exact ⟨_, rfl, rfl⟩

/-- What passes the first four stages presents a token that matches. -/
theorem exists_verify_of_passed (h : ∀ s ∈ Stage.database.before, s.Passed digest registry headers) :
    ∃ c value, registry.credential = .holds c ∧ Presents headers value ∧
      c.verify digest ⟨Latin1.decode value⟩ = .ok true := by
  obtain ⟨c, hc⟩ := h .credential (by simp [Stage.before])
  obtain ⟨value, hvalue⟩ := h .header (by simp [Stage.before])
  obtain ⟨hsize, hmatches⟩ := h .comparison (by simp [Stage.before]) c value hc hvalue
  have hbytes := Token.encode_value_of_isText hvalue.isText
  obtain ⟨b, hb, hiff⟩ := Credential.verify_of_isUsable digest (t := ⟨Latin1.decode value⟩)
    (by rwa [Utf8.size, hbytes]) hmatches.isUsable
  rw [hbytes] at hiff
  exact ⟨c, value, hc, hvalue, hb.trans (congrArg Except.ok (hiff.2 hmatches))⟩

/-- The guard refuses at the first stage that fails. -/
theorem refused_of_failsFirst (hpool : registry.pool ≠ .holds .closed) {s : Stage}
    (h : s.FailsFirst digest registry headers) :
    ∃ r, requireAdmin digest registry headers = .refused r ∧ r.kind = s.kind := by
  obtain ⟨hfails, hbefore⟩ := h
  cases s with
  | credential =>
    unfold requireAdmin
    rw [get?_eq_none_iff.2 hfails]
    exact ⟨_, rfl, rfl⟩
  | header =>
    obtain ⟨c, hc⟩ := hbefore .credential (by simp [Stage.before])
    have hparse : ∀ t, Token.parse headers ≠ .ok t := by
      intro t ht
      obtain ⟨value, hvalue, -⟩ := Token.parse_eq_ok_iff.1 ht
      exact hfails ⟨value, hvalue⟩
    unfold requireAdmin
    simp only [get?_eq_some_iff.2 hc]
    split
    · exact ⟨_, rfl, rfl⟩
    · rename_i t ht
      exact absurd ht (hparse t)
  | hash =>
    simp only [Stage.Passed, not_forall] at hfails
    obtain ⟨c, value, hc, hvalue, hsize, husable⟩ := hfails
    obtain ⟨r, hr, hkind⟩ := Credential.verify_of_not_isUsable digest (t := ⟨Latin1.decode value⟩)
      (by rwa [Utf8.size, Token.encode_value_of_isText hvalue.isText]) husable
    exact ⟨r, (requireAdmin_of_presents hpool hc hvalue).1 r hr, hkind⟩
  | comparison =>
    simp only [Stage.Passed, not_forall] at hfails
    obtain ⟨c, value, hc, hvalue, hfails⟩ := hfails
    have hbytes := Token.encode_value_of_isText hvalue.isText
    have hverify : c.verify digest ⟨Latin1.decode value⟩ = .ok false := by
      rcases Nat.lt_or_ge maxSecretBytes value.length with hlong | hsize
      · exact Credential.verify_of_long (by rwa [Utf8.size, hbytes])
      · have husable : c.IsUsable := hbefore .hash (by simp [Stage.before]) c value hc hvalue hsize
        obtain ⟨b, hb, hmatches⟩ := Credential.verify_of_isUsable digest (t := ⟨Latin1.decode value⟩)
          (by rwa [Utf8.size, hbytes]) husable
        rw [hbytes] at hmatches
        rw [hb, Bool.eq_false_iff.2 fun ht => hfails ⟨hsize, hmatches.1 ht⟩]
    exact ⟨_, (requireAdmin_of_presents hpool hc hvalue).2.1 hverify, rfl⟩
  | database =>
    obtain ⟨c, value, hc, hvalue, hverify⟩ := exists_verify_of_passed hbefore
    exact ⟨_, ((requireAdmin_of_presents hpool hc hvalue).2.2 hverify).1 (get?_eq_none_iff.2 hfails), rfl⟩

/-- The guard grants what passes all stages. -/
theorem granted_of_passed (hpool : registry.pool ≠ .holds .closed) (h : ∀ s : Stage, s.Passed digest registry headers)
    {db : δ} (hdb : registry.db = .holds db) :
    ∃ admin, requireAdmin digest registry headers = .granted admin ∧ admin.db = db := by
  obtain ⟨c, value, hc, hvalue, hverify⟩ := exists_verify_of_passed fun s _ => h s
  exact ((requireAdmin_of_presents hpool hc hvalue).2.2 hverify).2 db (get?_eq_some_iff.2 hdb)

/-! ### What does not matter -/

theorem requireAdmin_congr {headers' : Headers} (h : Token.parse headers = Token.parse headers') :
    requireAdmin digest registry headers = requireAdmin digest registry headers' := by
  unfold requireAdmin
  rw [h]

theorem requireAdmin_pool (hpool : registry.pool ≠ .holds .closed) {pool : Slot Pool} (hpool' : pool ≠ .holds .closed) :
    requireAdmin digest { registry with pool } headers = requireAdmin digest registry headers := by
  unfold requireAdmin
  simp only [compare_of_open hpool, compare_of_open hpool']

/-! ### The decision -/

/-- As long as no pool is there that is closed, the guard refuses with the kind of the first stage that fails, and
grants the database that is held if none does.  The order of the headers does not matter, nor headers of other names,
nor which pool compares. -/
theorem requireAdmin_decided (digest : Digest) (registry : Registry δ) (headers : Headers)
    (hpool : registry.pool ≠ .holds .closed) :
    (∀ kind, (∃ r, requireAdmin digest registry headers = .refused r ∧ r.kind = kind) ↔
        ∃ s : Stage, s.kind = kind ∧ s.FailsFirst digest registry headers) ∧
      (∀ db, (∃ admin, requireAdmin digest registry headers = .granted admin ∧ admin.db = db) ↔
        registry.db = .holds db ∧ ∀ s : Stage, s.Passed digest registry headers) ∧
      (∀ headers', headers.Perm headers' →
        requireAdmin digest registry headers' = requireAdmin digest registry headers) ∧
      (∀ before h after, headers = before ++ h :: after → ¬Token.Spells h.1 →
        requireAdmin digest registry (before ++ after) = requireAdmin digest registry headers) ∧
      (∀ pool, pool ≠ .holds .closed →
        requireAdmin digest { registry with pool } headers = requireAdmin digest registry headers) := by
  refine ⟨fun kind => ⟨?_, ?_⟩, fun db => ⟨?_, ?_⟩, ?_, ?_, ?_⟩
  · rintro ⟨r, hr, rfl⟩
    rcases Stage.exists_failsFirst_or_passed digest registry headers with ⟨s, hs⟩ | hpassed
    · obtain ⟨r', hr', hkind⟩ := refused_of_failsFirst hpool hs
      cases hr.symm.trans hr'
      exact ⟨s, hkind.symm, hs⟩
    · obtain ⟨db, hdb⟩ := hpassed .database
      obtain ⟨admin, hadmin, -⟩ := granted_of_passed hpool hpassed hdb
      cases hr.symm.trans hadmin
  · rintro ⟨s, rfl, hs⟩
    exact refused_of_failsFirst hpool hs
  · rintro ⟨admin, hadmin, rfl⟩
    rcases Stage.exists_failsFirst_or_passed digest registry headers with ⟨s, hs⟩ | hpassed
    · obtain ⟨r, hr, -⟩ := refused_of_failsFirst hpool hs
      cases hr.symm.trans hadmin
    · obtain ⟨db, hdb⟩ := hpassed .database
      obtain ⟨admin', hadmin', rfl⟩ := granted_of_passed hpool hpassed hdb
      cases hadmin.symm.trans hadmin'
      exact ⟨hdb, hpassed⟩
  · rintro ⟨hdb, hpassed⟩
    exact granted_of_passed hpool hpassed hdb
  · intro headers' hperm
    exact (requireAdmin_congr (Token.parse_perm hperm)).symm
  · rintro before h after rfl hname
    exact (requireAdmin_congr (Token.parse_append_cons hname)).symm
  · intro pool hpool'
    exact requireAdmin_pool hpool hpool'

/-- Two headers with the secret are refused, though either alone would be granted. -/
theorem requireAdmin_decided_twice :
    ∃ c, Credential.build Bcrypt.digest "s3cr3t" 4 "abcdefghijklmnopqrstuu" = .ok c ∧
      let registry : Registry Unit := ⟨.holds c, .holds (), .missing⟩
      let h := (Utf8.encode "X-Api-Token", Utf8.encode "s3cr3t")
      (∃ r, requireAdmin Bcrypt.digest registry [h, h] = .refused r ∧ r.kind = .parseHeader) ∧
        ∀ s : Stage, s.Passed Bcrypt.digest registry [h] := by
  have hsize : Utf8.size "s3cr3t" ≤ maxSecretBytes := by decide
  obtain ⟨c, hc⟩ := Credential.exists_build Bcrypt.digest hsize
  refine ⟨c, hc, ?_⟩
  intro registry h
  have hpool : registry.pool ≠ .holds .closed := nofun
  have htwice : Token.parse [h, h] = .error (.repeated 2) := by decide
  have honce : Token.parse [h] = .ok ⟨"s3cr3t"⟩ := by decide
  constructor
  · refine ((requireAdmin_decided Bcrypt.digest registry [h, h] hpool).1 .parseHeader).2 ⟨.header, rfl, ?_, ?_⟩
    · rintro ⟨value, hvalue⟩
      cases htwice.symm.trans hvalue.parse_eq
    · simp [Stage.before, Stage.Passed, registry]
  · obtain ⟨admin, hadmin⟩ := granted_of_verify honce (Credential.verify_self hc) ()
    have hready : requireAdmin Bcrypt.digest registry [h] = .granted admin :=
      ((requireAdmin_decided Bcrypt.digest ⟨.holds c, .holds (), .holds .ready⟩ [h] nofun).2.2.2.2 .missing nofun).trans
        hadmin
    exact (((requireAdmin_decided Bcrypt.digest registry [h] hpool).2.1 ()).1 ⟨admin, hready, rfl⟩).2

end Guard

end DomainPolicy
