import DomainPolicy.Proofs.Guard.Secret
import DomainPolicy.Proofs.Settings.Bounds
import DomainPolicy.Proofs.Text.Whole
import DomainPolicy.Server.App

/-!
# When there is an app

From settings that were read there is no app for three reasons only: the secret is no text in UTF-8, it is too long to
be hashed, or the level names something in the journal that is no level (`IsMisnamed`), which is not meant to be a
reason.  The bounds within which settings are read leave no other (`create_of_read`).  An app has a credential if and
only if there is a secret; the credential then says the cost of the settings, and the secret matches it.
-/

namespace DomainPolicy

/-! ### Levels -/

namespace Journal

/-- Whether a level is looked up under a name of something that is no level. -/
def IsMisnamed (text : Text) : Prop := levelName? text = some "BASIC_FORMAT" ∨ levelName? text = some "_STYLES"

instance : DecidablePred IsMisnamed := fun _ => inferInstanceAs (Decidable (_ ∨ _))

theorem levelRank_eq_error_iff {text : Text} : (∃ e, levelRank text = .error e) ↔ IsMisnamed text := by
  unfold levelRank IsMisnamed
  constructor
  · rintro ⟨e, he⟩
    split at he
    case h_9 h => exact Or.inl h
    case h_10 h => exact Or.inr h
    all_goals cases he
  · rintro (h | h) <;> rw [h]
    · exact ⟨.levelIsText, rfl⟩
    · exact ⟨.levelIsTable, rfl⟩

theorem not_isMisnamed {text : Text} {rank : Int} (h : levelRank text = .ok rank) : ¬IsMisnamed text := by
  intro hmisnamed
  obtain ⟨e, he⟩ := levelRank_eq_error_iff.2 hmisnamed
  rw [h] at he
  cases he

end Journal

namespace Server.App

/-! ### How an app is created -/

/-- The journal that settings ask for, once the rank of their level is known. -/
def journalOf (settings : Settings) (rank : Int) : Journal where
  threshold := some rank
  output := some ⟨settings.serviceName, settings.jsonLogs⟩

/-- What can come of creating an app, and what is reported meanwhile. -/
inductive Creation (digest : Bcrypt.Digest) (salt : String) (pages : Pages) (settings : Settings) :
    Except CreateError App × List Record → Prop
  | misnamed (e : SetupError) (hlevel : Journal.levelRank settings.logLevel = .error e) :
      Creation digest salt pages settings (.error (.journal e), [])
  | disabled (rank : Int) (hlevel : Journal.levelRank settings.logLevel = .ok rank)
      (htoken : settings.apiToken = none) :
      Creation digest salt pages settings
        (.ok { settings, journal := journalOf settings rank, pages }, (journalOf settings rank).records [disabledEvent])
  | foreign (rank : Int) (token : Text) (hlevel : Journal.levelRank settings.logLevel = .ok rank)
      (htoken : settings.apiToken = some token) (hforeign : ¬token.Whole) :
      Creation digest salt pages settings (.error .secretForeign, [])
  | hashed (rank : Int) (secret : String) (c : Credential)
      (hlevel : Journal.levelRank settings.logLevel = .ok rank)
      (htoken : settings.apiToken = some (Text.ofString secret))
      (hbuild : Credential.build digest secret settings.bcryptRounds salt = .ok c) :
      Creation digest salt pages settings
        (.ok { settings, journal := journalOf settings rank, pages, registry := { credential := .holds c } }, [])
  | unhashed (rank : Int) (secret : String) (e : Credential.BuildError)
      (hlevel : Journal.levelRank settings.logLevel = .ok rank)
      (htoken : settings.apiToken = some (Text.ofString secret))
      (hbuild : Credential.build digest secret settings.bcryptRounds salt = .error e) :
      Creation digest salt pages settings (.error (.credential e), [])

theorem creation_create (digest : Bcrypt.Digest) (salt : String) (pages : Pages) (settings : Settings) :
    Creation digest salt pages settings (App.create digest salt pages settings) := by
  unfold App.create Journal.configure
  cases hlevel : Journal.levelRank settings.logLevel with
  | error e => exact .misnamed e hlevel
  | ok rank =>
    simp only
    cases htoken : settings.apiToken with
    | none => exact .disabled rank hlevel htoken
    | some token =>
      cases hsecret : token.toString? with
      | none =>
        simp only [hsecret]
        exact .foreign rank token hlevel htoken (Text.isNone_toString?_iff.1 (by rw [hsecret]; rfl))
      | some secret =>
        obtain rfl := Text.toString?_eq_some_iff.1 hsecret
        cases hbuild : Credential.build digest secret settings.bcryptRounds salt with
        | error e =>
          simp only [hsecret, hbuild]
          exact .unhashed rank secret e hlevel htoken hbuild
        | ok c =>
          simp only [hsecret, hbuild]
          exact .hashed rank secret c hlevel htoken hbuild

/-- The app without a secret. -/
theorem create_of_none {digest : Bcrypt.Digest} {salt : String} {pages : Pages} {settings : Settings} {rank : Int}
    (hlevel : Journal.levelRank settings.logLevel = .ok rank) (htoken : settings.apiToken = none) :
    App.create digest salt pages settings =
      (.ok { settings, journal := journalOf settings rank, pages },
        (journalOf settings rank).records [disabledEvent]) := by
  unfold App.create Journal.configure
  simp only [hlevel, htoken]
  rfl

/-- The app of a secret that is hashed. -/
theorem create_of_build {digest : Bcrypt.Digest} {salt secret : String} {pages : Pages} {settings : Settings}
    {rank : Int} {c : Credential} (hlevel : Journal.levelRank settings.logLevel = .ok rank)
    (htoken : settings.apiToken = some (Text.ofString secret))
    (hbuild : Credential.build digest secret settings.bcryptRounds salt = .ok c) :
    App.create digest salt pages settings =
      (.ok { settings, journal := journalOf settings rank, pages, registry := { credential := .holds c } }, []) := by
  unfold App.create Journal.configure
  simp only [hlevel, htoken, Text.toString?_ofString, hbuild]
  rfl

end Server.App

/-! ### Settings that were read -/

/-- Whether settings hold a secret that is no text in UTF-8. -/
def Settings.HasForeignSecret (settings : Settings) : Prop :=
  ∃ token, settings.apiToken = some token ∧ ¬token.Whole

/-- Whether settings hold a secret that is too long to be hashed. -/
def Settings.HasLongSecret (settings : Settings) : Prop :=
  ∃ secret, settings.apiToken = some (Text.ofString secret) ∧ maxSecretBytes < Utf8.size secret

namespace Credential

variable {digest : Bcrypt.Digest} {secret : String} {rounds : Int} {saltBytes : Bytes} {c : Credential}

/-- Whether a credential is of a cost and matches a secret. -/
structure Fits (digest : Bcrypt.Digest) (c : Credential) (rounds : Int) (secret : String) : Prop where
  cost : ∃ setting, Bcrypt.Setting.read? c.hash.toList = some setting ∧ (setting.cost : Int) = rounds
  verify : c.verify digest ⟨secret⟩ = .ok true

theorem fits_of_build (hrounds : 4 ≤ rounds ∧ rounds ≤ 31) (hsalt : saltBytes.length = 16)
    (h : build digest secret rounds (saltText saltBytes) = .ok c) : Fits digest c rounds secret := by
  obtain ⟨hsecret, -⟩ := hash?_of_build h
  obtain ⟨c', setting, hc', hsetting, hcost⟩ := exists_build_of_cost digest hsecret hrounds hsalt
  cases hc'.symm.trans h
  exact ⟨⟨setting, hsetting, hcost⟩, verify_self h⟩

/-- Within the bounds of the cost, only a secret that is too long is refused, by the hash. -/
theorem kind_of_build_error {e : BuildError} (hrounds : 4 ≤ rounds ∧ rounds ≤ 31) (hsalt : saltBytes.length = 16)
    (h : build digest secret rounds (saltText saltBytes) = .error e) :
    maxSecretBytes < Utf8.size secret ∧ ∃ r, e = .refused r ∧ r.kind = .hash := by
  have hlong : maxSecretBytes < Utf8.size secret := by
    by_contra hshort
    obtain ⟨c, hc⟩ := exists_build_of_rounds digest (Nat.not_lt.1 hshort) hrounds hsalt
    rw [hc] at h
    cases h
  refine ⟨hlong, ⟨.hash, some .secretTooLong⟩, ?_, rfl⟩
  unfold build at h
  simp only at h
  rw [if_pos hlong] at h
  cases h
  rfl

end Credential

namespace Server.App

variable {digest : Bcrypt.Digest} {settings : Settings} {pages : Pages} {salt : Bytes}

namespace Creation

variable {outcome : Except CreateError App × List Record}

theorem error_iff (h : Creation digest (Credential.saltText salt) pages settings outcome)
    (hrounds : 4 ≤ settings.bcryptRounds ∧ settings.bcryptRounds ≤ 31) (hsalt : salt.length = 16) :
    (∃ e, outcome.1 = .error e) ↔
      settings.HasForeignSecret ∨ settings.HasLongSecret ∨ Journal.IsMisnamed settings.logLevel := by
  cases h with
  | misnamed e hlevel =>
    have hmisnamed := Journal.levelRank_eq_error_iff.1 ⟨e, hlevel⟩
    exact ⟨fun _ => Or.inr (Or.inr hmisnamed), fun _ => ⟨_, rfl⟩⟩
  | disabled rank hlevel htoken =>
    constructor
    · rintro ⟨e, ⟨⟩⟩
    · rintro (⟨token, htoken', -⟩ | ⟨secret, hsecret, -⟩ | hmisnamed)
      · cases htoken.symm.trans htoken'
      · cases htoken.symm.trans hsecret
      · exact absurd hmisnamed (Journal.not_isMisnamed hlevel)
  | foreign rank token hlevel htoken hforeign =>
    exact ⟨fun _ => Or.inl ⟨token, htoken, hforeign⟩, fun _ => ⟨_, rfl⟩⟩
  | hashed rank secret c hlevel htoken hbuild =>
    constructor
    · rintro ⟨e, ⟨⟩⟩
    · rintro (⟨token, htoken', hforeign⟩ | ⟨secret', hsecret', hlong⟩ | hmisnamed)
      · cases htoken.symm.trans htoken'
        exact absurd (Text.whole_ofString secret) hforeign
      · obtain rfl := Text.ofString_injective (Option.some.inj (htoken.symm.trans hsecret'))
        exact absurd (Credential.hash?_of_build hbuild).1 (Nat.not_le.2 hlong)
      · exact absurd hmisnamed (Journal.not_isMisnamed hlevel)
  | unhashed rank secret e hlevel htoken hbuild =>
    obtain ⟨hlong, -⟩ := Credential.kind_of_build_error hrounds hsalt hbuild
    exact ⟨fun _ => Or.inr (Or.inl ⟨secret, htoken, hlong⟩), fun _ => ⟨_, rfl⟩⟩

theorem error_of_misnamed (h : Creation digest (Credential.saltText salt) pages settings outcome)
    (hmisnamed : Journal.IsMisnamed settings.logLevel) : ∃ e, outcome.1 = .error (.journal e) := by
  obtain ⟨e, he⟩ := Journal.levelRank_eq_error_iff.2 hmisnamed
  cases h with
  | misnamed e => exact ⟨e, rfl⟩
  | disabled rank hlevel => cases he.symm.trans hlevel
  | foreign rank token hlevel => cases he.symm.trans hlevel
  | hashed rank secret c hlevel => cases he.symm.trans hlevel
  | unhashed rank secret e hlevel => cases he.symm.trans hlevel

theorem error_cases (h : Creation digest (Credential.saltText salt) pages settings outcome)
    (hrounds : 4 ≤ settings.bcryptRounds ∧ settings.bcryptRounds ≤ 31) (hsalt : salt.length = 16)
    (hnot : ¬Journal.IsMisnamed settings.logLevel) {e : CreateError} (he : outcome.1 = .error e) :
    settings.HasForeignSecret ∧ e = .secretForeign ∨
      settings.HasLongSecret ∧ ∃ r, e = .credential (.refused r) ∧ r.kind = .hash := by
  cases h with
  | misnamed e hlevel => exact absurd (Journal.levelRank_eq_error_iff.1 ⟨e, hlevel⟩) hnot
  | disabled => cases he
  | foreign rank token hlevel htoken hforeign =>
    cases he
    exact Or.inl ⟨⟨token, htoken, hforeign⟩, rfl⟩
  | hashed => cases he
  | unhashed rank secret e hlevel htoken hbuild =>
    cases he
    obtain ⟨hlong, r, rfl, hkind⟩ := Credential.kind_of_build_error hrounds hsalt hbuild
    exact Or.inr ⟨⟨secret, htoken, hlong⟩, r, rfl, hkind⟩

theorem credential_of_ok (h : Creation digest (Credential.saltText salt) pages settings outcome)
    (hrounds : 4 ≤ settings.bcryptRounds ∧ settings.bcryptRounds ≤ 31) (hsalt : salt.length = 16)
    {a : App} (ha : outcome.1 = .ok a) :
    (a.registry.credential.get?.isSome ↔ settings.apiToken.isSome) ∧
      ∀ token, settings.apiToken = some token → ∃ secret c, token = Text.ofString secret ∧
        a.registry.credential.get? = some c ∧ c.Fits digest settings.bcryptRounds secret := by
  cases h with
  | misnamed => cases ha
  | foreign => cases ha
  | unhashed => cases ha
  | disabled rank hlevel htoken =>
    cases ha
    refine ⟨by rw [htoken]; exact Iff.rfl, fun token htoken' => ?_⟩
    cases htoken.symm.trans htoken'
  | hashed rank secret c hlevel htoken hbuild =>
    cases ha
    refine ⟨by rw [htoken]; exact Iff.rfl, fun token htoken' => ?_⟩
    cases htoken.symm.trans htoken'
    exact ⟨secret, c, rfl, rfl, Credential.fits_of_build hrounds hsalt hbuild⟩

end Creation

/-- With settings that were read there is no app if and only if the secret is no text in UTF-8, the secret is too long,
or the level is misnamed.  A misnamed level fails at the journal, before the secret is looked at; a secret that is no
text cannot be encoded, and one that is too long is refused by its hash.  An app has a credential if and only if there
is a secret, and then one of the cost of the settings that the secret matches. -/
theorem create_of_read {sources : Sources} (h : Settings.read sources = .ok settings) (hsalt : salt.length = 16)
    (digest : Bcrypt.Digest) (pages : Pages) :
    let created := (App.create digest (Credential.saltText salt) pages settings).1
    ((∃ e, created = .error e) ↔
        settings.HasForeignSecret ∨ settings.HasLongSecret ∨ Journal.IsMisnamed settings.logLevel) ∧
      (Journal.IsMisnamed settings.logLevel → ∃ e, created = .error (.journal e)) ∧
      (¬Journal.IsMisnamed settings.logLevel → ∀ e, created = .error e →
        settings.HasForeignSecret ∧ e = .secretForeign ∨
          settings.HasLongSecret ∧ ∃ r, e = .credential (.refused r) ∧ r.kind = .hash) ∧
      ∀ a, created = .ok a →
        (a.registry.credential.get?.isSome ↔ settings.apiToken.isSome) ∧
        ∀ token, settings.apiToken = some token → ∃ secret c, token = Text.ofString secret ∧
          a.registry.credential.get? = some c ∧ c.Fits digest settings.bcryptRounds secret := by
  obtain ⟨hrounds, -⟩ := Settings.bounds_of_read h
  have hcreation := creation_create digest (Credential.saltText salt) pages settings
  refine ⟨hcreation.error_iff hrounds hsalt, hcreation.error_of_misnamed, ?_, ?_⟩
  · exact fun hnot e he => hcreation.error_cases hrounds hsalt hnot he
  · exact fun a ha => hcreation.credential_of_ok hrounds hsalt ha

theorem create_of_read_s3cr3t :
    ∃ settings c a, Settings.read { keywords := [("api_token", .ofString "s3cr3t")] } = .ok settings ∧
      (App.create Bcrypt.digest (Credential.saltText (List.replicate 16 0)) {} settings).1 = .ok a ∧
      a.registry.credential.get? = some c ∧ c.Fits Bcrypt.digest 12 "s3cr3t" := by
  let settings : Settings := { apiToken := some (Text.ofString "s3cr3t") }
  have hread : Settings.read { keywords := [("api_token", .ofString "s3cr3t")] } = .ok settings :=
    Settings.read_eq_ok_of_toOption (by decide +kernel)
  have hsalt : (List.replicate 16 0 : Bytes).length = 16 := rfl
  obtain ⟨herror, -, -, hok⟩ := create_of_read hread hsalt Bcrypt.digest {}
  cases ha : (App.create Bcrypt.digest (Credential.saltText (List.replicate 16 0)) {} settings).1 with
  | error e =>
    exfalso
    rcases herror.1 ⟨e, ha⟩ with ⟨token, htoken, hforeign⟩ | ⟨secret, hsecret, hlong⟩ | hmisnamed
    · cases htoken
      exact hforeign (Text.whole_ofString "s3cr3t")
    · obtain rfl := Text.ofString_injective (Option.some.inj hsecret)
      revert hlong
      decide
    · revert hmisnamed
      decide
  | ok a =>
    obtain ⟨secret, c, hsecret, hc, hfits⟩ := (hok a ha).2 _ rfl
    obtain rfl := Text.ofString_injective hsecret
    exact ⟨_, c, a, hread, ha, hc, hfits⟩

/-- The level `basic_format` leaves no app, though the settings were read and there is no secret. -/
theorem basic_format_leaves_no_app :
    ∃ settings, Settings.read { keywords := [("log_level", .ofString "basic_format")] } = .ok settings ∧
      settings.apiToken = none ∧
      (App.create Bcrypt.digest (Credential.saltText (List.replicate 16 0)) {} settings).1 =
        .error (.journal .levelIsText) := by
  refine ⟨{ logLevel := Text.ofString "basic_format" }, ?_, rfl, ?_⟩
  · exact Settings.read_eq_ok_of_toOption (by decide +kernel)
  · rfl

end Server.App

end DomainPolicy
