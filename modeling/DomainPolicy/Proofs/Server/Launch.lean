import DomainPolicy.Launch
import DomainPolicy.Proofs.Server.Process
import DomainPolicy.Proofs.Server.Verdict
import DomainPolicy.Proofs.Settings.Token

/-!
# What a launch serves

A launch fails at its settings or at its app, or there is a plan (`launching_launch`).  The app of a plan has a
credential if and only if the environment has a variable for the token, and then the one that is made of it; whatever
it serves, it keeps that (`Plan.Serves.credential`).  So without such a variable it serves refusals only
(`Plan.Serves.refused`).
-/

namespace DomainPolicy

open Server (App CreateError IsAdmins Pages Tells)
open Settings (NamesToken SetsToken)

variable {digest : Bcrypt.Digest} {salt : String} {pages : Pages} {environment : List (Text × Text)} {plan : Plan}
  {a : App}

/-! ### Launches -/

/-- How a launch can end, and what is reported meanwhile. -/
inductive Launching (digest : Bcrypt.Digest) (salt : String) (pages : Pages) (environment : List (Text × Text)) :
    Except LaunchError Plan × List Record → Prop
  | rejected {cs : List Complaint} (hsettings : Settings.ofEnvironment environment = .error cs) :
      Launching digest salt pages environment (.error (.settings cs), [])
  | notCreated {settings : Settings} {e : CreateError} {records : List Record}
      (hsettings : Settings.ofEnvironment environment = .ok settings)
      (hcreate : App.create digest salt pages settings = (.error e, records)) :
      Launching digest salt pages environment (.error (.app e), records)
  | planned {settings : Settings} {a : App} {records : List Record}
      (hsettings : Settings.ofEnvironment environment = .ok settings)
      (hcreate : App.create digest salt pages settings = (.ok a, records)) :
      Launching digest salt pages environment
        (.ok { app := a, host := settings.apiHost, port := settings.apiPort }, records)

theorem launching_launch (digest : Bcrypt.Digest) (salt : String) (pages : Pages) (environment : List (Text × Text)) :
    Launching digest salt pages environment (launch digest salt pages environment) := by
  unfold launch Settings.Cache.get
  dsimp only
  cases hsettings : Settings.ofEnvironment environment with
  | error cs => exact .rejected hsettings
  | ok settings =>
    dsimp only
    cases hcreate : App.create digest salt pages settings with
    | mk result records =>
      cases result with
      | error e => exact .notCreated hsettings hcreate
      | ok a => exact .planned hsettings hcreate

/-- There is a plan if and only if the settings were read and the app was created, and it is a plan of both. -/
theorem launch_eq_ok_iff :
    (launch digest salt pages environment).1 = .ok plan ↔
      ∃ settings a, Settings.ofEnvironment environment = .ok settings ∧
        (App.create digest salt pages settings).1 = .ok a ∧
        plan = { app := a, host := settings.apiHost, port := settings.apiPort } := by
  have hlaunching := launching_launch digest salt pages environment
  generalize launch digest salt pages environment = x at hlaunching ⊢
  cases hlaunching with
  | rejected hsettings =>
    refine iff_of_false nofun ?_
    rintro ⟨settings, a, hsettings', -⟩
    cases hsettings.symm.trans hsettings'
  | notCreated hsettings hcreate =>
    refine iff_of_false nofun ?_
    rintro ⟨settings, a, hsettings', hcreate', -⟩
    cases hsettings.symm.trans hsettings'
    rw [hcreate] at hcreate'
    cases hcreate'
  | planned hsettings hcreate =>
    constructor
    · rintro ⟨⟩
      exact ⟨_, _, hsettings, congrArg Prod.fst hcreate, rfl⟩
    · rintro ⟨settings, a, hsettings', hcreate', rfl⟩
      cases hsettings.symm.trans hsettings'
      rw [hcreate] at hcreate'
      cases hcreate'
      rfl

/-! ### What is served -/

/-- The states in which the app of a plan serves: as it was created, once it was started on some disk, and after any
requests. -/
inductive Plan.Serves (digest : Bcrypt.Digest) (plan : Plan) : App → Prop
  | created : plan.Serves digest plan.app
  | started {a : App} {disk disk' : Disk} {records : List Record}
      (h : plan.app.start disk = ((disk', .ok a), records)) : plan.Serves digest a
  | answered {a : App} (h : plan.Serves digest a) (fresh : String) (r : Http.Request) :
      plan.Serves digest (a.serve digest fresh r).1

/-- The credential is the one of the plan, whatever is served. -/
theorem Plan.Serves.credential (h : plan.Serves digest a) :
    a.registry.credential = plan.app.registry.credential := by
  induction h with
  | created => rfl
  | started h =>
    obtain ⟨db, rfl⟩ := Server.App.exists_withDatabase_of_start h
    rfl
  | answered h fresh r ih => exact ih

/-- Without a credential each request that needs one is refused, and told so. -/
theorem Plan.Serves.refused (h : plan.Serves digest a) (hmissing : plan.app.registry.credential.get? = none) :
    (∀ headers, Guard.requireAdmin digest a.registry headers = .refused ⟨.missingConfig, none⟩) ∧
      ∀ r fresh, IsAdmins r → Tells (a.serve digest fresh r).2.response ⟨.missingConfig, none⟩ := by
  have hrefused : ∀ headers, Guard.requireAdmin digest a.registry headers = .refused ⟨.missingConfig, none⟩ := by
    intro headers
    rw [Guard.requireAdmin, h.credential, hmissing]
  exact ⟨hrefused, fun r fresh hr => Server.tells_of_refused hr (hrefused r.headers) fresh⟩

/-- The credential of an app that was created is made of the token of the settings, if there is one. -/
theorem credential_create {settings : Settings} (h : (App.create digest salt pages settings).1 = .ok a) :
    match settings.apiToken with
    | none => a.registry.credential = .missing
    | some token => ∃ secret c, token = Text.ofString secret ∧ a.registry.credential = .holds c ∧
        c.verify digest ⟨secret⟩ = .ok true := by
  have hcreation := Server.App.creation_create digest salt pages settings
  generalize App.create digest salt pages settings = x at hcreation h
  cases hcreation with
  | misnamed => cases h
  | foreign => cases h
  | unhashed => cases h
  | disabled rank hlevel htoken =>
    cases h
    rw [htoken]
  | hashed rank secret c hlevel htoken hbuild =>
    cases h
    rw [htoken]
    exact ⟨secret, c, rfl, rfl, Credential.verify_self hbuild⟩

/-- A plan has a credential if and only if a variable is named for the token, and then the value of the last such
variable matches it. -/
theorem credential_of_launch (h : (launch digest salt pages environment).1 = .ok plan) :
    (plan.app.isEnabled = true ↔ ∃ p ∈ environment, NamesToken p.1) ∧
      ((∃ p ∈ environment, NamesToken p.1) → ∃ secret c, SetsToken environment (.ofString secret) ∧
        plan.app.registry.credential = .holds c ∧ c.verify digest ⟨secret⟩ = .ok true) := by
  obtain ⟨settings, a, hsettings, hcreate, rfl⟩ := launch_eq_ok_iff.1 h
  have hcredential := credential_create hcreate
  rw [← Settings.isSome_apiToken_iff hsettings, App.isEnabled]
  cases htoken : settings.apiToken with
  | none =>
    rw [htoken] at hcredential
    simp [hcredential, Slot.get?]
  | some token =>
    rw [htoken] at hcredential
    obtain ⟨secret, c, rfl, hc, hverify⟩ := hcredential
    have hset := (Settings.apiToken_eq_some_iff hsettings).1 htoken
    exact ⟨by simp [hc, Slot.get?], fun _ => ⟨secret, c, hset, hc, hverify⟩⟩

/-- A launch has a plan if and only if the settings of the environment were read and the app was created from them, and
the plan is of that app, at the host and the port of the settings.  The app has a credential if and only if a variable
is named for the token.  Then it keeps a credential that the value of the last such variable matches, whatever it
serves; else it refuses every request that needs one, whatever it serves. -/
theorem launch_serves (digest : Bcrypt.Digest) (salt : String) (pages : Pages) (environment : List (Text × Text)) :
    (∀ plan, (launch digest salt pages environment).1 = .ok plan ↔
      ∃ settings a, Settings.ofEnvironment environment = .ok settings ∧
        (App.create digest salt pages settings).1 = .ok a ∧
        plan = { app := a, host := settings.apiHost, port := settings.apiPort }) ∧
    ∀ plan, (launch digest salt pages environment).1 = .ok plan →
      (plan.app.isEnabled = true ↔ ∃ p ∈ environment, NamesToken p.1) ∧
      ((∃ p ∈ environment, NamesToken p.1) → ∃ secret c, SetsToken environment (.ofString secret) ∧
        c.verify digest ⟨secret⟩ = .ok true ∧ ∀ a, plan.Serves digest a → a.registry.credential = .holds c) ∧
      ((¬∃ p ∈ environment, NamesToken p.1) → ∀ a, plan.Serves digest a →
        (∀ headers, Guard.requireAdmin digest a.registry headers = .refused ⟨.missingConfig, none⟩) ∧
        ∀ r fresh, IsAdmins r → Tells (a.serve digest fresh r).2.response ⟨.missingConfig, none⟩) := by
  refine ⟨fun plan => launch_eq_ok_iff, fun plan hplan => ?_⟩
  obtain ⟨henabled, hmatches⟩ := credential_of_launch hplan
  refine ⟨henabled, fun hnamed => ?_, fun hnone a ha => ?_⟩
  · obtain ⟨secret, c, hset, hc, hverify⟩ := hmatches hnamed
    exact ⟨secret, c, hset, hverify, fun a ha => ha.credential.trans hc⟩
  · apply ha.refused
    rw [← henabled, App.isEnabled, Bool.not_eq_true, Option.isSome_eq_false_iff, Option.isNone_iff_eq_none] at hnone
    exact hnone

/-- With a token in the environment there is a credential that it matches; without one all is refused. -/
theorem launch_serves_s3cr3t :
    let salt := Credential.saltText (List.replicate 16 0)
    let environment : List (Text × Text) := [("Relay_Api_Token", "s3cr3t")]
    ∃ plan bare c, (launch Bcrypt.digest salt {} environment).1 = .ok plan ∧
      plan.app.registry.credential = .holds c ∧ c.verify Bcrypt.digest ⟨"s3cr3t"⟩ = .ok true ∧
      (launch Bcrypt.digest salt {} []).1 = .ok bare ∧
      ∀ headers, Guard.requireAdmin Bcrypt.digest bare.app.registry headers = .refused ⟨.missingConfig, none⟩ := by
  intro salt environment
  let settings : Settings := { apiToken := some (Text.ofString "s3cr3t") }
  have hread : Settings.ofEnvironment environment = .ok settings :=
    Settings.ofEnvironment_eq_ok_of_toOption (by decide +kernel)
  have hnamed : ∃ p ∈ environment, NamesToken p.1 := (Settings.isSome_apiToken_iff hread).1 rfl
  have hsize : Utf8.size "s3cr3t" ≤ maxSecretBytes := by decide
  have hrounds : 4 ≤ (12 : Int) ∧ (12 : Int) ≤ 31 := by decide
  have hsalt : (List.replicate 16 0 : Bytes).length = 16 := rfl
  obtain ⟨built, hbuilt⟩ := Credential.exists_build_of_rounds Bcrypt.digest hsize hrounds hsalt
  have hcreate : App.create Bcrypt.digest salt {} settings = _ := App.create_of_build rfl rfl hbuilt
  have hcreate' : App.create Bcrypt.digest salt {} {} = _ := App.create_of_none rfl rfl
  obtain ⟨hplan, hserves⟩ := launch_serves Bcrypt.digest salt {} environment
  obtain ⟨hbare, hcloses⟩ := launch_serves Bcrypt.digest salt {} []
  have hlaunch := (hplan _).2 ⟨_, _, hread, congrArg Prod.fst hcreate, rfl⟩
  have hlaunch' := (hbare _).2 ⟨_, _, rfl, congrArg Prod.fst hcreate', rfl⟩
  obtain ⟨secret, c, hset, hverify, hkeeps⟩ := (hserves _ hlaunch).2.1 hnamed
  obtain rfl := Text.ofString_injective (Option.some.inj ((Settings.apiToken_eq_some_iff hread).2 hset))
  have hrefuses := ((hcloses _ hlaunch').2.2 (by simp) _ .created).1
  exact ⟨_, _, c, hlaunch, hkeeps _ .created, hverify, hlaunch', hrefuses⟩

end DomainPolicy
