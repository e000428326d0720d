import DomainPolicy.Proofs.Guard.Built

/-!
# Credentials that are not built

The secret's length is looked at first, then the cost, then the salt, and the first of them that cannot be used is what
is reported (`Failure`, `build_eq_error_iff`).  A credential is built if and only if all three can be used.  Every
failure but one is a refusal to hash: a cost that does not fit in 16 bits is reported as no refusal at all
(`build_of_any`).
-/

namespace DomainPolicy.Credential

open Bcrypt (Digest IsSalt)

variable {digest : Digest} {secret salt : String} {rounds : Int} {e : BuildError}

/-- Whether a cost is one at which secrets are hashed. -/
def IsCost (rounds : Int) : Prop := 4 ≤ rounds ∧ rounds ≤ 31

/-- Whether a cost fits in 16 bits. -/
def IsInReach (rounds : Int) : Prop := 0 ≤ rounds ∧ rounds ≤ 65535

theorem IsCost.isInReach (h : IsCost rounds) : IsInReach rounds :=
  ⟨Int.le_trans (by decide) h.1, Int.le_trans h.2 (by decide)⟩

/-- What is reported of a secret, a cost and a salt that cannot be used: the first of them at fault. -/
inductive Failure (secret : String) (rounds : Int) (salt : String) : BuildError → Prop
  | tooLong : maxSecretBytes < Utf8.size secret → Failure secret rounds salt (.refused ⟨.hash, some .secretTooLong⟩)
  | outOfReach : Utf8.size secret ≤ maxSecretBytes → ¬IsInReach rounds → Failure secret rounds salt .roundsOutOfReach
  | outOfBounds : Utf8.size secret ≤ maxSecretBytes → IsInReach rounds → ¬IsCost rounds →
      Failure secret rounds salt (.refused ⟨.hash, some .invalidRounds⟩)
  | noSalt : Utf8.size secret ≤ maxSecretBytes → IsCost rounds → (¬∃ chars, IsSalt salt chars) →
      Failure secret rounds salt (.refused ⟨.hash, some .invalidSalt⟩)

/-- A secret, a cost and a salt of which one is at fault. -/
theorem build_of_failure (digest : Digest) (h : Failure secret rounds salt e) :
    build digest secret rounds salt = .error e := by
  cases h with
  | tooLong hsecret => exact if_pos hsecret
  | outOfReach hsecret hreach =>
    unfold IsInReach at hreach
    unfold build
    simp only
    rw [if_neg (Nat.not_lt.2 hsecret), if_pos (by omega)]
  | outOfBounds hsecret hreach hcost =>
    unfold IsInReach at hreach
    unfold IsCost at hcost
    unfold build
    simp only
    rw [if_neg (Nat.not_lt.2 hsecret), if_neg (by omega), if_pos (by omega)]
  | noSalt hsecret hcost hsalt =>
    rw [build_of_bounds hsecret hcost]
    cases hhash : Bcrypt.hash? digest (Utf8.encode secret) (Bcrypt.freshSetting rounds.toNat salt) with
    | none => rfl
    | some hash =>
      -- a hash would be that of a credential
      have hbuild : build digest secret rounds salt = .ok ⟨hash⟩ := by rw [build_of_bounds hsecret hcost, hhash]
      exact absurd ((exists_build_iff digest hsecret hcost).1 ⟨_, hbuild⟩) hsalt

/-- One of the three is at fault, unless all can be used. -/
theorem exists_failure_iff :
    (∃ e, Failure secret rounds salt e) ↔
      ¬(Utf8.size secret ≤ maxSecretBytes ∧ IsCost rounds ∧ ∃ chars, IsSalt salt chars) := by
  constructor
  · rintro ⟨e, hsecret | ⟨-, hreach⟩ | ⟨-, -, hcost⟩ | ⟨-, -, hsalt⟩⟩ ⟨hsecret', hcost', hsalt'⟩
    · exact Nat.not_lt.2 hsecret' hsecret
    · exact hreach hcost'.isInReach
    · exact hcost hcost'
    · exact hsalt hsalt'
  · intro h
    by_cases hsecret : Utf8.size secret ≤ maxSecretBytes
    · by_cases hcost : IsCost rounds
      · exact ⟨_, .noSalt hsecret hcost fun hsalt => h ⟨hsecret, hcost, hsalt⟩⟩
      · by_cases hreach : IsInReach rounds
        · exact ⟨_, .outOfBounds hsecret hreach hcost⟩
        · exact ⟨_, .outOfReach hsecret hreach⟩
    · exact ⟨_, .tooLong (Nat.not_le.1 hsecret)⟩

theorem build_eq_error_iff (digest : Digest) :
    build digest secret rounds salt = .error e ↔ Failure secret rounds salt e := by
  refine ⟨fun h => ?_, build_of_failure digest⟩
  by_cases hfailure : ∃ e, Failure secret rounds salt e
  · obtain ⟨e', he'⟩ := hfailure
    cases h.symm.trans (build_of_failure digest he')
    exact he'
  · rw [exists_failure_iff, not_not] at hfailure
    obtain ⟨hsecret, hcost, hsalt⟩ := hfailure
    obtain ⟨c, hc⟩ := (exists_build_iff digest hsecret hcost).2 hsalt
    cases h.symm.trans hc

/-- Every secret gets a credential at every cost with every salt if all three can be used, and otherwise an error that
tells the first of them at fault.  The error is a refusal to hash with its cause, unless the secret is not too long and
the cost does not fit in 16 bits. -/
theorem build_of_any (digest : Digest) (secret : String) (rounds : Int) (salt : String) :
    ((∃ c, build digest secret rounds salt = .ok c) ↔
        Utf8.size secret ≤ maxSecretBytes ∧ IsCost rounds ∧ ∃ chars, IsSalt salt chars) ∧
      (∀ e, build digest secret rounds salt = .error e ↔ Failure secret rounds salt e) ∧
      ((∃ c, build digest secret rounds salt = .ok c) ∨
          (∃ cause, build digest secret rounds salt = .error (.refused ⟨.hash, some cause⟩)) ↔
        maxSecretBytes < Utf8.size secret ∨ IsInReach rounds) := by
  have hok : (∃ c, build digest secret rounds salt = .ok c) ↔
      Utf8.size secret ≤ maxSecretBytes ∧ IsCost rounds ∧ ∃ chars, IsSalt salt chars := by
    rw [← not_iff_not, ← exists_failure_iff]
    simp only [← build_eq_error_iff digest]
    cases build digest secret rounds salt <;> simp
  refine ⟨hok, fun e => build_eq_error_iff digest, ?_⟩
  constructor
  · rintro (hbuilt | ⟨cause, hcause⟩)
    · exact Or.inr (hok.1 hbuilt).2.1.isInReach
    · cases (build_eq_error_iff digest).1 hcause with
      | tooLong hsecret => exact Or.inl hsecret
      | outOfBounds _ hreach _ => exact Or.inr hreach
      | noSalt _ hcost _ => exact Or.inr hcost.isInReach
  · intro h
    by_cases hfailure : ∃ e, Failure secret rounds salt e
    · obtain ⟨e, hfailure⟩ := hfailure
      have herror := build_of_failure digest hfailure
      cases hfailure with
      | tooLong _ => exact Or.inr ⟨_, herror⟩
      | outOfReach hsecret hreach => exact absurd h (not_or.2 ⟨Nat.not_lt.2 hsecret, hreach⟩)
      | outOfBounds _ _ _ => exact Or.inr ⟨_, herror⟩
      | noSalt _ _ _ => exact Or.inr ⟨_, herror⟩
    · rw [exists_failure_iff, not_not] at hfailure
      exact Or.inl (hok.2 hfailure)

/-- At a cost of 65536 a short secret gets neither a credential nor a refusal. -/
theorem cost_out_of_reach_is_no_refusal :
    ¬((∃ c, build Bcrypt.digest "a" 65536 "abcdefghijklmnopqrstuu" = .ok c) ∨
      ∃ r, build Bcrypt.digest "a" 65536 "abcdefghijklmnopqrstuu" = .error (.refused r)) := by
  have hbuild : build Bcrypt.digest "a" 65536 "abcdefghijklmnopqrstuu" = .error .roundsOutOfReach :=
    build_of_failure _ (.outOfReach (by decide) fun h => absurd h.2 (by decide))
  rw [hbuild]
  rintro (⟨c, hc⟩ | ⟨r, hr⟩)
  · cases hc
  · cases hr

end DomainPolicy.Credential
