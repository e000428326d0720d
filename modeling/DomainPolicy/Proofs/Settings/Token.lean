import DomainPolicy.Proofs.Settings.Bounds
import Mathlib.Data.List.Basic

/-!
# The token of an environment

Settings that were read from an environment hold a token if and only if a variable is named for it, whatever the case of
the name (`isSome_apiToken_iff`).  The token is the value of the last such variable, as it is (`apiToken_eq_some_iff`).
-/

namespace DomainPolicy.Settings

open Json (Value)

/-- Whether a variable is named for the token. -/
def NamesToken (name : Text) : Prop := Statements.fold name = Statements.fold "RELAY_API_TOKEN"

instance : DecidablePred NamesToken := fun _ => inferInstanceAs (Decidable (_ = _))

/-- Whether the last variable of an environment that is named for the token has this value. -/
def SetsToken (environment : List (Text × Text)) (value : Text) : Prop :=
  ∃ before name after, environment = before ++ (name, value) :: after ∧ NamesToken name ∧ ∀ p ∈ after, ¬NamesToken p.1

example : NamesToken "Relay_Api_Token" ∧ ¬NamesToken "API_TOKEN" := by decide +kernel

variable {environment : List (Text × Text)} {settings : Settings} {value : Text}

/-- The last variable of a name decides the field of an environment, and nothing else does. -/
theorem winner?_ofEnvironment (environment : List (Text × Text)) (field : String) :
    (Statements.ofEnvironment environment).winner? field =
      (environment.reverse.find? fun p =>
          Statements.fold p.1 = Statements.fold (Text.ofString "RELAY_" ++ Text.ofString field)).map
        fun p => .string p.2 := by
  have hcounted : (Statements.ofEnvironment environment).counted = environment :=
    List.filter_eq_self.2 fun _ _ => rfl
  show ((none : Option Value).or none).or ((Statements.ofEnvironment environment).fromVariables? field) = _
  rw [Statements.fromVariables?, hcounted]
  rfl

/-- The token of an environment, and what its last variable that is named for it says. -/
theorem apiToken_eq (h : ofEnvironment environment = .ok settings) :
    settings.apiToken = (environment.reverse.find? fun p => NamesToken p.1).map Prod.snd := by
  have hsays := (ofStatements_eq_ok_iff.1 h).apiToken
  have hname : Statements.fold (Text.ofString "RELAY_" ++ Text.ofString "api_token") =
      Statements.fold "RELAY_API_TOKEN" := by decide +kernel
  rw [field, winner?_ofEnvironment, hname] at hsays
  show _ = (environment.reverse.find? fun p => Statements.fold p.1 = Statements.fold "RELAY_API_TOKEN").map Prod.snd
  cases hfound : environment.reverse.find? fun p => Statements.fold p.1 = Statements.fold "RELAY_API_TOKEN" with
  | none =>
    rw [hfound] at hsays
    exact (Except.ok.inj hsays).symm
  | some p =>
    have hread : Reading.textOrNull (.string p.2) = .ok (some p.2) := rfl
    simp only [hfound, Option.map_some, hread] at hsays
    exact (Except.ok.inj hsays).symm

/-- The token is the value of the last variable that is named for it. -/
theorem apiToken_eq_some_iff (h : ofEnvironment environment = .ok settings) :
    settings.apiToken = some value ↔ SetsToken environment value := by
  rw [apiToken_eq h, Option.map_eq_some_iff]
  constructor
  · rintro ⟨⟨name, _⟩, hfound, rfl⟩
    -- what comes first in the reversed list comes last in the environment
    obtain ⟨hname, after, before, hsplit, hafter⟩ := List.find?_eq_some_iff_append.1 hfound
    refine ⟨before.reverse, name, after.reverse, ?_, by simpa using hname, fun p hp => ?_⟩
    · rw [← List.reverse_reverse environment, hsplit]
      simp
    · simpa using hafter p (List.mem_reverse.1 hp)
  · rintro ⟨before, name, after, rfl, hname, hafter⟩
    refine ⟨(name, value), ?_, rfl⟩
    refine List.find?_eq_some_iff_append.2 ⟨decide_eq_true hname, after.reverse, before.reverse, ?_, ?_⟩
    · simp
    · intro p hp
      simpa using hafter p (List.mem_reverse.1 hp)

/-- There is a token if and only if a variable is named for it. -/
theorem isSome_apiToken_iff (h : ofEnvironment environment = .ok settings) :
    settings.apiToken.isSome ↔ ∃ p ∈ environment, NamesToken p.1 := by
  rw [apiToken_eq h, Option.isSome_map, List.find?_isSome]
  simp

/-- The settings of an environment can be computed. -/
theorem ofEnvironment_eq_ok_of_toOption (h : (ofEnvironment environment).toOption = some settings) :
    ofEnvironment environment = .ok settings := eq_ok_of_toOption h

end DomainPolicy.Settings
