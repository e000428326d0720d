import DomainPolicy.Proofs.Settings.Bounds

/-!
# Settings one by one

A `Field` is one of the settings, with its name, how its value is read (`Field.read`) and what the settings hold for it
(`Settings.get`).  Statements are read as settings if and only if each field is read as what they hold and no keyword is
unknown (`ofStatements_eq_ok_iff_get`).  What is complained of are the complaints about the fields, in order, and then
those about unknown keywords (`complaints_ofStatements`).
-/

namespace DomainPolicy

open Json (Value)

/-! ### Complaints -/

namespace Checked

variable {α β : Type}

/-- What is complained of. -/
def complaints : Checked α → List Complaint
  | .ok _ => []
  | .error cs => cs

theorem complaints_and (f : Checked (α → β)) (a : Checked α) : (f.and a).complaints = f.complaints ++ a.complaints := by
  cases f with
  | ok g => cases a <;> rfl
  | error cs =>
    cases a with
    | ok x => exact (List.append_nil cs).symm
    | error cs' => rfl

theorem complaints_map (f : α → β) (a : Checked α) : complaints (a.map f) = a.complaints := by
  cases a <;> rfl

end Checked

namespace Settings

/-! ### Fields -/

/-- One of the settings. -/
inductive Field where
  | env
  | serviceName
  | logLevel
  | jsonLogs
  | apiHost
  | apiPort
  | apiToken
  | bcryptRounds
  | verifyWorkers
  | databaseUrl
  deriving DecidableEq, Repr

namespace Field

/-- The fields, in order. -/
def all : List Field :=
  [env, serviceName, logLevel, jsonLogs, apiHost, apiPort, apiToken, bcryptRounds, verifyWorkers, databaseUrl]

theorem mem_all (f : Field) : f ∈ all := by cases f <;> decide

def name : Field → String
  | env => "env"
  | serviceName => "service_name"
  | logLevel => "log_level"
  | jsonLogs => "json_logs"
  | apiHost => "api_host"
  | apiPort => "api_port"
  | apiToken => "api_token"
  | bcryptRounds => "bcrypt_rounds"
  | verifyWorkers => "verify_workers"
  | databaseUrl => "database_url"

theorem map_name_all : all.map name = fieldNames := rfl

/-- What a field holds. -/
def Carrier : Field → Type
  | env => Environment
  | serviceName | logLevel | apiHost | databaseUrl => Text
  | jsonLogs => Bool
  | apiPort | bcryptRounds | verifyWorkers => Int
  | apiToken => Option Text

/-- How a value of a field is read. -/
def read : (f : Field) → Value → Except Fault f.Carrier
  | env => Environment.read
  | serviceName | logLevel | apiHost | databaseUrl => Reading.text
  | jsonLogs => Reading.bool
  | apiPort => Reading.int
  | apiToken => Reading.textOrNull
  | bcryptRounds => Reading.intWithin (some 4) (some 31)
  | verifyWorkers => Reading.intWithin (some 1) none

end Field

/-- What settings hold for a field. -/
def get (settings : Settings) : (f : Field) → f.Carrier
  | .env => settings.env
  | .serviceName => settings.serviceName
  | .logLevel => settings.logLevel
  | .jsonLogs => settings.jsonLogs
  | .apiHost => settings.apiHost
  | .apiPort => settings.apiPort
  | .apiToken => settings.apiToken
  | .bcryptRounds => settings.bcryptRounds
  | .verifyWorkers => settings.verifyWorkers
  | .databaseUrl => settings.databaseUrl

/-- What statements say of a field. -/
def checked (s : Statements) (f : Field) : Checked f.Carrier := field s f.name (default.get f) f.read

variable {s : Statements} {settings : Settings}

/-! ### All fields -/

/-- Statements are read as settings if and only if each field is read as what these hold and no keyword is unknown. -/
theorem ofStatements_eq_ok_iff_get :
    ofStatements s = .ok settings ↔ (∀ f, checked s f = .ok (settings.get f)) ∧ unknownKeywords s = [] := by
  rw [ofStatements_eq_ok_iff]
  constructor
  · intro h
    refine ⟨fun f => ?_, h.keywords⟩
    cases f with
    | env => exact h.env
    | serviceName => exact h.serviceName
    | logLevel => exact h.logLevel
    | jsonLogs => exact h.jsonLogs
    | apiHost => exact h.apiHost
    | apiPort => exact h.apiPort
    | apiToken => exact h.apiToken
    | bcryptRounds => exact h.bcryptRounds
    | verifyWorkers => exact h.verifyWorkers
    | databaseUrl => exact h.databaseUrl
  · rintro ⟨h, hkeywords⟩
    exact ⟨h .env, h .serviceName, h .logLevel, h .jsonLogs, h .apiHost, h .apiPort, h .apiToken, h .bcryptRounds,
      h .verifyWorkers, h .databaseUrl, hkeywords⟩

/-- If every field is read, there are settings that hold what is read. -/
theorem exists_get (h : ∀ f, ∃ a, checked s f = .ok a) :
    ∃ settings : Settings, ∀ f, checked s f = .ok (settings.get f) := by
  obtain ⟨a, ha⟩ := Classical.axiomOfChoice h
  refine ⟨⟨a .env, a .serviceName, a .logLevel, a .jsonLogs, a .apiHost, a .apiPort, a .apiToken, a .bcryptRounds,
    a .verifyWorkers, a .databaseUrl⟩, fun f => ?_⟩
  rw [ha f]
  cases f <;> rfl

theorem complaints_noUnknownKeywords (s : Statements) : (noUnknownKeywords s).complaints = unknownKeywords s := by
  unfold noUnknownKeywords
  split
  · rename_i h
    exact h.symm
  · rfl

theorem complaints_ofStatements (s : Statements) :
    (ofStatements s).complaints = (Field.all.flatMap fun f => (checked s f).complaints) ++ unknownKeywords s := by
  simp only [ofStatements, Checked.complaints_and, Checked.complaints_map, complaints_noUnknownKeywords]
  simp only [Field.all, List.flatMap_cons, List.flatMap_nil, List.append_nil, List.append_assoc]
  rfl

end Settings

end DomainPolicy
