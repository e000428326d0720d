import DomainPolicy.Settings.Basic

/-!
# Settings that were read

Settings are read without a complaint if and only if each field reads as what it is and no keyword is unknown
(`ofStatements_eq_ok_iff`).  A number that is read between bounds is between them, so settings that were read have a
cost and a number of workers that can be used (`bounds_of_read`), wherever the numbers come from.
-/

namespace DomainPolicy

open Json (Value)

/-- Parts that are joined are complained about unless all of them were read. -/
theorem Checked.and_eq_ok_iff {α β : Type} {f : Checked (α → β)} {a : Checked α} {b : β} :
    f.and a = .ok b ↔ ∃ g x, f = .ok g ∧ a = .ok x ∧ g x = b := by
  unfold Checked.and
  constructor
  · intro h
    split at h
    · rename_i g x
      exact ⟨g, x, rfl, rfl, Except.ok.inj h⟩
    · cases h
    · cases h
    · cases h
  · rintro ⟨g, x, rfl, rfl, rfl⟩
    rfl

theorem Checked.map_eq_ok_iff {α β : Type} {f : α → β} {a : Checked α} {b : β} :
    a.map f = .ok b ↔ ∃ x, a = .ok x ∧ f x = b := by
  cases a with
  | error e => simp [Except.map]
  | ok x => simp [Except.map]

theorem Reading.bounds_of_intWithin {least most : Option Int} {v : Value} {n : Int}
    (h : intWithin least most v = .ok n) : (∀ l ∈ least, l ≤ n) ∧ ∀ m ∈ most, n ≤ m := by
  unfold intWithin at h
  split at h
  · cases h
  · simp only [Option.mem_def]
    cases least with
    | none =>
      cases most with
      | none => simp
      | some m =>
        simp only at h
        split at h
        · cases h
        · rename_i hm
          cases h
          simpa using Int.not_lt.1 hm
    | some l =>
      cases most with
      | none =>
        simp only at h
        split at h
        · cases h
        · rename_i hl
          cases h
          simpa using Int.not_lt.1 hl
      | some m =>
        simp only at h
        split at h
        · cases h
        · rename_i hl
          split at h
          · cases h
          · rename_i hm
            cases h
            simpa using And.intro (Int.not_lt.1 hl) (Int.not_lt.1 hm)

namespace Settings

variable {s : Statements} {settings : Settings}

/-- What is read as a field is its default, or was read from a value. -/
theorem cases_of_field {α : Type} {name : String} {default a : α} {read : Value → Except Fault α}
    (h : field s name default read = .ok a) : a = default ∨ ∃ v, s.winner? name = some v ∧ read v = .ok a := by
  unfold field at h
  split at h
  · exact Or.inl (Except.ok.inj h).symm
  · rename_i v hv
    split at h
    · rename_i x hx
      cases h
      exact Or.inr ⟨v, hv, hx⟩
    · cases h

/-- A number that is read between bounds, as its default is, is between them. -/
theorem bounds_of_field {name : String} {default n : Int} {least most : Option Int}
    (h : field s name default (Reading.intWithin least most) = .ok n)
    (hdefault : (∀ l ∈ least, l ≤ default) ∧ ∀ m ∈ most, default ≤ m) :
    (∀ l ∈ least, l ≤ n) ∧ ∀ m ∈ most, n ≤ m := by
  rcases cases_of_field h with rfl | ⟨v, -, hv⟩
  · exact hdefault
  · exact Reading.bounds_of_intWithin hv

/-- What statements say of each field, there being no keywords but those of fields. -/
structure Says (s : Statements) (settings : Settings) : Prop where
  env : field s "env" default.env Environment.read = .ok settings.env
  serviceName : field s "service_name" default.serviceName Reading.text = .ok settings.serviceName
  logLevel : field s "log_level" default.logLevel Reading.text = .ok settings.logLevel
  jsonLogs : field s "json_logs" default.jsonLogs Reading.bool = .ok settings.jsonLogs
  apiHost : field s "api_host" default.apiHost Reading.text = .ok settings.apiHost
  apiPort : field s "api_port" default.apiPort Reading.int = .ok settings.apiPort
  apiToken : field s "api_token" default.apiToken Reading.textOrNull = .ok settings.apiToken
  bcryptRounds :
    field s "bcrypt_rounds" default.bcryptRounds (Reading.intWithin (some 4) (some 31)) = .ok settings.bcryptRounds
  verifyWorkers :
    field s "verify_workers" default.verifyWorkers (Reading.intWithin (some 1) none) = .ok settings.verifyWorkers
  databaseUrl : field s "database_url" default.databaseUrl Reading.text = .ok settings.databaseUrl
  keywords : unknownKeywords s = []

theorem noUnknownKeywords_eq_ok_iff : noUnknownKeywords s = .ok () ↔ unknownKeywords s = [] := by
  unfold noUnknownKeywords
  cases unknownKeywords s with
  | nil => simp
  | cons c cs => simp

/-- Settings are what statements say, or there are complaints. -/
theorem ofStatements_eq_ok_iff : ofStatements s = .ok settings ↔ Says s settings := by
  unfold ofStatements
  constructor
  · intro h
    obtain ⟨_, ⟨⟩, hmapped, hkeywords, rfl⟩ := Checked.and_eq_ok_iff.1 h
    obtain ⟨_, hall, hsettings⟩ := Checked.map_eq_ok_iff.1 hmapped
    -- the fields, the last one first
    obtain ⟨_, _, hnine, hurl, rfl⟩ := Checked.and_eq_ok_iff.1 hall
    obtain ⟨_, _, height, hworkers, rfl⟩ := Checked.and_eq_ok_iff.1 hnine
    obtain ⟨_, _, hseven, hrounds, rfl⟩ := Checked.and_eq_ok_iff.1 height
    obtain ⟨_, _, hsix, htoken, rfl⟩ := Checked.and_eq_ok_iff.1 hseven
    obtain ⟨_, _, hfive, hport, rfl⟩ := Checked.and_eq_ok_iff.1 hsix
    obtain ⟨_, _, hfour, hhost, rfl⟩ := Checked.and_eq_ok_iff.1 hfive
    obtain ⟨_, _, hthree, hjson, rfl⟩ := Checked.and_eq_ok_iff.1 hfour
    obtain ⟨_, _, htwo, hlevel, rfl⟩ := Checked.and_eq_ok_iff.1 hthree
    obtain ⟨_, _, hone, hname, rfl⟩ := Checked.and_eq_ok_iff.1 htwo
    obtain ⟨_, _, ⟨⟩, henv, rfl⟩ := Checked.and_eq_ok_iff.1 hone
    rw [← hsettings]
    exact ⟨henv, hname, hlevel, hjson, hhost, hport, htoken, hrounds, hworkers, hurl,
      noUnknownKeywords_eq_ok_iff.1 hkeywords⟩
  · intro h
    simp only [h.env, h.serviceName, h.logLevel, h.jsonLogs, h.apiHost, h.apiPort, h.apiToken, h.bcryptRounds,
      h.verifyWorkers, h.databaseUrl, noUnknownKeywords_eq_ok_iff.2 h.keywords]
    rfl

/-- Settings that were read are what the statements of their sources say. -/
theorem says_of_read {sources : Sources} (h : read sources = .ok settings) :
    ∃ s, Statements.ofSources sources = .ok s ∧ Says s settings := by
  unfold read at h
  split at h
  · cases h
  · rename_i s hs
    refine ⟨s, hs, ofStatements_eq_ok_iff.1 ?_⟩
    cases hof : ofStatements s with
    | error cs =>
      rw [hof] at h
      cases h
    | ok settings =>
      rw [hof] at h
      cases h
      rfl

/-- What is read can be computed, also where errors cannot be compared. -/
theorem eq_ok_of_toOption {ε α : Type} {x : Except ε α} {a : α} (h : x.toOption = some a) : x = .ok a := by
  cases x with
  | error e => cases h
  | ok b =>
    cases h
    rfl

theorem exists_eq_error_of_toOption {ε α : Type} {x : Except ε α} (h : x.toOption = none) : ∃ e, x = .error e := by
  cases x with
  | error e => exact ⟨e, rfl⟩
  | ok a => cases h

/-- Settings can be computed. -/
theorem read_eq_ok_of_toOption {sources : Sources} (h : (read sources).toOption = some settings) :
    read sources = .ok settings := eq_ok_of_toOption h

/-- Settings that were read have a cost that a hash can have, and a worker at least. -/
theorem bounds_of_read {sources : Sources} (h : read sources = .ok settings) :
    (4 ≤ settings.bcryptRounds ∧ settings.bcryptRounds ≤ 31) ∧ 1 ≤ settings.verifyWorkers := by
  obtain ⟨s, -, hs⟩ := says_of_read h
  have hrounds := bounds_of_field hs.bcryptRounds (by decide)
  have hworkers := bounds_of_field hs.verifyWorkers (by decide)
  exact ⟨⟨hrounds.1 4 rfl, hrounds.2 31 rfl⟩, hworkers.1 1 rfl⟩

end Settings

end DomainPolicy
