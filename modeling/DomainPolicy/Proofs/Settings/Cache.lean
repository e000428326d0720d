import DomainPolicy.Proofs.Settings.Resolution
import DomainPolicy.Settings.Cache
import Mathlib.Data.List.Induction

/-!
# Settings that are kept

A process asks for its settings, forgets them, and its environment is replaced (`Cache.Step`), in any order and as often
as it likes.  Settings are kept exactly when they were got since they were last forgotten (`kept_eq_some_iff`).  So what
is got is a snapshot (`snapshot_until_cleared`): it is one instance until it is forgotten, with the settings of the
environment in which it was first got, and settings that cannot be read leave nothing behind.

Instances are told apart by their numbers.  Once settings are forgotten, the numbers to come are greater than all before
(`Beyond`).
-/

namespace DomainPolicy.Settings

/-- The settings of an environment alone. -/
theorem read_ofEnvironment (environment : List (Text × Text)) :
    read { environment } = (ofEnvironment environment).mapError .complaints :=
  read_of_plain fun _ hp => absurd hp List.not_mem_nil

namespace Cache

/-- What can happen to the settings of a process. -/
inductive Step where
  | replace (environment : List (Text × Text))
  | clear
  | get
  deriving DecidableEq, Repr

/-- The environment in force after some steps: the last one that replaced another. -/
def inForce (environment : List (Text × Text)) (steps : List Step) : List (Text × Text) :=
  steps.foldl (fun current step => match step with | .replace next => next | _ => current) environment

/-- A process: what it keeps, and its environment. -/
structure Process where
  cache : Cache := {}
  environment : List (Text × Text) := []
  deriving Repr

namespace Process

/-- What a process gets when it asks for its settings. -/
def answer (p : Process) : Checked Instance := (p.cache.get p.environment).2

def step (p : Process) : Step → Process
  | .replace environment => { p with environment }
  | .clear => { p with cache := p.cache.clear }
  | .get => { p with cache := (p.cache.get p.environment).1 }

def run (p : Process) (steps : List Step) : Process := steps.foldl step p

variable {p : Process} {i j : Instance} {s : Step} {steps before : List Step} {n : Nat}

theorem run_append (p : Process) (steps steps' : List Step) : p.run (steps ++ steps') = (p.run steps).run steps' :=
  List.foldl_append

theorem run_concat (p : Process) (steps : List Step) (s : Step) : p.run (steps ++ [s]) = (p.run steps).step s :=
  run_append p steps [s]

theorem run_append_cons (p : Process) (steps steps' : List Step) (s : Step) :
    p.run (steps ++ s :: steps') = ((p.run steps).step s).run steps' :=
  run_append p steps (s :: steps')

theorem environment_run (p : Process) (steps : List Step) :
    (p.run steps).environment = inForce p.environment steps := by
  induction steps generalizing p with
  | nil => rfl
  | cons s steps ih =>
    refine (ih (p.step s)).trans ?_
    cases s <;> rfl

/-! ### One step -/

/-- What is kept is got. Else the settings are read: those that cannot be read change nothing, and the others are kept
with the next number. -/
theorem get_cases (p : Process) :
    (∃ i, p.cache.kept = some i ∧ p.answer = .ok i ∧ p.step .get = p) ∨
    (p.cache.kept = none ∧ ∃ cs, ofEnvironment p.environment = .error cs ∧ p.answer = .error cs ∧ p.step .get = p) ∨
    (p.cache.kept = none ∧ ∃ settings, ofEnvironment p.environment = .ok settings ∧
      p.answer = .ok ⟨p.cache.next, settings⟩ ∧
      p.step .get = { p with cache := ⟨some ⟨p.cache.next, settings⟩, p.cache.next + 1⟩ }) := by
  cases hkept : p.cache.kept with
  | some i =>
    refine .inl ⟨i, rfl, ?_, ?_⟩
    · rw [answer, get, hkept]
    · rw [step, get, hkept]
  | none =>
    cases hread : ofEnvironment p.environment with
    | error cs =>
      refine .inr (.inl ⟨rfl, cs, rfl, ?_, ?_⟩)
      · simp only [answer, get, hkept, hread]
      · simp only [step, get, hkept, hread]
    | ok settings =>
      refine .inr (.inr ⟨rfl, settings, rfl, ?_, ?_⟩)
      · simp only [answer, get, hkept, hread]
      · simp only [step, get, hkept, hread]

/-- Settings that are kept are got, and nothing changes. -/
theorem answer_of_kept (h : p.cache.kept = some i) : p.answer = .ok i ∧ p.step .get = p := by
  obtain ⟨k, hkept, hgot⟩ | ⟨hkept, -⟩ | ⟨hkept, -⟩ := get_cases p
  · cases hkept.symm.trans h
    exact hgot
  · cases hkept.symm.trans h
  · cases hkept.symm.trans h

/-- What is got is kept. -/
theorem kept_step_get (h : p.answer = .ok i) : (p.step .get).cache.kept = some i := by
  obtain ⟨k, hkept, hgot, hstep⟩ | ⟨-, cs, -, hgot, -⟩ | ⟨-, settings, -, hgot, hstep⟩ := get_cases p
  · cases hgot.symm.trans h
    rw [hstep, hkept]
  · cases hgot.symm.trans h
  · cases hgot.symm.trans h
    rw [hstep]

/-- When nothing is got, nothing was kept, the settings cannot be read, and nothing changes. -/
theorem of_answer_eq_error {cs : List Complaint} (h : p.answer = .error cs) :
    p.cache.kept = none ∧ ofEnvironment p.environment = .error cs ∧ p.step .get = p := by
  obtain ⟨k, -, hgot, -⟩ | ⟨hkept, cs', hread, hgot, hstep⟩ | ⟨-, settings, -, hgot, -⟩ := get_cases p
  · cases hgot.symm.trans h
  · cases hgot.symm.trans h
    exact ⟨hkept, hread, hstep⟩
  · cases hgot.symm.trans h

/-- What is got when nothing is kept is read from the environment. -/
theorem settings_answer (h : p.cache.kept = none) :
    p.answer.map Instance.settings = ofEnvironment p.environment := by
  obtain ⟨k, hkept, -⟩ | ⟨-, cs, hread, hgot, -⟩ | ⟨-, settings, hread, hgot, -⟩ := get_cases p
  · cases hkept.symm.trans h
  · rw [hread, hgot]
    rfl
  · rw [hread, hgot]
    rfl

/-- Only a clear forgets what is kept. -/
theorem kept_step (h : p.cache.kept = some i) (hs : s ≠ .clear) : (p.step s).cache.kept = some i := by
  cases s with
  | replace environment => exact h
  | clear => exact absurd rfl hs
  | get => rwa [(answer_of_kept h).2]

theorem kept_run (h : p.cache.kept = some i) (hsteps : .clear ∉ steps) : (p.run steps).cache.kept = some i := by
  induction steps generalizing p with
  | nil => exact h
  | cons s steps ih =>
    obtain ⟨hs, hsteps⟩ := not_or.1 (mt List.mem_cons.2 hsteps)
    exact ih (kept_step h (Ne.symm hs)) hsteps

/-- What is not kept is not kept before the settings are asked for. -/
theorem not_kept_run (h : p.cache.kept = none) (hsteps : .get ∉ steps) : (p.run steps).cache.kept = none := by
  induction steps generalizing p with
  | nil => exact h
  | cons s steps ih =>
    obtain ⟨hs, hsteps⟩ := not_or.1 (mt List.mem_cons.2 hsteps)
    refine ih ?_ hsteps
    cases s with
    | replace environment => exact h
    | clear => rfl
    | get => exact absurd rfl hs

/-! ### What is kept -/

/-- Settings are kept exactly when they were got and have not been forgotten since. -/
theorem kept_eq_some_iff (environment : List (Text × Text)) :
    (run { environment } before).cache.kept = some i ↔
      ∃ past since, before = past ++ .get :: since ∧ .clear ∉ since ∧ (run { environment } past).answer = .ok i := by
  constructor
  · intro h
    induction before using List.reverseRecOn with
    | nil => cases h
    | append_singleton before s ih =>
      rw [run_concat] at h
      -- what was kept before the last step was got before, and the last step has not forgotten it
      have hlater (hs : s ≠ .clear) (hkept : (run { environment } before).cache.kept = some i) :
          ∃ past since, before ++ [s] = past ++ .get :: since ∧ .clear ∉ since ∧
            (run { environment } past).answer = .ok i := by
        obtain ⟨past, since, rfl, hclear, hgot⟩ := ih hkept
        refine ⟨past, since ++ [s], by simp, ?_, hgot⟩
        rw [List.mem_append, List.mem_singleton]
        exact not_or.2 ⟨hclear, Ne.symm hs⟩
      cases s with
      | replace next => exact hlater nofun h
      | clear => cases h
      | get =>
        cases hanswer : (run { environment } before).answer with
        | error cs =>
          rw [(of_answer_eq_error hanswer).2.2] at h
          exact hlater nofun h
        | ok k =>
          cases (kept_step_get hanswer).symm.trans h
          exact ⟨before, [], rfl, List.not_mem_nil, hanswer⟩
  · rintro ⟨past, since, rfl, hclear, hgot⟩
    rw [run_append_cons]
    exact kept_run (kept_step_get hgot) hclear

/-- Nothing is kept exactly when nothing was got since the last clear. -/
theorem kept_eq_none_iff (environment : List (Text × Text)) :
    (run { environment } before).cache.kept = none ↔
      ∀ past since, before = past ++ .get :: since → .clear ∉ since →
        ∃ cs, (run { environment } past).answer = .error cs := by
  constructor
  · intro h past since hbefore hclear
    cases hanswer : (run { environment } past).answer with
    | error cs => exact ⟨cs, rfl⟩
    | ok i =>
      have hkept := (kept_eq_some_iff environment).2 ⟨past, since, hbefore, hclear, hanswer⟩
      cases h.symm.trans hkept
  · intro h
    cases hkept : (run { environment } before).cache.kept with
    | none => rfl
    | some i =>
      obtain ⟨past, since, hbefore, hclear, hgot⟩ := (kept_eq_some_iff environment).1 hkept
      obtain ⟨cs, hcs⟩ := h past since hbefore hclear
      cases hgot.symm.trans hcs

/-! ### Numbers -/

/-- Whether the next number is greater than that of what is kept. -/
def Counted (p : Process) : Prop := ∀ i, p.cache.kept = some i → i.number < p.cache.next

theorem counted_step (h : p.Counted) (s : Step) : (p.step s).Counted := by
  cases s with
  | replace environment => exact h
  | clear => exact fun i hi => nomatch hi
  | get =>
    obtain ⟨-, -, -, hstep⟩ | ⟨-, -, -, -, hstep⟩ | ⟨-, settings, -, -, hstep⟩ := get_cases p <;> rw [hstep]
    · exact h
    · exact h
    · rintro i ⟨⟩
      exact Nat.lt_succ_self _

theorem counted_run (h : p.Counted) (steps : List Step) : (p.run steps).Counted := by
  induction steps generalizing p with
  | nil => exact h
  | cons s steps ih => exact ih (counted_step h s)

theorem next_le_step (p : Process) (s : Step) : p.cache.next ≤ (p.step s).cache.next := by
  cases s with
  | replace environment => exact Nat.le_refl _
  | clear => exact Nat.le_refl _
  | get =>
    obtain ⟨-, -, -, hstep⟩ | ⟨-, -, -, -, hstep⟩ | ⟨-, settings, -, -, hstep⟩ := get_cases p
    · exact Nat.le_of_eq (congrArg (·.cache.next) hstep).symm
    · exact Nat.le_of_eq (congrArg (·.cache.next) hstep).symm
    · have hnext : (p.step .get).cache.next = p.cache.next + 1 := congrArg (·.cache.next) hstep
      exact hnext.symm ▸ Nat.le_succ _

theorem next_le_run (p : Process) (steps : List Step) : p.cache.next ≤ (p.run steps).cache.next := by
  induction steps generalizing p with
  | nil => exact Nat.le_refl _
  | cons s steps ih => exact Nat.le_trans (next_le_step p s) (ih (p.step s))

/-- Whether all that a process has and will get has a number greater than `n`. -/
structure Beyond (n : Nat) (p : Process) : Prop where
  next : n < p.cache.next
  kept : ∀ i, p.cache.kept = some i → n < i.number

theorem Beyond.number (h : p.Beyond n) (hgot : p.answer = .ok i) : n < i.number := by
  obtain ⟨k, hkept, hk, -⟩ | ⟨-, cs, -, hcs, -⟩ | ⟨-, settings, -, hnew, -⟩ := get_cases p
  · cases hk.symm.trans hgot
    exact h.kept i hkept
  · cases hcs.symm.trans hgot
  · cases hnew.symm.trans hgot
    exact h.next

theorem Beyond.step (h : p.Beyond n) (s : Step) : (p.step s).Beyond n where
  next := Nat.lt_of_lt_of_le h.next (next_le_step p s)
  kept := by
    cases s with
    | replace environment => exact h.kept
    | clear => exact fun i hi => nomatch hi
    | get =>
      obtain ⟨-, -, -, hstep⟩ | ⟨-, -, -, -, hstep⟩ | ⟨-, settings, -, -, hstep⟩ := get_cases p <;> rw [hstep]
      · exact h.kept
      · exact h.kept
      · rintro i ⟨⟩
        exact h.next

theorem Beyond.run (h : p.Beyond n) (steps : List Step) : (p.run steps).Beyond n := by
  induction steps generalizing p with
  | nil => exact h
  | cons s steps ih => exact ih (h.step s)

/-- What is got after a clear has a greater number than what was kept at any time before it. -/
theorem number_lt_of_clear (h : p.Counted) (hkept : p.cache.kept = some i) (hclear : .clear ∈ steps)
    (hgot : (p.run steps).answer = .ok j) : i.number < j.number := by
  obtain ⟨past, since, rfl⟩ := List.append_of_mem hclear
  rw [run_append_cons] at hgot
  have hcleared : ((p.run past).step .clear).Beyond i.number :=
    { next := Nat.lt_of_lt_of_le (h i hkept) (next_le_run p past), kept := fun _ hi => nomatch hi }
  exact (hcleared.run since).number hgot

end Process

/-! ### Snapshots -/

section

variable (environment : List (Text × Text))

/-- What a process gets that has taken some steps in an environment. -/
def got (before : List Step) : Checked Instance := (Process.run { environment } before).answer

variable {environment} {before middle : List Step} {i j : Instance}

open Process

/-- What is got is got again until a clear. -/
theorem got_again (h : got environment before = .ok i) (hmiddle : .clear ∉ middle) :
    got environment (before ++ .get :: middle) = .ok i := by
  rw [got, run_append_cons]
  exact (answer_of_kept (kept_run (kept_step_get h) hmiddle)).1

/-- It is the same instance exactly until a clear. -/
theorem number_eq_iff (h : got environment before = .ok i)
    (hlater : got environment (before ++ .get :: middle) = .ok j) : j.number = i.number ↔ .clear ∉ middle := by
  constructor
  · intro hnumber hclear
    rw [got, run_append_cons] at hlater
    have hcounted : ((run { environment } before).step .get).Counted :=
      counted_step (counted_run (by rintro k ⟨⟩) before) .get
    exact Nat.ne_of_gt (number_lt_of_clear hcounted (kept_step_get h) hclear hlater) hnumber
  · intro hclear
    cases (got_again h hclear).symm.trans hlater
    rfl

/-- What is got when nothing was got since the last clear is what the environment in force says. -/
theorem settings_got (h : (run { environment } before).cache.kept = none) :
    ((got environment before).map Instance.settings).mapError .complaints =
      read { environment := inForce environment before } := by
  rw [read_ofEnvironment, got, settings_answer h, environment_run]

/-- Whether something is got that was not got since the last clear. -/
structure FirstGot (environment : List (Text × Text)) (before : List Step) (i : Instance) : Prop where
  got : got environment before = .ok i
  first : ∀ past since, before = past ++ .get :: since → .clear ∉ since →
    ∃ cs, Cache.got environment past = .error cs

/-- What is got first is read from the environment in force. -/
theorem FirstGot.read (h : FirstGot environment before i) :
    Settings.read { environment := inForce environment before } = .ok i.settings := by
  rw [← settings_got ((kept_eq_none_iff environment).2 h.first), h.got]
  rfl

/-- What is got was first got at some time since the last clear. -/
theorem exists_firstGot (h : got environment before = .ok i) :
    ∃ first since, before ++ [.get] = first ++ .get :: since ∧ .clear ∉ since ∧ FirstGot environment first i := by
  induction hn : before.length using Nat.strongRecOn generalizing before with
  | ind n ih =>
    cases hkept : (run { environment } before).cache.kept with
    | none => exact ⟨before, [], rfl, List.not_mem_nil, h, (kept_eq_none_iff environment).1 hkept⟩
    | some k =>
      cases (answer_of_kept hkept).1.symm.trans h
      obtain ⟨past, since, rfl, hclear, hgot⟩ := (kept_eq_some_iff environment).1 hkept
      obtain ⟨first, rest, hfirst, hrest, hsame⟩ := ih past.length (by simp [← hn]) hgot rfl
      refine ⟨first, rest ++ since ++ [.get], ?_, ?_, hsame⟩
      · calc past ++ .get :: since ++ [.get] = past ++ [.get] ++ since ++ [.get] := by simp
          _ = first ++ .get :: rest ++ since ++ [.get] := by rw [hfirst]
          _ = _ := by simp
      · simp [hrest, hclear]

end

/-- What a process gets is a snapshot. Of two calls that succeed, the later gets the same instance exactly when no clear
lies between them; what a call gets was read from the environment in force at the first call that succeeded since the
last clear; a call that fails has read the environment in force, and so does the next call; and after a call that
succeeds all calls succeed until a clear, whatever the environment becomes. -/
theorem snapshot_until_cleared (environment : List (Text × Text)) :
    (∀ before middle i j, got environment before = .ok i → got environment (before ++ .get :: middle) = .ok j →
      (j.number = i.number ↔ .clear ∉ middle) ∧ (j.number = i.number → j = i)) ∧
    (∀ before i, got environment before = .ok i → ∃ first since, before ++ [.get] = first ++ .get :: since ∧
      .clear ∉ since ∧ FirstGot environment first i ∧
      Settings.read { environment := inForce environment first } = .ok i.settings) ∧
    (∀ before cs, got environment before = .error cs →
      Settings.read { environment := inForce environment before } = .error (.complaints cs) ∧
      ∀ middle, .get ∉ middle →
        ((got environment (before ++ .get :: middle)).map Instance.settings).mapError .complaints =
          Settings.read { environment := inForce environment (before ++ .get :: middle) }) ∧
    (∀ before middle i, got environment before = .ok i → .clear ∉ middle →
      got environment (before ++ .get :: middle) = .ok i) := by
  refine ⟨fun before middle i j h hlater => ?_, fun before i h => ?_, fun before cs h => ?_, fun _ _ _ => got_again⟩
  · refine ⟨number_eq_iff h hlater, fun hnumber => ?_⟩
    exact Except.ok.inj (hlater.symm.trans (got_again h ((number_eq_iff h hlater).1 hnumber)))
  · obtain ⟨first, since, hbefore, hclear, hfirst⟩ := exists_firstGot h
    exact ⟨first, since, hbefore, hclear, hfirst, hfirst.read⟩
  · obtain ⟨hkept, hread, hstep⟩ := Process.of_answer_eq_error h
    constructor
    · rw [← settings_got hkept, h]
      rfl
    · intro middle hmiddle
      refine settings_got ?_
      rw [Process.run_append_cons, hstep]
      exact Process.not_kept_run hkept hmiddle

/-- Settings that are not got from a broken environment are got once it is repaired, then again when it is broken, and
are others after they are forgotten. -/
theorem snapshot_after_repair :
    let broken : List (Text × Text) := [("RELAY_ENV", "x")]
    let first : List Step := [.get, .replace []]
    let later : List Step := [.replace broken, .clear, .get, .replace []]
    (∃ cs, got broken [] = .error cs) ∧ ∃ i j, got broken first = .ok i ∧
      got broken (first ++ [.get, .replace broken]) = .ok i ∧ Settings.read { environment := [] } = .ok i.settings ∧
      got broken (first ++ .get :: later) = .ok j ∧ j.number ≠ i.number := by
  intro broken first later
  have hfails : ∃ cs, got broken [] = .error cs := exists_eq_error_of_toOption (by decide +kernel)
  have hi : got broken first = .ok ⟨0, {}⟩ := eq_ok_of_toOption (by decide +kernel)
  have hj : got broken (first ++ .get :: later) = .ok ⟨1, {}⟩ := eq_ok_of_toOption (by decide +kernel)
  obtain ⟨hsame, -, -, hagain⟩ := snapshot_until_cleared broken
  refine ⟨hfails, _, _, hi, hagain first [.replace broken] _ hi (by decide), ?_, hj, ?_⟩
  · exact read_eq_ok_of_toOption (by decide +kernel)
  · exact fun hnumber => (hsame first later _ _ hi hj).1.1 hnumber (by decide)

end Cache

end DomainPolicy.Settings
