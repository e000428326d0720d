import DomainPolicy.Proofs.Journal.Run

/-!
# What a failed set-up leaves behind

A set-up that fails leaves its mark: the least rank is that of warnings, and later set-ups do not change it.  So after
it a process is like one that has not made it, but whose later set-ups all ask for warnings, whatever their levels say
(`unmarked_run`).  The next set-up does not decide the least rank, and hides the failed one only if it asks for warnings
itself (`failed_setup_leaves_warnings`).
-/

namespace DomainPolicy.Journal

open Json (Members Value)

/-! ### Two processes -/

/-- A step, with warnings in place of the level that a set-up asks for. -/
def Step.warned : Step → Step
  | configure service _ json => configure service "WARNING" json
  | s => s

/-- Whether a journal differs from another at most by the mark of a set-up that failed. -/
inductive Unmarked : Journal → Journal → Prop
  | same {j : Journal} (h : j.threshold.isSome) : Unmarked j j
  | marked (j : Journal) (h : j.output = none) (hkept : j.kept = []) :
      Unmarked { j with threshold := some 30 } { j with threshold := none }

variable {j j' : Journal} {before : List Step} {service level : Text} {json : Bool} {e : SetupError}

/-- Such journals cannot be told apart by a step, if it asks for warnings in the second where it sets it up. -/
theorem unmarked_step (h : Unmarked j j') (s : Step) :
    (j.step s).2 = (j'.step s.warned).2 ∧ Unmarked (j.step s).1 (j'.step s.warned).1 := by
  cases h with
  | same h =>
    cases s with
    | configure service level json =>
      obtain ⟨rank, hrank⟩ := Option.isSome_iff_exists.1 h
      have hsame : j.step (.configure service level json) = j.step (.configure service "WARNING" json) := by
        rw [step, step, configure_of_threshold hrank, configure_of_threshold hrank]
      rw [Step.warned, ← hsame]
      exact ⟨rfl, .same (threshold_step h _)⟩
    | bind fields => exact ⟨rfl, .same h⟩
    | clear => exact ⟨rfl, .same h⟩
    | call l verb v fields raised => exact ⟨rfl, .same (threshold_step h _)⟩
  | marked j h hkept =>
    cases s with
    | configure service level json => exact ⟨rfl, .same rfl⟩
    | bind fields => exact ⟨rfl, .marked (j.bind fields) h hkept⟩
    | clear => exact ⟨rfl, .marked j.clear h hkept⟩
    | call l verb v fields raised =>
      obtain ⟨fault, hcall⟩ := call_of_not_setUp h hkept l verb v fields raised
      constructor
      · simp only [step, Step.warned, hcall]
      · simp only [step, Step.warned, hcall]
        exact .marked j h hkept

theorem unmarked_run (h : Unmarked j j') (steps : List Step) :
    Unmarked (j.run steps) (j'.run (steps.map Step.warned)) := by
  induction steps generalizing j j' with
  | nil => exact h
  | cons s steps ih => exact ih (unmarked_step h s).2

/-! ### The mark -/

/-- A set-up that fails leaves the context, and warnings as the least rank. -/
theorem run_of_setupError (h : (seen before (.configure service level json)).setupError = some e) :
    ∃ context, run {} before = { context } ∧
      ((run {} before).step (.configure service level json)).1 = { threshold := some 30, context } := by
  obtain ⟨hfirst, hlevel⟩ := setupError_seen_eq_some_iff.1 h
  obtain ⟨context, hrun⟩ := run_of_no_setup hfirst
  refine ⟨context, hrun, ?_⟩
  rw [hrun, step, configure_of_levelRank_error rfl hlevel]

/-- After it all is as if it had not been made and every later set-up asked for warnings. -/
theorem seen_after_setupError (h : (seen before (.configure service level json)).setupError = some e)
    (later : List Step) (s : Step) :
    seen (before ++ .configure service level json :: later) s = seen (before ++ later.map Step.warned) s.warned := by
  obtain ⟨context, hrun, hfailed⟩ := run_of_setupError h
  rw [seen, seen, run_append_cons, run_append, hfailed, hrun]
  exact (unmarked_step (unmarked_run (.marked { context } rfl rfl) later) s).1

/-! ### The next set-up -/

/-- The ranks of levels. -/
theorem levelRank_mem {text : Text} {rank : Int} (h : levelRank text = .ok rank) :
    rank ∈ [50, 40, 30, 20, 10, 0] := by
  unfold levelRank at h
  split at h <;> cases h <;> decide

/-- The next set-up hides the one that failed exactly when it asks for warnings itself. -/
theorem seen_after_next_setup_iff (h : (seen before (.configure service level json)).setupError = some e)
    (service' level' : Text) (json' : Bool) :
    (∀ later s, seen (before ++ .configure service level json :: .configure service' level' json' :: later) s =
      seen (before ++ .configure service' level' json' :: later) s) ↔ levelRank level' = .ok 30 := by
  obtain ⟨context, hrun, hfailed⟩ := run_of_setupError h
  -- both processes have made the next set-up; what follows starts from the journals that it leaves
  have hleft (later : List Step) (s : Step) :
      seen (before ++ .configure service level json :: .configure service' level' json' :: later) s =
        ((run { threshold := some 30, output := some ⟨service', json'⟩, context } later).step s).2 := by
    rw [seen, run_append_cons, hfailed]
    rfl
  have hright {next : Journal} (hnext : (configure { context } service' level' json').1 = next) (later : List Step)
      (s : Step) : seen (before ++ .configure service' level' json' :: later) s = ((run next later).step s).2 := by
    rw [seen, run_append_cons, hrun, ← hnext]
    rfl
  constructor
  · intro hsame
    cases hlevel : levelRank level' with
    | error e' =>
      -- the process that has made one failing set-up only is not set up yet
      have hfault := congrArg Seen.fault (hsame [] (.call ⟨0, ""⟩ "setLevel" (.integer 0) [] none))
      rw [hleft, hright (congrArg Prod.fst (configure_of_levelRank_error rfl hlevel))] at hfault
      cases hfault
    | ok rank =>
      have hinfo := congrArg Seen.record
        (hsame [.configure service' "" true, .clear] (.call ⟨0, ""⟩ "info" .null [] none))
      have hwarning := congrArg Seen.record
        (hsame [.configure service' "" true, .clear] (.call ⟨0, ""⟩ "warning" .null [] none))
      rw [hleft, hright (congrArg Prod.fst (configure_of_levelRank rfl hlevel))] at hinfo hwarning
      have hmem := levelRank_mem hlevel
      simp only [List.mem_cons, List.not_mem_nil, or_false] at hmem
      obtain rfl | rfl | rfl | rfl | rfl | rfl := hmem
      · cases hwarning
      · cases hwarning
      · rfl
      · cases hinfo
      · cases hinfo
      · cases hinfo
  · intro hlevel later s
    rw [hleft, hright (congrArg Prod.fst (configure_of_levelRank rfl hlevel))]

/-- A set-up fails exactly when it is the first one and its level names something that is no level. After it all is as
if it had not been made and every later set-up asked for warnings, so that the next one hides it exactly when it asks
for warnings itself. -/
theorem failed_setup_leaves_warnings (before : List Step) (service level : Text) (json : Bool) (e : SetupError) :
    ((seen before (.configure service level json)).setupError = some e ↔
      (∀ s ∈ before, s.isSetup = false) ∧ levelRank level = .error e) ∧
    ((seen before (.configure service level json)).setupError = some e →
      (∀ later s, seen (before ++ .configure service level json :: later) s =
        seen (before ++ later.map Step.warned) s.warned) ∧
      ∀ service' level' json',
        (∀ later s, seen (before ++ .configure service level json :: .configure service' level' json' :: later) s =
          seen (before ++ .configure service' level' json' :: later) s) ↔ levelRank level' = .ok 30) :=
  ⟨setupError_seen_eq_some_iff, fun h => ⟨seen_after_setupError h, seen_after_next_setup_iff h⟩⟩

/-- A set-up fails after a field was bound, and can be told from none after a set-up at `info`. -/
theorem failed_setup_after_bind :
    let before : List Step := [.bind [(Text.ofString "user", .ofString "ctx")]]
    let failed : Step := .configure "svc" "_styles" true
    (seen before failed).setupError = some .levelIsTable ∧
    ¬∀ later s, seen (before ++ failed :: .configure "svc" "INFO" true :: later) s =
      seen (before ++ .configure "svc" "INFO" true :: later) s := by
  intro before failed
  obtain ⟨hfails, hafter⟩ := failed_setup_leaves_warnings before "svc" "_styles" true .levelIsTable
  have hfailed := hfails.2 ⟨by decide, by decide⟩
  exact ⟨hfailed, fun hsame => absurd (((hafter hfailed).2 "svc" "INFO" true).1 hsame) (by decide)⟩

/-- After a first set-up that fails, the next one succeeds but does not decide what is written: an `info` event is not
written after a set-up at `info`, as it would be had the first one not been made. -/
theorem next_setup_does_not_decide :
    let failed : Step := .configure "svc" "basic_format" true
    let next : Step := .configure "svc" "INFO" true
    let call : Step := .call ⟨0, "oracle"⟩ "info" (.ofString "e") [] none
    (seen [] failed).setupError = some .levelIsText ∧ (seen [failed] next).setupError = none ∧
    (seen [failed, next] call).fault = none ∧ (seen [failed, next] call).record = none ∧
    (seen [next] call).record.isSome = true :=
  ⟨by decide +kernel, rfl, by decide +kernel, rfl, rfl⟩

end DomainPolicy.Journal
