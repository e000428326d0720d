import DomainPolicy.Proofs.Journal.Question
import DomainPolicy.Proofs.Journal.Record
import Mathlib.Data.List.Basic
import Mathlib.Data.List.Induction

/-!
# Histories of a journal

A process starts with a journal that is not set up.  It sets the journal up, binds fields and clears them, and calls
loggers (`Journal.Step`), in any order and as often as it likes; of each step something is seen (`Journal.seen`).

Only a first set-up can fail (`setupError_seen_eq_some_iff`): once there is a least rank, there is one for good.  Where
no set-up failed and no source got a rank of its own, what a journal holds can be read off its history
(`keptBy_run`): the least rank is that of the first set-up, the service and the form of the records are those of the
latest one, but for a logger that was used before (`kept?`), and the context is what was bound since it was last cleared.
-/

namespace DomainPolicy.Journal

open Json (Members Value)
open Json.Members

/-- What can be done to a journal. -/
inductive Step where
  | configure (service level : Text) (json : Bool)
  | bind (fields : Members)
  | clear
  /-- a call of a logger, perhaps while an error is being handled -/
  | call (l : Logger) (verb : String) (v : Value) (fields : Members) (raised : Option Value)
  deriving Repr

/-- What is seen of a step: why a set-up failed, what was written, and why something could not be done. -/
structure Seen where
  setupError : Option SetupError := none
  record : Option Record := none
  fault : Option Fault := none
  deriving Repr

def step (j : Journal) : Step → Journal × Seen
  | .configure service level json =>
    let (j, setupError) := j.configure service level json
    (j, { setupError })
  | .bind fields => (j.bind fields, {})
  | .clear => (j.clear, {})
  | .call l verb v fields raised =>
    let outcome := j.call l verb v fields raised
    (outcome.journal, { record := outcome.record, fault := outcome.fault })

def run (j : Journal) (steps : List Step) : Journal := steps.foldl (fun j s => (j.step s).1) j

/-- What is seen of a step of a process that has taken some steps since it started. -/
def seen (before : List Step) (s : Step) : Seen := ((run {} before).step s).2

variable {j : Journal} {s : Step} {steps before : List Step} {service level : Text} {json : Bool} {l : Logger}

theorem run_append (j : Journal) (steps steps' : List Step) : j.run (steps ++ steps') = (j.run steps).run steps' :=
  List.foldl_append

theorem run_concat (j : Journal) (steps : List Step) (s : Step) : j.run (steps ++ [s]) = ((j.run steps).step s).1 :=
  run_append j steps [s]

theorem run_append_cons (j : Journal) (steps steps' : List Step) (s : Step) :
    j.run (steps ++ s :: steps') = ((j.run steps).step s).1.run steps' :=
  run_append j steps (s :: steps')

/-! ### Set-ups -/

/-- Whether a step sets the journal up. -/
def Step.isSetup : Step → Bool
  | configure .. => true
  | _ => false

/-- Once there is a least rank, a set-up changes the service and the form of the records only. -/
theorem configure_of_threshold {rank : Int} (h : j.threshold = some rank) :
    j.configure service level json = ({ j with output := some ⟨service, json⟩ }, none) := by
  rw [configure, h]

/-- A first set-up fixes the least rank of its level. -/
theorem configure_of_levelRank {rank : Int} (h : j.threshold = none) (hlevel : levelRank level = .ok rank) :
    j.configure service level json = ({ j with threshold := some rank, output := some ⟨service, json⟩ }, none) := by
  simp only [configure, h, hlevel]

/-- One that fails has fixed the least rank at warnings. -/
theorem configure_of_levelRank_error {e : SetupError} (h : j.threshold = none) (hlevel : levelRank level = .error e) :
    j.configure service level json = ({ j with threshold := some 30 }, some e) := by
  simp only [configure, h, hlevel]
  rfl

theorem threshold_configure (j : Journal) (service level : Text) (json : Bool) :
    (j.configure service level json).1.threshold.isSome := by
  cases hthreshold : j.threshold with
  | some rank =>
    rw [configure_of_threshold hthreshold, hthreshold]
    rfl
  | none =>
    cases hlevel : levelRank level with
    | ok rank => rw [configure_of_levelRank hthreshold hlevel]; rfl
    | error e => rw [configure_of_levelRank_error hthreshold hlevel]; rfl

theorem threshold_used (j : Journal) (l : Logger) (verb : String) (fields : Members) :
    (j.used l verb fields).threshold = j.threshold := by
  rw [used_eq]

/-- There is a least rank for good. -/
theorem threshold_step (h : j.threshold.isSome) (s : Step) : (j.step s).1.threshold.isSome := by
  cases s with
  | configure service level json => exact threshold_configure j service level json
  | bind fields => exact h
  | clear => exact h
  | call l verb v fields raised =>
    have hused : (j.used l verb fields).threshold.isSome := (threshold_used j l verb fields).symm ▸ h
    show (j.call l verb v fields raised).journal.threshold.isSome
    obtain heq | ⟨-, rank, heq⟩ | ⟨-, heq⟩ | heq := journal_call_cases j l verb v fields raised <;> rw [heq]
    · exact hused
    · unfold limit
      split
      · rfl
      · exact hused
    · unfold attach
      split <;> exact hused
    · exact hused

theorem threshold_run (h : j.threshold.isSome) (steps : List Step) : (j.run steps).threshold.isSome := by
  induction steps generalizing j with
  | nil => exact h
  | cons s steps ih => exact ih (threshold_step h s)

/-- Before a first set-up a journal holds a context only. -/
theorem run_of_no_setup (h : ∀ s ∈ before, s.isSetup = false) : ∃ context, run {} before = { context } := by
  induction before using List.reverseRecOn with
  | nil => exact ⟨[], rfl⟩
  | append_singleton before s ih =>
    obtain ⟨context, hrun⟩ := ih fun s hs => h s (List.mem_append_left _ hs)
    rw [run_concat, hrun]
    cases s with
    | configure service level json => cases h _ (List.mem_append_right _ (List.mem_singleton_self _))
    | bind fields => exact ⟨insertAll context fields, rfl⟩
    | clear => exact ⟨[], rfl⟩
    | call l verb v fields raised =>
      obtain ⟨fault, hcall⟩ := call_of_not_setUp (j := { context }) rfl rfl l verb v fields raised
      exact ⟨context, congrArg Outcome.journal (hcall none)⟩

/-- After one it has a least rank. -/
theorem threshold_run_of_setup (hs : s ∈ before) (hsetup : s.isSetup = true) : (run {} before).threshold.isSome := by
  obtain ⟨past, rest, rfl⟩ := List.append_of_mem hs
  rw [run_append_cons]
  refine threshold_run ?_ rest
  cases s with
  | configure service level json => exact threshold_configure _ service level json
  | bind fields => cases hsetup
  | clear => cases hsetup
  | call l verb v fields raised => cases hsetup

/-- A set-up fails exactly when it is the first one and its level names something that is no level. -/
theorem setupError_seen_eq_some_iff {e : SetupError} :
    (seen before (.configure service level json)).setupError = some e ↔
      (∀ s ∈ before, s.isSetup = false) ∧ levelRank level = .error e := by
  show ((run {} before).configure service level json).2 = some e ↔ _
  constructor
  · intro h
    have hfirst : ∀ s ∈ before, s.isSetup = false := by
      intro s hs
      by_contra hsetup
      have hsome := threshold_run_of_setup hs (eq_true_of_ne_false hsetup)
      obtain ⟨rank, hrank⟩ := Option.isSome_iff_exists.1 hsome
      rw [configure_of_threshold hrank] at h
      cases h
    obtain ⟨context, hrun⟩ := run_of_no_setup hfirst
    refine ⟨hfirst, ?_⟩
    rw [hrun] at h
    cases hlevel : levelRank level with
    | ok rank =>
      rw [configure_of_levelRank rfl hlevel] at h
      cases h
    | error e' =>
      rw [configure_of_levelRank_error rfl hlevel] at h
      cases h
      rfl
  · rintro ⟨hfirst, hlevel⟩
    obtain ⟨context, hrun⟩ := run_of_no_setup hfirst
    rw [hrun, configure_of_levelRank_error rfl hlevel]

/-- Nothing but a set-up fails, and that only if its level is none. -/
theorem setupError_seen_eq_none (h : ∀ service level json, s = .configure service level json →
    ∃ rank, levelRank level = .ok rank) : (seen before s).setupError = none := by
  cases s with
  | configure service level json =>
    obtain ⟨rank, hrank⟩ := h service level json rfl
    rw [Option.eq_none_iff_forall_ne_some]
    intro e he
    cases hrank.symm.trans (setupError_seen_eq_some_iff.1 he).2
  | bind fields => rfl
  | clear => rfl
  | call l verb v fields raised => rfl

/-! ### What a history says -/

/-- The level text of the first set-up. -/
def firstLevel? (steps : List Step) : Option Text :=
  steps.findSome? fun s => match s with | .configure _ level _ => some level | _ => none

/-- What the latest set-up says of records. -/
def latest? (steps : List Step) : Option Output :=
  steps.foldl (fun latest s => match s with | .configure service _ json => some ⟨service, json⟩ | _ => latest) none

/-- What was bound to a name since the context was last cleared. -/
def bound? (k : Text) (steps : List Step) : Option Value :=
  steps.foldl (fun bound s => match s with
    | .bind fields => (get? k fields.reverse).or bound
    | .clear => none
    | _ => bound) none

/-- Whether a step uses a logger. -/
def Step.uses (l : Logger) : Step → Bool
  | call l' verb _ fields _ => l' = l && Verb.usesLogger verb fields
  | _ => false

/-- What a logger keeps: what the latest set-up said of records when the logger was first used after one. -/
def kept? (l : Logger) (steps : List Step) : Option Output :=
  (List.range steps.length).findSome? fun i => if (steps[i]?).any (Step.uses l) then latest? (steps.take i) else none

theorem firstLevel?_concat (before : List Step) (s : Step) :
    firstLevel? (before ++ [s]) = (firstLevel? before).or (firstLevel? [s]) :=
  List.findSome?_append

theorem firstLevel?_concat_of_not_setup (h : s.isSetup = false) :
    firstLevel? (before ++ [s]) = firstLevel? before := by
  have hs : firstLevel? [s] = none := by
    cases s with
    | configure service level json => cases h
    | _ => rfl
  rw [firstLevel?_concat, hs, Option.or_none]

theorem latest?_concat_configure (before : List Step) (service level : Text) (json : Bool) :
    latest? (before ++ [.configure service level json]) = some ⟨service, json⟩ := by
  rw [latest?, List.foldl_append]
  rfl

theorem latest?_concat_of_not_setup (h : s.isSetup = false) : latest? (before ++ [s]) = latest? before := by
  rw [latest?, List.foldl_append]
  cases s with
  | configure service level json => cases h
  | _ => rfl

theorem bound?_concat (k : Text) (before : List Step) (s : Step) :
    bound? k (before ++ [s]) =
      match s with
      | .bind fields => (get? k fields.reverse).or (bound? k before)
      | .clear => none
      | _ => bound? k before := by
  rw [bound?, List.foldl_append]
  rfl

theorem kept?_concat (l : Logger) (before : List Step) (s : Step) :
    kept? l (before ++ [s]) = (kept? l before).or (if s.uses l then latest? before else none) := by
  -- before the last step the positions are those of the history without it
  have hbefore : ∀ i ∈ List.range before.length,
      (if ((before ++ [s])[i]?).any (Step.uses l) then latest? ((before ++ [s]).take i) else none) =
        if (before[i]?).any (Step.uses l) then latest? (before.take i) else none := by
    intro i hi
    have hlt : i < before.length := List.mem_range.1 hi
    rw [List.getElem?_append_left hlt, List.take_append_of_le_length (Nat.le_of_lt hlt)]
  rw [kept?, List.length_append, List.length_singleton, List.range_succ, List.findSome?_append, ← List.head?_filterMap,
    List.filterMap_congr hbefore, List.head?_filterMap, ← kept?, List.findSome?_singleton, List.getElem?_concat_length,
    List.take_left]
  rfl

/-- Whether a step gives no source a least rank of its own and attaches nothing to one. -/
def Step.IsPlain : Step → Prop
  | call _ verb .. => verb ≠ "setLevel" ∧ verb ≠ "addHandler"
  | _ => True

/-- Whether a journal holds what a history says. -/
structure KeptBy (before : List Step) (j : Journal) : Prop where
  /-- The first set-up succeeded, and has fixed the least rank. -/
  threshold : j.threshold.map Except.ok = (firstLevel? before).map levelRank
  levels : j.levels = [("sqlalchemy", 30)]
  output : j.output = latest? before
  kept : ∀ l, j.kept.lookup l = kept? l before
  context : ∀ k, get? k j.context = bound? k before
  nodup : (keys j.context).Nodup
  outlets : j.outlets = []

/-- A call leaves what its logger keeps, if nothing is attached to the journal. -/
theorem KeptBy.journal_call {verb : String} {v : Value} {fields : Members} {raised : Option Value}
    (h : KeptBy before j) (hs : (Step.call l verb v fields raised).IsPlain) :
    (j.call l verb v fields raised).journal = j.used l verb fields := by
  obtain heq | ⟨hverb, -⟩ | ⟨hverb, -⟩ | heq := journal_call_cases j l verb v fields raised
  · exact heq
  · exact absurd hverb hs.1
  · exact absurd hverb hs.2
  · have houtlets : (j.used l verb fields).outlets = [] := by rw [used_eq, ← h.outlets]
    rw [heq, detach, houtlets, List.filter_nil, ← houtlets]

theorem KeptBy.configure (h : KeptBy before j) (hsetup : (j.configure service level json).2 = none) :
    KeptBy (before ++ [.configure service level json]) (j.configure service level json).1 := by
  have houtput := (latest?_concat_configure before service level json).symm
  have hcontext (k : Text) : get? k j.context = bound? k (before ++ [.configure service level json]) := by
    rw [bound?_concat]
    exact h.context k
  have hkept (l : Logger) : j.kept.lookup l = kept? l (before ++ [.configure service level json]) := by
    rw [kept?_concat, h.kept l]
    exact Option.or_none.symm
  have hlevel := firstLevel?_concat before (.configure service level json)
  have hthreshold := h.threshold
  cases hrank : j.threshold with
  | some rank =>
    rw [configure_of_threshold hrank]
    refine ⟨?_, h.levels, houtput, hkept, hcontext, h.nodup, h.outlets⟩
    cases hfirst : firstLevel? before with
    | none =>
      rw [hrank, hfirst] at hthreshold
      cases hthreshold
    | some first =>
      rw [hlevel, hthreshold, hfirst]
      rfl
  | none =>
    cases hnew : levelRank level with
    | error e =>
      rw [configure_of_levelRank_error hrank hnew] at hsetup
      cases hsetup
    | ok rank =>
      rw [configure_of_levelRank hrank hnew]
      refine ⟨?_, h.levels, houtput, hkept, hcontext, h.nodup, h.outlets⟩
      rw [hrank, Option.map_none, eq_comm, Option.map_eq_none_iff] at hthreshold
      rw [hlevel, hthreshold]
      exact congrArg some hnew.symm

/-- A step that is no set-up changes what is bound and what loggers keep only. -/
theorem KeptBy.of_not_setup {context : Members} {kept : List (Logger × Output)} (h : KeptBy before j)
    (hs : s.isSetup = false)
    (hkept : ∀ l, kept.lookup l = (j.kept.lookup l).or (if s.uses l then j.output else none))
    (hcontext : ∀ k, get? k context = bound? k (before ++ [s])) (hnodup : (keys context).Nodup) :
    KeptBy (before ++ [s]) { j with kept, context } where
  threshold := by rw [firstLevel?_concat_of_not_setup hs, h.threshold]
  levels := h.levels
  output := by rw [latest?_concat_of_not_setup hs, h.output]
  kept := fun l => by rw [hkept l, kept?_concat, h.kept l, h.output]
  context := hcontext
  nodup := hnodup
  outlets := h.outlets

theorem KeptBy.step (h : KeptBy before j) (hs : s.IsPlain) (hsetup : (j.step s).2.setupError = none) :
    KeptBy (before ++ [s]) (j.step s).1 := by
  cases s with
  | configure service level json => exact h.configure hsetup
  | bind fields =>
    refine h.of_not_setup rfl (fun l => Option.or_none.symm) (fun k => ?_) (nodup_keys_insertAll h.nodup fields)
    rw [bound?_concat, ← h.context k]
    exact get?_insertAll k j.context fields
  | clear =>
    refine h.of_not_setup rfl (fun l => Option.or_none.symm) (fun k => ?_) List.nodup_nil
    rw [bound?_concat]
    rfl
  | call l verb v fields raised =>
    show KeptBy _ (j.call l verb v fields raised).journal
    rw [h.journal_call hs, used_eq]
    refine h.of_not_setup rfl (fun l' => ?_) (fun k => ?_) h.nodup
    · rw [lookup_kept_used]
      simp only [Step.uses, Bool.and_eq_true, decide_eq_true_eq]
    · rw [bound?_concat]
      exact h.context k

/-- What a journal holds can be read off its history, if every set-up succeeded. -/
theorem keptBy_run (hplain : ∀ s ∈ before, s.IsPlain)
    (hsetups : ∀ past s rest, before = past ++ s :: rest → (seen past s).setupError = none) :
    KeptBy before (run {} before) := by
  induction before using List.reverseRecOn with
  | nil => exact ⟨rfl, rfl, rfl, fun _ => rfl, fun _ => rfl, List.nodup_nil, rfl⟩
  | append_singleton before s ih =>
    have hbefore : KeptBy before (run {} before) := by
      refine ih (fun s hs => hplain s (List.mem_append_left _ hs)) fun past s' rest h => ?_
      exact hsetups past s' (rest ++ [s]) (by rw [h, List.append_assoc, List.cons_append])
    rw [run_concat]
    exact hbefore.step (hplain s (List.mem_append_right _ (List.mem_singleton_self s)))
      (hsetups before s [] rfl)

end DomainPolicy.Journal
