import DomainPolicy.Journal.Verb

/-!
# What a question does

A question reports an event, sets the least rank of a source, attaches something to one or detaches it, or nothing comes
of it (`answered`).  So it leaves a journal as it is but for ranks and attachments (`ask_journal_cases`), which only a
journal that is set up understands: what is asked of another does not change it, and what is seen does not depend on its
least rank (`ask_of_not_setUp`).

A call reports an event under the name of a severity, or by its rank (`Calls`).  What it writes, if nothing goes wrong,
is the record of the event with the error that is attached to it (`record_ask`).  By a logger the same is asked of the
journal as the logger sees it (`journal_call_cases`, `record_call`).
-/

namespace DomainPolicy

/-! ### Names -/

namespace Verb

/-- Only a journal that is set up understands what would change it. -/
theorem late_of_ofName? {isSetUp : Bool} {name : String} {verb : Verb} (h : ofName? isSetUp name = some verb)
    (hverb : verb = limit ∨ verb = attach ∨ verb = detach) : isSetUp = true ∧ late? name = some verb := by
  rw [ofName?, Option.or_eq_some_iff] at h
  obtain h | ⟨-, h⟩ := h
  · -- what is understood in any case is another verb, or the name of a severity, which asks for a report
    unfold always? at h
    split at h
    all_goals first | cases h | obtain ⟨severity, -, rfl⟩ := Option.map_eq_some_iff.1 h
    all_goals simp at hverb
  · cases isSetUp with
    | false =>
      rw [if_neg Bool.false_ne_true] at h
      unfold early? at h
      split at h <;> cases h <;> simp at hverb
    | true => exact ⟨rfl, h⟩

theorem eq_setLevel_of_late? {name : String} (h : late? name = some limit) : name = "setLevel" := by
  unfold late? at h
  split at h <;> first | rfl | cases h

theorem eq_addHandler_of_late? {name : String} (h : late? name = some attach) : name = "addHandler" := by
  unfold late? at h
  split at h <;> first | rfl | cases h

/-- The name of a severity asks for a report, in any case. -/
theorem ofName?_of_severity {name : String} {severity : Severity} (h : Severity.ofName? name = some severity)
    (isSetUp : Bool) : ofName? isSetUp name = some (report severity (name = "exception")) := by
  have halways : always? name = some (report severity (name = "exception")) := by
    unfold Severity.ofName? at h
    split at h <;> cases h <;> rfl
  rw [ofName?, halways, Option.some_or]

end Verb

namespace Journal

open Json (Members Value)
open Json.Members

variable {j : Journal} {verb source : String} {v : Value} {fields : Members} {raised : Option Value} {e : Event}

/-! ### What a question can do -/

/-- What comes of a question, for all journals that are set up, or for all that are not. -/
inductive Answered (isSetUp : Bool) (verb source : String) (v : Value) (fields : Members) (raised : Option Value) : Prop
  /-- nothing, but perhaps a fault -/
  | idle (fault : Option Fault)
      (h : ∀ j : Journal, j.isSetUp = isSetUp → j.ask verb source v fields raised = { journal := j, fault })
  | report (e : Event) (withError : Bool)
      (h : ∀ j : Journal, j.isSetUp = isSetUp → j.ask verb source v fields raised = j.write e withError raised)
  | reportRanked (h : ∀ j : Journal, j.isSetUp = isSetUp →
      j.ask verb source v fields raised = j.writeRanked source v fields raised)
  | limit (hset : isSetUp = true) (hverb : verb = "setLevel") (rank : Int)
      (h : ∀ j : Journal, j.isSetUp = isSetUp → j.ask verb source v fields raised = (j.limit source rank).quiet)
  | attach (hset : isSetUp = true) (hverb : verb = "addHandler")
      (h : ∀ j : Journal, j.isSetUp = isSetUp → j.ask verb source v fields raised = (j.attach source v).quiet)
  | detach (hset : isSetUp = true)
      (h : ∀ j : Journal, j.isSetUp = isSetUp → j.ask verb source v fields raised = (j.detach source v).quiet)

namespace Answered

variable {isSetUp : Bool}

/-- Most verbs take no fields, and are misused with them. -/
theorem of_misused (hfields : fields ≠ []) {outcome : Journal → Outcome}
    (h : ∀ j : Journal, j.isSetUp = isSetUp → j.ask verb source v fields raised = j.bare fields (outcome j)) :
    Answered isSetUp verb source v fields raised := by
  refine .idle (some .misused) fun j hj => ?_
  rw [h j hj, bare, if_neg hfields]
  rfl

theorem of_bare (fault : Option Fault)
    (h : ∀ j : Journal, j.isSetUp = isSetUp →
      j.ask verb source v fields raised = j.bare fields { journal := j, fault }) :
    Answered isSetUp verb source v fields raised := by
  by_cases hfields : fields = []
  · exact .idle fault fun j hj => by rw [h j hj, bare, if_pos hfields]
  · exact of_misused hfields h

theorem of_only (p : Bool)
    (h : ∀ j : Journal, j.isSetUp = isSetUp →
      j.ask verb source v fields raised = j.bare fields (if p then j.quiet else j.fail .misused)) :
    Answered isSetUp verb source v fields raised := by
  refine of_bare (if p then none else some .misused) fun j hj => (h j hj).trans ?_
  cases p <;> rfl

end Answered

/-- A question reports, sets a least rank, attaches something or detaches it, or nothing comes of it. -/
theorem answered (isSetUp : Bool) (verb source : String) (v : Value) (fields : Members) (raised : Option Value) :
    Answered isSetUp verb source v fields raised := by
  cases hverb : Verb.ofName? isSetUp verb with
  | none => exact .idle (some .unknownVerb) fun j hj => by unfold ask; rw [hj, hverb]; rfl
  | some what =>
    cases what with
    | report severity withError => exact .report _ withError fun j hj => by unfold ask; rw [hj, hverb]
    | reportRanked => exact .reportRanked fun j hj => by unfold ask; rw [hj, hverb]
    | reportLater =>
      refine .idle (reserved? ["event", "self"] fields) fun j hj => ?_
      unfold ask
      rw [hj, hverb]
      dsimp only
      cases reserved? ["event", "self"] fields <;> rfl
    | reportRankedLater =>
      cases hreserved : reserved? ["level", "self"] fields with
      | some f => exact .idle (some f) fun j hj => by unfold ask; simp only [hj, hverb, hreserved]; rfl
      | none =>
        by_cases hnamed : (get? (Text.ofString "event") fields).isSome = true
        · exact .idle none fun j hj => by unfold ask; simp only [hj, hverb, hreserved, hnamed, if_true]; rfl
        · exact .idle (some .nameless) fun j hj => by unfold ask; simp only [hj, hverb, hreserved, hnamed]; rfl
    | limit =>
      obtain ⟨hset, hlate⟩ := Verb.late_of_ofName? hverb (.inl rfl)
      cases hlimit : limitOf v with
      | error f => exact .of_bare (some f) fun j hj => by unfold ask; simp only [hj, hverb, hlimit]; rfl
      | ok rank =>
        have hask (j : Journal) (hj : j.isSetUp = isSetUp) :
            j.ask verb source v fields raised = j.bare fields (j.limit source rank).quiet := by
          unfold ask
          simp only [hj, hverb, hlimit]
        by_cases hfields : fields = []
        · exact .limit hset (Verb.eq_setLevel_of_late? hlate) rank fun j hj => by rw [hask j hj, bare, if_pos hfields]
        · exact .of_misused hfields hask
    | compare => exact .of_only _ fun j hj => by unfold ask; rw [hj, hverb]
    | descend => exact .of_only _ fun j hj => by unfold ask; rw [hj, hverb]
    | locate => exact .of_only true fun j hj => by unfold ask; rw [hj, hverb]
    | handOver => exact .of_bare _ fun j hj => by unfold ask; rw [hj, hverb]; rfl
    | attach =>
      obtain ⟨hset, hlate⟩ := Verb.late_of_ofName? hverb (.inr (.inl rfl))
      have hask (j : Journal) (hj : j.isSetUp = isSetUp) :
          j.ask verb source v fields raised = j.bare fields (j.attach source v).quiet := by unfold ask; rw [hj, hverb]
      by_cases hfields : fields = []
      · exact .attach hset (Verb.eq_addHandler_of_late? hlate) fun j hj => by rw [hask j hj, bare, if_pos hfields]
      · exact .of_misused hfields hask
    | detach =>
      obtain ⟨hset, -⟩ := Verb.late_of_ofName? hverb (.inr (.inr rfl))
      have hask (j : Journal) (hj : j.isSetUp = isSetUp) :
          j.ask verb source v fields raised = j.bare fields (j.detach source v).quiet := by unfold ask; rw [hj, hverb]
      by_cases hfields : fields = []
      · exact .detach hset fun j hj => by rw [hask j hj, bare, if_pos hfields]
      · exact .of_misused hfields hask
    | unbind => exact .of_bare _ fun j hj => by unfold ask; rw [hj, hverb]; rfl
    | tryUnbind => exact .of_only true fun j hj => by unfold ask; rw [hj, hverb]
    | other => exact .idle _ fun j hj => by unfold ask; rw [hj, hverb]; rfl

/-! ### What changes -/

theorem journal_write (j : Journal) (e : Event) (withError : Bool) (raised : Option Value) :
    (j.write e withError raised).journal = j := by
  unfold write
  dsimp only
  repeat' split
  all_goals rfl

theorem journal_writeRanked (j : Journal) (source : String) (rank : Value) (fields : Members)
    (raised : Option Value) : (j.writeRanked source rank fields raised).journal = j := by
  unfold writeRanked
  dsimp only
  repeat' split
  all_goals first | rfl | exact journal_write ..

/-- What is asked leaves a journal as it is, unless it sets a least rank, attaches something or detaches it. -/
theorem ask_journal_cases (j : Journal) (verb source : String) (v : Value) (fields : Members) (raised : Option Value) :
    (j.ask verb source v fields raised).journal = j ∨
    (j.isSetUp = true ∧ verb = "setLevel" ∧
      ∃ rank, (j.ask verb source v fields raised).journal = j.limit source rank) ∨
    (j.isSetUp = true ∧ verb = "addHandler" ∧ (j.ask verb source v fields raised).journal = j.attach source v) ∨
    (j.isSetUp = true ∧ (j.ask verb source v fields raised).journal = j.detach source v) := by
  cases answered j.isSetUp verb source v fields raised with
  | idle fault h => exact .inl (by rw [h j rfl])
  | report e withError h => exact .inl (by rw [h j rfl, journal_write])
  | reportRanked h => exact .inl (by rw [h j rfl, journal_writeRanked])
  | limit hset hverb rank h => exact .inr (.inl ⟨hset, hverb, rank, by rw [h j rfl]; rfl⟩)
  | attach hset hverb h => exact .inr (.inr (.inl ⟨hset, hverb, by rw [h j rfl]; rfl⟩))
  | detach hset h => exact .inr (.inr (.inr ⟨hset, by rw [h j rfl]; rfl⟩))

/-! ### Before the journal is set up -/

theorem write_of_not_setUp (h : j.output = none) (e : Event) (withError : Bool) (raised : Option Value) :
    ∃ fault, ∀ threshold,
      ({ j with threshold } : Journal).write e withError raised = { journal := { j with threshold }, fault } := by
  obtain ⟨first, levels, output, kept, context, outlets⟩ := j
  obtain rfl : output = none := h
  unfold write
  dsimp only
  cases reserved? ["event", "self", "method_name"] e.fields with
  | some f => exact ⟨some f, fun _ => rfl⟩
  | none =>
    -- whether the fields fit into a text is the same for every least rank
    cases hunfit : isUnfit ⟨none, levels, none, kept, context, outlets⟩ (fieldsOf context e)
        (attached? context e withError raised) with
    | true => exact ⟨some .textUnusable, fun _ => if_pos hunfit⟩
    | false => exact ⟨none, fun _ => if_neg (Bool.eq_false_iff.1 hunfit)⟩

theorem writeRanked_of_not_setUp (h : j.output = none) (source : String) (rank : Value) (fields : Members)
    (raised : Option Value) :
    ∃ fault, ∀ threshold, ({ j with threshold } : Journal).writeRanked source rank fields raised =
      { journal := { j with threshold }, fault } := by
  have hset (threshold : Option Int) : ({ j with threshold } : Journal).isSetUp = false := by rw [isSetUp, h]; rfl
  unfold writeRanked
  simp only [hset]
  cases reserved? ["level", "self"] fields with
  | some f => exact ⟨some f, fun _ => rfl⟩
  | none =>
    simp only [Bool.false_eq_true, if_false]
    split
    · exact ⟨some .nameless, fun _ => rfl⟩
    split
    · exact ⟨some .rankUnusable, fun _ => rfl⟩
    split
    · exact ⟨none, fun _ => rfl⟩
    cases severityOf rank with
    | error f => exact ⟨some f, fun _ => rfl⟩
    | ok severity => exact write_of_not_setUp h _ false raised

/-- What is asked of a journal that is not set up changes nothing and writes nothing, and what is wrong with it does not
depend on the least rank. -/
theorem ask_of_not_setUp (h : j.output = none) (verb source : String) (v : Value) (fields : Members)
    (raised : Option Value) :
    ∃ fault, ∀ threshold, ({ j with threshold } : Journal).ask verb source v fields raised =
      { journal := { j with threshold }, fault } := by
  have hunset (threshold : Option Int) : ({ j with threshold } : Journal).isSetUp = false := by rw [isSetUp, h]; rfl
  cases answered false verb source v fields raised with
  | idle fault hask => exact ⟨fault, fun threshold => hask _ (hunset threshold)⟩
  | report e withError hask =>
    obtain ⟨fault, hwrite⟩ := write_of_not_setUp h e withError raised
    exact ⟨fault, fun threshold => (hask _ (hunset threshold)).trans (hwrite threshold)⟩
  | reportRanked hask =>
    obtain ⟨fault, hwrite⟩ := writeRanked_of_not_setUp h source v fields raised
    exact ⟨fault, fun threshold => (hask _ (hunset threshold)).trans (hwrite threshold)⟩
  | limit hset => cases hset
  | attach hset => cases hset
  | detach hset => cases hset

/-! ### Reports -/

/-- What reports an event in the name of a source: the name of its severity, or its rank, with the name of the event
among its fields. -/
inductive Calls (source : String) : String → Value → Members → Event → Prop
  | named {verb : String} {severity : Severity} (h : Severity.ofName? verb = some severity) (name : Value)
      (fields : Members) : Calls source verb name fields { severity, source, name, fields }
  | ranked {rank : Value} {severity : Severity} (h : severityOf rank = .ok severity) (given : Members) :
      Calls source "log" rank given
        { severity, source, name := (get? (Text.ofString "event") given).getD .null
          fields := given.filter fun f => f.1 != Text.ofString "event" }

theorem Calls.source_eq {given : Members} (h : Calls source verb v given e) : e.source = source := by
  cases h <;> rfl

theorem Calls.usesLogger {given : Members} (h : Calls source verb v given e) : Verb.usesLogger verb given = true := by
  cases h with
  | @named _ severity h =>
    unfold Severity.ofName? at h
    split at h <;> first | rfl | cases h
  | ranked => rfl

theorem record_write {withError : Bool} (h : (j.write e withError raised).fault = none) :
    (j.write e withError raised).record =
      (j.record? e).map (attachError (attached? j.context e withError raised)) := by
  unfold write at h ⊢
  dsimp only at h ⊢
  cases hreserved : reserved? ["event", "self", "method_name"] e.fields with
  | some f =>
    rw [hreserved] at h
    cases h
  | none =>
    rw [hreserved] at h
    dsimp only at h ⊢
    split at h
    · cases h
    rw [if_neg (by assumption)]
    split at h
    · cases h
    rw [if_neg (by assumption)]
    split at h
    · cases h
    rw [if_neg (by assumption)]

/-- A report that goes well writes the record of its event, with the error if one is attached. -/
theorem record_ask {given : Members} (h : Calls source verb v given e)
    (hfault : (j.ask verb source v given raised).fault = none) :
    (j.ask verb source v given raised).record =
      (j.record? e).map (attachError (attached? j.context e (verb = "exception") raised)) := by
  cases h with
  | @named _ severity h =>
    have hask : j.ask verb source v given raised =
        j.write { severity, source, name := v, fields := given } (verb = "exception") raised := by
      unfold ask
      rw [Verb.ofName?_of_severity h]
    rw [hask] at hfault ⊢
    exact record_write hfault
  | ranked h =>
    have hask : j.ask "log" source v given raised = j.writeRanked source v given raised := rfl
    rw [hask] at hfault ⊢
    cases hset : j.isSetUp with
    | false =>
      have houtput : j.output = none := Option.isNone_iff_eq_none.1 (by rw [← Option.not_isSome, ← isSetUp, hset]; rfl)
      obtain ⟨fault, hwrite⟩ := writeRanked_of_not_setUp houtput source v given raised
      rw [show j.writeRanked source v given raised = _ from hwrite j.threshold, record?, houtput]
      rfl
    | true =>
      unfold writeRanked at hfault ⊢
      simp only [hset, if_true, h] at hfault ⊢
      cases hreserved : reserved? ["level", "self"] given with
      | some f =>
        rw [hreserved] at hfault
        cases hfault
      | none =>
        rw [hreserved] at hfault
        exact record_write hfault

/-! ### Loggers -/

variable {l : Logger}

theorem used_eq (j : Journal) (l : Logger) (verb : String) (fields : Members) :
    j.used l verb fields = { j with kept := (j.used l verb fields).kept } := by
  unfold used keep
  repeat' split
  all_goals rfl

theorem used_of_not_setUp (h : j.output = none) (l : Logger) (verb : String) (fields : Members) :
    j.used l verb fields = j := by
  unfold used keep
  rw [h]
  split
  · cases j.kept.lookup l <;> rfl
  · rfl

/-- What a logger keeps after it was perhaps used. -/
theorem lookup_kept_used (j : Journal) (l l' : Logger) (verb : String) (fields : Members) :
    (j.used l verb fields).kept.lookup l' =
      (j.kept.lookup l').or (if l = l' ∧ Verb.usesLogger verb fields = true then j.output else none) := by
  by_cases hused : Verb.usesLogger verb fields = true
  · simp only [used, hused, if_true, and_true]
    by_cases hl : l = l'
    · subst hl
      rw [if_pos rfl, keep]
      cases hkept : j.kept.lookup l with
      | some output => simp only [hkept, Option.some_or]
      | none =>
        cases j.output with
        | none => exact hkept
        | some output => exact List.lookup_cons_self
    · rw [if_neg hl, Option.or_none, keep]
      split
      · rw [List.lookup_cons, beq_false_of_ne (Ne.symm hl)]
      · rfl
  · simp only [used, hused, Bool.false_eq_true, if_false, and_false, Option.or_none]

/-- The first use of a logger does not change how it writes. -/
theorem outputOf_used (j : Journal) (l : Logger) (verb : String) (fields : Members) :
    (j.used l verb fields).outputOf l = j.outputOf l := by
  rw [outputOf, outputOf, lookup_kept_used, used_eq]
  cases j.kept.lookup l with
  | some output => rfl
  | none =>
    split
    · exact Option.or_self
    · rfl

/-- A call leaves what its logger keeps, unless it sets a least rank, attaches something or detaches it. -/
theorem journal_call_cases (j : Journal) (l : Logger) (verb : String) (v : Value) (fields : Members)
    (raised : Option Value) :
    (j.call l verb v fields raised).journal = j.used l verb fields ∨
    (verb = "setLevel" ∧
      ∃ rank, (j.call l verb v fields raised).journal = (j.used l verb fields).limit l.source rank) ∨
    (verb = "addHandler" ∧ (j.call l verb v fields raised).journal = (j.used l verb fields).attach l.source v) ∨
    (j.call l verb v fields raised).journal = (j.used l verb fields).detach l.source v := by
  have hcall : (j.call l verb v fields raised).journal =
      { (((j.used l verb fields).seenBy l).ask verb l.source v fields raised).journal with
        output := (j.used l verb fields).output } := rfl
  obtain heq | ⟨-, hverb, rank, heq⟩ | ⟨-, hverb, heq⟩ | ⟨-, heq⟩ :=
    ask_journal_cases ((j.used l verb fields).seenBy l) verb l.source v fields raised
  · exact .inl (by rw [hcall, heq]; rfl)
  · refine .inr (.inl ⟨hverb, rank, ?_⟩)
    rw [hcall, heq, limit, limit]
    split <;> rfl
  · refine .inr (.inr (.inl ⟨hverb, ?_⟩))
    rw [hcall, heq, attach, attach]
    by_cases hattached : (j.used l verb fields).outlets.any (isOutlet l.source v) = true
    · rw [if_pos hattached, if_pos (c := ((j.used l verb fields).seenBy l).outlets.any _ = true) hattached]
      rfl
    · rw [if_neg hattached, if_neg (c := ((j.used l verb fields).seenBy l).outlets.any _ = true) hattached]
      rfl
  · exact .inr (.inr (.inr (by rw [hcall, heq]; rfl)))

/-- Before the journal is set up, a call does what is asked of the journal. -/
theorem call_of_not_setUp (h : j.output = none) (hkept : j.kept = []) (l : Logger) (verb : String) (v : Value)
    (fields : Members) (raised : Option Value) :
    ∃ fault, ∀ threshold, ({ j with threshold } : Journal).call l verb v fields raised =
      { journal := { j with threshold }, fault } := by
  obtain ⟨fault, hask⟩ := ask_of_not_setUp h verb l.source v fields raised
  refine ⟨fault, fun threshold => ?_⟩
  have hseen : ({ j with threshold } : Journal).seenBy l = { j with threshold } := by
    rw [seenBy, outputOf, hkept, h]
    rfl
  have hused : ({ j with threshold } : Journal).used l verb fields = { j with threshold } :=
    used_of_not_setUp (j := { j with threshold }) h l verb fields
  simp only [call, hused, hseen, hask]

/-- A report that goes well writes the record that its logger makes of its event, with the error if one is attached. -/
theorem record_call {given : Members} (h : Calls l.source verb v given e)
    (hfault : (j.call l verb v given raised).fault = none) :
    (j.call l verb v given raised).record =
      ((j.seenBy l).record? e).map (attachError (attached? j.context e (verb = "exception") raised)) := by
  have hseen : (j.used l verb given).seenBy l = { j.seenBy l with kept := (j.used l verb given).kept } := by
    rw [seenBy, outputOf_used, used_eq]
    rfl
  have hrecord : (j.call l verb v given raised).record = _ := record_ask h hfault
  rw [hrecord, hseen]
  rfl

end Journal

end DomainPolicy
