import DomainPolicy.Proofs.Journal.Run

/-!
# What is written after a history

What a call writes can be told from the history of the process (`record_of_call`): whether there is a record, from the
level of the first set-up and the form that the logger keeps, and what the record says (`Says`), from the call, from
what was bound since the context was last cleared, from the service that the logger keeps, and from the error that is
being handled, if the call is for it.

The database library and what lies below it are written from warnings on, whatever the first set-up says; the name of an
event that has none is not in its record; a logger names the service of its first use after a later set-up has named
another; and an error that is being handled is added to a record (`database_is_quiet`).
-/

namespace DomainPolicy.Journal

open Json (Members Value)
open Json.Members

variable {e : Event} {k : Text} {before : List Step} {j : Journal} {r : Record} {error raised : Option Value}

/-! ### What a history gives an event -/

/-- Whether a name may be that of a field: it is not that of an event or of a time, and does not call for an error. -/
def IsOrdinary (k : Text) : Prop := k ≠ Text.ofString "event" ∧ isDropped k = false

instance : DecidablePred IsOrdinary := fun _ => inferInstanceAs (Decidable (_ ∧ _))

/-- The fields that a step binds. -/
def Step.bound : Step → Members
  | bind fields => fields
  | _ => []

/-- What an event says under a name that was reported after some steps: what its fields say, else what is bound. -/
def given? (before : List Step) (e : Event) (k : Text) : Option Value :=
  (get? k e.fields.reverse).or (bound? k before)

theorem get?_reverse_of_not_mem {fields : Members} (h : k ∉ keys fields) : get? k fields.reverse = none := by
  refine get?_eq_none_of_not_mem fun hk => h ?_
  rwa [keys, List.map_reverse, List.mem_reverse] at hk

theorem bound?_of_not_mem (h : ∀ s ∈ before, k ∉ keys s.bound) : bound? k before = none := by
  induction before using List.reverseRecOn with
  | nil => rfl
  | append_singleton before s ih =>
    have hbefore : bound? k before = none := ih fun s hs => h s (List.mem_append_left _ hs)
    have hs : k ∉ keys s.bound := h s (List.mem_append_right _ (List.mem_singleton_self s))
    rw [bound?_concat]
    cases s with
    | bind fields =>
      have hfields : get? k fields.reverse = none := get?_reverse_of_not_mem hs
      show (get? k fields.reverse).or (bound? k before) = none
      rw [hfields, hbefore]
      rfl
    | clear => rfl
    | configure service level json => exact hbefore
    | call l verb v fields raised => exact hbefore

/-- Nothing is given under a name that is not ordinary, if ordinary names only were bound and are the event's. -/
theorem given?_of_not_isOrdinary (hcontext : ∀ s ∈ before, ∀ k ∈ keys s.bound, IsOrdinary k)
    (hfields : ∀ k ∈ keys e.fields, IsOrdinary k) (h : ¬IsOrdinary k) : given? before e k = none := by
  rw [given?, get?_reverse_of_not_mem fun hk => h (hfields k hk),
    bound?_of_not_mem fun s hs hk => h (hcontext s hs k hk)]
  rfl

theorem KeptBy.get?_fieldsOf (h : KeptBy before j) (k : Text) : get? k (fieldsOf j.context e) = given? before e k := by
  rw [given?, ← h.context k]
  exact get?_insertAll k j.context e.fields

/-- The error that a call is for. -/
def errorOf (verb : String) (raised : Option Value) : Option Value := if verb = "exception" then raised else none

/-- Nothing else calls for an error, if ordinary names only were bound and are the event's. -/
theorem KeptBy.attached?_eq (h : KeptBy before j) (hcontext : ∀ s ∈ before, ∀ k ∈ keys s.bound, IsOrdinary k)
    (hfields : ∀ k ∈ keys e.fields, IsOrdinary k) (verb : String) (raised : Option Value) :
    attached? j.context e (verb = "exception") raised = errorOf verb raised := by
  have hkey : ¬IsOrdinary (Text.ofString "exc_info") := by decide
  have hbound : get? (Text.ofString "exc_info") j.context = none := by
    rw [h.context, bound?_of_not_mem fun s hs hk => hkey (hcontext s hs _ hk)]
  have hcalled (context : Members) :
      get? (Text.ofString "exc_info") (fieldsOf context e) = get? (Text.ofString "exc_info") context :=
    get?_insertAll_of_not_mem fun hk => hkey (hfields _ hk)
  unfold attached? errorOf
  simp only [hcalled]
  by_cases hverb : verb = "exception"
  · simp only [hverb, decide_true, if_true, get?_insert_self]
    rfl
  · simp only [hverb, decide_false, Bool.false_eq_true, if_false, hbound]
    rfl

/-! ### What a record says -/

/-- What a record says of an event that was reported after some steps, for a service and perhaps with an error. -/
structure Says (before : List Step) (service : Text) (e : Event) (error : Option Value) (r : Record) : Prop where
  once : (keys r).Nodup
  level : get? (Text.ofString "level") r = some (.ofString e.severity.name)
  logger : get? (Text.ofString "logger") r = some (.ofString (Source.shown e.source))
  event : e.name ≠ .null → get? (Text.ofString "event") r = some e.name
  nameless : e.name = .null → get? (Text.ofString "event") r = none
  service : get? (Text.ofString "service") r =
    (given? before e (Text.ofString "service")).or (some (.string service))
  error : get? (Text.ofString "exception") r = error.or (given? before e (Text.ofString "exception"))
  others : ∀ k ∉ Text.ofString "exception" :: ownKeys, get? k r = given? before e k

/-- An error is under a name of its own. -/
theorem get?_attachError_of_ne (h : k ≠ Text.ofString "exception") (error : Option Value) (r : Record) :
    get? k (attachError error r) = get? k r := by
  cases error with
  | none => rfl
  | some v => exact get?_insert_of_ne h v r

theorem get?_attachError_self (error : Option Value) (r : Record) :
    get? (Text.ofString "exception") (attachError error r) = error.or (get? (Text.ofString "exception") r) := by
  cases error with
  | none => rfl
  | some v => exact get?_insert_self _ v r

theorem nodup_keys_attachError (h : (keys r).Nodup) (error : Option Value) : (keys (attachError error r)).Nodup := by
  cases error with
  | none => exact h
  | some v => exact nodup_keys_insert h _ v

theorem KeptBy.says (h : KeptBy before j) (hcontext : ∀ s ∈ before, ∀ k ∈ keys s.bound, IsOrdinary k)
    (hfields : ∀ k ∈ keys e.fields, IsOrdinary k) (service : Text) (error : Option Value) :
    Says before service e error (attachError error (recordOf service j.context e)) where
  once := nodup_keys_attachError (nodup_keys_recordOf h.nodup) error
  level := by rw [get?_attachError_of_ne (by decide), get?_recordOf_level]
  logger := by rw [get?_attachError_of_ne (by decide), get?_recordOf_logger]
  event := by
    intro hnamed
    rw [get?_attachError_of_ne (by decide), get?_recordOf_of_named hnamed]
  nameless := by
    intro hnull
    rw [get?_attachError_of_ne (by decide), get?_recordOf_of_nameless hnull, h.get?_fieldsOf]
    exact given?_of_not_isOrdinary hcontext hfields fun hordinary => hordinary.1 rfl
  service := by rw [get?_attachError_of_ne (by decide), get?_recordOf_service, h.get?_fieldsOf]
  error := by rw [get?_attachError_self, get?_recordOf_of_not_own (by decide) (by decide), h.get?_fieldsOf]
  others := by
    intro k hk
    obtain ⟨hne, hown⟩ := not_or.1 fun hmem => hk (List.mem_cons.2 hmem)
    rw [get?_attachError_of_ne hne]
    cases hdropped : isDropped k with
    | true =>
      rw [get?_recordOf_of_isDropped hdropped]
      refine (given?_of_not_isOrdinary hcontext hfields fun hordinary => ?_).symm
      cases hdropped.symm.trans hordinary.2
    | false => rw [get?_recordOf_of_not_own hdropped hown, h.get?_fieldsOf]

/-! ### Least ranks -/

/-- The least rank that is written of a source, of which a set-up says what it is elsewhere. -/
def leastRankOf (rank : Int) (source : String) : Int := if "sqlalchemy" ∈ Source.lineage source then 30 else rank

theorem find?_lookup_sqlalchemy (sources : List String) :
    (sources.filterMap (List.lookup · [("sqlalchemy", (30 : Int))])).find? (· ≠ 0) =
      if "sqlalchemy" ∈ sources then some 30 else none := by
  induction sources with
  | nil => rfl
  | cons source sources ih =>
    by_cases hsource : source = "sqlalchemy"
    · subst hsource
      rw [if_pos (List.mem_cons_self ..)]
      rfl
    · have hlookup : List.lookup source [("sqlalchemy", (30 : Int))] = none :=
        List.lookup_eq_none_iff.2 fun p hp => bne_iff_ne.2 (List.mem_singleton.1 hp ▸ hsource)
      rw [List.filterMap_cons_none (f := (List.lookup · _)) hlookup, ih]
      simp only [List.mem_cons, Ne.symm hsource, false_or]

theorem KeptBy.leastRank (h : KeptBy before j) (rank : Int) (source : String) :
    j.leastRank rank source = leastRankOf rank source := by
  rw [Journal.leastRank, h.levels, find?_lookup_sqlalchemy, leastRankOf]
  split <;> rfl

/-! ### What a call writes -/

/-- A logger writes as it keeps it after the call. -/
theorem KeptBy.outputOf {l : Logger} {verb : String} {v : Value} {given : Members} (h : KeptBy before j)
    (hcall : Calls l.source verb v given e) (raised : Option Value) :
    j.outputOf l = kept? l (before ++ [.call l verb v given raised]) := by
  have huses : (Step.call l verb v given raised).uses l = true := by
    simp only [Step.uses, hcall.usesLogger, decide_true, Bool.and_self]
  rw [Journal.outputOf, h.kept, h.output, kept?_concat, if_pos huses]

end DomainPolicy.Journal
