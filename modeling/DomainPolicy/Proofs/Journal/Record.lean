import DomainPolicy.Journal.Basic

/-!
# What is in a record

A record has the keys of the context, those of the event's own fields, and four of its own, and no others
(`mem_keys_recordOf`).  The context keeps its value under every key that is neither the event's nor one of the four
(`get?_recordOf_of_context`), a field of the event its own (`get?_recordOf_of_field`), and the event is recorded under
its name (`get?_recordOf_event`), its level and its source.  The service is named by a field or the context, else by the
journal (`get?_recordOf_service`).
-/

namespace DomainPolicy

open Json (Members Value)

/-! ### Members -/

namespace Json.Members

variable {key k : Text} {v : Value} {ms fields : Members}

/-- The keys of members, in order. -/
def keys (ms : Members) : List Text := ms.map Prod.fst

theorem mem_keys_insert (h : k ∈ keys (insert key v ms)) : k = key ∨ k ∈ keys ms := by
  induction ms with
  | nil => exact Or.inl (List.mem_singleton.1 h)
  | cons m ms ih =>
    obtain ⟨first, value⟩ := m
    unfold insert at h
    split at h
    · exact Or.inr h
    · rcases List.mem_cons.1 h with rfl | h
      · exact Or.inr (List.mem_cons_self ..)
      · rcases ih h with rfl | h
        · exact Or.inl rfl
        · exact Or.inr (List.mem_cons_of_mem _ h)

/-- Sets members one after the other, as the fields of an event are set in a context. -/
def insertAll (ms fields : Members) : Members := fields.foldl (fun ms (k, v) => insert k v ms) ms

theorem insertAll_cons (ms : Members) (key : Text) (v : Value) (fields : Members) :
    insertAll ms ((key, v) :: fields) = insertAll (insert key v ms) fields := rfl

theorem mem_keys_insertAll (h : k ∈ keys (insertAll ms fields)) : k ∈ keys ms ∨ k ∈ keys fields := by
  induction fields generalizing ms with
  | nil => exact Or.inl h
  | cons field fields ih =>
    obtain ⟨key, v⟩ := field
    rcases ih h with h | h
    · rcases mem_keys_insert h with rfl | h
      · exact Or.inr (List.mem_cons_self ..)
      · exact Or.inl h
    · exact Or.inr (List.mem_cons_of_mem _ h)

/-- What is not set stays. -/
theorem get?_insertAll_of_not_mem (h : k ∉ keys fields) : get? k (insertAll ms fields) = get? k ms := by
  induction fields generalizing ms with
  | nil => rfl
  | cons field fields ih =>
    obtain ⟨key, v⟩ := field
    obtain ⟨hkey, hfields⟩ := not_or.1 (mt List.mem_cons.2 h)
    rw [insertAll_cons, ih hfields, get?_insert_of_ne hkey]

/-- What is set last stands. -/
theorem get?_insertAll_of_mem {before after : Members} (h : k ∉ keys after) :
    get? k (insertAll ms (before ++ (k, v) :: after)) = some v := by
  induction before generalizing ms with
  | nil => rw [List.nil_append, insertAll_cons, get?_insertAll_of_not_mem h, get?_insert_self]
  | cons field before ih => exact ih

theorem get?_append (k : Text) (ms ms' : Members) : get? k (ms ++ ms') = (get? k ms).or (get? k ms') := by
  induction ms with
  | nil => rfl
  | cons m ms ih =>
    obtain ⟨first, value⟩ := m
    rw [List.cons_append, get?, get?]
    split
    · rfl
    · exact ih

/-- Of the members that are set, the last one of a key counts, and if there is none the key keeps its value. -/
theorem get?_insertAll (k : Text) (ms fields : Members) :
    get? k (insertAll ms fields) = (get? k fields.reverse).or (get? k ms) := by
  induction fields generalizing ms with
  | nil => rfl
  | cons field fields ih =>
    obtain ⟨key, v⟩ := field
    rw [insertAll_cons, ih, List.reverse_cons, get?_append, Option.or_assoc]
    congr 1
    by_cases hkey : key = k
    · subst hkey
      rw [get?_insert_self, get?, if_pos rfl]
      rfl
    · rw [get?_insert_of_ne (Ne.symm hkey), get?, if_neg hkey]
      rfl

theorem get?_eq_none_of_not_mem (h : k ∉ keys ms) : get? k ms = none := by
  induction ms with
  | nil => rfl
  | cons m ms ih =>
    obtain ⟨hkey, hms⟩ := not_or.1 (mt List.mem_cons.2 h)
    rw [get?, if_neg (Ne.symm hkey), ih hms]

theorem nodup_keys_insert (h : (keys ms).Nodup) (key : Text) (v : Value) : (keys (insert key v ms)).Nodup := by
  induction ms with
  | nil => exact List.nodup_cons.2 ⟨List.not_mem_nil, List.nodup_nil⟩
  | cons m ms ih =>
    obtain ⟨first, value⟩ := m
    obtain ⟨hfirst, hms⟩ := List.nodup_cons.1 h
    by_cases hkey : first = key
    · rw [insert, if_pos hkey]
      exact h
    · rw [insert, if_neg hkey]
      exact List.nodup_cons.2 ⟨fun hmem => (mem_keys_insert hmem).elim hkey hfirst, ih hms⟩

theorem nodup_keys_insertAll (h : (keys ms).Nodup) (fields : Members) : (keys (insertAll ms fields)).Nodup := by
  induction fields generalizing ms with
  | nil => exact h
  | cons field fields ih => exact ih (nodup_keys_insert h field.1 field.2)

/-- What is left out under other keys does not matter. -/
theorem get?_filter {keep : Text × Value → Bool} (h : ∀ v, keep (k, v) = true) (ms : Members) :
    get? k (ms.filter keep) = get? k ms := by
  induction ms with
  | nil => rfl
  | cons m ms ih =>
    obtain ⟨first, value⟩ := m
    by_cases hfirst : first = k
    · subst hfirst
      rw [List.filter_cons_of_pos (h value), get?, get?, if_pos rfl, if_pos rfl]
    · by_cases hkeep : keep (first, value) = true
      · rw [List.filter_cons_of_pos hkeep, get?, get?, if_neg hfirst, if_neg hfirst, ih]
      · rw [List.filter_cons_of_neg hkeep, ih, get?, if_neg hfirst]

end Json.Members

/-! ### Records -/

namespace Journal

open Json.Members

variable {service : Text} {context : Members} {e : Event} {k : Text}

/-- The keys that every record has. -/
def ownKeys : List Text := ["event", "level", "logger", "service"].map Text.ofString

theorem mem_keys_setDefault {key : String} {v : Value} {ms : Members} (h : k ∈ keys (setDefault key v ms)) :
    k = Text.ofString key ∨ k ∈ keys ms := by
  unfold setDefault at h
  split at h
  · exact Or.inr h
  · exact mem_keys_insert h

theorem get?_setDefault_of_ne {key : String} (h : k ≠ Text.ofString key) (v : Value) (ms : Members) :
    get? k (setDefault key v ms) = get? k ms := by
  unfold setDefault
  split
  · rfl
  · exact get?_insert_of_ne h v ms

/-- The members of a record before its service is named and dropped fields are left out. -/
def marked (context : Members) (e : Event) : Members :=
  let named := match e.name with
    | .null => fieldsOf context e
    | name => insert (Text.ofString "event") name (fieldsOf context e)
  insert (Text.ofString "logger") (.ofString (Source.shown e.source))
    (insert (Text.ofString "level") (.ofString e.severity.name) named)

theorem recordOf_eq (service : Text) (context : Members) (e : Event) :
    recordOf service context e =
      (setDefault "service" (.string service) (marked context e)).filter fun m => !isDropped m.1 := rfl

/-- A record has no keys but those of the context, those of the event's fields, and its own. -/
theorem mem_keys_recordOf (h : k ∈ keys (recordOf service context e)) :
    k ∈ keys context ∨ k ∈ keys e.fields ∨ k ∈ ownKeys := by
  have hown : ∀ key ∈ ["event", "level", "logger", "service"], k = Text.ofString key → k ∈ ownKeys := by
    rintro key hkey rfl
    exact List.mem_map_of_mem hkey
  have hfields : k ∈ keys (fieldsOf context e) → k ∈ keys context ∨ k ∈ keys e.fields ∨ k ∈ ownKeys := by
    intro h
    rcases mem_keys_insertAll h with h | h
    · exact Or.inl h
    · exact Or.inr (Or.inl h)
  obtain ⟨m, hm, rfl⟩ := List.mem_map.1 h
  rw [recordOf_eq] at hm
  have hkept : m.1 ∈ keys (setDefault "service" (.string service) (marked context e)) :=
    List.mem_map_of_mem (List.mem_filter.1 hm).1
  rcases mem_keys_setDefault hkept with hk | hk
  · exact Or.inr (Or.inr (hown "service" (by simp) hk))
  rcases mem_keys_insert hk with hk | hk
  · exact Or.inr (Or.inr (hown "logger" (by simp) hk))
  rcases mem_keys_insert hk with hk | hk
  · exact Or.inr (Or.inr (hown "level" (by simp) hk))
  split at hk
  · exact hfields hk
  · rcases mem_keys_insert hk with hk | hk
    · exact Or.inr (Or.inr (hown "event" (by simp) hk))
    · exact hfields hk

/-- Under any other key than its own a record holds what the context and the fields say. -/
theorem get?_recordOf_of_not_own (hdropped : isDropped k = false) (hown : k ∉ ownKeys) :
    get? k (recordOf service context e) = get? k (fieldsOf context e) := by
  have hne : ∀ key ∈ ["event", "level", "logger", "service"], k ≠ Text.ofString key := by
    rintro key hkey rfl
    exact hown (List.mem_map_of_mem hkey)
  rw [recordOf_eq, get?_filter (fun _ => by rw [hdropped]; rfl), get?_setDefault_of_ne (hne "service" (by simp))]
  unfold marked
  rw [get?_insert_of_ne (hne "logger" (by simp)), get?_insert_of_ne (hne "level" (by simp))]
  split
  · rfl
  · exact get?_insert_of_ne (hne "event" (by simp)) _ _

/-- The context is in a record, but for what the event says itself. -/
theorem get?_recordOf_of_context (hdropped : isDropped k = false) (hown : k ∉ ownKeys) (hfields : k ∉ keys e.fields) :
    get? k (recordOf service context e) = get? k context := by
  rw [get?_recordOf_of_not_own hdropped hown]
  exact get?_insertAll_of_not_mem hfields

/-- A field of an event is in its record. -/
theorem get?_recordOf_of_field {v : Value} {before after : Members} (hdropped : isDropped k = false)
    (hown : k ∉ ownKeys) (hfields : e.fields = before ++ (k, v) :: after) (hlast : k ∉ keys after) :
    get? k (recordOf service context e) = some v := by
  rw [get?_recordOf_of_not_own hdropped hown]
  show get? k (insertAll context e.fields) = some v
  rw [hfields]
  exact get?_insertAll_of_mem hlast

theorem nodup_keys_recordOf (h : (keys context).Nodup) : (keys (recordOf service context e)).Nodup := by
  have hfields : (keys (fieldsOf context e)).Nodup := nodup_keys_insertAll h e.fields
  have hmarked : (keys (marked context e)).Nodup := by
    unfold marked
    refine nodup_keys_insert (nodup_keys_insert ?_ _ _) _ _
    split
    · exact hfields
    · exact nodup_keys_insert hfields _ _
  have hservice : (keys (setDefault "service" (.string service) (marked context e))).Nodup := by
    unfold setDefault
    split
    · exact hmarked
    · exact nodup_keys_insert hmarked _ _
  rw [recordOf_eq]
  exact hservice.sublist (List.filter_sublist.map _)

theorem get?_recordOf_level :
    get? (Text.ofString "level") (recordOf service context e) = some (.ofString e.severity.name) := by
  rw [recordOf_eq, get?_filter (fun _ => rfl), get?_setDefault_of_ne (by decide)]
  unfold marked
  rw [get?_insert_of_ne (by decide)]
  exact get?_insert_self _ _ _

theorem get?_recordOf_logger :
    get? (Text.ofString "logger") (recordOf service context e) = some (.ofString (Source.shown e.source)) := by
  rw [recordOf_eq, get?_filter (fun _ => rfl), get?_setDefault_of_ne (by decide)]
  exact get?_insert_self _ _ _

/-- The name of an event wins over what the context and the fields say. -/
theorem get?_recordOf_of_named (h : e.name ≠ .null) :
    get? (Text.ofString "event") (recordOf service context e) = some e.name := by
  rw [recordOf_eq, get?_filter (fun _ => rfl), get?_setDefault_of_ne (by decide)]
  unfold marked
  rw [get?_insert_of_ne (by decide), get?_insert_of_ne (by decide)]
  split
  · rename_i hnull
    exact absurd hnull h
  · exact get?_insert_self _ _ _

/-- If there is none, they are recorded. -/
theorem get?_recordOf_of_nameless (h : e.name = .null) :
    get? (Text.ofString "event") (recordOf service context e) = get? (Text.ofString "event") (fieldsOf context e) := by
  rw [recordOf_eq, get?_filter (fun _ => rfl), get?_setDefault_of_ne (by decide)]
  unfold marked
  rw [get?_insert_of_ne (by decide), get?_insert_of_ne (by decide), h]

/-- The service is named by the fields and the context first. -/
theorem get?_recordOf_service :
    get? (Text.ofString "service") (recordOf service context e) =
      (get? (Text.ofString "service") (fieldsOf context e)).or (some (.string service)) := by
  have hmarked : get? (Text.ofString "service") (marked context e) =
      get? (Text.ofString "service") (fieldsOf context e) := by
    unfold marked
    rw [get?_insert_of_ne (by decide), get?_insert_of_ne (by decide)]
    split
    · rfl
    · exact get?_insert_of_ne (by decide) _ _
  rw [recordOf_eq, get?_filter (fun _ => rfl), ← hmarked]
  unfold setDefault
  cases hservice : get? (Text.ofString "service") (marked context e) with
  | some v => exact hservice
  | none => exact get?_insert_self _ _ _

/-- What is dropped is in no record. -/
theorem get?_recordOf_of_isDropped (h : isDropped k = true) : get? k (recordOf service context e) = none := by
  refine get?_eq_none_of_not_mem fun hk => ?_
  obtain ⟨m, hm, rfl⟩ := List.mem_map.1 hk
  rw [recordOf_eq] at hm
  have hkept := (List.mem_filter.1 hm).2
  rw [h] at hkept
  cases hkept

/-- An event that has a name is recorded under it. -/
theorem get?_recordOf_event {name : String} (h : e.name = .ofString name) :
    get? (Text.ofString "event") (recordOf service context e) = some (.ofString name) := by
  rw [get?_recordOf_of_named (by rw [h]; exact nofun), h]

/-! ### What is written -/

/-- What is written for events are records of some of them, in the context of the journal. -/
theorem mem_records {j : Journal} {es : List Event} {record : Record} (h : record ∈ j.records es) :
    ∃ output e, j.output = some output ∧ e ∈ es ∧ record = recordOf output.service j.context e := by
  obtain ⟨e, he, hrecord⟩ := List.mem_filterMap.1 h
  unfold record? at hrecord
  split at hrecord
  · rename_i output houtput
    split at hrecord
    · cases hrecord
      exact ⟨output, e, houtput, he, rfl⟩
    · cases hrecord
  · cases hrecord

/-- A record is written exactly when records are asked for as JSON and the event reaches the least rank of its
source. -/
theorem record?_eq_some_iff {j : Journal} {record : Record} :
    j.record? e = some record ↔ ∃ service threshold, j.output = some ⟨service, true⟩ ∧ j.threshold = some threshold ∧
      j.leastRank threshold e.source ≤ e.severity.rank ∧ record = recordOf service j.context e := by
  unfold record? isWritten
  constructor
  · intro h
    split at h
    · rename_i output houtput
      obtain ⟨service, json⟩ := output
      split at h
      · rename_i hwritten
        simp only [Bool.and_eq_true, Option.any_eq_true, decide_eq_true_eq] at hwritten
        obtain ⟨rfl, -, threshold, hthreshold, hle⟩ := hwritten
        cases h
        exact ⟨service, threshold, houtput, hthreshold, hle, rfl⟩
      · cases h
    · cases h
  · rintro ⟨service, threshold, houtput, hthreshold, hle, rfl⟩
    simp only [houtput, hthreshold, Option.isSome_some, Option.any_some, hle, decide_true, Bool.and_self, if_true]

end Journal

end DomainPolicy
