import DomainPolicy.Proofs.Rule.Variant
import DomainPolicy.Proofs.Store.Effect
import DomainPolicy.Proofs.Store.Entry

/-!
# Variants of a domain in the store

A session goes the same way, to the same rows and with the same answers, whichever variants its calls spell their
domains with (`Call.Respells.session_eq`).  So all the variants of a domain address one row: what one has added another
one finds there and takes away (`Table.exists_row_of_isVariant`), and no number of calls that name nothing else comes to
any other row (`Table.others_foldl_after`).
-/

namespace DomainPolicy

open Domain (IsVariant named normalize normalize_of_isVariant)

namespace Domain

variable {s w : String} {ds ws : List Text}

/-- Whether a text spells a domain as another one does: it is that text, or both are strings, one a variant of the
other. -/
inductive Spells : Text → Text → Prop
  | same (t : Text) : Spells t t
  | variant {s w : String} (h : IsVariant s w) : Spells s w

theorem normalizeText_of_spells {t u : Text} (h : Spells t u) : normalizeText u = normalizeText t := by
  cases h with
  | same => rfl
  | variant h => rw [normalizeText_ofString, normalizeText_ofString, normalize_of_isVariant h]

theorem names_of_spells (h : List.Forall₂ Spells ds ws) : names ds = names ws := by
  have hmap : ds.map normalizeText = ws.map normalizeText := by
    induction h with
    | nil => rfl
    | cons hw _ ih => rw [List.map_cons, List.map_cons, normalizeText_of_spells hw, ih]
  rw [names, names, hmap]

theorem eq_of_mem_named {ws : List String} (h : ∀ w ∈ ws, IsVariant s w) {d : String}
    (hd : d ∈ named (ws.map Text.ofString)) : d = normalize s := by
  obtain ⟨-, w, hw, rfl⟩ := mem_named_ofStrings.1 hd
  exact normalize_of_isVariant (h w hw)

theorem named_of_isVariant (h : IsVariant s w) (hne : normalize s ≠ "") : named [(w : Text)] = {normalize s} := by
  ext d
  rw [mem_named_singleton, normalize_of_isVariant h, Finset.mem_singleton]
  constructor
  · exact fun hd => hd.2.symm
  · rintro rfl
    exact ⟨hne, rfl⟩

end Domain

/-! ### Calls -/

/-- Whether a call is another one but for the spelling of its domains. -/
inductive Call.Respells : Call → Call → Prop
  | add (kind : RuleKind) {ds ws : List Text} (h : List.Forall₂ Domain.Spells ds ws) :
    Respells (.add kind ds) (.add kind ws)
  | remove (kind : RuleKind) {ds ws : List Text} (h : List.Forall₂ Domain.Spells ds ws) :
    Respells (.remove kind ds) (.remove kind ws)
  | list (kind : RuleKind) : Respells (.list kind) (.list kind)
  | rows : Respells .rows .rows

namespace Call.Respells

variable {c c' : Call} {calls calls' : List Call}

theorem step_eq (h : c.Respells c') (how : Insertion) (s : Session) : s.step how c' = s.step how c := by
  cases h with
  | add kind h => exact (Session.step_congr (Domain.names_of_spells h)).1.symm
  | remove kind h => exact (Session.step_congr (Domain.names_of_spells h)).2.symm
  | list kind => rfl
  | rows => rfl

theorem run_eq (h : List.Forall₂ Call.Respells calls calls') (how : Insertion) (s : Session) :
    s.run how calls' = s.run how calls := by
  induction h generalizing s with
  | nil => rfl
  | cons hc _ ih => simp only [Session.run, hc.step_eq, ih]

theorem values_eq (h : c.Respells c') (how : Insertion) : c'.values how = c.values how := by
  cases h with
  | add kind h => simp only [Call.values, Domain.wanted_congr (Domain.names_of_spells h)]
  | remove kind h => simp only [Call.values, Domain.wanted_congr (Domain.names_of_spells h)]
  | list kind => rfl
  | rows => rfl

/-- A session goes the same way however the domains of its calls are spelled. -/
theorem session_eq (h : List.Forall₂ Call.Respells calls calls') (how : Insertion) (ending : Database.Ending)
    (db : Database) : db.session how ending calls' = db.session how ending calls := by
  cases h with
  | nil => rfl
  | cons hc hrest => simp only [Database.session, Limits.unmet, hc.values_eq, run_eq (.cons hc hrest)]

end Call.Respells

namespace Table

variable {t : Table} {kind : RuleKind} {s w w' w'' : String}

/-! ### One row -/

/-- What variants of a domain do to its row: one adds it, another one, added, leaves it as it is, and removed, takes it
and no other row away, and a third one puts it back, under a number of its own. -/
theorem exists_row_of_isVariant (ht : t.Unique) (hne : normalize s ≠ "") (hw : IsVariant s w) (hw' : IsVariant s w')
    (hw'' : IsVariant s w'') :
    let added := t.add kind [(w : Text)]
    ∃ r ∈ added, r.kind = kind ∧ r.domain = normalize s ∧ added.add kind [(w' : Text)] = added ∧
      added.remove kind [(w' : Text)] = added.erase r ∧
      ∃ id, (added.remove kind [(w' : Text)]).add kind [(w'' : Text)] = added.erase r ++ [{ r with id }] := by
  intro added
  have hnamed {v : String} (hv : IsVariant s v) : named [(v : Text)] = {normalize s} :=
    Domain.named_of_isVariant hv hne
  have hlisted : normalize s ∈ added.list kind := by
    rw [mem_list, domains_add, if_pos rfl, hnamed hw]
    exact Finset.mem_union_right _ (Finset.mem_singleton_self _)
  obtain ⟨r, hr, hk, hd, hremove⟩ := (unique_add ht kind _).remove_of_named hlisted (hnamed hw')
  refine ⟨r, hr, hk, hd, add_of_named hlisted (hnamed hw'), hremove,
    (added.remove kind [(w' : Text)]).nextId, ?_⟩
  have hgone : (added.remove kind [(w' : Text)]).contains kind (normalize s) = false := by
    rw [Bool.eq_false_iff, Ne, contains_iff_mem_domains, domains_remove, if_pos rfl, hnamed hw']
    simp
  have hstorable : Domain.storable [(w'' : Text)] = [normalize s] := by
    rw [Domain.storable_eq_sort, hnamed hw'', Finset.sort_singleton]
  rw [Table.add, hstorable, List.foldl_cons, List.foldl_nil, insert, if_neg (by rw [hgone]; exact Bool.false_ne_true),
    ← hremove]
  subst hk
  rw [hd]

/-- Whether a call adds or removes variants of one domain and nothing else. -/
inductive Addresses (kind : RuleKind) (s : String) : Call → Prop
  | add {ws : List String} (h : ∀ w ∈ ws, IsVariant s w) : Addresses kind s (.add kind (ws.map Text.ofString))
  | remove {ws : List String} (h : ∀ w ∈ ws, IsVariant s w) : Addresses kind s (.remove kind (ws.map Text.ofString))

/-- The rows but that of one domain and kind. -/
def others (t : Table) (kind : RuleKind) (d : String) : Table := t.filter fun r => ¬(r.kind = kind ∧ r.domain = d)

theorem others_after {c : Call} (h : Addresses kind s c) (t : Table) :
    (t.after c).others kind (normalize s) = t.others kind (normalize s) := by
  cases h with
  | @add ws h =>
    obtain ⟨new, hadd, hnew⟩ := exists_appends_add t kind (ws.map Text.ofString)
    -- a row that is new has the kind, and a domain that is named
    have hnone : others new kind (normalize s) = [] := by
      refine List.filter_eq_nil_iff.2 fun r hr => ?_
      have hd : r.domain ∈ (named (ws.map Text.ofString) \ t.domains kind).sort := hnew.domains ▸ List.mem_map_of_mem hr
      rw [Finset.mem_sort, Finset.mem_sdiff] at hd
      simp [hnew.kinds r hr, Domain.eq_of_mem_named h hd.1]
    rw [after, hadd, others, List.filter_append]
    exact (congrArg (t.others kind (normalize s) ++ ·) hnone).trans (List.append_nil _)
  | @remove ws h =>
    rw [after, others, remove, List.filter_filter]
    refine List.filter_congr fun r _ => ?_
    rw [Bool.eq_iff_iff, Bool.and_eq_true, decide_eq_true_eq, decide_eq_true_eq, and_iff_left_iff_imp]
    rintro hr ⟨hk, hd⟩
    exact hr ⟨hk, Domain.eq_of_mem_named h (Domain.mem_storable.1 hd)⟩

/-- However often variants of a domain are added and removed, no row but that of the domain comes, goes or changes. -/
theorem others_foldl_after {calls : List Call} (h : ∀ c ∈ calls, Addresses kind s c) (t : Table) :
    (calls.foldl after t).others kind (normalize s) = t.others kind (normalize s) := by
  induction calls generalizing t with
  | nil => rfl
  | cons c calls ih =>
    obtain ⟨hc, hcalls⟩ := List.forall_mem_cons.1 h
    rw [List.foldl_cons, ih hcalls, others_after hc]

end Table

/-- Variants of a domain are one domain: they have one normal spelling, so a session goes the same way whichever of them
its calls use, and what they address is one row. -/
theorem variants_address_one_row (s : String) :
    (∀ w, IsVariant s w → normalize w = normalize s) ∧
      (∀ how ending (db : Database) calls calls', List.Forall₂ Call.Respells calls calls' →
        db.session how ending calls' = db.session how ending calls) ∧
      (∀ (t : Table) kind w w' w'', t.Unique → normalize s ≠ "" → IsVariant s w → IsVariant s w' → IsVariant s w'' →
        let added := t.add kind [(w : Text)]
        ∃ r ∈ added, r.kind = kind ∧ r.domain = normalize s ∧ added.add kind [(w' : Text)] = added ∧
          added.remove kind [(w' : Text)] = added.erase r ∧
          ∃ id, (added.remove kind [(w' : Text)]).add kind [(w'' : Text)] = added.erase r ++ [{ r with id }]) ∧
      ∀ (t : Table) kind (calls : List Call), (∀ c ∈ calls, Table.Addresses kind s c) →
        (calls.foldl Table.after t).others kind (normalize s) = t.others kind (normalize s) :=
  ⟨fun _ => normalize_of_isVariant, fun how ending db _ _ h => Call.Respells.session_eq h how ending db,
    fun _ _ _ _ _ => Table.exists_row_of_isVariant, fun t _ _ h => Table.others_foldl_after h t⟩

/-- A capital sigma ends its word, whatever stands behind the word. -/
theorem variants_address_one_row_sigma :
    IsVariant "a.bΣ" " A.BΣ..\t" ∧ normalize " A.BΣ..\t" = normalize "a.bΣ" ∧
      ∃ r ∈ Table.add [] .blocked ["a.bΣ"], r.kind = .blocked ∧ r.domain = "a.bς" ∧
        Table.remove (Table.add [] .blocked ["a.bΣ"]) .blocked [" A.BΣ..\t"] =
          (Table.add [] .blocked ["a.bΣ"]).erase r := by
  have hself : IsVariant "a.bΣ" "a.bΣ" :=
    ⟨by decide +kernel, [], "a.bΣ".toList, 0, [], by decide +kernel, nofun, nofun, rfl⟩
  have hvariant : IsVariant "a.bΣ" " A.BΣ..\t" :=
    ⟨by decide +kernel, [' '], "A.BΣ".toList, 2, ['\t'], by decide +kernel, List.forall_mem_singleton.2 rfl,
      List.forall_mem_singleton.2 rfl, by decide +kernel⟩
  obtain ⟨hnormal, -, hrow, -⟩ := variants_address_one_row "a.bΣ"
  have hspelled : normalize "a.bΣ" = "a.bς" := by decide +kernel
  obtain ⟨r, hr, hk, hd, -, hremoved, -⟩ :=
    hrow [] .blocked "a.bΣ" " A.BΣ..\t" "a.bΣ" List.Pairwise.nil (by rw [hspelled]; decide) hself hvariant hself
  exact ⟨hvariant, hnormal _ hvariant, r, hr, hk, hd.trans hspelled, hremoved⟩

end DomainPolicy
