import DomainPolicy.Proofs.Rule.Spelling
import DomainPolicy.Proofs.Store.Holding

/-!
# Entries and their names

Sessions keep a table `Sound`: every domain in it is a kept spelling, and not the empty one (`Session.Sound.run`).  In
a sound table an entry can be removed under the name under which it is listed if and only if the name does not end with
a blank (`Table.Sound.addressed_iff`): otherwise its normal spelling is another one, and the entry stays.
-/

namespace DomainPolicy

open Domain (Kept endsBlank named normalize)

namespace Domain

theorem kept_of_mem_named {ds : List Text} {d : String} (h : d ∈ named ds) : Kept d ∧ d ≠ "" := by
  obtain ⟨hne, x, -, rfl⟩ := mem_named.1 h
  exact ⟨kept_normalize x, hne⟩

theorem mem_named_singleton {s d : String} : d ∈ named [(s : Text)] ↔ d ≠ "" ∧ normalize s = d := by
  rw [mem_named]
  simp [Text.ofString_injective.eq_iff]

/-- A kept spelling names itself alone if it does not end with a blank. -/
theorem named_self {e : String} (h : Kept e) (hne : e ≠ "") (hb : endsBlank e = false) : named [e] = {e} := by
  ext d
  rw [mem_named_singleton, Finset.mem_singleton, h.normalize_eq_iff.2 hb]
  constructor
  · rintro ⟨-, rfl⟩
    rfl
  · rintro rfl
    exact ⟨hne, rfl⟩

/-- A kept spelling that ends with a blank does not name itself. -/
theorem not_mem_named_self {e : String} (h : Kept e) (hb : endsBlank e = true) : e ∉ named [e] := by
  intro he
  rw [h.normalize_eq_iff.1 (mem_named_singleton.1 he).2] at hb
  cases hb

end Domain

/-! ### Sound tables -/

namespace Table

/-- Rows that share no domain and kind, and whose domains are kept spellings, none of them empty. -/
structure Sound (t : Table) : Prop where
  unique : t.Unique
  kept : ∀ r ∈ t, Kept r.domain ∧ r.domain ≠ ""

theorem sound_nil : Sound [] := ⟨List.Pairwise.nil, fun _ => nofun⟩

namespace Sound

variable {t : Table}

theorem insert (h : t.Sound) (kind : RuleKind) {d : String} (hd : Kept d ∧ d ≠ "") : (t.insert kind d).Sound := by
  refine ⟨unique_insert h.unique kind d, ?_⟩
  intro r hr
  unfold Table.insert at hr
  split at hr
  · exact h.kept r hr
  · rcases List.mem_append.1 hr with hr | hr
    · exact h.kept r hr
    · rw [List.mem_singleton] at hr
      subst hr
      exact hd

theorem remove (h : t.Sound) (kind : RuleKind) (ds : List Text) : (t.remove kind ds).Sound :=
  ⟨unique_remove h.unique kind ds, fun r hr => h.kept r (mem_remove.1 hr).1⟩

theorem kept_of_mem_list (h : t.Sound) {kind : RuleKind} {e : String} (he : e ∈ t.list kind) : Kept e ∧ e ≠ "" := by
  obtain ⟨r, hr, -, rfl⟩ := mem_domains.1 (mem_list.1 he)
  exact h.kept r hr

end Sound

/-! ### Addressing an entry -/

/-- Whether an entry was addressed by its name: removing the name took away the row of the entry, and was answered with
the other entries, and adding it changed no row. -/
structure Addressed (t : Table) (kind : RuleKind) (e : String) (removed : Table) (listed : List String)
    (added : Table) : Prop where
  removed_eq : ∃ r ∈ t, r.kind = kind ∧ r.domain = e ∧ removed = t.erase r
  listed_eq : listed = (t.list kind).erase e
  added_eq : added = t

theorem Unique.eq_of_mem {t : Table} (h : t.Unique) {r s : Row} (hr : r ∈ t) (hs : s ∈ t) (hk : r.kind = s.kind)
    (hd : r.domain = s.domain) : r = s := by
  by_contra hne
  have hsymm : Std.Symm fun r s : Row => ¬(r.kind = s.kind ∧ r.domain = s.domain) :=
    ⟨fun r s hn he => hn ⟨he.1.symm, he.2.symm⟩⟩
  exact List.Pairwise.forall h hr hs hne ⟨hk, hd⟩

theorem Unique.nodup {t : Table} (h : t.Unique) : t.Nodup :=
  List.Pairwise.imp (fun hn he => hn ⟨congrArg Row.kind he, congrArg Row.domain he⟩) h

variable {t : Table} {kind : RuleKind} {e : String} {ds : List Text}

/-- Removing what names one entry alone takes away its row. -/
theorem Unique.remove_of_named (h : t.Unique) (he : e ∈ t.list kind) (hnamed : named ds = {e}) :
    ∃ r ∈ t, r.kind = kind ∧ r.domain = e ∧ t.remove kind ds = t.erase r := by
  obtain ⟨r, hr, hk, hd⟩ := mem_domains.1 (mem_list.1 he)
  refine ⟨r, hr, hk, hd, ?_⟩
  rw [h.nodup.erase_eq_filter, Table.remove]
  refine List.filter_congr fun s hs => ?_
  rw [Bool.eq_iff_iff, decide_eq_true_eq, bne_iff_ne, Domain.mem_storable, hnamed, Finset.mem_singleton]
  -- no other row has this domain and this kind
  constructor
  · rintro hn rfl
    exact hn ⟨hk, hd⟩
  · rintro hne ⟨hk', hd'⟩
    exact hne (h.eq_of_mem hs hr (hk'.trans hk.symm) (hd'.trans hd.symm))

theorem add_of_named (he : e ∈ t.list kind) (hnamed : named ds = {e}) : t.add kind ds = t := by
  refine foldl_insert_of_contains fun d hd => ?_
  rw [Domain.mem_storable, hnamed, Finset.mem_singleton] at hd
  rw [contains_iff_mem_domains, hd]
  exact mem_list.1 he

namespace Sound

theorem list_remove_self (h : t.Sound) (hnamed : named [e] = {e}) :
    (t.remove kind [e]).list kind = (t.list kind).erase e := by
  have hlist := list_eq_listing h.unique kind
  rw [list_eq_listing (unique_remove h.unique kind [e])]
  -- what is left when an entry is erased still ascends
  symm
  apply Utf8.eq_listing
  · refine List.Pairwise.sublist List.erase_sublist ?_
    rw [hlist]
    exact (Utf8.listing_ascends _).imp fun hle => Utf8.le_iff.2 hle.1
  · exact (list_nodup h.unique kind).erase e
  · intro x
    rw [(list_nodup h.unique kind).mem_erase_iff, mem_list, domains_remove, if_pos rfl, hnamed, Finset.mem_sdiff,
      Finset.mem_singleton, and_comm]

/-- An entry of a sound table is addressed by its name if and only if the name does not end with a blank, and stays
otherwise. -/
theorem addressed_iff (h : t.Sound) (he : e ∈ t.list kind) :
    (Addressed t kind e (t.remove kind [e]) ((t.remove kind [e]).list kind) (t.add kind [e]) ↔ endsBlank e = false) ∧
      (e ∈ (t.remove kind [e]).list kind ↔ endsBlank e = true) := by
  obtain ⟨hkept, hne⟩ := h.kept_of_mem_list he
  cases hb : endsBlank e with
  | false =>
    have hnamed := Domain.named_self hkept hne hb
    refine ⟨iff_of_true ⟨h.unique.remove_of_named he hnamed, h.list_remove_self hnamed, add_of_named he hnamed⟩ rfl, ?_⟩
    rw [h.list_remove_self hnamed, (list_nodup h.unique kind).mem_erase_iff]
    simp
  | true =>
    have hstays : e ∈ (t.remove kind [e]).list kind := by
      rw [mem_list, domains_remove, if_pos rfl, Finset.mem_sdiff]
      exact ⟨mem_list.1 he, Domain.not_mem_named_self hkept hb⟩
    refine ⟨iff_of_false ?_ Bool.noConfusion, iff_of_true hstays rfl⟩
    intro haddressed
    rw [haddressed.listed_eq, (list_nodup h.unique kind).mem_erase_iff] at hstays
    exact hstays.1 rfl

end Sound

end Table

namespace Session

/-- A session whose table is sound as it is committed and as it is seen. -/
structure Sound (s : Session) : Prop where
  saved : s.saved.Sound
  current : s.current.Sound

namespace Sound

variable {s : Session}

/-- Whatever calls a session runs and wherever it is stopped, its rows are sound. -/
theorem run (h : s.Sound) (how : Insertion) (calls : List Call) : (s.run how calls).1.Sound := by
  have hkeep : Call.Keep Table.Sound calls :=
    ⟨fun _ _ hd _ ht => ht.insert _ (Domain.kept_of_mem_named hd), fun _ _ ht => ht.remove _ _⟩
  obtain ⟨hsaved, hcurrent⟩ := both_run ⟨h.saved, h.current⟩ hkeep how
  exact ⟨hsaved, hcurrent⟩

end Sound

end Session

namespace Database

/-- A database whose rows, if it has its table, are sound. -/
def Sound (db : Database) : Prop := ∀ t, db.table = some t → t.Sound

theorem Sound.of_table_eq {db db' : Database} (h : db.Sound) (he : db'.table = db.table) : db'.Sound := by
  intro t ht
  exact h t (he ▸ ht)

theorem Sound.session {db : Database} (h : db.Sound) (how : Insertion) (ending : Ending) (calls : List Call) :
    (db.session how ending calls).1.Sound := by
  by_cases hcalls : calls = []
  · subst hcalls
    exact h
  rcases offers_or_not db with ⟨t, ht⟩ | hnot
  · have hstart : (Session.start db.toLimits t).Sound := ⟨h t ht.table_eq, h t ht.table_eq⟩
    have hrun := hstart.run how calls
    rw [session_of_offers ht hcalls]
    intro t' ht'
    cases ht'
    exact Session.left_of_both (P := Table.Sound) ⟨hrun.saved, hrun.current⟩
  · obtain ⟨e, isConnected, hsession⟩ := session_of_not_offers hnot hcalls how ending
    rw [hsession]
    exact h

end Database

end DomainPolicy
