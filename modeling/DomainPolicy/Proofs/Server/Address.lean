import DomainPolicy.Proofs.Server.Command
import DomainPolicy.Proofs.Server.Process
import DomainPolicy.Proofs.Store.Entry

/-!
# Entries of tables that are reached

A table is `Reached` from the empty one by sessions and by what happens to running apps.  All of that keeps rows sound
(`sound_of_reached`), so an entry can be removed under the name that a view shows if and only if the name does not end
with a blank (`addressed_iff_of_reached`).  The entry `a` followed by a space, which is what `a .` is kept as, stays
(`blank_before_stop_stays`).
-/

namespace DomainPolicy.Server

open Http (Request Response)
open Domain (endsBlank)

/-! ### What keeps rows sound -/

theorem sound_of_moves {db db' : Database} (h : db.Sound) (hmoves : db.Moves db') : db'.Sound := by
  cases hmoves with
  | stay => exact h
  | connect hconnect => exact h.of_table_eq (Database.table_connect hconnect)
  | session call => exact h.session .onConflict .clean [call]

/-! ### Tables that are reached -/

/-- The tables that sessions and running apps lead to, starting from the empty one. -/
inductive Reached : Table → Prop
  | empty : Reached []
  | session {t t' : Table} (db : Database) (how : Insertion) (ending : Database.Ending) (calls : List Call) :
      Reached t → db.table = some t → (db.session how ending calls).1.table = some t' → Reached t'
  | run {t t' : Table} (digest : Bcrypt.Digest) (a : App) (steps : List Step) :
      Reached t → a.db.table = some t → (a.run digest steps).1.db.table = some t' → Reached t'

theorem sound_of_reached {t : Table} (h : Reached t) : t.Sound := by
  have hholds : ∀ {db : Database} {t}, t.Sound → db.table = some t → db.Sound := by
    intro db t ht he t' ht'
    rw [he] at ht'
    cases ht'
    exact ht
  induction h with
  | empty => exact Table.sound_nil
  | session db how ending calls _ he he' ih => exact (hholds ih he).session how ending calls _ he'
  | run digest a steps _ he he' ih => exact run_of_moves sound_of_moves (hholds ih he) digest steps _ he'

/-- An entry of a table that is reached is addressed by its name if and only if the name does not end with a blank, and
stays otherwise, in a session as well as through requests. -/
theorem addressed_iff_of_reached {t : Table} (ht : Reached t) {kind : RuleKind} {e : String} (he : e ∈ t.list kind) :
    ∃ removed listed added,
      (t.Addressed kind e removed listed added ↔ endsBlank e = false) ∧ (e ∈ listed ↔ endsBlank e = true) ∧
      (∀ (db : Database) how, db.Holds t → db.isWritable = true →
        (db.session how .clean [.remove kind [e]]).1.table = some removed ∧
          (db.session how .clean [.remove kind [e]]).2 = .ok [.domains listed] ∧
          (db.session how .clean [.add kind [e]]).1.table = some added) ∧
      (∀ digest fresh (a : App) r, a.db.Holds t → a.db.isWritable = true → Granted digest a r →
        ((Command.edit .remove kind [e]).AskedBy r → (a.serve digest fresh r).1.db.table = some removed ∧
          (a.serve digest fresh r).2.response = (domainsAnswer listed).withHeader idHeader (requestId fresh r)) ∧
        ((Command.edit .add kind [e]).AskedBy r → (a.serve digest fresh r).1.db.table = some added)) := by
  have hsound := sound_of_reached ht
  refine ⟨t.remove kind [e], (t.remove kind [e]).list kind, t.add kind [e], (hsound.addressed_iff he).1,
    (hsound.addressed_iff he).2, ?_, ?_⟩
  · intro db how hdb hw
    have hplain : [(e : Text)].length ≤ 1000 ∧ ∀ t ∈ [(e : Text)], t.Whole :=
      ⟨Nat.le_of_ble_eq_true rfl, List.forall_mem_singleton.2 (Text.whole_ofString e)⟩
    have hdone {call : Call} (h : call.Plain) : call.refusal? how db.toLimits = none :=
      Database.refusal?_of_not_refuses h (Database.refuses_of_isWritable hw call) how
    have hremove : (Call.remove kind [e]).refusal? how db.toLimits = none := hdone hplain
    have hadd : (Call.add kind [e]).refusal? how db.toLimits = none := hdone hplain
    rw [hdb.session_done hremove, hdb.session_done hadd]
    exact ⟨rfl, rfl, rfl⟩
  · intro digest fresh a r hdb hw hg
    constructor
    · intro hasked
      obtain ⟨hanswer, hafter⟩ := respond_done hdb hg hasked (Database.refuses_of_isWritable hw _)
      rw [db_serve, hafter]
      exact ⟨rfl, response_serve hanswer fresh⟩
    · intro hasked
      rw [db_serve, (respond_done hdb hg hasked (Database.refuses_of_isWritable hw _)).2]
      rfl

theorem addressed_iff_of_reached_a :
    Reached [⟨1, "a", .allowed⟩] ∧ "a" ∈ Table.list [⟨1, "a", .allowed⟩] .allowed ∧
      ∃ removed listed added, Table.Addressed [⟨1, "a", .allowed⟩] .allowed "a" removed listed added ∧
        (Database.session .onConflict .clean [.remove .allowed ["a"]] { table := some [⟨1, "a", .allowed⟩] }).1.table =
          some removed := by
  have hreached : Reached [⟨1, "a", .allowed⟩] :=
    .session { table := some [] } .onConflict .clean [.add .allowed ["a"]] .empty rfl (by decide +kernel)
  have hlisted : "a" ∈ Table.list [⟨1, "a", .allowed⟩] .allowed := by decide +kernel
  obtain ⟨removed, listed, added, h, -, hsession, -⟩ := addressed_iff_of_reached hreached hlisted
  have hdb : Database.Holds { table := some [⟨1, "a", .allowed⟩] } [⟨1, "a", .allowed⟩] :=
    ⟨fun _ => nofun, rfl, rfl, (sound_of_reached hreached).unique⟩
  exact ⟨hreached, hlisted, removed, listed, added, h.2 (by decide), (hsession _ .onConflict hdb rfl).1⟩

/-- The domain `a .` is listed as `a` followed by a space, and no removal of that name deletes it. -/
theorem blank_before_stop_stays :
    Reached [⟨1, "a ", .allowed⟩] ∧ Table.list [⟨1, "a ", .allowed⟩] .allowed = ["a "] ∧
      ∀ how, (Database.session how .clean [.remove .allowed ["a "]] { table := some [⟨1, "a ", .allowed⟩] }).1.table =
        some [⟨1, "a ", .allowed⟩] := by
  refine ⟨?_, by decide +kernel, fun how => by cases how <;> decide +kernel⟩
  exact .session { table := some [] } .onConflict .clean [.add .allowed ["a ."]] .empty rfl (by decide +kernel)

end DomainPolicy.Server
