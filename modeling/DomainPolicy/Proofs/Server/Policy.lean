import DomainPolicy.Proofs.Server.Command
import Mathlib.Logic.Function.Basic

/-!
# The service as two sets

A `Policy` is one set of domains a kind.  Commands change it one after the other (`Policy.run`): adding unites the set
of a kind with what is named, removing takes that away, and each command is answered with the listing of its set.  On a
store that cannot be written, a command that names a domain is not answered and changes nothing.

Requests that the guard grants and that ask for commands get the answers of the policy that the rows stand for, and the
rows afterwards stand for the policy afterwards (`run_eq_policy`).
-/

namespace DomainPolicy.Server

open Http (Request Response)
open Domain (named)

/-! ### Policies -/

/-- One set of domains a kind. -/
abbrev Policy := RuleKind → Finset String

namespace Command

/-- Whether a command would change a row of some table. -/
def names : Command → Bool
  | edit _ _ domains => named (domains.map Text.ofString) ≠ ∅
  | view _ => false

theorem writes_call (c : Command) : c.call.writes = c.names := by
  cases c with
  | edit effect kind domains =>
    have hwanted := Domain.wanted_eq_nil_iff_named
      (List.forall_mem_map.2 fun s (_ : s ∈ domains) => Text.whole_ofString s)
    cases effect <;> exact decide_eq_decide.2 (not_congr hwanted)
  | view kind => rfl

end Command

namespace Policy

/-- The sets after a command that is carried out. -/
def after (p : Policy) : Command → Policy
  | .edit .add kind domains => Function.update p kind (p kind ∪ named (domains.map Text.ofString))
  | .edit .remove kind domains => Function.update p kind (p kind \ named (domains.map Text.ofString))
  | .view _ => p

/-- The sets after a command, and the set that it is answered with if it is carried out. -/
def step (isWritable : Bool) (p : Policy) (c : Command) : Policy × Option (List String) :=
  if !isWritable && c.names then (p, none) else (p.after c, some (Utf8.listing (p.after c c.kind)))

/-- The sets after commands, and the answers. -/
def run (isWritable : Bool) (p : Policy) : List Command → Policy × List (Option (List String))
  | [] => (p, [])
  | c :: cs =>
    let (p, answer) := p.step isWritable c
    let (p, answers) := p.run isWritable cs
    (p, answer :: answers)

/-- The sets of a table after a call. -/
theorem domains_after (t : Table) (c : Command) : (t.after c.call).domains = Policy.after t.domains c := by
  funext k
  cases c with
  | edit effect kind domains =>
    cases effect with
    | add =>
      show (t.add kind (domains.map Text.ofString)).domains k = Function.update t.domains kind _ k
      rw [Table.domains_add, Function.update_apply]
      split
      · rename_i hk
        rw [hk]
      · rfl
    | remove =>
      show (t.remove kind (domains.map Text.ofString)).domains k = Function.update t.domains kind _ k
      rw [Table.domains_remove, Function.update_apply]
      split
      · rename_i hk
        rw [hk]
      · rfl
  | view kind => rfl

theorem run_cons (isWritable : Bool) (p : Policy) (c : Command) (cs : List Command) :
    p.run isWritable (c :: cs) = ((Policy.run isWritable (p.step isWritable c).1 cs).1,
      (p.step isWritable c).2 :: (Policy.run isWritable (p.step isWritable c).1 cs).2) := rfl

theorem step_of_names {isWritable : Bool} {c : Command} (h : (!isWritable && c.names) = true) (p : Policy) :
    p.step isWritable c = (p, none) := if_pos h

theorem step_of_not_names {isWritable : Bool} {c : Command} (h : (!isWritable && c.names) = false) (p : Policy) :
    p.step isWritable c = (p.after c, some (Utf8.listing (p.after c c.kind))) := by
  rw [step, h]
  rfl

/-- What a policy answers is in ascending order of bytes, without repetitions. -/
theorem ascends_of_mem_run {isWritable : Bool} {p : Policy} {cs : List Command} {ds : List String}
    (h : some ds ∈ (p.run isWritable cs).2) : Utf8.Ascends ds := by
  induction cs generalizing p with
  | nil => cases h
  | cons c cs ih =>
    rw [run_cons, List.mem_cons] at h
    rcases h with h | h
    · cases hn : !isWritable && c.names with
      | true =>
        rw [step_of_names hn] at h
        cases h
      | false =>
        rw [step_of_not_names hn] at h
        cases h
        exact Utf8.listing_ascends _
    · exact ih h

/-- On a store that can be written every command is answered. -/
theorem answered_of_mem_run {p : Policy} {cs : List Command} {answer : Option (List String)}
    (h : answer ∈ (p.run true cs).2) : ∃ ds, answer = some ds := by
  induction cs generalizing p with
  | nil => cases h
  | cons c cs ih =>
    rcases List.mem_cons.1 h with h | h
    · exact ⟨_, h⟩
    · exact ih h

end Policy

/-! ### Requests -/

/-- A request, with the id that it gets if it brings none, and what it asks for. -/
structure Asking where
  fresh : String
  request : Request
  command : Command

namespace Asking

def step (q : Asking) : Step := .request q.fresh q.request

/-- The response to a request whose command has an answer, or is ended without one. -/
def response (q : Asking) : Option (List String) → Response
  | some domains => (domainsAnswer domains).withHeader idHeader (requestId q.fresh q.request)
  | none => lastResort

end Asking

/-- The response of what a step shows, if it shows one. -/
def Seen.response? : Seen → Option Response
  | .exchange e => some e.response
  | _ => none

variable {digest : Bcrypt.Digest} {a : App} {t : Table}

/-- A request gets the answer of the policy that the rows stand for, and leaves the rows of the policy behind. -/
theorem step_eq_policy (hdb : a.db.Holds t) {q : Asking} (hg : Granted digest a q.request)
    (hc : q.command.AskedBy q.request) :
    (a.step digest q.step).2.response? = some (q.response (Policy.step a.db.isWritable t.domains q.command).2) ∧
      ∃ t', (a.step digest q.step).1.db.Holds t' ∧
        t'.domains = (Policy.step a.db.isWritable t.domains q.command).1 := by
  -- the store refuses what the policy leaves without an answer
  have hnames : a.db.refuses q.command.call = (!a.db.isWritable && q.command.names) := by
    rw [Database.refuses, Command.writes_call]
  cases hr : a.db.refuses q.command.call with
  | true =>
    obtain ⟨hanswer, hafter⟩ := respond_refused hdb hg hc hr
    rw [Policy.step_of_names (hnames ▸ hr)]
    refine ⟨congrArg some (response_serve_of_crash hanswer q.fresh), t, ?_, rfl⟩
    show (respond digest a q.request).db.Holds t
    rw [hafter]
    exact hdb.connected
  | false =>
    obtain ⟨hanswer, hafter⟩ := respond_done hdb hg hc hr
    rw [Policy.step_of_not_names (hnames ▸ hr)]
    refine ⟨?_, t.after q.command.call, ?_, Policy.domains_after t q.command⟩
    · rw [← Policy.domains_after, ← Table.list_eq_listing (Table.unique_after hdb.unique _)]
      exact congrArg some (response_serve hanswer q.fresh)
    · show (respond digest a q.request).db.Holds _
      rw [hafter]
      exact hdb.after q.command.call

/-- Whether a store can be written does not change. -/
theorem isWritable_step (hdb : a.db.Holds t) {q : Asking} (hg : Granted digest a q.request)
    (hc : q.command.AskedBy q.request) : (a.step digest q.step).1.db.isWritable = a.db.isWritable := by
  show (respond digest a q.request).db.isWritable = _
  cases hr : a.db.refuses q.command.call with
  | true => rw [(respond_refused hdb hg hc hr).2]
  | false => rw [(respond_done hdb hg hc hr).2]

/-- What requests get and leave behind, one after the other. -/
theorem run_eq_policy (hdb : a.db.Holds t) {qs : List Asking}
    (hqs : ∀ q ∈ qs, Granted digest a q.request ∧ q.command.AskedBy q.request) :
    (a.run digest (qs.map Asking.step)).2.map Seen.response? =
        List.zipWith (fun q answer => some (q.response answer)) qs
          (Policy.run a.db.isWritable t.domains (qs.map Asking.command)).2 ∧
      ∃ t', (a.run digest (qs.map Asking.step)).1.db.Holds t' ∧
        t'.domains = (Policy.run a.db.isWritable t.domains (qs.map Asking.command)).1 := by
  induction qs generalizing a t with
  | nil => exact ⟨rfl, t, hdb, rfl⟩
  | cons q qs ih =>
    obtain ⟨hg, hc⟩ := hqs q (List.mem_cons_self ..)
    obtain ⟨hresponse, t', hdb', ht'⟩ := step_eq_policy hdb hg hc
    have hqs' : ∀ q' ∈ qs, Granted digest (a.step digest q.step).1 q'.request ∧ q'.command.AskedBy q'.request :=
      fun q' hq' => hqs q' (List.mem_cons_of_mem _ hq')
    obtain ⟨hresponses, t'', hdb'', ht''⟩ := ih hdb' hqs'
    -- the rest of the run starts from the policy that the first request leaves
    rw [isWritable_step hdb hg hc, ht'] at hresponses ht''
    exact ⟨congrArg₂ List.cons hresponse hresponses, t'', hdb'', ht''⟩

/-- Requests that the guard grants and that ask for commands get the answers of the policy that the rows stand for, one
after the other, and leave the rows of the policy behind.  Each list that is answered is in ascending order of bytes,
without repetitions, and on a store that can be written every response has the status `200`. -/
theorem responses_of_policy (hdb : a.db.Holds t) {qs : List Asking}
    (hqs : ∀ q ∈ qs, Granted digest a q.request ∧ q.command.AskedBy q.request) :
    let ran := a.run digest (qs.map Asking.step)
    let policy := Policy.run a.db.isWritable t.domains (qs.map Asking.command)
    ran.2.map Seen.response? = List.zipWith (fun q answer => some (q.response answer)) qs policy.2 ∧
      (∃ t', ran.1.db.Holds t' ∧ t'.domains = policy.1) ∧
      (∀ ds, some ds ∈ policy.2 → Utf8.Ascends ds) ∧
      (a.db.isWritable = true →
        ∀ seen ∈ ran.2, ∃ response, seen.response? = some response ∧ response.status = 200) := by
  intro ran policy
  obtain ⟨hresponses, hrows⟩ := run_eq_policy hdb hqs
  refine ⟨hresponses, hrows, fun ds hds => Policy.ascends_of_mem_run hds, ?_⟩
  intro hwritable seen hseen
  have hmem : seen.response? ∈ List.zipWith (fun q answer => some (q.response answer)) qs policy.2 := by
    rw [← hresponses]
    exact List.mem_map_of_mem hseen
  rw [← List.map_uncurry_zip_eq_zipWith] at hmem
  obtain ⟨⟨q, answer⟩, hzip, hresponse⟩ := List.mem_map.1 hmem
  have hanswer : answer ∈ (Policy.run true t.domains (qs.map Asking.command)).2 := by
    rw [← hwritable]
    exact (List.of_mem_zip hzip).2
  obtain ⟨ds, rfl⟩ := Policy.answered_of_mem_run hanswer
  exact ⟨_, hresponse.symm, rfl⟩

/-- An addition, a removal and a view. -/
def someAskings : List Asking :=
  [⟨"1", presenting "s3cr3t" "POST" "/api/v1/admin/allow" "\x7b\"domains\": [\"B.\", \" a\", \"b\"]\x7d",
      .edit .add .allowed ["B.", " a", "b"]⟩,
    ⟨"2", presenting "s3cr3t" "POST" "/api/v1/admin/unblock" "\x7b\"domains\": [\"a\"]\x7d",
      .edit .remove .blocked ["a"]⟩,
    ⟨"3", presenting "s3cr3t" "GET" "/api/v1/admin/allowed" "", .view .allowed⟩]

theorem responses_of_policy_fresh :
    ∃ c, Credential.build Bcrypt.digest "s3cr3t" 4 "abcdefghijklmnopqrstuu" = .ok c ∧
      ((App.guardedBy c { table := some [] }).run Bcrypt.digest (someAskings.map Asking.step)).2.map Seen.response? =
        List.zipWith (fun q answer => some (q.response answer)) someAskings
          (Policy.run true (Table.domains []) (someAskings.map Asking.command)).2 := by
  have hsize : Utf8.size "s3cr3t" ≤ maxSecretBytes := by decide
  obtain ⟨c, hc⟩ := Credential.exists_build Bcrypt.digest hsize
  have hdb : (App.guardedBy c { table := some [] }).db.Holds [] :=
    ⟨fun _ => nofun, rfl, rfl, List.Pairwise.nil⟩
  have hqs : ∀ q ∈ someAskings, Granted Bcrypt.digest (App.guardedBy c { table := some [] }) q.request ∧
      q.command.AskedBy q.request := by
    intro q hq
    rw [someAskings] at hq
    simp only [List.mem_cons, List.not_mem_nil, or_false] at hq
    rcases hq with rfl | rfl | rfl
    · exact ⟨granted_of_secret hc rfl _, rfl, Command.submits_of_read rfl rfl (by decide)⟩
    · exact ⟨granted_of_secret hc rfl _, rfl, Command.submits_of_read rfl rfl (by decide)⟩
    · exact ⟨granted_of_secret hc rfl _, rfl, trivial⟩
  exact ⟨c, hc, (responses_of_policy hdb hqs).1⟩

/-- On a database that has its table and cannot be written, an addition is not answered `200`. -/
theorem unwritable_addition :
    ∃ c db, Credential.build Bcrypt.digest "s3cr3t" 4 "abcdefghijklmnopqrstuu" = .ok c ∧
      Database.init { isWritable := false, table := some [] } = .ok db ∧
      let r := presenting "s3cr3t" "POST" "/api/v1/admin/allow" "\x7b\"domains\": [\"a\"]\x7d"
      Granted Bcrypt.digest (.guardedBy c db) r ∧ (Command.edit .add .allowed ["a"]).AskedBy r ∧
        ((App.guardedBy c db).serve Bcrypt.digest "1" r).2.response.status = 500 := by
  have hsize : Utf8.size "s3cr3t" ≤ maxSecretBytes := by decide
  obtain ⟨c, hc⟩ := Credential.exists_build Bcrypt.digest hsize
  have hinit : Database.init { isWritable := false, table := some [] } =
      .ok { isWritable := false, table := some [], isConnected := true } := rfl
  refine ⟨c, _, hc, hinit, ?_⟩
  intro r
  have hg : Granted Bcrypt.digest (.guardedBy c { isWritable := false, table := some [], isConnected := true }) r :=
    granted_of_secret hc rfl _
  have hr : (Command.edit .add .allowed ["a"]).AskedBy r := ⟨rfl, Command.submits_of_read rfl rfl (by decide)⟩
  have hdb : Database.Holds { isWritable := false, table := some [], isConnected := true } [] :=
    Database.holds_of_init hinit List.Pairwise.nil
  have hrefuses : Database.refuses { isWritable := false, table := some [], isConnected := true }
      (Command.edit .add .allowed ["a"]).call = true := by
    rw [Database.refuses, Command.writes_call]
    decide
  refine ⟨hg, hr, ?_⟩
  rw [response_serve_of_crash (respond_refused hdb hg hr hrefuses).1]
  rfl

end DomainPolicy.Server
