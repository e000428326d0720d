import DomainPolicy.Proofs.Server.Command
import DomainPolicy.Proofs.Store.Atomicity

/-!
# What a request can change

The rows of the table change in one place only, the commit of a session (`runCall_cases`), and behind it a
request has nothing left that could fail.  So a request that changes them was sent to one of the four routes that edit,
was granted by the guard, had a body that submits domains, and is answered `200` (`isEdit_of_table_ne`): whatever ends a
request before that, or is answered to it, leaves the rows and their numbers as they were.  The path of such a request
may end in one line feed (`line_feed_edits`).
-/

namespace DomainPolicy.Server

open Http (Request Response)

/-! ### The store -/

/-- Whether a request that did `h` ran a call in a session of its own and is answered with a list of domains. -/
def Committed (db : Database) (h : Handled) : Prop :=
  (∃ call, h.db = (db.session .onConflict .clean [call]).1) ∧ ∃ ds, h.answer = .ok (domainsAnswer ds)

theorem runCall_cases (db : Database) (call : Call) (events : List Event) :
    (runCall db call events).db.table = db.table ∨ Committed db (runCall db call events) := by
  unfold runCall
  split
  · rename_i hs
    exact Or.inr ⟨⟨call, by rw [hs]⟩, _, rfl⟩
  · rename_i hs
    have hundone : db.Alike (db.session .onConflict .clean [call]).1 :=
      Database.alike_of_undone (Or.inr ⟨_, by rw [hs]⟩)
    rw [hs] at hundone
    exact Or.inl hundone.table_eq

theorem table_runCall_list (db : Database) (kind : RuleKind) (events : List Event) :
    (runCall db (.list kind) events).db.table = db.table := by
  have h := Database.table_session_list db kind
  unfold runCall
  split <;> (rename_i hs; rw [hs] at h; exact h)

/-- An edit changes rows only if the body submits domains. -/
theorem editAsAsked_cases (db : Database) (effect : Effect) (kind : RuleKind) (body : Bytes) :
    (editAsAsked db effect kind body).db.table = db.table ∨
      (∃ domains, Submission.read body = .ok domains) ∧ Committed db (editAsAsked db effect kind body) := by
  unfold editAsAsked
  split
  · rename_i domains hread
    rcases runCall_cases db _ _ with h | h
    · exact Or.inl h
    · exact Or.inr ⟨⟨domains, hread⟩, h⟩
  · exact Or.inl rfl
  · split <;> exact Or.inl rfl

/-! ### A request -/

/-- Only a request that the guard grants goes on. -/
theorem guarded_cases (digest : Bcrypt.Digest) (a : App) (r : Request) (go : Admin Unit → Handled) :
    (guarded digest a r go).db = a.db ∨
      ∃ admin, Guard.requireAdmin digest a.registry r.headers = .granted admin ∧
        (guarded digest a r go).db = (go admin).db ∧ (guarded digest a r go).answer = (go admin).answer := by
  cases hg : Guard.requireAdmin digest a.registry r.headers with
  | granted admin =>
    rw [guarded_granted hg]
    exact Or.inr ⟨admin, rfl, rfl, rfl⟩
  | refused refusal =>
    rw [guarded_refused hg]
    exact Or.inl rfl
  | poolClosed =>
    rw [guarded_poolClosed hg]
    exact Or.inl rfl

theorem table_guarded {digest : Bcrypt.Digest} {a : App} {r : Request} {go : Admin Unit → Handled}
    (hgo : ∀ admin, (go admin).db.table = a.db.table) : (guarded digest a r go).db.table = a.db.table := by
  rcases guarded_cases digest a r go with h | ⟨admin, -, hdb, -⟩
  · rw [h]
  · rw [hdb]
    exact hgo admin

/-- The actions that do not edit change no row. -/
theorem table_perform {digest : Bcrypt.Digest} {a : App} {r : Request} {action : Action}
    (h : ∀ effect kind, action ≠ .edit effect kind) : (perform digest a r action).db.table = a.db.table := by
  cases action with
  | health => rfl
  | ready =>
    simp only [perform]
    split
    · split
      · rename_i hping
        exact Database.table_connect hping
      · rfl
    · rfl
  | edit effect kind => exact absurd rfl (h effect kind)
  | view kind => exact table_guarded fun _ => table_runCall_list a.db kind []

/-- The paths of the routes that edit. -/
def editPaths : List String :=
  ["/api/v1/admin/allow", "/api/v1/admin/disallow", "/api/v1/admin/block", "/api/v1/admin/unblock"]

theorem path_mem_editPaths (effect : Effect) (kind : RuleKind) : (Action.edit effect kind).path ∈ editPaths := by
  cases effect <;> cases kind <;> decide

/-- Whether a request is an edit that the guard grants and whose body submits domains. -/
structure IsEdit (digest : Bcrypt.Digest) (a : App) (r : Request) : Prop where
  method : r.method = "POST"
  path : ∃ p ∈ editPaths, r.path = p ∨ r.path = p ++ "\n"
  granted : Granted digest a r
  submitted : ∃ domains, Submission.read r.body = .ok domains

/-- What a request can do to the rows: nothing, or an edit commits its call. -/
theorem respond_cases (digest : Bcrypt.Digest) (a : App) (r : Request) :
    (respond digest a r).db.table = a.db.table ∨ IsEdit digest a r ∧ Committed a.db (respond digest a r) := by
  cases hfind : Route.find r.method r.path with
  | action action =>
    rw [respond_action hfind]
    -- no other action runs a call that writes
    by_cases he : ∃ effect kind, action = .edit effect kind
    · obtain ⟨effect, kind, rfl⟩ := he
      obtain ⟨hmethod, hpath⟩ := action_of_find hfind
      show (guarded digest a r _).db.table = _ ∨ _ ∧ Committed _ (guarded digest a r _)
      rcases guarded_cases digest a r fun _ => editAsAsked a.db effect kind r.body with h | ⟨admin, hgrant, hdb, hans⟩
      · exact Or.inl (by rw [h])
      · rw [Committed, hdb, hans]
        rcases editAsAsked_cases a.db effect kind r.body with h | ⟨hread, hcommitted⟩
        · exact Or.inl h
        · exact Or.inr ⟨⟨hmethod, ⟨_, path_mem_editPaths effect kind, hpath⟩, ⟨admin, hgrant⟩, hread⟩, hcommitted⟩
    · exact Or.inl (table_perform fun effect kind h => he ⟨effect, kind, h⟩)
  | otherMethod allowed => exact Or.inl (by simp only [respond, hfind])
  | page p => exact Or.inl (by simp only [respond, hfind])
  | otherPageMethod => exact Or.inl (by simp only [respond, hfind])
  | elsewhere path => exact Or.inl (by simp only [respond, hfind])
  | nothing => exact Or.inl (by simp only [respond, hfind])

/-- A request that changes a row is an edit which the guard granted, whose body submits domains, and which is answered
`200`. -/
theorem isEdit_of_table_ne (digest : Bcrypt.Digest) (fresh : String) (a : App) (r : Request)
    (h : (a.serve digest fresh r).1.db.table ≠ a.db.table) :
    IsEdit digest a r ∧ (a.serve digest fresh r).2.response.status = 200 := by
  rcases respond_cases digest a r with hkept | ⟨hedit, -, ds, hans⟩
  · exact absurd hkept h
  · rw [response_serve hans]
    exact ⟨hedit, rfl⟩

/-- Adding a domain to a fresh table changes its rows. -/
theorem table_ne_of_first_domain {c : Credential} {r : Request}
    (hc : Credential.build Bcrypt.digest "s3cr3t" 4 "abcdefghijklmnopqrstuu" = .ok c)
    (htoken : Token.parse r.headers = .ok ⟨"s3cr3t"⟩) (hasked : (Command.edit .add .allowed ["a"]).AskedBy r) :
    ((App.guardedBy c { table := some [] }).serve Bcrypt.digest "1" r).1.db.table ≠ some [] := by
  have hdb : (App.guardedBy c { table := some [] }).db.Holds [] := ⟨fun _ => nofun, rfl, rfl, List.Pairwise.nil⟩
  rw [db_serve, (respond_done hdb (granted_of_secret hc htoken _) hasked (Database.refuses_of_isWritable rfl _)).2]
  have hadd : some (Table.add [] .allowed ["a"]) ≠ some [] := by decide +kernel
  exact hadd

theorem isEdit_of_table_ne_allow :
    ∃ c, Credential.build Bcrypt.digest "s3cr3t" 4 "abcdefghijklmnopqrstuu" = .ok c ∧
      let r := presenting "s3cr3t" "POST" "/api/v1/admin/allow" "\x7b\"domains\": [\"a\"]\x7d"
      IsEdit Bcrypt.digest (.guardedBy c { table := some [] }) r ∧
        ((App.guardedBy c { table := some [] }).serve Bcrypt.digest "1" r).2.response.status = 200 := by
  have hsize : Utf8.size "s3cr3t" ≤ maxSecretBytes := by decide
  obtain ⟨c, hc⟩ := Credential.exists_build Bcrypt.digest hsize
  refine ⟨c, hc, isEdit_of_table_ne _ _ _ _ (table_ne_of_first_domain hc rfl ⟨rfl, ?_⟩)⟩
  exact Command.submits_of_read rfl rfl (by decide)

/-- A request whose path ends in a line feed, and so is none of the four, changes a row. -/
theorem line_feed_edits :
    ∃ c, Credential.build Bcrypt.digest "s3cr3t" 4 "abcdefghijklmnopqrstuu" = .ok c ∧
      let r := presenting "s3cr3t" "POST" "/api/v1/admin/allow\n" "\x7b\"domains\": [\"a\"]\x7d"
      ((App.guardedBy c { table := some [] }).serve Bcrypt.digest "1" r).1.db.table ≠ some [] ∧
        r.path ∉ editPaths := by
  have hsize : Utf8.size "s3cr3t" ≤ maxSecretBytes := by decide
  obtain ⟨c, hc⟩ := Credential.exists_build Bcrypt.digest hsize
  refine ⟨c, hc, table_ne_of_first_domain hc rfl ⟨rfl, ?_⟩, by decide⟩
  exact Command.submits_of_read rfl rfl (by decide)

end DomainPolicy.Server
