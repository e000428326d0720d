import DomainPolicy.Proofs.Server.Body
import DomainPolicy.Proofs.Server.Process
import DomainPolicy.Proofs.Server.Refused
import DomainPolicy.Proofs.Store.History

/-!
# Posts and their replay

A request to an edit or a view that is answered `200` asked for a command, was granted, and found a database that could
carry the command out (`Command.Carried`); the answer and the rows afterwards are then those of the command
(`respond_of_carried`).  So the rows are changed by posts that are answered `200` and by nothing else (`table_step`),
and an app that keeps the same rows and goes through the posts alone, each with what was kept for it at the time, ends
with the same rows (`carries_run`).
-/

namespace DomainPolicy.Server

open Http (Request Response)

variable {digest : Bcrypt.Digest} {a u : App} {r : Request} {q : Arrival} {t : Table}

/-! ### Commands that are carried out -/

/-- Whether a command is asked for by a request that is granted, and can be carried out. -/
structure Command.Carried (digest : Bcrypt.Digest) (a : App) (r : Request) (c : Command) : Prop where
  asked : c.AskedBy r
  granted : Granted digest a r
  carry : a.db.CanCarry .onConflict [c.call]

/-- A command that is carried out is answered with the list of its kind, and its rows are committed. -/
theorem respond_of_carried {c : Command} (h : c.Carried digest a r) (ht : a.db.table = some t) :
    (respond digest a r).answer = .ok (domainsAnswer ((t.after c.call).list c.kind)) ∧
      (respond digest a r).db = { a.db with isConnected := true, table := some (t.after c.call) } := by
  have hsession := Database.session_of_canCarry h.carry ht (List.cons_ne_nil _ _) .clean
  rw [Session.left_clean (s := Session.start a.db.toLimits t) h.carry.accepted] at hsession
  obtain ⟨reported, events, hrespond⟩ := respond_of_asks h.granted h.asked
  rw [hrespond]
  simp only [runCall, hsession, Table.replies, Command.listed_reply, true_and]
  rfl

/-! ### What is answered `200` -/

theorem answer_of_status (h : (a.answer digest q).2.response.status = 200) :
    ∃ response, (respond digest a q.request).answer = .ok response ∧ response.status = 200 := by
  cases hanswer : (respond digest a q.request).answer with
  | ok response =>
    rw [App.answer, response_serve hanswer] at h
    exact ⟨response, rfl, h⟩
  | error crash =>
    rw [App.answer, response_serve_of_crash hanswer] at h
    cases h

/-- The guard itself answers nothing with `200`. -/
theorem granted_of_status {go : Admin Unit → Handled} {response : Response}
    (h : (guarded digest a r go).answer = .ok response) (hstatus : response.status = 200) :
    Granted digest a r ∧ ∃ admin, (go admin).answer = .ok response := by
  cases hg : Guard.requireAdmin digest a.registry r.headers with
  | granted admin =>
    rw [guarded_granted hg] at h
    exact ⟨⟨admin, hg⟩, admin, h⟩
  | refused refusal =>
    rw [guarded_refused hg] at h
    cases h
    have hrefused : refusal.status = 200 := hstatus
    rcases status_refusal refusal with h400 | h500
    · rw [h400] at hrefused
      cases hrefused
    · rw [h500] at hrefused
      cases hrefused
  | poolClosed =>
    rw [guarded_poolClosed hg] at h
    cases h

theorem canCarry_of_answer {db : Database} {call : Call} {events : List Event} {response : Response}
    (h : (runCall db call events).answer = .ok response) : db.CanCarry .onConflict [call] := by
  have hanswered : ∃ replies, (db.session .onConflict .clean [call]).2 = .ok replies := by
    unfold runCall at h
    split at h
    · rename_i replies hsession
      exact ⟨replies, by rw [hsession]⟩
    · cases h
  exact ((Database.session_eq_ok_iff db .onConflict .clean [call]).1 hanswered).resolve_left (List.cons_ne_nil _ _)

theorem accepts_of_read {body : Bytes} {ts : List Text} (h : Submission.read body = .ok ts) :
    ∃ v, Json.readBytes body = .ok v ∧ Submission.Accepts v ts := by
  cases hbody : Json.readBytes body with
  | ok v =>
    rw [Submission.read_of_readBytes hbody] at h
    refine ⟨v, rfl, Submission.domains_eq_ok_iff.1 ?_⟩
    cases hdomains : Submission.domains v with
    | ok ts =>
      rw [hdomains] at h
      cases h
      rfl
    | error cs =>
      rw [hdomains] at h
      cases h
  | error e =>
    rw [Submission.read, hbody] at h
    cases e <;> cases h

/-- An edit that is answered `200` had a body that submits domains, and a database that could carry it out. -/
theorem submits_of_answer {db : Database} {effect : Effect} {kind : RuleKind} {body : Bytes} {response : Response}
    (h : (editAsAsked db effect kind body).answer = .ok response) (hstatus : response.status = 200) :
    ∃ domains, Command.Submits body domains ∧
      db.CanCarry .onConflict [effect.call kind (domains.map Text.ofString)] := by
  cases hread : Submission.read body with
  | ok ts =>
    simp only [editAsAsked, hread, edit] at h
    have hcarry := canCarry_of_answer h
    obtain ⟨v, hbody, haccepts⟩ := accepts_of_read hread
    -- a text that is no string would have been refused
    by_cases hhalf : ∃ t ∈ ts, ¬t.Whole
    · have hrefused := refusal?_of_half effect kind db.toLimits haccepts.length_le hhalf
      cases hrefused.symm.trans (hcarry.accepted _ (List.mem_singleton_self _))
    · obtain ⟨domains, rfl⟩ := exists_ofString_of_whole hhalf
      exact ⟨domains, submits_iff.2 ⟨v, hbody, haccepts⟩, hcarry⟩
  | error problem =>
    cases problem with
    | unreadable e =>
      simp only [editAsAsked, hread] at h
      cases h
    | complaints cs =>
      rw [answer_of_rejection hread] at h
      cases hrejection : Submission.rejection? cs with
      | none =>
        rw [hrejection] at h
        cases h
      | some rejection =>
        rw [hrejection] at h
        cases h
        have h422 := Submission.status_rejection hrejection
        rw [hstatus] at h422
        cases h422

theorem carried_of_view {kind : RuleKind} (hfind : Route.find q.request.method q.request.path = .action (.view kind))
    (h : (a.answer digest q).2.response.status = 200) : (Command.view kind).Carried digest a q.request := by
  obtain ⟨response, hanswer, hstatus⟩ := answer_of_status h
  rw [respond_action hfind] at hanswer
  obtain ⟨hgranted, admin, hanswer⟩ := granted_of_status hanswer hstatus
  exact ⟨⟨hfind, trivial⟩, hgranted, canCarry_of_answer hanswer⟩

/-- A post that is answered `200` edits. -/
theorem carried_of_post (hmethod : q.request.method = "POST") (h : (a.answer digest q).2.response.status = 200) :
    ∃ effect kind domains, (Command.edit effect kind domains).Carried digest a q.request := by
  obtain ⟨response, hanswer, hstatus⟩ := answer_of_status h
  cases hfind : Route.find q.request.method q.request.path with
  | action action =>
    have hpost : "POST" = action.method.text := hmethod.symm.trans (action_of_find hfind).1
    cases action with
    | edit effect kind =>
      rw [respond_action hfind] at hanswer
      obtain ⟨hgranted, admin, hanswer⟩ := granted_of_status hanswer hstatus
      obtain ⟨domains, hsubmits, hcarry⟩ := submits_of_answer hanswer hstatus
      exact ⟨effect, kind, domains, ⟨hfind, hsubmits⟩, hgranted, hcarry⟩
    | _ => exact absurd hpost (show "POST" ≠ "GET" by decide)
  | otherMethod allowed =>
    simp only [respond, hfind] at hanswer
    cases hanswer
    cases hstatus
  | page p =>
    have hshown := isShownTo_of_find hfind
    rw [hmethod] at hshown
    cases hshown
  | otherPageMethod =>
    simp only [respond, hfind] at hanswer
    cases hanswer
    cases hstatus
  | elsewhere path =>
    simp only [respond, hfind] at hanswer
    cases hanswer
    cases hstatus
  | nothing =>
    simp only [respond, hfind] at hanswer
    cases hanswer
    cases hstatus

/-! ### Posts -/

/-- A post, and what the app that answered it kept for requests. -/
structure Post where
  registry : Registry Unit
  arrival : Arrival
  deriving Repr

/-- What any app goes through to serve a post: what was kept is put in its place first. -/
def Post.steps (post : Post) : List Step :=
  [.keepCredential post.registry.credential, .keepDb post.registry.db, .keepPool post.registry.pool,
    post.arrival.step]

namespace App

/-- The post that is answered `200` in a step, if one is. -/
def post? (digest : Bcrypt.Digest) (a : App) (s : Step) : Option Post :=
  match s.sent? with
  | some q =>
    if q.request.method = "POST" ∧ (a.answer digest q).2.response.status = 200 then some ⟨a.registry, q⟩ else none
  | none => none

/-- The posts that are answered `200` in steps. -/
def posts (digest : Bcrypt.Digest) (a : App) : List Step → List Post
  | [] => []
  | s :: ss => (a.post? digest s).toList ++ (a.step digest s).1.posts digest ss

/-- An app after posts alone. -/
def replay (digest : Bcrypt.Digest) (a : App) (posts : List Post) : App :=
  (a.run digest (posts.flatMap Post.steps)).1

/-- An app that keeps rows in memory. -/
def holding (rows : Table) : App := { settings := {}, db := { table := some rows } }

theorem posts_append (digest : Bcrypt.Digest) (a : App) (before after : List Step) :
    a.posts digest (before ++ after) = a.posts digest before ++ (a.run digest before).1.posts digest after := by
  induction before generalizing a with
  | nil => rfl
  | cons s before ih =>
    rw [List.cons_append, posts, posts, ih, List.append_assoc]
    rfl

theorem replay_append (digest : Bcrypt.Digest) (a : App) (posts later : List Post) :
    a.replay digest (posts ++ later) = (a.replay digest posts).replay digest later := by
  rw [replay, List.flatMap_append, run_append]
  rfl

end App

/-- A step answers a post with `200`, or changes no row. -/
theorem table_step (digest : Bcrypt.Digest) (a : App) (s : Step) :
    (∃ q, s.sent? = some q ∧ a.post? digest s = some ⟨a.registry, q⟩ ∧
      ∃ effect kind domains, (Command.edit effect kind domains).Carried digest a q.request) ∨
    a.post? digest s = none ∧ (a.step digest s).1.db.table = a.db.table := by
  cases hsent : s.sent? with
  | none =>
    obtain ⟨registry, hstep⟩ := (step_of_unsent digest a hsent).1
    refine Or.inr ⟨by rw [App.post?, hsent], ?_⟩
    rw [hstep]
  | some q =>
    by_cases hpost : q.request.method = "POST" ∧ (a.answer digest q).2.response.status = 200
    · refine Or.inl ⟨q, rfl, ?_, carried_of_post hpost.1 hpost.2⟩
      rw [App.post?, hsent]
      exact if_pos hpost
    · have hnone : a.post? digest s = none := by
        rw [App.post?, hsent]
        exact if_neg hpost
      refine Or.inr ⟨hnone, ?_⟩
      rw [(step_of_sent digest a hsent).1]
      -- a request that changes a row is an edit that is answered `200`, which this one is not
      by_contra hchanged
      obtain ⟨hedit, hstatus⟩ := isEdit_of_table_ne digest q.fresh a q.request hchanged
      exact hpost ⟨hedit.method, hstatus⟩

/-! ### Replaying posts -/

/-- Whether an app keeps rows where any command can be carried out. -/
structure App.Carries (u : App) (t : Table) : Prop where
  offers : u.db.Offers t
  isWritable : u.db.isWritable = true

theorem carries_holding (t : Table) : (App.holding t).Carries t := ⟨⟨fun _ => nofun, rfl, rfl⟩, rfl⟩

theorem App.Carries.canCarry (h : u.Carries t) {c : Command} (hc : c.AskedBy r) :
    u.db.CanCarry .onConflict [c.call] := by
  refine ⟨⟨t, h.offers⟩, Call.accepted_cons.2 ⟨?_, Call.accepted_nil⟩⟩
  exact Database.refusal?_of_not_refuses (Command.plain_call hc) (Database.refuses_of_isWritable h.isWritable _) _

/-- An app that puts the registry of a post in the place of its own serves the post with it. -/
theorem db_replay_singleton (digest : Bcrypt.Digest) (u : App) (post : Post) :
    (u.replay digest [post]).db = (respond digest { u with registry := post.registry } post.arrival.request).db := rfl

theorem posts_steps (digest : Bcrypt.Digest) (u : App) (post : Post) :
    u.posts digest post.steps = (App.post? digest { u with registry := post.registry } post.arrival.step).toList :=
  List.append_nil _

/-- A post that is answered `200` is answered so by an app that carries the same rows, and it carries the same rows
again. -/
theorem carries_step (h : u.Carries a.db.rows) (digest : Bcrypt.Digest) (s : Step) :
    (u.replay digest (a.post? digest s).toList).Carries (a.step digest s).1.db.rows ∧
      u.posts digest ((a.post? digest s).toList.flatMap Post.steps) = (a.post? digest s).toList := by
  rcases table_step digest a s with ⟨q, hsent, hpost, effect, kind, domains, hcarried⟩ | ⟨hpost, htable⟩
  · rw [hpost]
    obtain ⟨t, ht⟩ := hcarried.carry.offers
    have hu : u.db.table = some t := by rw [h.offers.table_eq, Database.rows_eq_of_some ht.table_eq]
    -- the registry decides what is granted, and the rows what is committed
    have hreplayed : (Command.edit effect kind domains).Carried digest { u with registry := a.registry } q.request :=
      ⟨hcarried.asked, hcarried.granted, h.canCarry hcarried.asked⟩
    obtain ⟨-, hdb⟩ := respond_of_carried hcarried ht.table_eq
    obtain ⟨hanswer, hdb'⟩ := respond_of_carried hreplayed hu
    have hrows : (a.step digest s).1.db.rows = t.after (effect.call kind (domains.map Text.ofString)) := by
      rw [(step_of_sent digest a hsent).1, App.answer, db_serve, hdb]
      rfl
    refine ⟨?_, ?_⟩
    · show (u.replay digest [⟨a.registry, q⟩]).Carries _
      constructor
      · rw [db_replay_singleton, hdb', hrows]
        exact ⟨h.offers.reachable, h.offers.isNative, rfl⟩
      · rw [db_replay_singleton, hdb']
        exact h.isWritable
    · show u.posts digest (Post.steps ⟨a.registry, q⟩ ++ []) = [⟨a.registry, q⟩]
      rw [List.append_nil, posts_steps]
      have hmethod : q.request.method = "POST" := (action_of_find hcarried.asked.1).1
      have hstatus : (App.answer digest { u with registry := a.registry } q).2.response.status = 200 := by
        rw [App.answer, response_serve hanswer]
        rfl
      have hpost' : App.post? digest { u with registry := a.registry } q.step = some ⟨a.registry, q⟩ :=
        if_pos ⟨hmethod, hstatus⟩
      rw [hpost']
      rfl
  · rw [hpost]
    refine ⟨⟨?_, h.isWritable⟩, rfl⟩
    show u.db.Offers _
    rw [Database.rows, htable]
    exact h.offers

/-- So an app that goes through the posts of a run alone carries the rows that the run leaves, and answers each of the
posts with `200`. -/
theorem carries_run (h : u.Carries a.db.rows) (digest : Bcrypt.Digest) (steps : List Step) :
    (u.replay digest (a.posts digest steps)).Carries (a.run digest steps).1.db.rows ∧
      u.posts digest ((a.posts digest steps).flatMap Post.steps) = a.posts digest steps := by
  induction steps generalizing a u with
  | nil => exact ⟨h, rfl⟩
  | cons s steps ih =>
    obtain ⟨hstep, hposts⟩ := carries_step h digest s
    obtain ⟨hrun, hlater⟩ := ih hstep
    rw [App.posts, App.replay_append, List.flatMap_append, App.posts_append, hposts]
    exact ⟨hrun, congrArg _ hlater⟩

/-- Without a table no post is answered `200`, and there is none afterwards. -/
theorem posts_of_table_none (h : a.db.table = none) (digest : Bcrypt.Digest) (steps : List Step) :
    a.posts digest steps = [] ∧ (a.run digest steps).1.db.table = none := by
  induction steps generalizing a with
  | nil => exact ⟨rfl, h⟩
  | cons s steps ih =>
    rcases table_step digest a s with ⟨q, -, -, effect, kind, domains, hcarried⟩ | ⟨hpost, htable⟩
    · obtain ⟨t, ht⟩ := hcarried.carry.offers
      cases h.symm.trans ht.table_eq
    · obtain ⟨hposts, hrun⟩ := ih (htable.trans h)
      rw [App.posts, hpost, hposts]
      exact ⟨rfl, hrun⟩

end DomainPolicy.Server
