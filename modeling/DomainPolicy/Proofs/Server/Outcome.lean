import DomainPolicy.Proofs.Server.Handling

/-!
# What handling a request comes to

Handling a request gives an answer of one of nine kinds or a crash, reports events of three kinds, and does one of
three things to the database: nothing, a connection, or a session of one call (`usual_respond`).
-/

namespace DomainPolicy

/-- What handling a request does to a database: nothing, a connection, or a session of one call. -/
inductive Database.Moves (db : Database) : Database → Prop
  | stay : Moves db db
  | connect {db' : Database} (h : db.connect = .ok db') : Moves db db'
  | session (call : Call) : Moves db (db.session .onConflict .clean [call]).1

namespace Server

open Http (Request Response)

/-- The kinds of answers. -/
inductive Answer : Response → Prop
  | status (text : String) : Answer (statusAnswer text)
  | detail (status : Nat) (text : String) : Answer (detail status text)
  | otherMethod (allowed : Method) : Answer (Server.detail 405 "Method Not Allowed" [("allow", allowed.text)])
  | page (p : Page) (pages : Pages) : Answer (p.answer pages)
  | otherPageMethod (pages : Pages) : Answer (Server.detail 405 "Method Not Allowed" [("allow", pages.methods)])
  | elsewhere (location : String) : Answer (redirection location)
  | refusal (refusal : Refusal) : Answer refusal.response
  | domains (domains : List String) : Answer (domainsAnswer domains)
  | rejection {cs : List Complaint} {r : Response} (h : Submission.rejection? cs = some r) : Answer r

/-- The kinds of events that handling a request reports. -/
inductive Reported : Event → Prop
  | granted : Reported Guard.grantedEvent
  | refused (refusal : Refusal) : Reported refusal.event
  | edited (effect : Effect) (kind : RuleKind) (count : Nat) : Reported (editedEvent effect kind count)

/-- Whether what a request did is of the known kinds: its answer, its events, and what became of the database. -/
structure Handled.Usual (db : Database) (h : Handled) : Prop where
  answer : ∀ response, h.answer = .ok response → Answer response
  events : ∀ e ∈ h.events, Reported e
  moves : db.Moves h.db

variable {digest : Bcrypt.Digest} {a : App} {r : Request} {db db' : Database}

/-- What answers without an event. -/
theorem usual_of_answer {response : Response} (h : Answer response) (hdb : db.Moves db') :
    Handled.Usual db ⟨.ok response, [], db'⟩ := by
  refine ⟨?_, fun _ => nofun, hdb⟩
  rintro response' ⟨⟩
  exact h

/-- What a crash ends without an event. -/
theorem usual_of_crash (crash : Crash) (hdb : db.Moves db') : Handled.Usual db ⟨.error crash, [], db'⟩ :=
  ⟨fun _ => nofun, fun _ => nofun, hdb⟩

theorem usual_runCall (db : Database) (call : Call) {events : List Event} (h : ∀ e ∈ events, Reported e) :
    (runCall db call events).Usual db := by
  have hdb : db.Moves (db.session .onConflict .clean [call]).1 := .session call
  unfold runCall
  split
  · rename_i hsession
    rw [hsession] at hdb
    refine ⟨?_, h, hdb⟩
    rintro response ⟨⟩
    exact .domains _
  · rename_i hsession
    rw [hsession] at hdb
    exact usual_of_crash _ hdb

theorem usual_editAsAsked (db : Database) (effect : Effect) (kind : RuleKind) (body : Bytes) :
    (editAsAsked db effect kind body).Usual db := by
  unfold editAsAsked
  split
  · refine usual_runCall _ _ ?_
    intro e he
    rw [List.mem_singleton.1 he]
    exact .edited _ _ _
  · exact usual_of_crash _ .stay
  · split
    · rename_i hrejection
      exact usual_of_answer (.rejection hrejection) .stay
    · exact usual_of_crash _ .stay

theorem usual_guarded {go : Admin Unit → Handled} (hgo : ∀ admin, (go admin).Usual a.db) :
    (guarded digest a r go).Usual a.db := by
  cases hg : Guard.requireAdmin digest a.registry r.headers with
  | granted admin =>
    rw [guarded_granted hg]
    refine ⟨(hgo admin).answer, ?_, (hgo admin).moves⟩
    intro e he
    rcases List.mem_cons.1 he with rfl | he
    · exact .granted
    · exact (hgo admin).events e he
  | refused refusal =>
    rw [guarded_refused hg]
    refine ⟨?_, ?_, .stay⟩
    · rintro response ⟨⟩
      exact .refusal refusal
    · intro e he
      rw [List.mem_singleton.1 he]
      exact .refused refusal
  | poolClosed =>
    rw [guarded_poolClosed hg]
    exact usual_of_crash _ .stay

theorem usual_respond (digest : Bcrypt.Digest) (a : App) (r : Request) : (respond digest a r).Usual a.db := by
  unfold respond
  cases Route.find r.method r.path with
  | action action =>
    cases action with
    | health => exact usual_of_answer (.status "ok") .stay
    | ready =>
      simp only [perform]
      split
      · split
        · rename_i hping
          exact usual_of_answer (.status "ready") (.connect hping)
        · exact usual_of_crash _ .stay
      · exact usual_of_answer (.detail 503 _) .stay
    | edit effect kind => exact usual_guarded fun _ => usual_editAsAsked a.db effect kind r.body
    | view kind => exact usual_guarded fun _ => usual_runCall a.db (.list kind) fun _ => nofun
  | otherMethod allowed => exact usual_of_answer (.otherMethod allowed) .stay
  | page p => exact usual_of_answer (.page p a.pages) .stay
  | otherPageMethod => exact usual_of_answer (.otherPageMethod a.pages) .stay
  | elsewhere path => exact usual_of_answer (.elsewhere _) .stay
  | nothing => exact usual_of_answer (.detail 404 _) .stay

end Server

end DomainPolicy
