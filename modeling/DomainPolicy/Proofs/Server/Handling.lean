import DomainPolicy.Server.Life

/-!
# How a request is handled

One equation for each way through the guard, and what it means for a request to find an action: its method is the
action's, and its path is the action's, perhaps with one line feed behind it.  A run of requests that arrive one after
the other is a run of its first and then of the rest (`run_arrivals_cons`).
-/

namespace DomainPolicy.Server

open Http (Request Response)

variable {digest : Bcrypt.Digest} {a : App} {r : Request} {go : Admin Unit → Handled}

theorem guarded_granted {admin : Admin Unit} (h : Guard.requireAdmin digest a.registry r.headers = .granted admin) :
    guarded digest a r go = { go admin with events := Guard.grantedEvent :: (go admin).events } := by
  unfold guarded
  rw [h]
  rfl

theorem guarded_refused {refusal : Refusal} (h : Guard.requireAdmin digest a.registry r.headers = .refused refusal) :
    guarded digest a r go = ⟨.ok refusal.response, [refusal.event], a.db⟩ := by
  unfold guarded
  rw [h]

theorem guarded_poolClosed (h : Guard.requireAdmin digest a.registry r.headers = .poolClosed) :
    guarded digest a r go = ⟨.error .poolClosed, [], a.db⟩ := by
  unfold guarded
  rw [h]

theorem action_of_find {method path : String} {action : Action} (h : Route.find method path = .action action) :
    method = action.method.text ∧ (path = action.path ∨ path = action.path ++ "\n") := by
  unfold Route.find at h
  split at h
  · rename_i found hfound
    split at h
    · rename_i hmethod
      cases h
      have : Action.isPath path action.path = true := by simpa using List.find?_some hfound
      refine ⟨hmethod, ?_⟩
      simpa [Action.isPath] using this
    · cases h
  · repeat' split at h
    all_goals cases h

/-- Only what is asked by a method of pages finds one. -/
theorem isShownTo_of_find {method path : String} {p : Page} (h : Route.find method path = .page p) :
    Page.isShownTo method = true := by
  unfold Route.find at h
  split at h
  · split at h <;> cases h
  · split at h
    · split at h
      · assumption
      · cases h
    · split at h <;> cases h

theorem respond_action {action : Action} (h : Route.find r.method r.path = .action action) :
    respond digest a r = perform digest a r action := by
  unfold respond
  rw [h]

/-- The rows after a request are those that handling it leaves. -/
theorem db_serve (digest : Bcrypt.Digest) (fresh : String) (a : App) (r : Request) :
    (a.serve digest fresh r).1.db = (respond digest a r).db := rfl

/-- An answer that handling gives goes out with the id of the request. -/
theorem response_serve {response : Response} (h : (respond digest a r).answer = .ok response) (fresh : String) :
    (a.serve digest fresh r).2.response = response.withHeader idHeader (requestId fresh r) := by
  simp only [App.serve, h]

/-- A request that a crash ends is answered by the last resort. -/
theorem response_serve_of_crash {crash : Crash} (h : (respond digest a r).answer = .error crash) (fresh : String) :
    (a.serve digest fresh r).2.response = lastResort := by
  simp only [App.serve, h]

/-! ### Calls of a client -/

section Call

variable {token : Token} {client : Client} {server : String} {call : Client.Call}

theorem call_of_unmade {e : TokenError} (h : Client.make token = .error e) (fresh : String) :
    a.call digest fresh server token call = (a, .tokenRefused e, []) := by
  rw [App.call, h]

theorem call_of_unsent {f : Client.Failure} (hclient : Client.make token = .ok client)
    (h : client.request server call = .error f) (fresh : String) :
    a.call digest fresh server token call = (a, .failed f, []) := by
  rw [App.call, hclient]
  dsimp only
  rw [h]

/-- A call that is sent is concluded from the answer that its request is served with. -/
theorem call_eq (hclient : Client.make token = .ok client)
    (hr : client.request server call = .ok r) (fresh : String) :
    a.call digest fresh server token call = ((a.serve digest fresh r).1,
      match Client.conclude server (.ofResponse (a.serve digest fresh r).2.response) with
        | .error f => .failed f
        | .ok vs => .listed vs,
      (a.serve digest fresh r).2.records) := by
  rw [App.call, hclient]
  dsimp only
  rw [hr]
  dsimp only
  cases Client.conclude server (.ofResponse (a.serve digest fresh r).2.response) <;> rfl

end Call

/-! ### One request after the other -/

/-- A request that arrives, and the id that it gets if it brings none. -/
structure Arrival where
  fresh : String
  request : Request
  deriving Repr

def Arrival.step (q : Arrival) : Step := .request q.fresh q.request

theorem run_arrivals_cons (digest : Bcrypt.Digest) (a : App) (q : Arrival) (qs : List Arrival) :
    a.run digest ((q :: qs).map Arrival.step) =
      (((a.serve digest q.fresh q.request).1.run digest (qs.map Arrival.step)).1,
        .exchange (a.serve digest q.fresh q.request).2 ::
          ((a.serve digest q.fresh q.request).1.run digest (qs.map Arrival.step)).2) := rfl

theorem run_append (digest : Bcrypt.Digest) (a : App) (before after : List Step) :
    a.run digest (before ++ after) =
      (((a.run digest before).1.run digest after).1,
        (a.run digest before).2 ++ ((a.run digest before).1.run digest after).2) := by
  induction before generalizing a with
  | nil => rfl
  | cons s before ih =>
    show ((((a.step digest s).1.run digest (before ++ after)).1,
      (a.step digest s).2 :: ((a.step digest s).1.run digest (before ++ after)).2) : App × List Seen) = _
    rw [ih]
    rfl

theorem length_run (digest : Bcrypt.Digest) (a : App) (steps : List Step) :
    (a.run digest steps).2.length = steps.length := by
  induction steps generalizing a with
  | nil => rfl
  | cons s steps ih => exact congrArg Nat.succ (ih (a.step digest s).1)

/-- What a step shows in the course of others. -/
theorem seen_run (digest : Bcrypt.Digest) (a : App) (before : List Step) (s : Step) (after : List Step) :
    (a.run digest (before ++ s :: after)).2[before.length]? =
      some ((a.run digest before).1.step digest s).2 := by
  rw [run_append, List.getElem?_append_right (Nat.le_of_eq (length_run digest a before)), length_run, Nat.sub_self]
  rfl

end DomainPolicy.Server
