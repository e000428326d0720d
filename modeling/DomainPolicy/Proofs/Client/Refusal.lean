import DomainPolicy.Proofs.Client.Exchange
import DomainPolicy.Proofs.Client.Failure
import DomainPolicy.Proofs.Server.Verdict

/-!
# What a client is told of a refusal

The answer to a refused request, read by a client, gives back the status and the message of the refusal, whatever
characters the message has (`outcome_refusal`).  The message names the cause where the service is at fault, and keeps it
back where the caller is.  So it goes from end to end: a call whose request the guard refuses fails with the refusal
(`call_of_refused`).
-/

namespace DomainPolicy

/-! ### Messages -/

/-- The caller's faults are told by their kind alone. -/
theorem Refusal.message_of_callers (refusal : Refusal) (h : refusal.kind = .invalid ∨ refusal.kind = .parseHeader) :
    refusal.status = 400 ∧ refusal.message = refusal.kind.text := by
  obtain ⟨kind, cause⟩ := refusal
  rcases h with rfl | rfl <;> cases cause <;> exact ⟨rfl, rfl⟩

/-- The service's faults are told with their cause, if there is one. -/
theorem Refusal.message_of_service (refusal : Refusal) (hinvalid : refusal.kind ≠ .invalid)
    (hheader : refusal.kind ≠ .parseHeader) :
    refusal.status = 500 ∧
      refusal.message = refusal.kind.text ++ refusal.cause.elim "" fun cause => ": " ++ cause.message := by
  obtain ⟨kind, cause⟩ := refusal
  have hkind : kind.isCallers = false := by
    cases kind with
    | invalid => exact absurd rfl hinvalid
    | parseHeader => exact absurd rfl hheader
    | missingConfig | missingDb | verify | hash => rfl
  constructor
  · simp [Refusal.status, Refusal.Kind.status, hkind]
  · cases cause <;> simp [Refusal.message, hkind, String.append_assoc]

namespace Client

open Http (Request)
open Server (idHeader requestId IsAdmins Carries)

variable {c : Client} {server fresh : String} {call : Call} {q : Request} {more : List (String × String)}
  {refusal : Refusal} {token : Token}

/-! ### Reading a refusal -/

/-- The member `msg` is what is told. -/
theorem told_ofJson (status : Nat) (message : String) (more : List (String × String)) (t : Text) :
    Told (.ofJson status (.ofMembers [("msg", .ofString message)]) more) t (Text.ofString message) := by
  have hbody : Json.readBytes (Reply.ofJson status (.ofMembers [("msg", .ofString message)]) more).body =
      .ok (.ofMembers [("msg", .ofString message)]) := by
    rw [body_ofJson, Json.readBytes_ofText]
  have hmember : Json.Members.get? (Text.ofString "msg") [(Text.ofString "msg", .ofString message)] =
      some (.ofString message) := if_pos rfl
  exact .member hbody hmember

/-- A client that gets the answer to a refused request fails with the status and the message of the refusal. -/
theorem outcome_refusal (hcall : call.IsSendable) (hmore : ∀ h ∈ more, IsNeutral h) :
    c.outcome server call
        (.ofResponse { refusal.response with headers := refusal.response.headers ++ more }) =
      .error (.refused refusal.status (Text.ofString refusal.message)) := by
  show c.outcome server call (.ofJson refusal.status (.ofMembers [("msg", .ofString refusal.message)]) more) = _
  obtain ⟨t, ht⟩ := exists_text_ofJson hmore
  have herror : 400 ≤ refusal.status ∧ refusal.status ≤ 599 := by
    rcases Server.status_refusal refusal with h | h <;> omega
  refine outcome_eq_refused_iff.2 ⟨hcall, ?_, rfl, _, ⟨expanded?_ofJson hmore⟩, t, ht, ?_⟩
  · rw [Reply.isError, Bool.and_eq_true, decide_eq_true_eq, decide_eq_true_eq]
    exact herror
  · exact told_ofJson refusal.status refusal.message more t

/-! ### From end to end -/

theorem isAdmins_of_request (hq : c.request server call = .ok q) : IsAdmins q := by
  have hall : ∀ action ∈ Server.Action.all, action ≠ .health → action ≠ .ready →
      (action.method.text, action.path) ∈ Server.adminRoutes := by decide +kernel
  obtain ⟨⟨hmethod, hpath⟩, -⟩ := Server.carries_of_request hq
  refine ⟨call.action.path, ?_, Or.inl hpath⟩
  rw [hmethod]
  cases call with
  | edit effect kind domains => exact hall (.edit effect kind) (Server.Action.mem_all _) nofun nofun
  | view kind => exact hall (.view kind) (Server.Action.mem_all _) nofun nofun

theorem isSendable_of_request (hq : c.request server call = .ok q) : call.IsSendable := by
  rcases request_cases c server call with ⟨h, -⟩ | ⟨-, h⟩
  · exact h
  · cases hq.symm.trans h

/-- A call whose request the guard refuses fails with the status and the message of the refusal. -/
theorem call_of_refused {digest : Bcrypt.Digest} {a : Server.App} (hclient : make token = .ok c)
    (hq : c.request server call = .ok q) (hrefused : Guard.requireAdmin digest a.registry q.headers = .refused refusal)
    (hfresh : IsAscii fresh) :
    (a.call digest fresh server token call).2.1 =
      .failed (.refused refusal.status (Text.ofString refusal.message)) := by
  -- a client brings no id, so the refusal goes out under the fresh one
  have hresponse : (a.serve digest fresh q).2.response = refusal.response.withHeader idHeader fresh := by
    rw [Server.serve_eq_refusing (isAdmins_of_request hq) hrefused,
      Server.requestId_of_carries hclient (Server.carries_of_request hq).2 fresh]
    rfl
  have houtcome : c.outcome server call (.ofResponse (refusal.response.withHeader idHeader fresh)) =
      .error (.refused refusal.status (Text.ofString refusal.message)) :=
    outcome_refusal (isSendable_of_request hq) (List.forall_mem_singleton.2 (isNeutral_id hfresh))
  rw [call_eq_outcome hclient hq, hresponse, houtcome]

/-- Telling a refusal and reading it are inverse, for every kind and every cause: the client fails with the status and
the message, both when it gets the answer as it is and when the guard refuses the request of a call. -/
theorem refusal_told_back (refusal : Refusal) :
    (∀ (c : Client) server (call : Call) more, call.IsSendable → (∀ h ∈ more, IsNeutral h) →
      c.outcome server call
          (.ofResponse { refusal.response with headers := refusal.response.headers ++ more }) =
        .error (.refused refusal.status (Text.ofString refusal.message))) ∧
      (∀ digest (a : Server.App) token c server call q fresh, make token = .ok c →
        c.request server call = .ok q → Guard.requireAdmin digest a.registry q.headers = .refused refusal →
        IsAscii fresh → (a.call digest fresh server token call).2.1 =
          .failed (.refused refusal.status (Text.ofString refusal.message))) ∧
      (refusal.kind = .invalid ∨ refusal.kind = .parseHeader →
        refusal.status = 400 ∧ refusal.message = refusal.kind.text) ∧
      (refusal.kind ≠ .invalid → refusal.kind ≠ .parseHeader → refusal.status = 500 ∧
        refusal.message = refusal.kind.text ++ refusal.cause.elim "" fun cause => ": " ++ cause.message) :=
  ⟨fun _ _ _ _ => outcome_refusal, fun _ _ _ _ _ _ _ _ => call_of_refused, refusal.message_of_callers,
    refusal.message_of_service⟩

/-- A cause with characters that JSON escapes and others that it does not. -/
theorem refusal_told_back_escaped :
    outcome ⟨(Utf8.encode "x-api-token", Utf8.encode "s3cr3t")⟩ "test" (.view .blocked)
        (.ofResponse (Refusal.response ⟨.verify, some (.reported "ValueError" "\"\\\n\u0007é𝄞")⟩)) =
      .error (.refused 500 (Text.ofString "Verifying: \"\\\n\u0007é𝄞")) := by
  obtain ⟨hread, -, -, hservice⟩ := refusal_told_back ⟨.verify, some (.reported "ValueError" "\"\\\n\u0007é𝄞")⟩
  obtain ⟨hstatus, hmessage⟩ := hservice nofun nofun
  rw [hstatus, hmessage] at hread
  exact hread _ _ (.view .blocked) [] trivial nofun

end Client

end DomainPolicy
