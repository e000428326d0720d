import DomainPolicy.Client.Basic
import DomainPolicy.Proofs.Json.Portable
import DomainPolicy.Proofs.Server.Handling

/-!
# Failures of a client

A client tells a failure by the status of the reply and a message, as long as it can send the call, takes the reply for
an error and can make something of its body (`outcome_eq_refused_iff`).  The message is the reply's own unless a member
`msg` is no string (`reports_iff`).  A reply whose status is not from 400 to 599 is no error to a client: it is returned
as a list if it holds one (`outcome_eq_ok_iff`).
-/

namespace DomainPolicy.Client

open Json (Value)

/-- What a call gives if the server replies to it. -/
def outcome (c : Client) (server : String) (call : Call) (r : Reply) : Except Failure (List Value) :=
  match c.request server call with
  | .error f => .error f
  | .ok _ => conclude server r

variable {c : Client} {server : String} {call : Call} {r r' : Reply}

/-- A call to an app gives what comes of the answer to its request. -/
theorem call_eq_outcome {token : Token} (hclient : make token = .ok c) {q : Http.Request}
    (hq : c.request server call = .ok q) (digest : Bcrypt.Digest) (a : Server.App) (fresh : String) :
    (a.call digest fresh server token call).2.1 =
      match c.outcome server call (.ofResponse (a.serve digest fresh q).2.response) with
      | .error f => .failed f
      | .ok vs => .listed vs := by
  have hcall : a.call digest fresh server token call = _ := Server.call_eq hclient hq fresh
  have houtcome : c.outcome server call (.ofResponse (a.serve digest fresh q).2.response) =
      conclude server (.ofResponse (a.serve digest fresh q).2.response) := by simp only [outcome, hq]
  rw [houtcome]
  exact congrArg (fun called => called.2.1) hcall

/-! ### What is sent -/

/-- Whether JSON can carry the argument of a call, if it has one. -/
def Call.IsSendable : Call → Prop
  | edit _ _ (some v) => ¬v.Spoilt Value.shownAll
  | _ => True

theorem isPortable_domains {v : Value} :
    (Value.ofMembers [("domains", v)]).isPortable = true ↔ ¬v.Spoilt Value.shownAll := by
  rw [Value.isPortable_iff]
  simp [Value.ofMembers, Value.shownAll]

/-- A call is sent if and only if it can be. -/
theorem request_cases (c : Client) (server : String) (call : Call) :
    (call.IsSendable ∧ ∃ q, c.request server call = .ok q) ∨
      (¬call.IsSendable ∧ c.request server call = .error .unsendable) := by
  cases call with
  | view kind => exact Or.inl ⟨trivial, _, rfl⟩
  | edit effect kind domains =>
    cases domains with
    | none => exact Or.inl ⟨trivial, _, rfl⟩
    | some v =>
      by_cases h : (Value.ofMembers [("domains", v)]).isPortable = true
      · have hcompact : (Value.ofMembers [("domains", v)]).compact? = some _ := if_pos h
        refine Or.inl ⟨isPortable_domains.1 h, ?_⟩
        simp [request, Call.payload?, hcompact]
      · have hcompact : (Value.ofMembers [("domains", v)]).compact? = none := if_neg h
        refine Or.inr ⟨mt isPortable_domains.2 h, ?_⟩
        simp [request, Call.payload?, hcompact]

/-! ### What arrives -/

/-- Whether the codings of a reply can be undone, and what it is without them. -/
structure Arrives (r r' : Reply) : Prop where
  expanded : r.expanded? = some r'

theorem Arrives.status (h : Arrives r r') : r'.status = r.status := by
  obtain ⟨body, -, rfl⟩ := Option.map_eq_some_iff.1 h.expanded
  rfl

theorem Arrives.unique {r'' : Reply} (h : Arrives r r') (h' : Arrives r r'') : r' = r'' :=
  Option.some.inj (h.expanded.symm.trans h'.expanded)

/-- An error does not lead anywhere. -/
theorem target?_of_isError (h : r.isError = true) (host : String) : r.target? host = none := by
  rw [Reply.isError, Bool.and_eq_true, decide_eq_true_eq, decide_eq_true_eq] at h
  refine if_neg ?_
  simp only [List.contains_eq_mem, List.mem_cons, List.not_mem_nil, or_false, decide_eq_true_eq]
  omega

/-- The domains that a reply lists: the items of its member `domains`, if it is an object with one. -/
theorem listing_eq_ok_iff {vs : List Value} :
    listing r = .ok vs ↔ ∃ ms v, Json.readBytes r.body = .ok (.object ms) ∧
      Json.Members.get? (Text.ofString "domains") ms = some v ∧ itemsOf? v = some vs := by
  constructor
  · intro h
    unfold listing at h
    split at h
    · cases h
    · rename_i ms hbody
      cases hmember : Json.Members.get? (Text.ofString "domains") ms with
      | none =>
        rw [hmember] at h
        cases h
      | some v =>
        rw [hmember] at h
        cases hitems : itemsOf? v with
        | none => simp [hitems] at h
        | some vs' =>
          simp only [hitems, Except.ok.injEq] at h
          exact ⟨ms, v, hbody, hmember, by rw [hitems, h]⟩
    · cases h
  · rintro ⟨ms, v, hbody, hmember, hitems⟩
    simp only [listing, hbody, hmember, hitems]

theorem listing_ne_refused (r : Reply) (status : Nat) (m : Text) : listing r ≠ .error (.refused status m) := by
  unfold listing
  repeat' split
  all_goals nofun

/-! ### What is told -/

/-- The text that the client tells of a reply that reads as `t`: what its member `msg` says, if it is an object with
one, else all of it. -/
inductive Told (r : Reply) (t : Text) : Text → Prop where
  | member {ms : Json.Members} {v : Value} (hbody : Json.readBytes r.body = .ok (.object ms))
      (hmember : Json.Members.get? (Text.ofString "msg") ms = some v) : Told r t v.plain
  | silent {ms : Json.Members} (hbody : Json.readBytes r.body = .ok (.object ms))
      (hmember : Json.Members.get? (Text.ofString "msg") ms = none) : Told r t t
  | plain {e : Json.ReadError} (hbody : Json.readBytes r.body = .error e) (he : e ≠ .tooDeep) : Told r t t

theorem ne_refused_of_text {f : Failure} (h : r.text = .error f) (status : Nat) (m : Text) :
    f ≠ .refused status m := by
  unfold Reply.text at h
  split at h
  · cases h
  · split at h
    · cases h
      nofun
    · rename_i charset _
      cases hread : charset.read r.body with
      | error e =>
        rw [hread] at h
        cases h
        nofun
      | ok t =>
        rw [hread] at h
        cases h

theorem withText_eq_refused_iff {f : Text → Failure} {status : Nat} {m : Text} :
    refusal.withText r f = .refused status m ↔ ∃ t, r.text = .ok t ∧ f t = .refused status m := by
  unfold refusal.withText
  cases ht : r.text with
  | ok t => simp
  | error e => simpa using ne_refused_of_text ht status m

/-- A refusal tells the status and what the client tells of the text. -/
theorem refusal_eq_refused_iff {status : Nat} {m : Text} :
    refusal r = .refused status m ↔ status = r.status ∧ ∃ t, r.text = .ok t ∧ Told r t m := by
  constructor
  · intro h
    unfold refusal at h
    split at h
    · rename_i ms hbody
      obtain ⟨t, ht, hm⟩ := withText_eq_refused_iff.1 h
      obtain ⟨rfl, rfl⟩ := Failure.refused.inj hm
      refine ⟨rfl, t, ht, ?_⟩
      cases hmember : Json.Members.get? (Text.ofString "msg") ms with
      | none => exact .silent hbody hmember
      | some v => exact .member hbody hmember
    · cases h
    · cases h
    · rename_i e hshallow hbody
      obtain ⟨t, ht, hm⟩ := withText_eq_refused_iff.1 h
      obtain ⟨rfl, rfl⟩ := Failure.refused.inj hm
      exact ⟨rfl, _, ht, .plain hbody hshallow⟩
  · rintro ⟨rfl, t, ht, htold⟩
    unfold refusal
    cases htold with
    | member hbody hmember =>
      rw [hbody]
      exact withText_eq_refused_iff.2 ⟨t, ht, by rw [hmember]; rfl⟩
    | silent hbody hmember =>
      rw [hbody]
      exact withText_eq_refused_iff.2 ⟨_, ht, by rw [hmember]; rfl⟩
    | plain hbody he =>
      rw [hbody]
      split
      · rename_i heq
        cases heq
      · rename_i heq
        cases heq
      · rename_i heq
        exact absurd (Except.error.inj heq) he
      · exact withText_eq_refused_iff.2 ⟨_, ht, rfl⟩

/-! ### What comes of a call -/

/-- How a call ends, by whether it can be sent and what becomes of the reply. -/
inductive Ending (server : String) (call : Call) (r : Reply) : Except Failure (List Value) → Prop where
  | unsent (hcall : ¬call.IsSendable) : Ending server call r (.error .unsendable)
  | lost (hcall : call.IsSendable) (hlost : ∀ r', ¬Arrives r r') : Ending server call r (.error .codingBroken)
  | refused {r' : Reply} (hcall : call.IsSendable) (hr : Arrives r r') (herror : r.isError = true) :
      Ending server call r (.error (refusal r'))
  | misled {r' : Reply} {p : Http.Reference.Problem} (hcall : call.IsSendable) (hr : Arrives r r')
      (herror : r.isError = false) (htarget : r'.target? server = some (.error p)) :
      Ending server call r (.error (.redirectionBad p))
  | accepted {r' : Reply} (hcall : call.IsSendable) (hr : Arrives r r') (herror : r.isError = false)
      (htarget : ∀ p, r'.target? server ≠ some (.error p)) : Ending server call r (listing r')

/-- Every call ends in one of these ways. -/
theorem ending_outcome (c : Client) (server : String) (call : Call) (r : Reply) :
    Ending server call r (c.outcome server call r) := by
  unfold outcome
  rcases request_cases c server call with ⟨hcall, q, hq⟩ | ⟨hcall, hq⟩ <;> rw [hq]
  · show Ending server call r (conclude server r)
    unfold conclude
    cases hexpanded : r.expanded? with
    | none => exact .lost hcall fun r' h => nomatch hexpanded.symm.trans h.expanded
    | some r' =>
      have hr : Arrives r r' := ⟨hexpanded⟩
      have hsame : r'.isError = r.isError := by rw [Reply.isError, Reply.isError, hr.status]
      -- an error leads nowhere, so its location is not even looked at
      cases herror : r.isError with
      | true =>
        simp only [target?_of_isError (hsame.trans herror), hsame, herror, if_true]
        exact .refused hcall hr herror
      | false =>
        simp only [hsame, herror, Bool.false_eq_true, if_false]
        split
        · rename_i p htarget
          exact .misled hcall hr herror htarget
        · rename_i htarget
          exact .accepted hcall hr herror htarget
  · exact .unsent hcall

/-- A call fails with a status and a message if and only if it can be sent, the reply arrives and its status is one of
an error, which is the status of the failure, and the message is what the client tells of the text of the reply. -/
theorem outcome_eq_refused_iff {status : Nat} {m : Text} :
    c.outcome server call r = .error (.refused status m) ↔
      call.IsSendable ∧ r.isError = true ∧ status = r.status ∧
        ∃ r', Arrives r r' ∧ ∃ t, r'.text = .ok t ∧ Told r' t m := by
  have hend := ending_outcome c server call r
  -- the result as a variable, so that the cases can say what it is
  generalize c.outcome server call r = x at hend ⊢
  cases hend with
  | unsent hcall => exact iff_of_false nofun fun h => hcall h.1
  | lost hcall hlost => exact iff_of_false nofun fun ⟨_, _, _, r', hr, _⟩ => hlost r' hr
  | refused hcall hr herror =>
    rw [Except.error.injEq, refusal_eq_refused_iff, hr.status]
    constructor
    · rintro ⟨hstatus, ht⟩
      exact ⟨hcall, herror, hstatus, _, hr, ht⟩
    · rintro ⟨-, -, hstatus, r'', hr'', ht⟩
      cases hr.unique hr''
      exact ⟨hstatus, ht⟩
  | misled hcall hr herror htarget => exact iff_of_false nofun fun h => nomatch herror.symm.trans h.2.1
  | accepted hcall hr herror htarget =>
    exact iff_of_false (listing_ne_refused _ _ _) fun h => nomatch herror.symm.trans h.2.1

/-- A call returns a list if and only if it can be sent, the reply arrives, its status is none of an error, it leads
nowhere wrong, and the list is the one that it holds. -/
theorem outcome_eq_ok_iff {vs : List Value} :
    c.outcome server call r = .ok vs ↔
      call.IsSendable ∧ r.isError = false ∧ ∃ r', Arrives r r' ∧ (∀ p, r'.target? server ≠ some (.error p)) ∧
        ∃ ms v, Json.readBytes r'.body = .ok (.object ms) ∧
          Json.Members.get? (Text.ofString "domains") ms = some v ∧ itemsOf? v = some vs := by
  have hend := ending_outcome c server call r
  generalize c.outcome server call r = x at hend ⊢
  cases hend with
  | unsent hcall => exact iff_of_false nofun fun h => hcall h.1
  | lost hcall hlost => exact iff_of_false nofun fun ⟨_, _, r', hr, _⟩ => hlost r' hr
  | refused hcall hr herror => exact iff_of_false nofun fun h => nomatch herror.symm.trans h.2.1
  | misled hcall hr herror htarget =>
    refine iff_of_false nofun ?_
    rintro ⟨-, -, r'', hr'', hright, -⟩
    cases hr.unique hr''
    exact hright _ htarget
  | accepted hcall hr herror htarget =>
    rw [listing_eq_ok_iff]
    constructor
    · intro hlist
      exact ⟨hcall, herror, _, hr, htarget, hlist⟩
    · rintro ⟨-, -, r'', hr'', -, hlist⟩
      cases hr.unique hr''
      exact hlist

/-! ### What should be told -/

/-- Whether a text is the message of a reply: its member `msg`, if it is an object with a string there, else all of
it. -/
inductive IsMessage (r : Reply) : Text → Prop where
  | member {ms : Json.Members} {m : Text} (hbody : Json.readBytes r.body = .ok (.object ms))
      (hmember : Json.Members.get? (Text.ofString "msg") ms = some (.string m)) : IsMessage r m
  | text {t : Text} (hother : ∀ ms m, Json.readBytes r.body = .ok (.object ms) →
      Json.Members.get? (Text.ofString "msg") ms ≠ some (.string m)) (ht : r.text = .ok t) : IsMessage r t

/-- Whether a client finds the message of a reply: the reply has a text, and it is no JSON, though not for its depth, or
an object whose member `msg`, if there is one, is a string or shows as the text. -/
def Speaks (r : Reply) : Prop :=
  ∃ t, r.text = .ok t ∧
    ((∃ e, Json.readBytes r.body = .error e ∧ e ≠ .tooDeep) ∨
      ∃ ms, Json.readBytes r.body = .ok (.object ms) ∧
        ∀ v, Json.Members.get? (Text.ofString "msg") ms = some v → (∃ m, v = .string m) ∨ v.plain = t)

/-- The client tells the message of a reply if and only if it finds it. -/
theorem exists_told_iff : (∃ m, IsMessage r m ∧ ∃ t, r.text = .ok t ∧ Told r t m) ↔ Speaks r := by
  constructor
  · rintro ⟨m, hm, t, ht, htold⟩
    refine ⟨t, ht, ?_⟩
    cases htold with
    | plain hbody he => exact Or.inl ⟨_, hbody, he⟩
    | silent hbody hmember => exact Or.inr ⟨_, hbody, fun v hv => nomatch hmember.symm.trans hv⟩
    | @member ms v hbody hmember =>
      refine Or.inr ⟨ms, hbody, fun w hw => ?_⟩
      cases hmember.symm.trans hw
      -- what the client tells is the message as a string, or it happens to be the text
      generalize hplain : v.plain = p at hm
      cases hm with
      | member hbody' hmember' =>
        cases hbody.symm.trans hbody'
        exact Or.inl ⟨p, Option.some.inj (hmember.symm.trans hmember')⟩
      | text hother ht' => exact Or.inr (Except.ok.inj (ht'.symm.trans ht))
  · rintro ⟨t, ht, ⟨e, hbody, he⟩ | ⟨ms, hbody, hmember⟩⟩
    · exact ⟨t, .text (fun _ _ h => nomatch hbody.symm.trans h) ht, t, ht, .plain hbody he⟩
    · cases hv : Json.Members.get? (Text.ofString "msg") ms with
      | none =>
        refine ⟨t, .text (fun ms' m h h' => ?_) ht, t, ht, .silent hbody hv⟩
        cases hbody.symm.trans h
        cases hv.symm.trans h'
      | some v =>
        by_cases hstring : ∃ m, v = .string m
        · obtain ⟨m, rfl⟩ := hstring
          exact ⟨m, .member hbody hv, t, ht, .member hbody hv⟩
        · have hplain : v.plain = t := (hmember v hv).resolve_left hstring
          refine ⟨t, .text (fun ms' m h h' => hstring ⟨m, ?_⟩) ht, t, ht, hplain ▸ .member hbody hv⟩
          cases hbody.symm.trans h
          exact Option.some.inj (hv.symm.trans h')

/-- Whether a call tells the failure that a reply is: with the status of the reply, and with its message. -/
def Reports (c : Client) (server : String) (call : Call) (r : Reply) : Prop :=
  ∃ r' m, r.expanded? = some r' ∧ IsMessage r' m ∧ c.outcome server call r = .error (.refused r.status m)

/-- Whatever the call and the reply, a call reports the reply as a failure if and only if it can be sent, the reply
arrives with a status from 400 to 599, and the client finds its message.  A list is returned if and only if the call can
be sent, the reply arrives with any other status, leads nowhere wrong, and holds this list. -/
theorem reports_iff (c : Client) (server : String) (call : Call) (r : Reply) :
    (c.Reports server call r ↔
      call.IsSendable ∧ (400 ≤ r.status ∧ r.status ≤ 599) ∧ ∃ r', Arrives r r' ∧ Speaks r') ∧
    ∀ vs, c.outcome server call r = .ok vs ↔
      call.IsSendable ∧ ¬(400 ≤ r.status ∧ r.status ≤ 599) ∧
        ∃ r', Arrives r r' ∧ (∀ p, r'.target? server ≠ some (.error p)) ∧
          ∃ ms v, Json.readBytes r'.body = .ok (.object ms) ∧
            Json.Members.get? (Text.ofString "domains") ms = some v ∧ itemsOf? v = some vs := by
  have herror : r.isError = true ↔ 400 ≤ r.status ∧ r.status ≤ 599 := by simp [Reply.isError]
  refine ⟨?_, fun vs => ?_⟩
  · rw [← herror]
    constructor
    · rintro ⟨r', m, hexpanded, hm, h⟩
      obtain ⟨hcall, hstatus, -, r'', hr, htold⟩ := outcome_eq_refused_iff.1 h
      cases hexpanded.symm.trans hr.expanded
      exact ⟨hcall, hstatus, r', hr, exists_told_iff.1 ⟨m, hm, htold⟩⟩
    · rintro ⟨hcall, hstatus, r', hr, hspeaks⟩
      obtain ⟨m, hm, htold⟩ := exists_told_iff.2 hspeaks
      exact ⟨r', m, hr.expanded, hm, outcome_eq_refused_iff.2 ⟨hcall, hstatus, rfl, r', hr, htold⟩⟩
  · rw [← herror, Bool.not_eq_true]
    exact outcome_eq_ok_iff

example :
    outcome ⟨(Utf8.encode "x-api-token", Utf8.encode "wrong")⟩ "test" (.view .blocked)
        { status := 400, body := Utf8.encode "\x7b\"msg\":\"Invalid API Token\"\x7d" } =
      .error (.refused 400 (Text.ofString "Invalid API Token")) := rfl

/-- An error that is an array is no failure with a status, and a redirection that holds a list is returned as one. -/
theorem array_and_redirection :
    let c : Client := ⟨(Utf8.encode "x-api-token", Utf8.encode "s3cr3t")⟩
    let error : Reply := { status := 500, body := Utf8.encode "[]" }
    let moved : Reply := { status := 302, body := Utf8.encode "\x7b\"domains\":[\"d\"]\x7d" }
    ¬c.Reports "test" (.view .allowed) error ∧
      c.outcome "test" (.view .allowed) moved = .ok [.ofString "d"] ∧ ¬c.Reports "test" (.view .allowed) moved := by
  intro c error moved
  have hlisted : c.outcome "test" (.view .allowed) moved = .ok [.ofString "d"] := rfl
  have hrefused : c.outcome "test" (.view .allowed) error = .error .refusalNotObject := rfl
  refine ⟨?_, hlisted, ?_⟩
  · rintro ⟨r', m, -, -, h⟩
    cases hrefused.symm.trans h
  · rintro ⟨r', m, -, -, h⟩
    cases hlisted.symm.trans h

end DomainPolicy.Client
