import DomainPolicy.Proofs.Guard.Ending
import DomainPolicy.Proofs.Json.Portable
import DomainPolicy.Proofs.Json.ReadBack
import DomainPolicy.Proofs.Server.Refused

/-!
# What is answered for the guard

A request to an admin route that the guard refuses is told so: it gets `400` or `500` and a JSON object with the message
and nothing else (`tells_of_refused`).  While the guard is jammed, such requests get the last resort, which is no JSON
(`answer_of_jammed`).
-/

namespace DomainPolicy

open Json (Value)

/-- An object with one text is read back from the bytes in which it is written. -/
theorem Json.readBytes_ofText (name text : String) :
    readBytes (Utf8.encode (Value.ofMembers [(name, .ofString text)]).compact) =
      .ok (.ofMembers [(name, .ofString text)]) := by
  refine Value.readBytes_member (Value.readsBack_string _) (by decide : 0 < maxDepth) ?_
  apply Value.isPortable_iff.2
  simp [Value.ofMembers]

namespace Server

open Http (Request Response)
open Guard (requireAdmin IsJammed)

/-- Whether a response tells a refusal: by its status, which is `400` or `500`, and by a JSON object with the
message. -/
structure Tells (response : Response) (refusal : Refusal) : Prop where
  status : response.status = refusal.status
  bounds : response.status = 400 ∨ response.status = 500
  contentType : ("content-type", "application/json") ∈ response.headers
  body : Json.readBytes (Utf8.encode response.body) = .ok (.ofMembers [("msg", .ofString refusal.message)])

theorem tells_response (refusal : Refusal) (id : String) :
    Tells (refusal.response.withHeader idHeader id) refusal where
  status := rfl
  bounds := status_refusal refusal
  contentType := by simp [Response.withHeader, Refusal.response, Response.json, Response.ofBody]
  body := Json.readBytes_ofText "msg" refusal.message

/-- The last resort is no JSON, so it tells nothing. -/
theorem not_tells_lastResort (refusal : Refusal) : ¬Tells lastResort refusal := by
  intro h
  have hbody : Json.readBytes (Utf8.encode lastResort.body) = .error .malformed := rfl
  cases hbody.symm.trans h.body

variable {digest : Bcrypt.Digest} {a : App} {r : Request} {refusal : Refusal}

theorem tells_of_refused (hr : IsAdmins r) (h : requireAdmin digest a.registry r.headers = .refused refusal)
    (fresh : String) : Tells (a.serve digest fresh r).2.response refusal := by
  rw [serve_eq_refusing hr h]
  exact tells_response refusal _

theorem answer_of_jammed (hr : IsAdmins r) (h : IsJammed a.registry r.headers) (fresh : String) :
    (a.serve digest fresh r).2.response = lastResort := by
  obtain ⟨go, hgo⟩ := respond_eq_guarded digest a hr
  have hrespond : (respond digest a r).answer = .error .poolClosed := by
    rw [hgo, guarded_poolClosed (Guard.poolClosed_iff.2 h)]
  exact response_serve_of_crash hrespond fresh

/-- The guard grants the database that is held, or refuses with one of five kinds, unless it is jammed, and then it does
neither.  A request to an admin route that is not granted is told a refusal by `400` or `500`, in JSON, unless the guard
is jammed, and then nothing is told. -/
theorem endings_of_guard {δ : Type} (digest : Bcrypt.Digest) :
    (∀ (registry : Registry δ) headers,
      ((∃ admin, requireAdmin digest registry headers = .granted admin ∧ registry.db = .holds admin.db) ∨
          ∃ r, requireAdmin digest registry headers = .refused r ∧ r.kind ∈ Guard.refusalKinds) ↔
        ¬IsJammed registry headers) ∧
      ∀ (a : App) r fresh, IsAdmins r → (∀ admin, requireAdmin digest a.registry r.headers ≠ .granted admin) →
        ((∃ refusal, requireAdmin digest a.registry r.headers = .refused refusal ∧
            Tells (a.serve digest fresh r).2.response refusal) ↔ ¬IsJammed a.registry r.headers) ∧
        (IsJammed a.registry r.headers → (a.serve digest fresh r).2.response = lastResort ∧
          ∀ refusal, ¬Tells lastResort refusal) := by
  refine ⟨Guard.ends_iff digest, fun a r fresh hr hdenied => ⟨⟨?_, ?_⟩, ?_⟩⟩
  · rintro ⟨refusal, -, htells⟩ hjammed
    rw [answer_of_jammed hr hjammed] at htells
    exact not_tells_lastResort refusal htells
  · intro hfree
    rcases (Guard.ends_iff digest a.registry r.headers).2 hfree with ⟨admin, hadmin, -⟩ | ⟨refusal, hrefusal, -⟩
    · exact absurd hadmin (hdenied admin)
    · exact ⟨refusal, hrefusal, tells_of_refused hr hrefusal fresh⟩
  · exact fun hjammed => ⟨answer_of_jammed hr hjammed fresh, not_tells_lastResort⟩

/-- Even with a closed pool a request without a token is told so. -/
theorem endings_of_guard_without_token :
    let a : App := { settings := {}, registry := ⟨.holds ⟨"$2b$04$corrupt"⟩, .holds (), .holds .closed⟩ }
    let r : Request := { method := "GET", path := "/api/v1/admin/allowed", server := "test" }
    ∃ refusal, requireAdmin Bcrypt.digest a.registry r.headers = .refused refusal ∧
      Tells (a.serve Bcrypt.digest "1" r).2.response refusal := by
  intro a r
  have hr : IsAdmins r := ⟨"/api/v1/admin/allowed", by decide, Or.inl rfl⟩
  have hrefused : requireAdmin Bcrypt.digest a.registry r.headers =
      .refused ⟨.parseHeader, some (.header .missing)⟩ := rfl
  have hdenied : ∀ admin, requireAdmin Bcrypt.digest a.registry r.headers ≠ .granted admin := by
    intro admin hadmin
    cases hrefused.symm.trans hadmin
  have hfree : ¬IsJammed a.registry r.headers := by
    intro hjammed
    cases hrefused.symm.trans (Guard.poolClosed_iff.2 hjammed)
  exact (((endings_of_guard (δ := Unit) Bcrypt.digest).2 a r "1" hr hdenied).1).2 hfree

/-- With a closed pool a token is neither granted nor refused, and its request gets no JSON. -/
theorem closed_pool_is_no_refusal :
    let a : App := { settings := {}, registry := ⟨.holds ⟨"$2b$04$corrupt"⟩, .holds (), .holds .closed⟩ }
    let r : Request :=
      { method := "GET", path := "/api/v1/admin/allowed", server := "test"
        headers := [(Utf8.encode "x-api-token", Utf8.encode "s3cr3t")] }
    requireAdmin Bcrypt.digest a.registry r.headers = .poolClosed ∧
      (∀ refusal, ¬Tells (a.serve Bcrypt.digest "1" r).2.response refusal) := by
  intro a r
  have hr : IsAdmins r := ⟨"/api/v1/admin/allowed", by decide, Or.inl rfl⟩
  have hclosed : requireAdmin Bcrypt.digest a.registry r.headers = .poolClosed := rfl
  refine ⟨hclosed, fun refusal => ?_⟩
  rw [answer_of_jammed hr (Guard.poolClosed_iff.1 hclosed)]
  exact not_tells_lastResort refusal

end Server

end DomainPolicy
