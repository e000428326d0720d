import DomainPolicy.Proofs.Server.Handling
import Mathlib.Data.List.Forall2

/-!
# Requests that the guard refuses

On each of the admin routes everything lies behind the guard (`respond_eq_guarded`), which sees the headers and what the
app keeps.  So a request that it refuses is answered with the refusal, whatever its body and its query are and whatever
the database holds, and leaves the database alone (`serve_of_refused`); and so do any number of them (`run_of_refused`).
-/

namespace DomainPolicy.Server

open Http (Request Response)

/-! ### Admin routes -/

/-- The admin routes, each as its method and its path. -/
def adminRoutes : List (String × String) :=
  [("POST", "/api/v1/admin/allow"), ("POST", "/api/v1/admin/disallow"), ("POST", "/api/v1/admin/block"),
    ("POST", "/api/v1/admin/unblock"), ("GET", "/api/v1/admin/allowed"), ("GET", "/api/v1/admin/blocked")]

/-- Whether a request is sent to an admin route, perhaps with one line feed behind its path. -/
def IsAdmins (r : Request) : Prop :=
  ∃ path, (r.method, path) ∈ adminRoutes ∧ (r.path = path ∨ r.path = path ++ "\n")

theorem find_of_isAdmins {r : Request} (h : IsAdmins r) :
    ∃ action, Route.find r.method r.path = .action action ∧ action ≠ .health ∧ action ≠ .ready := by
  have hall : ∀ route ∈ adminRoutes, ∀ path ∈ [route.2, route.2 ++ "\n"], ∃ action ∈ Action.all,
      Route.find route.1 path = .action action ∧ action ≠ .health ∧ action ≠ .ready := by decide +kernel
  obtain ⟨path, hroute, hpath⟩ := h
  obtain ⟨action, -, hfind, hne⟩ := hall _ hroute r.path (by simpa using hpath)
  exact ⟨action, hfind, hne⟩

variable {digest : Bcrypt.Digest} {a : App} {r : Request} {refusal : Refusal}

/-- All that a request to an admin route does lies behind the guard. -/
theorem respond_eq_guarded (digest : Bcrypt.Digest) (a : App) (h : IsAdmins r) :
    ∃ go, respond digest a r = guarded digest a r go := by
  obtain ⟨action, hfind, hhealth, hready⟩ := find_of_isAdmins h
  rw [respond_action hfind]
  cases action with
  | health => exact absurd rfl hhealth
  | ready => exact absurd rfl hready
  | edit effect kind => exact ⟨_, rfl⟩
  | view kind => exact ⟨_, rfl⟩

/-! ### Refusals -/

theorem status_refusal (refusal : Refusal) : refusal.status = 400 ∨ refusal.status = 500 := by
  unfold Refusal.status Refusal.Kind.status
  split
  · exact Or.inl rfl
  · exact Or.inr rfl

/-- What a request is answered under its id that is refused, and what is reported of it. -/
def App.refusing (a : App) (refusal : Refusal) (id : String) (r : Request) : Exchange :=
  ⟨refusal.response.withHeader idHeader id,
    (a.journalFor id r.urlPath r.method).records [refusal.event, completedEvent refusal.status]⟩

/-- A request that is refused. -/
theorem serve_eq_refusing (hr : IsAdmins r) (h : Guard.requireAdmin digest a.registry r.headers = .refused refusal)
    (fresh : String) :
    a.serve digest fresh r = ({ a with journal := a.journal.clear }, a.refusing refusal (requestId fresh r) r) := by
  obtain ⟨go, hgo⟩ := respond_eq_guarded digest a hr
  rw [guarded_refused h] at hgo
  simp only [App.serve, hgo]
  rfl

/-- A request to an admin route that the guard refuses is answered with the refusal, by `400` or `500`, and its body,
its query and what the database holds do not matter.  The database stays as it is. -/
theorem serve_of_refused (hr : IsAdmins r) (h : Guard.requireAdmin digest a.registry r.headers = .refused refusal) :
    (∀ db chunks query fresh, App.serve digest fresh { a with db } { r with chunks, query } =
        ({ a with db, journal := a.journal.clear }, a.refusing refusal (requestId fresh r) r)) ∧
      ∀ id, (a.refusing refusal id r).response.status = 400 ∨ (a.refusing refusal id r).response.status = 500 := by
  constructor
  · intro db chunks query fresh
    exact serve_eq_refusing (a := { a with db }) (r := { r with chunks, query }) hr h fresh
  · intro id
    exact status_refusal refusal

/-- Without a token, a body that is no JSON gets the answer of a good one, and what is listed does not matter. -/
theorem serve_of_refused_without_token :
    let a : App := { settings := {}, registry := ⟨.holds ⟨""⟩, .holds (), .holds .ready⟩ }
    let r : Request := { method := "POST", path := "/api/v1/admin/allow", server := "test" }
    let listing : Database := { table := some [⟨1, "a", .allowed⟩] }
    let broken := [Utf8.encode "\x7b"]
    let whole := [Utf8.encode "\x7b\"domains\": ", Utf8.encode "[\"b\"]\x7d"]
    (App.serve Bcrypt.digest "1" { a with db := listing } { r with chunks := broken, query := "q" }).2 =
        (a.serve Bcrypt.digest "1" { r with chunks := whole }).2 ∧
      (a.serve Bcrypt.digest "1" r).2.response.status = 400 := by
  intro a r listing broken whole
  have hr : IsAdmins r := ⟨"/api/v1/admin/allow", by decide, Or.inl rfl⟩
  have hrefused : Guard.requireAdmin Bcrypt.digest a.registry r.headers =
      .refused ⟨.parseHeader, some (.header .missing)⟩ := rfl
  have hserve := (serve_of_refused hr hrefused).1
  constructor
  · calc
      _ = a.refusing ⟨.parseHeader, some (.header .missing)⟩ (requestId "1" r) r := congrArg Prod.snd (hserve ..)
      _ = _ := (congrArg Prod.snd (hserve a.db whole r.query "1")).symm
  · rw [show (a.serve Bcrypt.digest "1" r) = _ from hserve a.db r.chunks r.query "1"]
    rfl

/-! ### Any number of refused requests -/

/-- Whether a request to an admin route is refused. -/
def IsRefused (digest : Bcrypt.Digest) (a : App) (r : Request) : Prop :=
  IsAdmins r ∧ ∃ refusal, Guard.requireAdmin digest a.registry r.headers = .refused refusal

/-- Whether two requests that arrive differ in body and query alone. -/
def SameHead (q q' : Arrival) : Prop :=
  ∃ chunks query, q' = { q with request := { q.request with chunks, query } }

/-- Refused requests leave the database alone, and what they are answered depends neither on it nor on their bodies
and queries. -/
theorem run_of_refused {qs qs' : List Arrival} (hqs : ∀ q ∈ qs, IsRefused digest a q.request)
    (hsame : List.Forall₂ SameHead qs qs') (db db' : Database) :
    (App.run digest { a with db } (qs.map Arrival.step)).1.db = db ∧
      (App.run digest { a with db := db' } (qs'.map Arrival.step)).1.db = db' ∧
      (App.run digest { a with db } (qs.map Arrival.step)).2 =
        (App.run digest { a with db := db' } (qs'.map Arrival.step)).2 := by
  induction hsame generalizing a with
  | nil => exact ⟨rfl, rfl, rfl⟩
  | @cons q q' qs qs' hq _ ih =>
    obtain ⟨chunks, query, rfl⟩ := hq
    obtain ⟨⟨hr, refusal, hrefusal⟩, hqs⟩ := List.forall_mem_cons.1 hqs
    have hserve := serve_eq_refusing (a := { a with db }) hr hrefusal q.fresh
    have hserve' := serve_eq_refusing (a := { a with db := db' }) (r := { q.request with chunks, query }) hr hrefusal
      q.fresh
    -- what is kept for the guard is the same after the first request
    obtain ⟨hdb, hdb', hseen⟩ := ih (a := { a with journal := a.journal.clear }) hqs
    rw [run_arrivals_cons, run_arrivals_cons, hserve, hserve']
    exact ⟨hdb, hdb', congrArg (List.cons _) hseen⟩

end DomainPolicy.Server
