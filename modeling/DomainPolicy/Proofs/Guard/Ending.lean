import DomainPolicy.Proofs.Guard.Stage

/-!
# The ways in which the guard ends

The guard refuses with one of five kinds, all but that of a secret that cannot be hashed, or it grants the database that
is held, unless it is jammed (`ends_iff`): a credential is held and a token is presented, but the pool on which the two
would be compared is closed.  Then it ends without a decision (`poolClosed_iff`).
-/

namespace DomainPolicy

open Token (Presents)

namespace Guard

variable {δ : Type} {digest : Bcrypt.Digest} {registry : Registry δ} {headers : Headers}

/-- The kinds with which the guard refuses. -/
def refusalKinds : List Refusal.Kind := [.invalid, .parseHeader, .missingConfig, .missingDb, .verify]

/-- Whether the guard has a token to compare with a credential, and only a closed pool to do it on. -/
structure IsJammed (registry : Registry δ) (headers : Headers) : Prop where
  pool : registry.pool = .holds .closed
  credential : ∃ c, registry.credential = .holds c
  token : ∃ value, Presents headers value

theorem compare_of_closed {pool : Slot Pool} (h : pool = .holds .closed) (c : Credential) (t : Token) :
    compare digest pool c t = none := by
  rw [h]
  rfl

/-- How the guard ends on a pool that is closed: it refuses what it would refuse before it compares. -/
theorem requireAdmin_of_closed (digest : Bcrypt.Digest) (headers : Headers) (hpool : registry.pool = .holds .closed) :
    (IsJammed registry headers → requireAdmin digest registry headers = .poolClosed) ∧
      (¬IsJammed registry headers →
        ∃ r, requireAdmin digest registry headers = .refused r ∧ r.kind ∈ [.missingConfig, .parseHeader]) := by
  unfold requireAdmin
  constructor
  · rintro ⟨-, ⟨c, hc⟩, value, hvalue⟩
    simp only [get?_eq_some_iff.2 hc, hvalue.parse_eq, compare_of_closed hpool]
  · intro hfree
    cases hc : registry.credential.get? with
    | none => exact ⟨_, rfl, by simp⟩
    | some c =>
      cases ht : Token.parse headers with
      | error e => exact ⟨_, rfl, by simp⟩
      | ok t =>
        obtain ⟨value, hvalue, -⟩ := Token.parse_eq_ok_iff.1 ht
        exact absurd ⟨hpool, ⟨c, get?_eq_some_iff.1 hc⟩, value, hvalue⟩ hfree

/-- How the guard ends on any other pool. -/
theorem requireAdmin_of_open (digest : Bcrypt.Digest) (headers : Headers) (hpool : registry.pool ≠ .holds .closed) :
    (∃ admin, requireAdmin digest registry headers = .granted admin ∧ registry.db = .holds admin.db) ∨
      ∃ r, requireAdmin digest registry headers = .refused r ∧ r.kind ∈ refusalKinds := by
  rcases Stage.exists_failsFirst_or_passed digest registry headers with ⟨s, hs⟩ | hpassed
  · obtain ⟨r, hr, hkind⟩ := refused_of_failsFirst hpool hs
    refine Or.inr ⟨r, hr, ?_⟩
    rw [hkind]
    cases s <;> decide
  · obtain ⟨db, hdb⟩ := hpassed .database
    obtain ⟨admin, hadmin, rfl⟩ := granted_of_passed hpool hpassed hdb
    exact Or.inl ⟨admin, hadmin, hdb⟩

/-- The guard grants, or refuses with one of five kinds, if and only if it is not jammed. -/
theorem ends_iff (digest : Bcrypt.Digest) (registry : Registry δ) (headers : Headers) :
    ((∃ admin, requireAdmin digest registry headers = .granted admin ∧ registry.db = .holds admin.db) ∨
        ∃ r, requireAdmin digest registry headers = .refused r ∧ r.kind ∈ refusalKinds) ↔
      ¬IsJammed registry headers := by
  by_cases hpool : registry.pool = .holds .closed
  · obtain ⟨hjammed, hfree⟩ := requireAdmin_of_closed digest headers hpool
    constructor
    · rintro (⟨admin, hadmin, -⟩ | ⟨r, hr, -⟩) h
      · cases hadmin.symm.trans (hjammed h)
      · cases hr.symm.trans (hjammed h)
    · intro h
      obtain ⟨r, hr, hkind⟩ := hfree h
      refine Or.inr ⟨r, hr, ?_⟩
      simp only [List.mem_cons, List.not_mem_nil, or_false] at hkind
      rcases hkind with hkind | hkind <;> rw [hkind] <;> decide
  · exact ⟨fun _ h => hpool h.pool, fun _ => requireAdmin_of_open digest headers hpool⟩

/-- The guard ends without a decision if and only if it is jammed. -/
theorem poolClosed_iff : requireAdmin digest registry headers = .poolClosed ↔ IsJammed registry headers := by
  constructor
  · intro h
    by_contra hfree
    rcases (ends_iff digest registry headers).2 hfree with ⟨admin, hadmin, -⟩ | ⟨r, hr, -⟩
    · cases h.symm.trans hadmin
    · cases h.symm.trans hr
  · exact fun h => (requireAdmin_of_closed digest headers h.pool).1 h

end Guard

end DomainPolicy
