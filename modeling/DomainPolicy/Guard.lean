import DomainPolicy.Credential

/-!
# The guard

* A process keeps a credential, a database and a pool for verifications under fixed names (`Registry`); each may be
  missing, or be something foreign, which counts as missing.
* `Guard.requireAdmin` grants a request an `Admin`, or refuses it, in this order: credential, header, comparison,
  database. An `Admin` cannot be made outside this module without the guard's seal.
-/

namespace DomainPolicy

/-- What is kept under a name. -/
inductive Slot (α : Type) where
  | missing
  | foreign
  | holds (a : α)
  deriving DecidableEq, Repr

namespace Slot

/-- What is kept, if it is of the right type. -/
def get? {α : Type} : Slot α → Option α
  | holds a => some a
  | _ => none

end Slot

/-- A pool of threads for verifications; `closed` stands for every one that cannot take a comparison. -/
inductive Pool where
  | ready
  | closed
  deriving DecidableEq, Repr

/-- What a process keeps for the guard, the database being represented by a handle of type `δ`. -/
structure Registry (δ : Type) where
  credential : Slot Credential := .missing
  db : Slot δ := .missing
  pool : Slot Pool := .missing
  deriving DecidableEq, Repr

/-- Shows that the guard made something; only this module has it. -/
structure Seal where private mk ::
  deriving DecidableEq, Repr

/-- What a request that was granted may use: the database. -/
structure Admin (δ : Type) where private mk ::
  db : δ
  deriving DecidableEq, Repr

namespace Admin

/-- Why an `Admin` cannot be made. -/
inductive MakeError where
  | notGranted
  deriving DecidableEq, Repr

def MakeError.message : MakeError → String
  | notGranted => "Admin can only be obtained through require_admin"

/-- Makes an `Admin` for whoever holds the seal. -/
def make {δ : Type} (db : δ) (stamp : Option Seal) : Except MakeError (Admin δ) :=
  match stamp with
  | some _ => .ok ⟨db⟩
  | none => .error .notGranted

def shown {δ : Type} (_ : Admin δ) : String := "Admin()"

end Admin

namespace Guard

/-- How the guard ends. A pool that is closed cannot run the comparison, which is no refusal. -/
inductive Outcome (δ : Type) where
  | granted (admin : Admin δ)
  | refused (r : Refusal)
  | poolClosed
  deriving DecidableEq, Repr

/-- Whether a token is the secret, as far as a pool can find out. -/
def compare (digest : Bcrypt.Digest) (pool : Slot Pool) (c : Credential) (t : Token) :
    Option (Except Refusal Bool) :=
  match pool.get? with
  | some .closed => none
  | _ => some (c.verify digest t)

/-- Grants a request that presents the secret. -/
def requireAdmin {δ : Type} (digest : Bcrypt.Digest) (s : Registry δ) (headers : Headers) : Outcome δ :=
  match s.credential.get? with
  | none => .refused ⟨.missingConfig, none⟩
  | some c =>
    match Token.parse headers with
    | .error e => .refused ⟨.parseHeader, some (.header e)⟩
    | .ok t =>
      match compare digest s.pool c t with
      | none => .poolClosed
      | some (.error r) => .refused r
      | some (.ok false) => .refused ⟨.invalid, none⟩
      | some (.ok true) =>
        match s.db.get? with
        | none => .refused ⟨.missingDb, none⟩
        | some db => .granted ⟨db⟩

/-- What is reported when a request is granted. -/
def grantedEvent : Event := ⟨.debug, "relay_admin.auth.guard", .ofString "admin_auth.granted", []⟩

/-- What the guard itself reports. -/
def Outcome.events {δ : Type} : Outcome δ → List Event
  | granted _ => [grantedEvent]
  | _ => []

end Guard

end DomainPolicy
