import DomainPolicy.Bcrypt.Hash
import DomainPolicy.Refusal

/-!
# The credential

* A `Credential` is the hash of the operator's secret. `Credential.build` makes it, once; `Credential.verify` compares
  a token with it.
* A token that does not match is an answer (`false`); only a hash that cannot be used is a refusal. A token too long to
  be a secret never matches, whatever the hash.
-/

namespace DomainPolicy

structure Credential where
  hash : String
  deriving DecidableEq, Repr

namespace Credential

/-- Why a credential cannot be built. -/
inductive BuildError where
  | refused (r : Refusal)
  | roundsOutOfReach
  deriving DecidableEq, Repr

/-- The cost that is used unless another is asked for. -/
def defaultRounds : Int := 12

/-- The credential of a secret, for a cost and a salt. The secret's length is looked at first, then the cost, then the
salt. -/
def build (digest : Bcrypt.Digest) (secret : String) (rounds : Int) (salt : String) : Except BuildError Credential :=
  let refuse (c : Cause) : Except BuildError Credential := .error (.refused ⟨.hash, some c⟩)
  if maxSecretBytes < Utf8.size secret then refuse .secretTooLong
  else if rounds < 0 ∨ 65535 < rounds then .error .roundsOutOfReach
  else if rounds < 4 ∨ 31 < rounds then refuse .invalidRounds
  else
    match Bcrypt.hash? digest (Utf8.encode secret) (Bcrypt.freshSetting rounds.toNat salt) with
    | some hash => .ok ⟨hash⟩
    | none => refuse .invalidSalt

/-- Whether a token is the secret. -/
def verify (digest : Bcrypt.Digest) (c : Credential) (t : Token) : Except Refusal Bool :=
  if maxSecretBytes < Utf8.size t.value then .ok false
  else if c.hash.toList.all (·.toNat < 128) then
    match Bcrypt.check? digest (Utf8.encode t.value) c.hash with
    | some b => .ok b
    | none => .error ⟨.verify, some .invalidSalt⟩
  else .error ⟨.verify, some (.hashNotAscii c.hash)⟩

/-- Shows that there is a credential, and nothing of it. -/
def shown (_ : Credential) : String := "AdminConfig()"

end Credential

end DomainPolicy
