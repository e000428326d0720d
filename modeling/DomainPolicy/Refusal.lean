import DomainPolicy.Http.Message
import DomainPolicy.Journal.Basic
import DomainPolicy.Text.Quoted
import DomainPolicy.Token

/-!
# Refusals

* A `Refusal` has one of six kinds and perhaps a cause. Two kinds are the caller's fault (400), the others the
  service's (500).
* The cause stands in the message of a 500 only; a record names it in either case (`Refusal.event`).
-/

namespace DomainPolicy

/-- Why something under a refusal went wrong. -/
inductive Cause where
  | header (e : HeaderError)
  | secretTooLong
  | invalidRounds
  | invalidSalt
  | hashNotAscii (hash : String)
  | reported (name text : String)
  deriving DecidableEq, Repr

/-- The most UTF-8 bytes of a secret. -/
def maxSecretBytes : Nat := 72

namespace Cause

/-- Where the first characters outside ASCII stand: how many come before them, and they themselves. -/
def outsideAscii (s : String) : Nat × List Char :=
  let before := s.toList.takeWhile (·.toNat < 128)
  (before.length, (s.toList.drop before.length).takeWhile (128 ≤ ·.toNat))

/-- The name of a cause's kind. -/
def name : Cause → String
  | header .missing => "HeaderMissing"
  | header (.repeated _) => "DuplicateHeader"
  | header .malformed => "MalformedHeader"
  | secretTooLong | invalidRounds | invalidSalt => "ValueError"
  | hashNotAscii _ => "UnicodeEncodeError"
  | reported name _ => name

/-- What a cause says of itself. One that reports a key says no more than the key, in quotes. -/
def message : Cause → String
  | header e => e.message
  | secretTooLong => "secret is longer than " ++ toString maxSecretBytes ++ " bytes"
  | invalidRounds => "Invalid rounds"
  | invalidSalt => "Invalid salt"
  | hashNotAscii hash =>
    let (start, run) := outsideAscii hash
    let place := match run with
      | [c] =>
        "character '" ++ String.ofList (Text.escapeNumber c.toNat) ++ "' in position " ++ toString start
      | _ => "characters in position " ++ toString start ++ "-" ++ toString (start + run.length - 1)
    "'ascii' codec can't encode " ++ place ++ ": ordinal not in range(128)"
  | reported name text => if name = "KeyError" then Text.quoted (Text.ofString text) else text

/-- A cause as a record shows it. -/
def shown (c : Cause) : String :=
  match c with
  | hashNotAscii hash =>
    let (start, run) := outsideAscii hash
    c.name ++ "('ascii', " ++ Text.quoted (Text.ofString hash) ++ ", " ++ toString start ++ ", "
      ++ toString (start + run.length) ++ ", 'ordinal not in range(128)')"
  | reported name text => name ++ "(" ++ Text.quoted (Text.ofString text) ++ ")"
  | _ => c.name ++ "(" ++ Text.quoted (Text.ofString c.message) ++ ")"

end Cause

namespace Refusal

inductive Kind where
  | invalid
  | parseHeader
  | missingConfig
  | missingDb
  | verify
  | hash
  deriving DecidableEq, Repr

namespace Kind

/-- The public text of a kind. -/
def text : Kind → String
  | invalid => "Invalid API Token"
  | parseHeader => "Parse Header"
  | missingConfig => "Missing Config"
  | missingDb => "Missing Db"
  | verify => "Verifying"
  | hash => "Hashing"

/-- The name of a kind in records. -/
def name : Kind → String
  | invalid => "INVALID"
  | parseHeader => "PARSE_HEADER"
  | missingConfig => "MISSING_CONFIG"
  | missingDb => "MISSING_DB"
  | verify => "VERIFY"
  | hash => "HASH"

def all : List Kind := [invalid, parseHeader, missingConfig, missingDb, verify, hash]

def ofName? (s : String) : Option Kind := all.find? (·.name == s)

/-- Whether the caller is at fault. -/
def isCallers : Kind → Bool
  | invalid | parseHeader => true
  | _ => false

def status (k : Kind) : Nat := if k.isCallers then 400 else 500

end Kind

end Refusal

/-- A refusal to authenticate, or to hold a credential. -/
structure Refusal where
  kind : Refusal.Kind
  cause : Option Cause := none
  deriving DecidableEq, Repr

namespace Refusal

def status (r : Refusal) : Nat := r.kind.status

/-- The text of a refusal, its cause left out. -/
def text (r : Refusal) : String := "Failed authentication: " ++ r.kind.text

/-- What the caller is told. -/
def message (r : Refusal) : String :=
  match r.cause with
  | some c => if r.kind.isCallers then r.kind.text else r.kind.text ++ ": " ++ c.message
  | none => r.kind.text

/-- The answer to a refused request. -/
def response (r : Refusal) : Http.Response := .json r.status (.ofMembers [("msg", .ofString r.message)])

/-- What is reported of a refused request. -/
def event (r : Refusal) : Event where
  severity := if r.kind.isCallers then .warning else .error
  source := "relay_admin.auth.errors"
  name := .ofString (if r.kind.isCallers then "admin_auth.rejected" else "admin_auth.failed")
  fields :=
    [(Text.ofString "kind", .ofString r.kind.name),
      (Text.ofString "cause", match r.cause with
        | some c => .ofString c.shown
        | none => .null)]

end Refusal

end DomainPolicy
