import DomainPolicy.Http.Message
import DomainPolicy.Json.Reader
import DomainPolicy.Validation

/-!
# Submitted domains

* A body submits domains if it is a JSON object whose `domains` are an array of 1 to 1000 strings; what else the object
  holds does not matter.
* `Submission.read` gives the strings, or complaints for the caller. A body with a number too long or nested too deep
  is no complaint: it cannot be read at all.
* Complaints echo what was sent, but for members whose key starts with `_sa`.
-/

namespace DomainPolicy.Server

open Json (Value)

namespace Submission

/-- Why no domains can be taken from a body. -/
inductive Problem where
  | complaints (cs : List Complaint)
  | unreadable (e : Json.ReadError)
  deriving Repr

/-- The most domains of a body. -/
def maxItems : Nat := 1000

def key : Text := Text.ofString "domains"

/-- One item, at its place. -/
def item (index : Nat) : Value → Checked Text
  | .string t => .ok t
  | v => .error [⟨[.key key, .index index], .textExpected, v⟩]

/-- Items from a place on, all complaints kept. -/
def items (index : Nat) : List Value → Checked (List Text)
  | [] => .ok []
  | v :: vs => Checked.and ((item index v).map List.cons) (items (index + 1) vs)

/-- The domains of an array; how many there are comes before what they are. -/
def list : Value → Checked (List Text)
  | .array vs =>
    if maxItems < vs.length then .error [⟨[.key key], .tooLong maxItems vs.length, .array vs⟩]
    else if vs.isEmpty then .error [⟨[.key key], .tooShort 1 0, .array vs⟩]
    else items 0 vs
  | v => .error [⟨[.key key], .listExpected, v⟩]

/-- The domains of an object. -/
def domains : Value → Checked (List Text)
  | .object ms =>
    match Json.Members.get? key ms with
    | some v => list v
    | none => .error [⟨[.key key], .missing, .object ms⟩]
  | v => .error [⟨[], .objectExpected "DomainsRequest", v⟩]

def read (body : Bytes) : Except Problem (List Text) :=
  match Json.readBytes body with
  | .ok v => (domains v).mapError .complaints
  | .error .malformed | .error .undecodable =>
    .error (.complaints [⟨[.key (Text.ofString "body")], .jsonInvalid, .object []⟩])
  | .error e => .error (.unreadable e)

/-! ### The answer to complaints -/

/-- Keys that are not echoed. -/
def isHidden (key : Text) : Bool := (Text.ofString "_sa").isPrefixOf key

mutual

/-- A value without hidden members. -/
def echo (v : Value) : Value :=
  match v with
  | .array vs => .array (echoItems vs)
  | .object ms => .object (echoMembers ms)
  | v => v

def echoItems (vs : List Value) : List Value :=
  match vs with
  | [] => []
  | v :: vs => echo v :: echoItems vs

def echoMembers (ms : List (Text × Value)) : List (Text × Value) :=
  match ms with
  | [] => []
  | (k, v) :: ms => if isHidden k then echoMembers ms else (k, echo v) :: echoMembers ms

end

/-- The answer to complaints, if JSON can carry it. -/
def rejection? (cs : List Complaint) : Option Http.Response :=
  Http.Response.json? 422 (.ofMembers [("detail", .array (cs.map fun c => echo (.ofMembers c.members)))])

end Submission

end DomainPolicy.Server
