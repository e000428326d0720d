import DomainPolicy.Http.Coding
import DomainPolicy.Http.ContentType
import DomainPolicy.Http.Message
import DomainPolicy.Http.Reference
import DomainPolicy.Json.Reader
import DomainPolicy.Json.Shown
import DomainPolicy.Server.Route
import DomainPolicy.Text.Latin1

/-!
# The client

* A `Client` holds the header pair of a token, which is checked once, when the client is made.
* A call is an action of the service. `Client.request` is what it sends, `Client.conclude` what it makes of the reply:
  the listed domains, or a `Failure`.
* The headers of a reply are bytes, which all of them together say how to read. It must be in codings that can be
  undone, and a redirection must lead somewhere, though it is not followed.
* A reply between 400 and 599 is a failure with the status and, if the reply tells one, a message (`refusal`).
-/

namespace DomainPolicy

open Json (Value)
open Server (Effect Action)

/-- What carries a token to the service. -/
structure Client where
  header : Bytes × Bytes
  deriving DecidableEq, Repr

namespace Client

/-- The client that presents a token. -/
def make (t : Token) : Except TokenError Client := t.header.map Client.mk

/-- What a client is asked to do. An edit may come without domains, and then sends no body. -/
inductive Call where
  | edit (effect : Effect) (kind : RuleKind) (domains : Option Value)
  | view (kind : RuleKind)
  deriving Repr

namespace Call

def action : Call → Action
  | edit effect kind _ => .edit effect kind
  | view kind => .view kind

/-- Why there is no call. -/
inductive NameError where
  | unknown
  | misused
  deriving DecidableEq, Repr

/-- The call of a name and the argument that is given with it, if one is. An edit needs one, and a view takes none. -/
def ofName (name : String) (argument : Option Value) : Except NameError Call :=
  match Action.all.find? (·.path = Server.adminPath ++ "/" ++ name), argument with
  | some (.edit effect kind), some .null => .ok (edit effect kind none)
  | some (.edit effect kind), some v => .ok (edit effect kind (some v))
  | some (.view kind), none => .ok (view kind)
  | some _, _ => .error .misused
  | none, _ => .error .unknown

/-- What the body of a call carries. -/
def payload? : Call → Option Value
  | edit _ _ (some v) => some (.ofMembers [("domains", v)])
  | _ => none

end Call

/-- Why a call gives no domains. -/
inductive Failure where
  | unsendable
  | unreachable
  | refused (status : Nat) (message : Text)
  | unreadable (e : Json.ReadError)
  | refusalNotObject
  | charsetUnclear (e : ContentType.LookupError)
  | textUnreadable (e : Charset.ReadError)
  | codingBroken
  | redirectionBad (p : Http.Reference.Problem)
  | domainsMissing
  | domainsUnusable
  deriving DecidableEq, Repr

/-- The text of a failure with a status. -/
def refusedText (status : Nat) (message : Text) : Text := Text.ofString (toString status ++ ": ") ++ message

/-! ### What is sent -/

def contentTypeName : String := "content-type"

/-- The request of a call to a server. An argument that JSON cannot carry is not sent. -/
def request (c : Client) (server : String) (call : Call) : Except Failure Http.Request :=
  let headers := [(Utf8.encode "host", Utf8.encode server), c.header]
  let bare : Http.Request :=
    { method := call.action.method.text, path := call.action.path, server, headers }
  match call.payload? with
  | none => .ok bare
  | some v =>
    match v.compact? with
    | none => .error .unsendable
    | some text =>
      .ok { bare with
        headers := headers ++ [(Utf8.encode contentTypeName, Utf8.encode "application/json")]
        chunks := [Utf8.encode text] }

/-! ### What comes back -/

/-- A reply. -/
structure Reply where
  status : Nat
  headers : Headers := []
  body : Bytes
  deriving DecidableEq, Repr

namespace Reply

/-- Headers of text as they are sent. -/
def rawHeaders (hs : List (String × String)) : Headers := hs.map fun h => (Latin1.encode h.1, Latin1.encode h.2)

/-- A response as it comes back. -/
def ofResponse (r : Http.Response) : Reply := ⟨r.status, rawHeaders r.headers, Utf8.encode r.body⟩

/-- Bytes in UTF-8 as a text. -/
def inUtf8? (bs : Bytes) : Option String := ((Charset.unicode .utf8).strict? bs).bind Text.toString?

/-- A part of a header as text: in UTF-8 if all headers are, else in Latin-1. -/
def headerText (r : Reply) (bs : Bytes) : String :=
  if r.headers.all fun h => (inUtf8? h.1).isSome && (inUtf8? h.2).isSome then (inUtf8? bs).getD "" else Latin1.decode bs

/-- The values of a header, whatever the case of its name, with commas between them. -/
def header? (r : Reply) (name : String) : Option String :=
  match r.headers.filter fun h => String.ofList ((Latin1.decode h.1).toList.map Char.toLower) = name with
  | [] => none
  | hs => some (String.intercalate ", " (hs.map fun h => r.headerText h.2))

/-- The reply with its body as it was before it was compressed. -/
def expanded? (r : Reply) : Option Reply :=
  (Http.Coding.decode? (Http.Coding.ofHeader ((r.header? "content-encoding").getD "")) r.body).map fun body =>
    { r with body }

/-- Where a reply leads to from a host, if it leads anywhere. -/
def target? (r : Reply) (host : String) : Option (Except Http.Reference.Problem Http.Reference) :=
  if [301, 302, 303, 307, 308].contains r.status then
    (r.header? "location").map (Http.Reference.locate host)
  else none

/-- The body as text, in the character set of the content type. -/
def text (r : Reply) : Except Failure Text :=
  if r.body.isEmpty then .ok []
  else
    match ContentType.charset ((r.header? contentTypeName).getD "") with
    | .error e => .error (.charsetUnclear e)
    | .ok charset => (charset.read r.body).mapError .textUnreadable

def isError (r : Reply) : Bool := 400 ≤ r.status && r.status ≤ 599

end Reply

/-- The failure of an error reply. Its message is the body's member `msg`, else the body itself. -/
def refusal (r : Reply) : Failure :=
  match Json.readBytes r.body with
  | .ok (.object ms) =>
    withText fun t => .refused r.status ((Json.Members.get? (Text.ofString "msg") ms).elim t Value.plain)
  | .ok _ => .refusalNotObject
  | .error .tooDeep => .unreadable .tooDeep
  | .error _ => withText fun t => .refused r.status t
where
  withText (f : Text → Failure) : Failure :=
    match r.text with
    | .ok t => f t
    | .error e => e

/-- The items of a value: of an array its items, of a string its code points, of an object its keys. -/
def itemsOf? : Value → Option (List Value)
  | .array vs => some vs
  | .string t => some (t.map fun p => .string [p])
  | .object ms => some (ms.map fun (k, _) => .string k)
  | _ => none

/-- The domains that a reply lists. -/
def listing (r : Reply) : Except Failure (List Value) :=
  match Json.readBytes r.body with
  | .error e => .error (.unreadable e)
  | .ok (.object ms) =>
    match Json.Members.get? (Text.ofString "domains") ms with
    | none => .error .domainsMissing
    | some v =>
      match itemsOf? v with
      | some vs => .ok vs
      | none => .error .domainsUnusable
  | .ok _ => .error .domainsUnusable

/-- What a call to a server gives for a reply. -/
def conclude (server : String) (r : Reply) : Except Failure (List Value) :=
  match r.expanded? with
  | none => .error .codingBroken
  | some r =>
    match r.target? server with
    | some (.error p) => .error (.redirectionBad p)
    | _ => if r.isError then .error (refusal r) else listing r

end Client

end DomainPolicy
