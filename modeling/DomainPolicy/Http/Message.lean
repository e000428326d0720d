import DomainPolicy.Json.Writer
import DomainPolicy.Token

/-!
# Requests and responses

* A request comes to a server of some name, with raw header pairs and a body in pieces, of which only the whole counts.
* A response has text headers and a text body. `Response.json?` answers with a JSON value, if JSON can carry it.
-/

namespace DomainPolicy.Http

/-- A request. The query is the one of its first line, which is in ASCII, with percent forms. -/
structure Request where
  method : String
  path : String
  server : String
  query : String := ""
  headers : Headers := []
  chunks : List Bytes := []
  deriving DecidableEq, Repr

/-- The whole body. -/
def Request.body (r : Request) : Bytes := r.chunks.flatten

/-- The first value of a header whose raw name is `name`. -/
def header? (name : String) (headers : Headers) : Option Bytes :=
  (headers.find? fun h => h.1 == Utf8.encode name).map Prod.snd

structure Response where
  status : Nat
  headers : List (String × String)
  body : String
  deriving DecidableEq, Repr

namespace Response

def ofBody (status : Nat) (contentType body : String) (more : List (String × String) := []) : Response :=
  ⟨status, more ++ [("content-length", toString (Utf8.size body)), ("content-type", contentType)], body⟩

/-- A response that carries a JSON value. -/
def json (status : Nat) (v : Json.Value) (more : List (String × String) := []) : Response :=
  ofBody status "application/json" v.compact more

/-- A response that carries a JSON value, if JSON can carry it. -/
def json? (status : Nat) (v : Json.Value) : Option Response :=
  if v.isPortable then some (json status v) else none

def withHeader (r : Response) (name value : String) : Response := { r with headers := r.headers ++ [(name, value)] }

end Response

end DomainPolicy.Http
