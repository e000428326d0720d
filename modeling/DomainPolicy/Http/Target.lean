import DomainPolicy.Http.Host
import DomainPolicy.Http.Message
import DomainPolicy.Number.Hex

/-!
# The target of a request

* The URL of a request is made of its first `host` header if that is a host, else of the server's own name, and of its
  path and its query. A path begins with a slash, and what would end it early is escaped (`Uri.pathText`).
* `Request.urlPath` is the path that the URL itself shows, and `Request.location` the URL of another path on the same
  host, in the characters that a URL may hold.
-/

namespace DomainPolicy.Http

namespace Uri

/-- Characters that stand for themselves. -/
def isPlain (c : Char) : Bool := c.isAlphanum || "_.-~:/%#?=@[]!$&'()*+,;".toList.contains c

/-- A byte as a percent sign and two digits. -/
def percent (b : UInt8) : List Char := ['%', Hex.upper (b.toNat / 16), Hex.upper b.toNat]

/-- A text in plain characters, all others as the percent forms of their bytes. -/
def escape (s : String) : String :=
  String.ofList (s.toList.flatMap fun c => if isPlain c then [c] else (String.utf8EncodeChar c).flatMap percent)

/-- Characters that are left out of a URL. -/
def isSkipped (c : Char) : Bool := c == '\t' || c == '\r' || c == '\n'

/-- Characters that would end a path, or pass for the slash between its parts. -/
def endsPath (c : Char) : Bool := c == '?' || c == '#' || c == '\\'

/-- A path that begins with a slash and does not end early. No path at all stays none. -/
def pathText (path : String) : String :=
  let cs := path.toList.flatMap fun c => if endsPath c then percent c.toNat.toUInt8 else [c]
  String.ofList (if cs = [] ∨ cs.head? = some '/' then cs else '/' :: cs)

end Uri

namespace Request

def host (r : Request) : String :=
  match header? "host" r.headers with
  | some value =>
    let host := Latin1.decode value
    if Host.isValid host.toList then host else r.server
  | none => r.server

def urlPath (r : Request) : String := String.ofList ((Uri.pathText r.path).toList.filter (!Uri.isSkipped ·))

def location (r : Request) (path : String) : String :=
  Uri.escape ("http://" ++ r.host ++ Uri.pathText path ++ if r.query = "" then "" else "?" ++ r.query)

end Request

end DomainPolicy.Http
