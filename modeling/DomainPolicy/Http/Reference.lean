import DomainPolicy.Http.Address
import DomainPolicy.Http.Label.Name
import DomainPolicy.Http.Target
import DomainPolicy.Number.Integer
import DomainPolicy.Text.Lowercase
import DomainPolicy.Text.Split

/-!
# References to other places

* A reference is a URL, or what is left of one whose beginning goes without saying. `Reference.parse?` splits it and
  refuses it where a host or a port makes no sense, or where its beginning could be taken for something else.
* `Reference.locate` says what a reference leads to from a host. One that has a scheme but no host gets that host, and
  then its path must begin with a slash, once its points are resolved. The name of any other host must be sound. A name
  with characters outside ASCII has a form in ASCII.
-/

namespace DomainPolicy.Http

/-- The parts of a reference that decide whether it can be followed. -/
structure Reference where
  scheme : List Char := []
  user : List Char := []
  host : List Char := []
  port : Option Int := none
  path : List Char := []
  deriving DecidableEq, Repr

namespace Reference

/-- The most characters of a reference. -/
def maxLength : Nat := 65536

/-- Control characters of ASCII. -/
def isControl (c : Char) : Bool := c.toNat < 32 || c.toNat = 127

def isSchemeChar (c : Char) : Bool := c.isAlphanum || c == '+' || c == '.' || c == '-'

/-- The scheme before a colon, which may be empty, and what follows. -/
def splitScheme (cs : List Char) : List Char × List Char :=
  match Split.cut ':' cs with
  | (scheme, some rest) =>
    if scheme.all isSchemeChar && (scheme.head?.all Char.isAlpha) then (scheme, rest) else ([], cs)
  | _ => ([], cs)

/-- What stands between two slashes and the next slash, question mark or number sign, and what follows. -/
def splitAuthority (cs : List Char) : List Char × List Char :=
  match cs with
  | '/' :: '/' :: rest =>
    let ends (c : Char) : Bool := c == '/' || c == '?' || c == '#'
    (rest.takeWhile (!ends ·), rest.dropWhile (!ends ·))
  | _ => ([], cs)

/-- The host, in brackets or up to a colon, and what follows it but for a colon. -/
def splitHost (cs : List Char) : List Char × List Char :=
  let (host, rest) :=
    match cs, Split.cutLast? ']' cs with
    | '[' :: _, some (address, rest) => (address ++ [']'], rest)
    | _, _ => (cs.takeWhile (· ≠ ':'), cs.dropWhile (· ≠ ':'))
  match rest with
  | ':' :: rest => (host, rest)
  | _ => (host, rest)

/-- Four runs of digits with points between them. -/
def looksLikeV4 (cs : List Char) : Bool :=
  let runs := Split.pieces '.' cs
  runs.length = 4 && runs.all fun run => run ≠ [] && run.all Char.isDigit

/-- Whether a host makes sense: what looks like an address has to be one. -/
def isHost (cs : List Char) : Bool :=
  if looksLikeV4 cs then Address.isV4 cs
  else
    match cs, cs.getLast? with
    | '[' :: rest, some ']' =>
      let (address, zone) := Split.cut '%' rest.dropLast
      Address.isV6 address && zone.all fun z => z ≠ [] && !z.contains '%'
    | _, _ => true

/-- The port that a scheme has anyhow. -/
def usualPort? (scheme : List Char) : Option Int :=
  match String.ofList scheme with
  | "ftp" => some 21
  | "http" | "ws" => some 80
  | "https" | "wss" => some 443
  | _ => none

/-- Whether a path can follow the other parts. -/
def isPath (hasScheme hasAuthority : Bool) (path : List Char) : Bool :=
  if hasAuthority then path = [] || path.head? = some '/'
  else hasScheme || !(path.head? = some ':' || "//".toList.isPrefixOf path)

def hasAuthority (r : Reference) : Bool := r.user ≠ [] || r.host ≠ [] || r.port.isSome

/-- A reference whose parts make sense together. -/
def check? (r : Reference) : Option Reference :=
  if isHost r.host && isPath (r.scheme ≠ []) r.hasAuthority r.path then some r else none

/-- The form of a host in ASCII, if it has one. An address is left as it is. -/
def form? (host : List Char) : Option (List Char) :=
  let isBracketed := host.head? = some '[' ∧ host.getLast? = some ']'
  if looksLikeV4 host ∨ isBracketed ∨ host.all (·.toNat < 128) then some host
  else HostName.form? (Lowercase.lower host)

def parse? (s : String) : Option Reference :=
  let cs := s.toList
  if maxLength < cs.length || cs.any isControl then none
  else
    let (scheme, rest) := splitScheme cs
    let (authority, rest) := splitAuthority rest
    let path := rest.takeWhile fun c => c ≠ '?' && c ≠ '#'
    let (user, place) := (Split.cutLast? '@' authority).getD ([], authority)
    let (host, portText) := splitHost place
    let reference (port : Option Int) : Option Reference := do
      let r ← check? { scheme, user, host, port, path }
      return { r with host := ← form? r.host }
    if portText = [] then reference none
    else
      match Integer.read? portText with
      | none => none
      | some n => reference (if usualPort? scheme = some n then none else some n)

/-! ### Paths with points -/

/-- Takes one more part into a path: one point is left out, and two take the part before away. -/
def takePart (parts : List (List Char)) (part : List Char) : List (List Char) :=
  if part = ['.'] then parts
  else if part = ['.', '.'] then if parts = [[]] then parts else parts.dropLast
  else parts ++ [part]

/-- A path without parts of one or two points. -/
def plainPath (path : List Char) : List Char :=
  Split.join '/' ((Split.pieces '/' path).foldl takePart [])

/-! ### Where a reference leads -/

/-- Why a reference cannot be followed. -/
inductive Problem where
  | unreadable
  | pathUnfit
  | hostUnsound (e : LabelFault)
  deriving DecidableEq, Repr

/-- Characters that stand for themselves in a host. -/
def isPlainInHost (c : Char) : Bool := c.isAlphanum || "_.-~!$&'()*+,;=\"\x60\x7b\x7d%|\\".toList.contains c

/-- A host as it is shown, in small letters and plain characters. -/
def plainHost (host : List Char) : List Char :=
  host.flatMap fun c => if isPlainInHost c then [c.toLower] else Uri.percent c.toNat.toUInt8

/-- A reference whose host can be shown, which takes the name that a form in ASCII stands for. -/
def shown (r : Reference) : Except Problem Reference :=
  let host := plainHost r.host
  if Label.mark.isPrefixOf host then ((HostName.read host).map fun _ => r).mapError .hostUnsound else .ok r

/-- What a reference leads to from a host. -/
def locate (host : String) (s : String) : Except Problem Reference :=
  match parse? s with
  | none => .error .unreadable
  | some r =>
    if r.scheme ≠ [] ∧ r.host = [] then
      (check? { r with host := host.toList, path := plainPath r.path }).elim (.error .pathUnfit) .ok
    else r.shown

end Reference

end DomainPolicy.Http
