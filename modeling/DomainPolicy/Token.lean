import DomainPolicy.Text.Blank
import DomainPolicy.Text.Latin1

/-!
# The token and its header

* A token travels in one `x-api-token` header. `Token.parse` takes it from raw header pairs and refuses a header that
  is missing, repeated or not printable ASCII; it never picks one of several values.
* `Token.encode` accepts the texts that a header carries unchanged: those that `parse` accepts, without blanks at the
  ends.
-/

namespace DomainPolicy

/-- Raw header pairs, in order. -/
abbrev Headers := List (Bytes × Bytes)

/-- What a caller presents. -/
structure Token where
  value : String
  deriving DecidableEq, Repr

/-- Why no token can be taken from the headers. -/
inductive HeaderError where
  | missing
  | repeated (count : Nat)
  | malformed
  deriving DecidableEq, Repr

/-- Why a token cannot be sent in a header. -/
inductive TokenError where
  | empty
  | blankAtEnd
  | notVisible
  deriving DecidableEq, Repr

namespace Token

def headerName : String := "x-api-token"

/-- A byte with its ASCII capital made small. -/
def lowerByte (b : UInt8) : UInt8 := if 65 ≤ b ∧ b ≤ 90 then b + 32 else b

/-- Whether a raw name is the token's, whatever its ASCII case. -/
def isHeaderName (name : Bytes) : Bool := name.map lowerByte == Utf8.encode headerName

/-- Printable ASCII, the space and the tab. -/
def isHeaderByte (b : UInt8) : Bool := b == 9 || (0x20 ≤ b && b ≤ 0x7E)

/-- The values of the token's header. -/
def values (headers : Headers) : List Bytes := (headers.filter fun h => isHeaderName h.1).map Prod.snd

/-- The token of raw headers. -/
def parse (headers : Headers) : Except HeaderError Token :=
  match values headers with
  | [] => .error .missing
  | [value] => if value ≠ [] ∧ value.all isHeaderByte then .ok ⟨Latin1.decode value⟩ else .error .malformed
  | vs => .error (.repeated vs.length)

/-- Printable ASCII, the space and the tab, as a character. -/
def isHeaderChar (c : Char) : Bool := c == '\t' || (' ' ≤ c && c ≤ '~')

def isSpaceOrTab (c : Char) : Bool := c == ' ' || c == '\t'

/-- The header value of a token, which is its text. -/
def encode (t : Token) : Except TokenError String :=
  let cs := t.value.toList
  if cs = [] then .error .empty
  else if Blank.trim isSpaceOrTab cs ≠ cs then .error .blankAtEnd
  else if cs.all isHeaderChar then .ok t.value
  else .error .notVisible

/-- The header pair of a token. -/
def header (t : Token) : Except TokenError (Bytes × Bytes) :=
  t.encode.map fun value => (Utf8.encode headerName, Utf8.encode value)

/-- Shows that there is a token, and nothing of it. -/
def shown (_ : Token) : String := "XApiToken()"

end Token

def HeaderError.message : HeaderError → String
  | missing => Token.headerName ++ " header is missing"
  | repeated count => Token.headerName ++ " header appears " ++ toString count ++ " times"
  | malformed => Token.headerName ++ " header value is not valid header text"

def TokenError.message : TokenError → String
  | empty => "header value must not be empty"
  | blankAtEnd => "header value must not start or end with whitespace"
  | notVisible => "header value contains characters outside visible ASCII"

end DomainPolicy
