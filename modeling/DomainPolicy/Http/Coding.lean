import DomainPolicy.Deflate.Container
import DomainPolicy.Text.Blank
import DomainPolicy.Text.Lowercase
import DomainPolicy.Text.Split

/-!
# Codings of a body

* A `Coding` is a way in which a body is compressed. A header lists the codings of a body in the order in which they
  were applied; those that are not known are taken for none.
* `Coding.decode?` undoes them from the last to the first. An empty body is in any coding.
-/

namespace DomainPolicy.Http

inductive Coding where
  | gzip
  | deflate
  deriving DecidableEq, Repr

namespace Coding

def ofName? (name : String) : Option Coding :=
  match name with
  | "gzip" => some gzip
  | "deflate" => some deflate
  | _ => none

/-- The codings that a header lists. -/
def ofHeader (value : String) : List Coding :=
  (Split.pieces ',' value.toList).filterMap fun piece =>
    ofName? (String.ofList (Lowercase.lower (Blank.strip piece)))

/-- Undoes one coding. What is said to be deflated may lack its header. -/
def decodeOne? (c : Coding) (body : Bytes) : Option Bytes :=
  match c with
  | gzip => Deflate.Container.gzip? body
  | deflate => (Deflate.Container.zlib? body).or (Deflate.Container.raw? body)

/-- Undoes codings. -/
def decode? (cs : List Coding) (body : Bytes) : Option Bytes :=
  if body.isEmpty then some [] else cs.foldr (fun c body? => body?.bind c.decodeOne?) (some body)

end Coding

end DomainPolicy.Http
