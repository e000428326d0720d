import DomainPolicy.Http.Address

/-!
# Hosts

* A host is a name, or an address in brackets, and may have a port after a colon (`Host.isValid`).
* The characters of a name are letters, digits and some signs. A port is a number of 16 bits.
-/

namespace DomainPolicy.Host

/-- Letters, digits and the signs that stand for themselves in a name. -/
def isNameChar (c : Char) : Bool := c.isAlphanum || "-._~!$&'()*+,;=".toList.contains c

/-- A name of plain characters and percent signs, whatever they stand in front of. -/
def isName (cs : List Char) : Bool := cs ≠ [] && cs.all fun c => isNameChar c || c = '%'

/-- An address of a kind still to come: a version and then what that version has. -/
def isFutureAddress (cs : List Char) : Bool :=
  match cs with
  | 'v' :: rest =>
    let (version, address) := Split.cut '.' rest
    version ≠ [] && version.all Hex.isDigit
      && address.any fun a => a ≠ [] && a.all fun c => isNameChar c || c = ':'
  | _ => false

/-- Nothing, or a colon and a number of 16 bits. -/
def isPort (cs : List Char) : Bool :=
  match cs with
  | [] => true
  | ':' :: digits => digits ≠ [] && digits.all Decimal.isDigit && Decimal.value digits ≤ 65535
  | _ => false

def isValid (cs : List Char) : Bool :=
  match cs with
  | '[' :: rest =>
    match Split.cut ']' rest with
    | (address, some port) => (Address.isV6 address || isFutureAddress address) && isPort port
    | (_, none) => false
  | _ =>
    let name := cs.takeWhile (· ≠ ':')
    isName name && isPort (cs.drop name.length)

end DomainPolicy.Host
