/-!
# UTF-8 bytes of a string

* `Utf8.encode` writes a string as bytes.
* `Utf8.le` compares two strings by those bytes, which is how the store orders what it lists.
-/

namespace DomainPolicy

abbrev Bytes := List UInt8

namespace Utf8

def encode (s : String) : Bytes := s.toList.flatMap String.utf8EncodeChar

/-- The number of bytes of a string. -/
def size (s : String) : Nat := (encode s).length

/-- Strings in the order of their bytes. -/
def le (s t : String) : Bool := decide (encode s ≤ encode t)

end Utf8

end DomainPolicy
