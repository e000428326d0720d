/-!
# Ranges of code points

* A property of characters is kept as the ranges of code points that have it, by first and last.
-/

namespace DomainPolicy

abbrev Ranges := List (Nat × Nat)

/-- Whether a code point lies in one of the ranges. -/
def Ranges.holds (rs : Ranges) (n : Nat) : Bool := rs.any fun (first, last) => first ≤ n && n ≤ last

end DomainPolicy
