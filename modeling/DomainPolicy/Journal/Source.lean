/-!
# Sources of events

* Every source lies below the root, which has no name of its own, and below those whose names its own name begins with,
  as its full stops say (`Source.lineage`).
-/

namespace DomainPolicy.Source

def isRoot (source : String) : Bool := source = "" || source = "root"

/-- The name of a source in a record. -/
def shown (source : String) : String := if isRoot source then "root" else source

/-- The names above a name that is read backwards, the nearest first: what stands before a full stop, if that is
anything. The character before a full stop ends no name. -/
def above : List Char → List (List Char)
  | '.' :: c :: before => (c :: before).reverse :: above before
  | _ :: before => above before
  | [] => []

/-- A source and those that it lies below, the nearest first, but for the root. -/
def lineage (source : String) : List String :=
  if isRoot source then [] else source :: (above source.toList.reverse).map String.ofList

end DomainPolicy.Source
