import DomainPolicy.Rule
import DomainPolicy.Text.Utf8

/-!
# The table of rules

* A row holds a number, a domain and a kind; no two rows of a table share domain and kind.
* `Table.add` appends the domains that are not there yet, numbered on from the largest number present, and
  `Table.remove` deletes rows; neither touches another row.
* `Table.list` gives the domains of a kind in the order of their UTF-8 bytes.
-/

namespace DomainPolicy

structure Row where
  id : Nat
  domain : String
  kind : RuleKind
  deriving DecidableEq, Repr

/-- Rows in the order of their numbers. -/
abbrev Table := List Row

namespace Table

def contains (t : Table) (kind : RuleKind) (domain : String) : Bool :=
  t.any fun r => r.kind = kind ∧ r.domain = domain

/-- The number of the next row. -/
def nextId (t : Table) : Nat := (t.map Row.id).foldl max 0 + 1

/-- Appends a row, unless its domain and kind are there. -/
def insert (kind : RuleKind) (t : Table) (domain : String) : Table :=
  if t.contains kind domain then t else t ++ [⟨t.nextId, domain, kind⟩]

/-- Appends what a list of domains names and is not there. -/
def add (t : Table) (kind : RuleKind) (domains : List Text) : Table :=
  (Domain.storable domains).foldl (insert kind) t

/-- Deletes what a list of domains names. -/
def remove (t : Table) (kind : RuleKind) (domains : List Text) : Table :=
  t.filter fun r => ¬(r.kind = kind ∧ r.domain ∈ Domain.storable domains)

/-- The domains of a kind. -/
def list (t : Table) (kind : RuleKind) : List String :=
  ((t.filter (·.kind = kind)).map Row.domain).mergeSort Utf8.le

end Table

end DomainPolicy
