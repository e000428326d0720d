import DomainPolicy.Settings.Basic

/-!
# Settings of the process

* The settings are read from the environment when they are first asked for, and kept. Each reading that succeeds makes
  a new instance, with a number of its own; one that fails is not kept.
-/

namespace DomainPolicy.Settings

/-- Settings that are kept, with the number of their instance. -/
structure Instance where
  number : Nat
  settings : Settings
  deriving DecidableEq, Repr

/-- The settings kept, if any, and the number of the next instance. -/
structure Cache where
  kept : Option Instance := none
  next : Nat := 0
  deriving DecidableEq, Repr

namespace Cache

/-- The settings: those kept, else those of the environment. -/
def get (c : Cache) (environment : List (Text × Text)) : Cache × Checked Instance :=
  match c.kept with
  | some i => (c, .ok i)
  | none =>
    match Settings.ofEnvironment environment with
    | .ok s => let i : Instance := ⟨c.next, s⟩; (⟨some i, c.next + 1⟩, .ok i)
    | .error e => (c, .error e)

/-- Forgets the settings. -/
def clear (c : Cache) : Cache := { c with kept := none }

end Cache

end DomainPolicy.Settings
