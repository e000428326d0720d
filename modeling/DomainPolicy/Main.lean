import DomainPolicy.Launch

/-!
# The command

* The settings come from the variables `RELAY_…`, the salt of the credential from the system's random bytes. The
  records of the launch are written to the error stream, and what is to be served to the output.
-/

namespace DomainPolicy.Command

open Json (Value)

/-- The variables that are set, of those that settings are read from. -/
def environment : IO (List (Text × Text)) := do
  let names := Settings.fieldNames.map fun name => "RELAY_" ++ name.toUpper
  names.filterMapM fun name => do return (← IO.getEnv name).map fun value => (.ofString name, .ofString value)

/-- A salt from random bytes. -/
def salt : IO String := do
  return String.ofList (Bcrypt.Radix64.encode (← IO.getRandomBytes 16).toList)

def planValue (p : Plan) : Value :=
  .ofMembers [("title", .ofString p.title), ("version", .ofString p.version), ("host", .string p.host),
    ("port", .integer p.port), ("admin_enabled", .boolean p.app.isEnabled)]

/-- What stands in the way of a launch. -/
def problem : LaunchError → String
  | .settings cs => (Value.array (cs.map fun c => .ofMembers c.members)).compact
  | .app (.journal _) => "the log level is no level"
  | .app .secretForeign => "the secret is no text in UTF-8"
  | .app (.credential (.refused r)) => r.text ++ ": " ++ r.message
  | .app (.credential .roundsOutOfReach) => "the rounds are out of reach"

end DomainPolicy.Command

open DomainPolicy

def main : IO UInt32 := do
  let (result, records) := launch Bcrypt.digest (← Command.salt) {} (← Command.environment)
  for record in records do
    IO.eprintln (Json.Value.object record).compact
  match result with
  | .ok plan =>
    IO.println (Command.planValue plan).compact
    return 0
  | .error e =>
    IO.eprintln (Command.problem e)
    return 1
