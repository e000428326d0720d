import DomainPolicy.Server.App
import DomainPolicy.Settings.Cache

/-!
# Launching the service

* `launch` reads the settings of the process, creates the app, and says where it is to be served. If either fails, there
  is no `Plan`, and so nothing is served.
-/

namespace DomainPolicy

/-- What is served, and where. -/
structure Plan where
  app : Server.App
  host : Text
  port : Int
  title : String := serviceTitle
  version : String := serviceVersion
  deriving Repr

/-- Why nothing is served. -/
inductive LaunchError where
  | settings (cs : List Complaint)
  | app (e : Server.CreateError)
  deriving Repr

/-- The plan for an environment, and what is reported meanwhile. The database is opened only once the app is started. -/
def launch (digest : Bcrypt.Digest) (salt : String) (pages : Server.Pages) (environment : List (Text × Text)) :
    Except LaunchError Plan × List Record :=
  match (({} : Settings.Cache).get environment).2 with
  | .error cs => (.error (.settings cs), [])
  | .ok { settings, .. } =>
    match Server.App.create digest salt pages settings with
    | (.error e, records) => (.error (.app e), records)
    | (.ok app, records) => (.ok { app, host := settings.apiHost, port := settings.apiPort }, records)

end DomainPolicy
