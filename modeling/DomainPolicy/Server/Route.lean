import DomainPolicy.Rule

/-!
# Routes

* Each `Route` is one path, one method and one `Action`; no two share a path.
* A `Page` describes the service. What it shows is made outside (`Pages`).
* `Route.find` looks a request up. A known path with another method is refused, and a path that is known but for the
  slashes at its end is redirected.
-/

namespace DomainPolicy.Server

/-- What is done to a list. -/
inductive Effect where
  | add
  | remove
  deriving DecidableEq, Repr

inductive Action where
  | health
  | ready
  | edit (effect : Effect) (kind : RuleKind)
  | view (kind : RuleKind)
  deriving DecidableEq, Repr

inductive Method where
  | get
  | post
  deriving DecidableEq, Repr

def Method.text : Method → String
  | get => "GET"
  | post => "POST"

/-- The first part of the paths that need a token. -/
def adminPath : String := "/api/v1/admin"

namespace Action

def method : Action → Method
  | edit .. => .post
  | _ => .get

def path : Action → String
  | health => "/healthz"
  | ready => "/readyz"
  | edit .add .allowed => adminPath ++ "/allow"
  | edit .remove .allowed => adminPath ++ "/disallow"
  | edit .add .blocked => adminPath ++ "/block"
  | edit .remove .blocked => adminPath ++ "/unblock"
  | view .allowed => adminPath ++ "/allowed"
  | view .blocked => adminPath ++ "/blocked"

def all : List Action :=
  [health, ready, edit .add .allowed, edit .remove .allowed, edit .add .blocked, edit .remove .blocked,
    view .allowed, view .blocked]

theorem mem_all (a : Action) : a ∈ all := by
  rcases a with _ | _ | ⟨_ | _, _ | _⟩ | ⟨_ | _⟩ <;> simp [all]

/-- Whether a path is another one, which may end in one line feed. -/
def isPath (path known : String) : Bool := path = known || path = known ++ "\n"

/-- The action of a path. -/
def ofPath? (path : String) : Option Action := all.find? fun a => isPath path a.path

end Action

/-! ### Pages -/

/-- A page that describes the service. -/
inductive Page where
  | schema
  | guide
  | login
  | reference
  deriving DecidableEq, Repr

namespace Page

def path : Page → String
  | schema => "/openapi.json"
  | guide => "/docs"
  | login => "/docs/oauth2-redirect"
  | reference => "/redoc"

def all : List Page := [schema, guide, login, reference]

def contentType : Page → String
  | schema => "application/json"
  | _ => "text/html; charset=utf-8"

/-- The page of a path. -/
def ofPath? (path : String) : Option Page := all.find? fun p => Action.isPath path p.path

/-- Whether a page is shown to a method. -/
def isShownTo (method : String) : Bool := method = "GET" || method = "HEAD"

end Page

/-- The text of each page, and the order in which their two methods are named. Neither is the service's own. -/
structure Pages where
  schema : String := ""
  guide : String := ""
  login : String := ""
  reference : String := ""
  headFirst : Bool := false
  deriving DecidableEq, Repr

namespace Pages

def text (ps : Pages) : Page → String
  | .schema => ps.schema
  | .guide => ps.guide
  | .login => ps.login
  | .reference => ps.reference

/-- The methods of a page. -/
def methods (ps : Pages) : String := if ps.headFirst then "HEAD, GET" else "GET, HEAD"

end Pages

/-! ### Looking up -/

namespace Route

/-- A path without the slashes at its end, or, if there are none, with one. -/
def otherSlash (path : String) : String :=
  if path.toList.getLast? = some '/' then String.ofList (Blank.dropEnd (· == '/') path.toList) else path ++ "/"

def isKnown (path : String) : Bool := (Action.ofPath? path).isSome || (Page.ofPath? path).isSome

/-- What a request finds. -/
inductive Found where
  | action (a : Action)
  | otherMethod (allowed : Method)
  | page (p : Page)
  | otherPageMethod
  | elsewhere (path : String)
  | nothing
  deriving DecidableEq, Repr

def find (method path : String) : Found :=
  match Action.ofPath? path with
  | some a => if method = a.method.text then .action a else .otherMethod a.method
  | none =>
    match Page.ofPath? path with
    | some p => if Page.isShownTo method then .page p else .otherPageMethod
    | none => if path ≠ "/" ∧ isKnown (otherSlash path) then .elsewhere (otherSlash path) else .nothing

end Route

end DomainPolicy.Server
