/-
BearerTokens.Http.Route — which paths there are and what they are for.

The routes are data. A parameter stands for one segment of a path that is not
empty; the last literal of a route may be followed by one line feed in the
path. `find` looks for the first route that matches method and path; if only
the path is known, it names the method that the path has, and if a path is
known apart from slashes at its end, it sends there.
-/
import BearerTokens.Http.Request

namespace BearerTokens.Http

/-! ## Routes -/

/-- The two ways in which a path names a tenant. -/
inductive Scope
  | account
  | service
deriving DecidableEq, Repr

/-- What a route is for. -/
inductive Endpoint
  | health
  | authenticate
  | create
  | describe
  | list (scope : Scope)
  | get (scope : Scope)
  | revoke (scope : Scope)
  | revokeTenant (scope : Scope)
deriving DecidableEq, Repr

/-- One segment of a route. -/
inductive Segment
  | literal (name : String)
  | parameter
deriving DecidableEq, Repr

/-- A method, a path and what they are for. -/
structure Route where
  method : String
  path : List Segment
  endpoint : Endpoint
deriving DecidableEq, Repr

/-- Where tokens are administered. -/
def adminPath : List Segment :=
  [.literal "v1", .literal "frontend", .literal "auth"]

/-- Where the tokens of a service are administered. -/
def servicePath : List Segment :=
  adminPath ++ [.literal "service", .parameter, .literal "mode", .parameter]

/-- Where the tokens of an account are administered. -/
def accountPath : List Segment :=
  adminPath ++ [.parameter]

/-- All routes to the service, in the order in which they are tried. The pages that
describe its interface, `/openapi.json`, `/docs`, `/docs/oauth2-redirect` and
`/redoc`, are the framework's own and not among them; no path of theirs is one of
these. -/
def routes : List Route := [
  ⟨"GET", [.literal "healthcheck"], .health⟩,
  ⟨"GET", [.literal "v1", .literal "api", .literal "auth"], .authenticate⟩,
  ⟨"POST", adminPath, .create⟩,
  ⟨"PUT", adminPath, .describe⟩,
  ⟨"GET", servicePath, .list .service⟩,
  ⟨"GET", servicePath ++ [.parameter], .get .service⟩,
  ⟨"DELETE", servicePath ++ [.literal "all"], .revokeTenant .service⟩,
  ⟨"DELETE", servicePath, .revoke .service⟩,
  ⟨"GET", accountPath, .list .account⟩,
  ⟨"DELETE", accountPath ++ [.literal "all"], .revokeTenant .account⟩,
  ⟨"GET", accountPath ++ [.parameter], .get .account⟩,
  ⟨"DELETE", accountPath, .revoke .account⟩]

/-! ## Matching -/

/-- The segments of a path, if it starts with a slash. -/
def pathSegments? (path : String) : Option (List String) :=
  match Text.splitAt '/' path.toList with
  | [] :: segments => some (segments.map String.ofList)
  | _ => none

/-- The parameters that segments supply to a route. -/
def matchSegments : List Segment → List String → Option (List String)
  | [], [] => some []
  | [.literal name], [s] => if s == name || s == name ++ "\n" then some [] else none
  | .literal name :: route, s :: path => if s == name then matchSegments route path else none
  | .parameter :: route, s :: path =>
    if s.isEmpty then none else (matchSegments route path).map (s :: ·)
  | _, _ => none

/-- The parameters that a path supplies to a route. -/
def Route.params? (r : Route) (path : String) : Option (List String) :=
  (pathSegments? path).bind (matchSegments r.path)

/-! ## Finding -/

/-- Where a request goes. -/
inductive Destination
  | found (route : Route) (params : List String)
  /-- The path is known, with this method. -/
  | otherMethod (allowed : String)
  /-- This path is known, which lacks slashes at the end. -/
  | elsewhere (path : String)
  | nowhere
deriving DecidableEq, Repr

/-- The route and the parameters of a request, if there is one. -/
def findRoute? (method path : String) : Option (Route × List String) :=
  routes.findSome? fun r =>
    if r.method == method then (r.params? path).map fun params => (r, params) else none

/-- A path without the slashes at its end. -/
def withoutSlashes (path : String) : String :=
  String.ofList (Text.trimEndChars (· == '/') path.toList)

/-- Is there a route for the path? -/
def isKnown (path : String) : Bool :=
  routes.any fun r => (r.params? path).isSome

/-- Where a request goes. -/
def find (method path : String) : Destination :=
  match findRoute? method path with
  | some (route, params) => .found route params
  | none =>
    match routes.find? fun r => (r.params? path).isSome with
    | some r => .otherMethod r.method
    | none =>
      let shorter := withoutSlashes path
      if path != "/" && path.endsWith "/" && isKnown shorter then .elsewhere shorter else .nowhere

end BearerTokens.Http
