/-
BearerTokens.Http.Command — what a request asks for.

`Task.read` makes a command out of a route, its parameters and a request.
Several things can be wrong with one request, and the order in which they are
looked at is fixed: first whether the body is JSON at all, then the tenant in
the path, then whether there is a codec, and last, together, the parameters of
the path and the fields of the body. Where a key is asked for, it is looked at
before the codec.
-/
import BearerTokens.Http.Route
import BearerTokens.Http.Body
import BearerTokens.Http.Response
import BearerTokens.Request.Create
import BearerTokens.Request.Edit

namespace BearerTokens.Http

/-- What can be asked of the tokens. States and sources are still as they were sent. -/
inductive Command
  | authenticate (key : String)
  | create (request : Request.Create)
  | describe (request : Request.Describe)
  | list (tenant : Tenant) (state source : String)
  | get (tenant : Tenant) (link : Link)
  | revoke (tenant : Tenant) (request : Request.Revoke)
  | revokeTenant (tenant : Tenant)
deriving DecidableEq

/-- A command, or the reason why there is none; and reports. -/
structure Understood (α : Type) where
  result : Except Abort α
  log : List Event

namespace Understood

variable {α β : Type}

/-- Go on with what was understood. -/
def bind (u : Understood α) (next : α → Understood β) : Understood β :=
  match u.result with
  | .error a => ⟨.error a, u.log⟩
  | .ok a =>
    let v := next a
    ⟨v.result, u.log ++ v.log⟩

/-- Something was understood. -/
def ok (a : α) : Understood α := ⟨.ok a, []⟩

/-- Nothing was understood. -/
def abort (a : Abort) : Understood α := ⟨.error a, []⟩

instance : Monad Understood where
  pure := ok
  bind := bind

end Understood

/-! ## Parts of a request -/

/-- What the body holds; malformed JSON is an issue on its own. -/
def content (r : Request) : Understood Content :=
  match readBody r with
  | .ok content => .ok content
  | .error .malformed => .abort (.issues [⟨.notJson, ["body"], .object []⟩])
  | .error .unreadable => .abort (.status 400 "There was an error parsing the body")

/-- The codec, without which the tokens are out of reach. -/
def requireCodec (codec : Except CodecFault Codec) : Understood Codec :=
  match codec with
  | .ok codec => .ok codec
  | .error fault => .abort (.unhandled (.codec fault))

/-- The tenant of a path, or the issues with the parameters that name it. -/
abbrev PathTenant := Except (List Request.Issue) Tenant

/-- Check the length of a parameter that names a tenant. -/
def pathIssues (name value : String) : List Request.Issue :=
  if Request.nameLimit < value.length then
    [⟨.tooLong Request.nameLimit, ["path", name], .text value⟩]
  else []

/-- The account that a path names. -/
def accountOf (id : String) : PathTenant :=
  match pathIssues "account_id" id with
  | [] => .ok (.account id)
  | issues => .error issues

/-- The service that a path names; a mode that is unknown ends the request. -/
def serviceOf (id mode : String) : Understood PathTenant :=
  match pathIssues "service_external_id" id with
  | [] =>
    match Mode.ofText mode with
    | .ok mode => .ok (.ok (.service (some id) (some mode)))
    | .error e => .abort (.status 422 e.message)
  | issues => .ok (.error issues)

/-- The tenant that a path names, and the parameters after it. -/
def tenantOf (scope : Scope) (params : List String) : Understood (PathTenant × List String) :=
  match scope, params with
  | .account, id :: rest => .ok (accountOf id, rest)
  | .service, id :: mode :: rest => do
    let tenant ← serviceOf id mode
    return (tenant, rest)
  | _, _ => .abort (.status 404 "Not Found")

/-- The tenant of a path without issues. -/
def requireTenant (t : PathTenant) : Understood Tenant :=
  match t with
  | .ok t => .ok t
  | .error issues => .abort (.issues issues)

/-- The issues with the body of a request, seen from the whole request. -/
def inBody (issues : List Request.Issue) : List Request.Issue :=
  issues.map (·.within "body")

/-- The fields of a body, checked; `before` are issues found earlier. -/
def checkBody {α : Type} (before : List Request.Issue)
    (check : Json.Fields → Request.Checked α) (content : Content) : Understood α :=
  match content with
  | .absent => .abort (.issues (before ++ [⟨.missing, ["body"], .null⟩]))
  | .value v => .abort (.issues (before ++ [⟨.notObject, ["body"], v⟩]))
  | .binary => .abort (.unhandled .notUtf8)
  | .fields fields =>
    let checked := check fields
    match checked.result, before with
    | .ok a, [] => ⟨.ok a, checked.log⟩
    | .ok _, before => ⟨.error (.issues before), checked.log⟩
    | .error (.issues issues), before => ⟨.error (.issues (before ++ inBody issues)), checked.log⟩
    | .error (.notText e), _ => ⟨.error (.unhandled (.notText e)), checked.log⟩

/-! ## Commands -/

/-- The issues with the parameters of a path. -/
def PathTenant.issues : PathTenant → List Request.Issue
  | .ok _ => []
  | .error issues => issues

/-- What there is to do for a request: to see whether the database answers, or
to carry out a command on the tokens. -/
inductive Task
  | ping
  | run (codec : Codec) (command : Command)

/-- The task of a request on the route that was found for it. -/
def Task.read (codec : Except CodecFault Codec) (endpoint : Endpoint) (params : List String)
    (r : Request) : Understood Task :=
  match endpoint with
  | .health => .ok .ping
  | .authenticate =>
    match r.bearerKey? with
    | none => .abort (.token .unknownKey)
    | some key => do
      let codec ← requireCodec codec
      return .run codec (.authenticate key)
  | .create => do
    let content ← content r
    let codec ← requireCodec codec
    let request ← checkBody [] (fun fields => (Request.Draft.ofFields fields).check) content
    return .run codec (.create request)
  | .describe => do
    let content ← content r
    let codec ← requireCodec codec
    let request ← checkBody [] Request.Describe.check content
    return .run codec (.describe request)
  | .list scope => do
    let (tenant, _) ← tenantOf scope params
    let codec ← requireCodec codec
    let tenant ← requireTenant tenant
    let state := (queryValue? "state" r.query).getD "active"
    let source := (queryValue? "type" r.query).getD "API"
    return .run codec (.list tenant state source)
  | .get scope => do
    let (tenant, rest) ← tenantOf scope params
    let codec ← requireCodec codec
    let tenant ← requireTenant tenant
    return .run codec (.get tenant ⟨rest.headD ""⟩)
  | .revokeTenant scope => do
    let (tenant, _) ← tenantOf scope params
    let codec ← requireCodec codec
    let tenant ← requireTenant tenant
    return .run codec (.revokeTenant tenant)
  | .revoke scope => do
    let content ← content r
    let (tenant, _) ← tenantOf scope params
    let codec ← requireCodec codec
    let request ← checkBody tenant.issues Request.Revoke.check content
    let tenant ← requireTenant tenant
    return .run codec (.revoke tenant request)

end BearerTokens.Http
