/-
BearerTokens.Http.Handler — carrying out what a request asks for.

`Command.perform` asks the service and makes a response of its answer. What
the service does not find, and what it fails at, ends the request instead.
-/
import BearerTokens.Http.Command
import BearerTokens.Service.Basic
import BearerTokens.Settings.Basic

namespace BearerTokens.Http

/-- What carrying something out comes to. -/
structure Outcome where
  result : Except Abort Response
  log : List Event
  service : Service
  links : Supply Link

/-- The end that a failure puts to a request. -/
def abortOf : Failure → Abort
  | .token e => .token e
  | failure => .unhandled (.failure failure)

/-- The outcome of a reply of the service, whose answer is made a response. -/
def Outcome.ofReply {α : Type} (links : Supply Link) (r : Reply Service α)
    (respond : α → Except Abort Response) : Outcome :=
  match r.answer with
  | .ok a => ⟨respond a, r.log, r.state, links⟩
  | .error failure => ⟨.error (abortOf failure), r.log, r.state, links⟩

/-- The same outcome after earlier reports. -/
def Outcome.after (log : List Event) (o : Outcome) : Outcome :=
  { o with log := log ++ o.log }

/-- A tenant in a message about something that was not found. -/
def withTenantName (t : Tenant) (message : String → String) : Abort :=
  match t.describe? with
  | some name => .status 404 (message name)
  | none => .unhandled (.failure .unnamedTenant)

/-! ## Commands -/

/-- Issue a token; its key is in the response. -/
def performCreate (codec : Codec) (c : Conditions) (s : Service) (links : Supply Link)
    (request : Request.Create) : Outcome :=
  let (link, links) := links.next
  .ofReply links (s.issue codec c (request.token link)) fun (key, _) =>
    .ok (.ok (.object [("token", .text key)]))

/-- Change a description. -/
def performDescribe (c : Conditions) (s : Service) (links : Supply Link)
    (request : Request.Describe) : Outcome :=
  .ofReply links (s.describe c request.link request.description none) fun
    | some e => .ok (.ok (tokenJson e))
    | none =>
      .error (.status 404 s!"Active token with token_link {request.link.value} not found")

/-- List a tenant's tokens. -/
def performList (c : Conditions) (s : Service) (links : Supply Link) (t : Tenant)
    (state source : String) : Outcome :=
  let (state, stateLog) := Tag.ofText state
  let (source, sourceLog) := Tag.ofText source
  (Outcome.ofReply links (s.list c t state source) fun entities =>
    .ok (.ok (.object [("tokens", .list (entities.map tokenJson))]))).after (stateLog ++ sourceLog)

/-- Look a token up. -/
def performGet (c : Conditions) (s : Service) (links : Supply Link) (t : Tenant) (l : Link) :
    Outcome :=
  .ofReply links (s.get c l (some t)) fun
    | some e => .ok (.ok (tokenJson e))
    | none =>
      .error (withTenantName t fun name => s!"Token with token_link {l.value} not found for {name}")

/-- Revoke a token. An empty link or key counts as none. -/
def performRevoke (codec : Codec) (c : Conditions) (s : Service) (links : Supply Link)
    (t : Tenant) (request : Request.Revoke) : Outcome :=
  let link := request.link.filter fun l => !l.value.isEmpty
  let key := request.key.filter fun k => !k.isEmpty
  if link.isNone && key.isNone then
    ⟨.error (.status 400 "token_link or token is required"), [], s, links⟩
  else
    .ofReply links (s.revoke codec c t link key) fun
      | some time => .ok (.ok (.object [("revoked", timeJson (some time))]))
      | none => .error (withTenantName t fun name => s!"No active token to revoke for {name}")

/-- Revoke all tokens of a tenant. -/
def performRevokeTenant (c : Conditions) (s : Service) (links : Supply Link) (t : Tenant) :
    Outcome :=
  .ofReply links (s.revokeTenant c t) fun count =>
    .ok (.ok (.object [("revoked_count", .int count)]))

/-- Carry out a command. -/
def Command.perform (codec : Codec) (c : Conditions) (s : Service) (links : Supply Link) :
    Command → Outcome
  | .authenticate key =>
    .ofReply links (s.authenticateOrRefuse codec c key) fun e => .ok (.ok (grantJson e))
  | .create request => performCreate codec c s links request
  | .describe request => performDescribe c s links request
  | .list t state source => performList c s links t state source
  | .get t l => performGet c s links t l
  | .revoke t request => performRevoke codec c s links t request
  | .revokeTenant t => performRevokeTenant c s links t

/-! ## Tasks -/

/-- The response of a service that does or does not reach its database. -/
def healthResponse (settings : Settings) (healthy : Bool) : Response :=
  .json (if healthy then 200 else 503)
    (.object [("status", .text (if healthy then "ok" else "unavailable")),
      ("version", .text settings.appVersion), ("service", .text settings.appName),
      ("database", .text (if healthy then "ok" else "unreachable"))]) []

/-- Do what there is to do for a request. -/
def Task.perform (settings : Settings) (c : Conditions) (s : Service) (links : Supply Link) :
    Task → Outcome
  | .ping =>
    .ofReply links (s.lift (Store.ping c s.session)) fun healthy =>
      .ok (healthResponse settings healthy)
  | .run codec command => command.perform codec c s links

end BearerTokens.Http
