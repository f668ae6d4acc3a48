/-
BearerTokens.Http.Server — one request after another.

A `Server` holds what lasts from one request to the next: the settings, the
committed table, if there is one, and the supplies of random numbers, links and
request ids. A server finds the table when it starts or, if the settings say so,
makes it; later nothing makes or removes it.

Every request has a session of its own, which is committed if the request was
answered as asked and rolled back otherwise.

Each request has an id, its own or a fresh one, which is sent back and logged.
A request that fails for a reason nobody has foreseen is logged as failed and
answered without an id.
-/
import BearerTokens.Http.Handler

namespace BearerTokens.Http

/-- What lasts from one request to the next. Without a table every statement about
the rows fails. -/
structure Server where
  settings : Settings
  threshold : Nat
  tableReady : Bool
  rows : List Row
  draws : Draws
  links : Supply Link
  ids : Supply String

/-- The answer to a request, what it reports, and the server after it. -/
structure Exchange where
  response : Response
  unhandled : Option Unhandled
  log : List Event
  server : Server

namespace Server

/-! ## Starting and stopping -/

/-- Why a server does not start. -/
inductive StartError
  | level (error : Settings.UnknownLevel)
  | noName
  | noVersion
deriving DecidableEq, Repr

/-- The text for people. -/
def StartError.message : StartError → String
  | level e => e.message
  | noName => "A title must be provided for OpenAPI, e.g.: 'My API'"
  | noVersion => "A version must be provided for OpenAPI, e.g.: '2.1.0'"

/-- A server on a database that holds this table or none; it must have a name and a
version. A table that is missing is made, and is empty, if the settings say so. -/
def start (settings : Settings) (table? : Option (List Row)) (draws : Draws)
    (links : Supply Link) (ids : Supply String) : Except StartError Server :=
  match settings.logThreshold with
  | .error e => .error (.level e)
  | .ok threshold =>
    if settings.appName.isEmpty then .error .noName
    else if settings.appVersion.isEmpty then .error .noVersion
    else
      .ok {
        settings := settings
        threshold := threshold
        tableReady := table?.isSome || settings.createTables
        rows := table?.getD []
        draws := draws
        links := links
        ids := ids }

/-- The events of a list that are logged. -/
def logged (s : Server) (events : List Event) : List Event :=
  keptFrom s.threshold events

/-- What is logged when the server starts. -/
def startLog (s : Server) : List Event :=
  let schema := if s.settings.createTables then [Event.schemaReady] else []
  s.logged (schema ++ [.started s.settings.appName s.settings.appVersion])

/-- What is logged when the server stops. -/
def stopLog (s : Server) : List Event :=
  s.logged [.stopped s.settings.appName]

/-- The codec of the settings. -/
def codec (s : Server) : Except CodecFault Codec :=
  match s.settings.codecConfig with
  | .error e => .error (.config e)
  | .ok config =>
    match Codec.ofConfig config with
    | .error e => .error (.salt e)
    | .ok codec => .ok codec

/-! ## Answering -/

/-- The response that the end of a request becomes, and what is reported. -/
def respond : Except Abort Response → Except Unhandled Response × List Event
  | .ok r => (.ok r, [])
  | .error (.token e) => (.ok (errorResponse e), if 500 ≤ e.status then [.serviceFailed e] else [])
  | .error (.status status detail) => (.ok (detailResponse status detail []), [])
  | .error (.issues issues) => (.ok (issuesResponse issues), [])
  | .error (.unhandled e) => (.error e, [])

/-- A response that can be written. -/
def written (r : Except Unhandled Response) : Except Unhandled Response :=
  match r with
  | .ok r =>
    match r.flaw? with
    | none => .ok r
    | some e => .error e
  | .error e => .error e

/-- What a request on a known route comes to. -/
def runRoute (s : Server) (c : Conditions) (route : Route) (params : List String) (r : Request) :
    Outcome :=
  let service : Service := ⟨.opened s.rows, s.draws⟩
  let understood := Task.read s.codec route.endpoint params r
  match understood.result with
  | .error a => ⟨.error a, understood.log, service, s.links⟩
  | .ok task => (task.perform s.settings c service s.links).after understood.log

/-- The server after an outcome: what was answered as asked is committed. -/
def settle (s : Server) (o : Outcome) : Server :=
  let session := match o.result with
    | .ok _ => o.service.session.commit
    | .error _ => o.service.session.rollback
  { s with rows := session.committed, draws := o.service.draws, links := o.links }

/-- The characters that stand for themselves in a location. -/
def keptInLocation (c : Char) : Bool :=
  Text.isUnreserved c || ":/%#?=@[]!$&'()*+,;".toList.contains c

/-- Where a request is sent on to: the same host, another path, and the query. -/
def locationOf (host path query : String) : String :=
  let query := if query.isEmpty then "" else "?" ++ query
  Text.percentEncodeKeeping keptInLocation ("http://" ++ host ++ Request.urlPath path ++ query)

/-- The answer to a request before its id is added, what it reports, and the
server after it. -/
def answer (s : Server) (c : Conditions) (r : Request) :
    Except Unhandled Response × List Event × Server :=
  match find r.method r.path with
  | .found route params =>
    let o := s.runRoute c route params r
    let (response, log) := respond o.result
    (written response, o.log ++ log, s.settle o)
  | .otherMethod allowed =>
    (.ok (detailResponse 405 "Method Not Allowed" [("allow", allowed)]), [], s)
  | .elsewhere path =>
    (.ok ⟨307, [("location", locationOf r.host path r.query)], .empty⟩, [], s)
  | .nowhere => (.ok (detailResponse 404 "Not Found" []), [], s)

/-- Paths whose requests are not logged when they are answered. -/
def quietPaths : List String :=
  ["/healthcheck", "/docs", "/redoc", "/openapi.json"]

/-- The id of a request, and the supply of ids after it. -/
def requestId (s : Server) (r : Request) : String × Supply String :=
  match r.header? "x-request-id" with
  | some id => if id.isEmpty then s.ids.next else (id, s.ids)
  | none => s.ids.next

/-- The conditions that a request finds. -/
def conditions (s : Server) (now : Instant) (fault : Option Fault) : Conditions :=
  ⟨now, fault, s.tableReady⟩

@[simp] theorem tableReady_conditions (s : Server) (now : Instant) (fault : Option Fault) :
    (s.conditions now fault).tableReady = s.tableReady := rfl

@[simp] theorem fault_conditions (s : Server) (now : Instant) (fault : Option Fault) :
    (s.conditions now fault).fault = fault := rfl

/-- What the server does with a request. -/
def handle (s : Server) (now : Instant) (fault : Option Fault) (r : Request) : Exchange :=
  let (id, ids) := s.requestId r
  let (response, log, after) := s.answer (s.conditions now fault) r
  let after := { after with ids := ids }
  let path := r.loggedPath
  let milliseconds := r.milliseconds
  match response with
  | .ok response =>
    let line := if quietPaths.contains path then []
      else [Event.requestAnswered id r.method path response.status milliseconds]
    ⟨response.withHeader "x-request-id" id, none, s.logged (log ++ line), after⟩
  | .error e =>
    let line := Event.requestFailed id r.method path milliseconds
    ⟨.internalError, some e, s.logged (log ++ [line]), after⟩

end Server
end BearerTokens.Http
