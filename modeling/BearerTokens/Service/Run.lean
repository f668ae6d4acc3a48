/-
BearerTokens.Service.Run — sequences of operations of the service.

A `Step` is an operation together with the conditions that it finds. `perform`
carries one out, `run` a list of them, whatever the single ones come to, and
`replies` lists what they came to.
-/
import BearerTokens.Service.Basic

namespace BearerTokens.Service

/-- An operation with its arguments. -/
inductive Operation
  | issue (token : PendingToken)
  | authenticate (key : String)
  | authenticateOrRefuse (key : String)
  | list (tenant : Tenant) (state : State) (source : Source)
  | get (link : Link) (tenant : Option Tenant)
  | describe (link : Link) (description : String) (tenant : Option Tenant)
  | revoke (tenant : Tenant) (link : Option Link) (key : Option String)
  | revokeTenant (tenant : Tenant)

/-- The answers of operations. -/
inductive Answer
  | issued (key : String) (entity : Entity)
  | entity (entity : Option Entity)
  | entities (entities : List Entity)
  | time (time : Option Timestamp)
  | count (n : Nat)
deriving DecidableEq

/-- An operation and the conditions that it finds. -/
structure Step where
  conditions : Conditions
  operation : Operation

/-- Carry out one step. -/
def perform (codec : Codec) (step : Step) (s : Service) : Reply Service Answer :=
  let c := step.conditions
  match step.operation with
  | .issue token => (issue codec c s token).map fun (key, e) => .issued key e
  | .authenticate key => (authenticate codec c s key).map .entity
  | .authenticateOrRefuse key =>
    (authenticateOrRefuse codec c s key).map fun e => .entity (some e)
  | .list t state source => (list c s t state source).map .entities
  | .get l t => (get c s l t).map .entity
  | .describe l description t => (describe c s l description t).map .entity
  | .revoke t link key => (revoke codec c s t link key).map .time
  | .revokeTenant t => (revokeTenant c s t).map .count

/-- The service after one step. -/
def next (codec : Codec) (s : Service) (step : Step) : Service :=
  (perform codec step s).state

/-- The service after a list of steps. -/
def run (codec : Codec) (s : Service) (steps : List Step) : Service :=
  steps.foldl (next codec) s

/-- What the steps of a list come to, one after the other. -/
def replies (codec : Codec) (s : Service) : List Step → List (Reply Service Answer)
  | [] => []
  | step :: rest =>
    let r := perform codec step s
    r :: replies codec r.state rest

end BearerTokens.Service
