/-
BearerTokens.Store.Run — sequences of operations on the table.

A `Step` is an operation together with the conditions that it finds. `perform`
carries one out and `run` a list of them, whatever the single ones come to.
-/
import BearerTokens.Store.Basic

namespace BearerTokens.Store

/-- An operation with its arguments. -/
inductive Operation
  | insert (hash : StorageHash) (token : PendingToken)
  | recordUse (hash : StorageHash)
  | byHash (hash : StorageHash)
  | byLink (link : Link) (tenant : Option Tenant)
  | listing (tenant : Tenant) (state : State) (source : Source)
  | describe (link : Link) (description : String) (tenant : Option Tenant)
  | revoke (tenant : Tenant) (identifier : Identifier)
  | revokeTenant (tenant : Tenant)
  | commit
  | rollback
  | ping

/-- The answers of operations. -/
inductive Answer
  | entity (entity : Option Entity)
  | entities (entities : List Entity)
  | flag (b : Bool)
  | time (time : Option Timestamp)
  | count (n : Nat)
  | done
deriving DecidableEq

/-- An operation and the conditions that it finds. -/
structure Step where
  conditions : Conditions
  operation : Operation

/-- Carry out one step. -/
def perform (step : Step) (s : Session) : Reply Session Answer :=
  let c := step.conditions
  match step.operation with
  | .insert h token => (insert c s h token).map fun e => .entity (some e)
  | .recordUse h => (recordUse c s h).map .entity
  | .byHash h => (byHash c s h).map .entity
  | .byLink l t => (byLink c s l t).map .entity
  | .listing t state source => (listing c s t state source).map .entities
  | .describe l description t => (describe c s l description t).map .flag
  | .revoke t i => (revoke c s t i).map .time
  | .revokeTenant t => (revokeTenant c s t).map .count
  | .commit => (commit s).map fun _ => .done
  | .rollback => (rollback s).map fun _ => .done
  | .ping => (ping c s).map .flag

/-- The session after one step. -/
def next (s : Session) (step : Step) : Session :=
  (perform step s).state

/-- The session after a list of steps. -/
def run (s : Session) (steps : List Step) : Session :=
  steps.foldl next s

end BearerTokens.Store
