/-
BearerTokens.Service.Basic — issuing, checking, listing and revoking tokens.

The service puts the codec and the store together. Each operation commits what
it changes, so that nothing is pending when it is over. Reports name tokens by
link and tenants by their text; keys are not in them, and a hash only where a
missing table has the statement about it quoted.
-/
import BearerTokens.Store.Basic

namespace BearerTokens

/-- A session on the table, and the random numbers for new secrets. -/
structure Service where
  session : Session
  draws : Draws

namespace Service

variable (codec : Codec) (c : Conditions)

/-- The service with another session. -/
def withSession (s : Service) (session : Session) : Service :=
  { s with session := session }

@[simp] theorem session_withSession (s : Service) (session : Session) :
    (s.withSession session).session = session := rfl

@[simp] theorem draws_withSession (s : Service) (session : Session) :
    (s.withSession session).draws = s.draws := rfl

/-- A reply of the store as one of the service. -/
def lift {α : Type} (s : Service) (r : Reply Session α) : Reply Service α :=
  ⟨r.answer, r.log, s.withSession r.state⟩

/-! ## Issuing -/

/-- Issue a token: its key, which is shown this once, and what is stored. -/
def issue (s : Service) (token : PendingToken) : Reply Service (String × Entity) :=
  match codec.issue s.draws with
  | (.error e, draws) => ⟨.error (.hashing e), [], { s with draws := draws }⟩
  | (.ok issued, draws) =>
    let r := Store.insert c s.session issued.hash token
    match r.answer with
    | .error e => ⟨.error e, r.log, ⟨r.state, draws⟩⟩
    | .ok entity =>
      let report := Event.issued entity.link token.metadata.scope entity.metadata.paymentType
        entity.metadata.source
      ⟨.ok (issued.key, entity), r.log ++ [report], ⟨r.state.commit, draws⟩⟩

/-! ## Checking keys -/

/-- The token of a hash, whose use is made permanent if there is one. -/
def useHash (s : Service) (h : StorageHash) : Reply Service (Option Entity) :=
  let r := Store.recordUse c s.session h
  match r.answer with
  | .ok (some _) => ⟨r.answer, r.log, s.withSession r.state.commit⟩
  | _ => s.lift r

/-- The active token of a key. -/
def authenticate (s : Service) (key : String) : Reply Service (Option Entity) :=
  let v := codec.check key
  match v.hash? with
  | .error e => ⟨.error (.hashing e), v.log, s⟩
  | .ok none => ⟨.ok none, v.log, s⟩
  | .ok (some h) =>
    let r := useHash c s h
    { r with log := v.log ++ r.log }

/-- Why the token of a hash is not an active one: it was revoked, or there is none. -/
def refuse (s : Service) (h : StorageHash) : Reply Service Entity :=
  let r := Store.byHash c s.session h
  match r.answer with
  | .error e => ⟨.error e, r.log, s.withSession r.state⟩
  | .ok none => ⟨.error (.token .unknownKey), r.log, s.withSession r.state⟩
  | .ok (some e) =>
    if e.isRevoked then
      ⟨.error (.token (.revoked e.link)), r.log ++ [.revokedKeyUsed e.link], s.withSession r.state⟩
    else ⟨.error (.token .unknownKey), r.log, s.withSession r.state⟩

/-- The active token of a key, or else what is wrong with the key. -/
def authenticateOrRefuse (s : Service) (key : String) : Reply Service Entity :=
  let v := codec.check key
  match v.hash? with
  | .error e => ⟨.error (.hashing e), v.log, s⟩
  | .ok none => ⟨.error (.token .unknownKey), v.log, s⟩
  | .ok (some h) =>
    let r := useHash c s h
    match r.answer with
    | .error e => ⟨.error e, v.log ++ r.log, r.state⟩
    | .ok (some e) => ⟨.ok e, v.log ++ r.log, r.state⟩
    | .ok none =>
      let refusal := refuse c r.state h
      { refusal with log := v.log ++ r.log ++ refusal.log }

/-! ## Look-ups -/

/-- A tenant's tokens in one state from one source, the newest first. -/
def list (s : Service) (t : Tenant) (state : State) (source : Source) :
    Reply Service (List Entity) :=
  s.lift (Store.listing c s.session t state source)

/-- The token of a link, of the tenant if one is given. -/
def get (s : Service) (l : Link) (t : Option Tenant) : Reply Service (Option Entity) :=
  s.lift (Store.byLink c s.session l t)

/-! ## Changes -/

/-- Change the description of an active token; the token, if there was one. -/
def describe (s : Service) (l : Link) (description : String) (t : Option Tenant) :
    Reply Service (Option Entity) :=
  let r := Store.describe c s.session l description t
  match r.answer with
  | .error e => ⟨.error e, r.log, s.withSession r.state⟩
  | .ok false => ⟨.ok none, r.log, s.withSession r.state⟩
  | .ok true =>
    let found := Store.byLink c r.state.commit l t
    ⟨found.answer, r.log ++ .descriptionUpdated l :: found.log, s.withSession found.state⟩

/-- Report that something was revoked, and answer; a tenant without a text
cannot be reported. It is assumed that the log takes the report, makes its text at
once and passes the error of a tenant without one on, which then stands in the
place of the answer. -/
def reportRevoked {α : Type} (s : Service) (t : Tenant) (event : String → Event) (answer : α)
    (log : List Event) : Reply Service α :=
  match t.describe? with
  | some name => ⟨.ok answer, log ++ [event name], s⟩
  | none => ⟨.error .unnamedTenant, log, s⟩

/-- Revoke a tenant's active token of that name; the time, if there was one. -/
def revokeNamed (s : Service) (t : Tenant) (i : Identifier) : Reply Service (Option Timestamp) :=
  let r := Store.revoke c s.session t i
  match r.answer with
  | .error e => ⟨.error e, r.log, s.withSession r.state⟩
  | .ok none => ⟨.ok none, r.log, s.withSession r.state.commit⟩
  | .ok (some time) =>
    reportRevoked (s.withSession r.state.commit) t (.revokedOne i.column) (some time) r.log

/-- Revoke a tenant's active token by its link or, if that is not given, by its key. -/
def revoke (s : Service) (t : Tenant) (link : Option Link) (key : Option String) :
    Reply Service (Option Timestamp) :=
  match link, key with
  | some l, _ => revokeNamed c s t (.link l)
  | none, none => ⟨.error .noIdentifier, [], s⟩
  | none, some key =>
    let v := codec.check key
    match v.hash? with
    | .error e => ⟨.error (.hashing e), v.log, s⟩
    | .ok none => ⟨.ok none, v.log, s⟩
    | .ok (some h) =>
      let r := revokeNamed c s t (.hash h)
      { r with log := v.log ++ r.log }

/-- Revoke all active tokens of a tenant; how many there were. -/
def revokeTenant (s : Service) (t : Tenant) : Reply Service Nat :=
  let r := Store.revokeTenant c s.session t
  match r.answer with
  | .error e => ⟨.error e, r.log, s.withSession r.state⟩
  | .ok count =>
    reportRevoked (s.withSession r.state.commit) t (.revokedAll count) count r.log

end Service
end BearerTokens
