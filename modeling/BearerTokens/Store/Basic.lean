/-
BearerTokens.Store.Basic — the table of tokens as one connection sees it.

A `Session` holds two versions of the table: what was committed last, and what
the connection has made of it since. Every change is one conditional update,
`updateWhere`; every one of them leaves revoked rows alone, and every look-up
that is given a tenant looks at the rows of that tenant only.

Nothing here commits. Three failures undo what is not committed: a new row
that collides, a use that cannot be recorded, and a ping that is not answered.
-/
import BearerTokens.Store.Statement

namespace BearerTokens

/-! ## Rows -/

/-- Is the row one of the tenant's? -/
def Tenant.owns (t : Tenant) (r : Row) : Bool :=
  match t with
  | .account id => r.metadata.accountId == some id
  | .service id mode => r.metadata.serviceId == id && r.metadata.mode == mode

/-- Is the row one of the tenant's, if one is given? -/
def ownedBy (t : Option Tenant) (r : Row) : Bool :=
  t.all fun t => t.owns r

/-- Is this the row's name? -/
def Identifier.names (i : Identifier) (r : Row) : Bool :=
  match i with
  | .link l => r.link == l
  | .hash h => r.hash == h

/-- Is the row in this state? -/
def State.holds (s : State) (r : Row) : Bool :=
  match s with
  | .active => r.isActive
  | .revoked => !r.isActive

/-- The row of a new token. -/
def Row.ofPending (now : Instant) (h : StorageHash) (token : PendingToken) : Row where
  hash := h
  link := token.link
  metadata := token.metadata
  issued := now
  lastUsed := none
  revoked := none

/-- The row after it was used. -/
def Row.used (now : Instant) (r : Row) : Row :=
  { r with lastUsed := some now }

/-- The row with another description. -/
def Row.described (description : String) (r : Row) : Row :=
  { r with metadata := { r.metadata with description := description } }

/-- The row after it was revoked. -/
def Row.ended (now : Instant) (r : Row) : Row :=
  { r with revoked := some now }

/-- Change the rows that satisfy a condition. -/
def updateWhere (p : Row → Bool) (f : Row → Row) (rows : List Row) : List Row :=
  rows.map fun r => if p r then f r else r

/-- Of two rows, may the first be listed before the second? Newer rows come
first, and rows of one instant in the order of their links. -/
def Row.listedBefore (a b : Row) : Bool :=
  b.issued < a.issued || (a.issued == b.issued && a.link.value ≤ b.link.value)

/-! ## Sessions -/

/-- The committed table, and the table as the connection has changed it. -/
structure Session where
  committed : List Row
  rows : List Row
deriving DecidableEq

namespace Session

/-- A session that has changed nothing. -/
def opened (rows : List Row) : Session := ⟨rows, rows⟩

/-- A session on an empty table. -/
def empty : Session := opened []

/-- Make the changes permanent. -/
def commit (s : Session) : Session := { s with committed := s.rows }

/-- Undo the changes since the last commit. -/
def rollback (s : Session) : Session := { s with rows := s.committed }

/-- The session with changed rows. -/
def withRows (s : Session) (rows : List Row) : Session := { s with rows := rows }

@[simp] theorem rows_commit (s : Session) : s.commit.rows = s.rows := rfl

@[simp] theorem committed_commit (s : Session) : s.commit.committed = s.rows := rfl

@[simp] theorem rows_rollback (s : Session) : s.rollback.rows = s.committed := rfl

@[simp] theorem committed_rollback (s : Session) : s.rollback.committed = s.committed := rfl

@[simp] theorem rows_withRows (s : Session) (rows : List Row) : (s.withRows rows).rows = rows := rfl

@[simp] theorem committed_withRows (s : Session) (rows : List Row) :
    (s.withRows rows).committed = s.committed := rfl

end Session

/-! ## Conditions -/

/-- What an operation finds: the time, a disturbance, and whether there is a table.
All its statements find the same, so that a look-up that follows a change is not
disturbed unless the change was. -/
structure Conditions where
  now : Instant
  fault : Option Fault
  tableReady : Bool

namespace Conditions

/-- What the database refuses a look-up with. -/
def selectError? (c : Conditions) : Option DatabaseError :=
  match c.fault with
  | some .connection => some .unreachable
  | _ => if c.tableReady then none else some .noTable

/-- What the database refuses an update with. -/
def updateError? (c : Conditions) : Option DatabaseError :=
  match c.fault with
  | some .connection => some .unreachable
  | some .touch => some .locked
  | none => if c.tableReady then none else some .noTable

/-- What the database refuses a new row with. -/
def insertError? (c : Conditions) : Option DatabaseError :=
  if c.tableReady then none else some .noTable

/-- A new row is refused only where there is no table. -/
theorem insertError?_eq_none_iff {c : Conditions} : c.insertError? = none ↔ c.tableReady = true := by
  simp [insertError?]

end Conditions

/-! ## Operations -/

namespace Store

/-- A look-up: an answer about the rows, which stay as they are. -/
def select {α : Type} (c : Conditions) (s : Session) (query : List Row → α) : Reply Session α :=
  match c.selectError? with
  | some e => ⟨.error (.database e), [], s⟩
  | none => ⟨.ok (query s.rows), [], s⟩

/-- An update: an answer about the rows as they were, and a change of those
that satisfy a condition. -/
def update {α : Type} (c : Conditions) (s : Session) (p : Row → Bool) (f : Row → Row)
    (query : List Row → α) : Reply Session α :=
  match c.updateError? with
  | some e => ⟨.error (.database e), [], s⟩
  | none => ⟨.ok (query s.rows), [], s.withRows (updateWhere p f s.rows)⟩

/-- What is shown of the first row that satisfies a condition. -/
def firstEntity? (p : Row → Bool) (rows : List Row) : Option Entity :=
  (rows.find? p).map Row.entity

/-! ### Look-ups -/

/-- Is this the active row of the hash? -/
def isActiveHash (h : StorageHash) (r : Row) : Bool :=
  r.hash == h && r.isActive

/-- The token of a hash, in any state. -/
def byHash (c : Conditions) (s : Session) (h : StorageHash) : Reply Session (Option Entity) :=
  select c s (firstEntity? fun r => r.hash == h)

/-- The token of a link, in any state, of the tenant if one is given. -/
def byLink (c : Conditions) (s : Session) (l : Link) (t : Option Tenant) :
    Reply Session (Option Entity) :=
  select c s (firstEntity? fun r => r.link == l && ownedBy t r)

/-- Does the row belong into a listing? -/
def isListed (t : Tenant) (state : State) (source : Source) (r : Row) : Bool :=
  t.owns r && state.holds r && r.metadata.source == source

/-- A tenant's tokens in one state from one source, the newest first. -/
def listing (c : Conditions) (s : Session) (t : Tenant) (state : State) (source : Source) :
    Reply Session (List Entity) :=
  select c s fun rows =>
    ((rows.filter (isListed t state source)).mergeSort Row.listedBefore).map Row.entity

/-! ### Use -/

/-- The active token of a hash; that it was used is recorded. If it cannot be
recorded, that is reported and the token is looked up without it. -/
def recordUse (c : Conditions) (s : Session) (h : StorageHash) :
    Reply Session (Option Entity) :=
  match c.updateError? with
  | some e =>
    let r := select c s.rollback (firstEntity? (isActiveHash h))
    { r with log := .useNotRecorded ((Statement.recordUse c.now h).report e) :: r.log }
  | none =>
    let rows := updateWhere (isActiveHash h) (Row.used c.now) s.rows
    ⟨.ok (firstEntity? (isActiveHash h) rows), [], s.withRows rows⟩

/-! ### Changes -/

/-- Is the hash or the link of the row taken? -/
def collides (h : StorageHash) (l : Link) (r : Row) : Bool :=
  r.hash == h || r.link == l

/-- Store a new token. If its hash or its link is taken, nothing is stored and
what was not committed is undone. -/
def insert (c : Conditions) (s : Session) (h : StorageHash) (token : PendingToken) :
    Reply Session Entity :=
  match c.insertError? with
  | some e => ⟨.error (.database e), [], s.rollback⟩
  | none =>
    if s.rows.any (collides h token.link) then
      let scope := token.metadata.scope
      ⟨.error (.token (.storage s!"Could not store token for {scope}")), [.insertRefused scope],
        s.rollback⟩
    else
      let row := Row.ofPending c.now h token
      ⟨.ok row.entity, [], s.withRows (s.rows ++ [row])⟩

/-- Is this the active row of the link, of the tenant if one is given? -/
def isActiveLink (l : Link) (t : Option Tenant) (r : Row) : Bool :=
  r.link == l && r.isActive && ownedBy t r

/-- Change the description of an active token; was there one? -/
def describe (c : Conditions) (s : Session) (l : Link) (description : String)
    (t : Option Tenant) : Reply Session Bool :=
  update c s (isActiveLink l t) (Row.described description) (·.any (isActiveLink l t))

/-- Is this the tenant's active row of that name? -/
def isRevocable (t : Tenant) (i : Identifier) (r : Row) : Bool :=
  t.owns r && i.names r && r.isActive

/-- Revoke a tenant's active token; the time, if there was one. -/
def revoke (c : Conditions) (s : Session) (t : Tenant) (i : Identifier) :
    Reply Session (Option Timestamp) :=
  update c s (isRevocable t i) (Row.ended c.now) fun rows =>
    if rows.any (isRevocable t i) then some (.utc c.now) else none

/-- Is this an active row of the tenant? -/
def isActiveOf (t : Tenant) (r : Row) : Bool :=
  t.owns r && r.isActive

/-- Revoke all active tokens of a tenant; how many there were. -/
def revokeTenant (c : Conditions) (s : Session) (t : Tenant) : Reply Session Nat :=
  update c s (isActiveOf t) (Row.ended c.now) (·.countP (isActiveOf t))

/-! ### Transactions -/

/-- Make the changes permanent. -/
def commit (s : Session) : Reply Session Unit :=
  ⟨.ok (), [], s.commit⟩

/-- Undo the changes since the last commit. -/
def rollback (s : Session) : Reply Session Unit :=
  ⟨.ok (), [], s.rollback⟩

/-- Does the database answer? If it does not, that is reported and what was
not committed is undone. -/
def ping (c : Conditions) (s : Session) : Reply Session Bool :=
  match c.fault with
  | some .connection =>
    ⟨.ok false, [.pingFailed DatabaseError.unreachable.message], s.rollback⟩
  | _ => ⟨.ok true, [], s⟩

end Store
end BearerTokens
