/-
BearerTokens.Token.Basic — tokens before, in and outside the table.

A token is known under two names: its link, which is public, and the hash of
its secret, under which it is stored. `Metadata` is what its owner says about
it, `PendingToken` adds a link and the proof that the token belongs to someone,
`Row` is a line of the table and `Entity` is what is shown of it. An entity
has no hash, so nothing that handles entities can show one.
-/
import BearerTokens.Token.Tenant
import BearerTokens.Time.Timestamp

namespace BearerTokens

/-! ## Names of a token -/

/-- The public name of a token. -/
structure Link where
  value : String
deriving DecidableEq, Repr

/-- The name under which a token is stored: a hash of its secret. -/
structure StorageHash where
  value : String
deriving DecidableEq, Repr

/-- Either name of a token. -/
inductive Identifier
  | link (link : Link)
  | hash (hash : StorageHash)
deriving DecidableEq, Repr

/-- The column of the table that holds names of this kind. -/
def Identifier.column : Identifier → String
  | link _ => "token_link"
  | hash _ => "token_hash"

/-! ## What a token says -/

/-- Is there a text, and is it not empty? -/
def hasText (s : Option String) : Bool :=
  s.any fun s => !s.isEmpty

/-- What the owner of a token says about it. -/
structure Metadata where
  description : String
  creator : String
  accountId : Option String
  serviceId : Option String
  mode : Option Mode
  paymentType : PaymentType
  source : Source
deriving DecidableEq, Repr

namespace Metadata

/-- Does the token name an account, or a service with its mode? -/
def HasScope (m : Metadata) : Prop :=
  hasText m.accountId = true ∨ (hasText m.serviceId = true ∧ m.mode ≠ none)

instance (m : Metadata) : Decidable m.HasScope :=
  inferInstanceAs (Decidable (_ ∨ _))

/-- The tenant that the token authorises; an account goes before a service. -/
def tenant (m : Metadata) : Tenant :=
  match m.accountId with
  | some id => if id.isEmpty then .service m.serviceId m.mode else .account id
  | none => .service m.serviceId m.mode

/-- The account and the service of a token, as far as it names them. -/
def scopeParts (m : Metadata) : List String :=
  let account := m.accountId.toList.filter fun id => !id.isEmpty
  let service := m.serviceId.toList.filter fun id => !id.isEmpty
  let mode := (m.mode.map Tag.name).getD "?"
  account.map (fun id => s!"account {id}") ++ service.map (fun id => s!"service {id} ({mode})")

/-- All that the token names, in one text. -/
def scope (m : Metadata) : String :=
  " / ".intercalate m.scopeParts

/-- A token with a scope has a tenant that can be named. -/
theorem isNamed_tenant {m : Metadata} (h : m.HasScope) : m.tenant.IsNamed := by
  unfold tenant
  split
  · rename_i id hid
    split
    · rename_i he
      rcases h with h | h
      · simp [hid, hasText, he] at h
      · exact (Tenant.isNamed_service_iff _ _).2 h.2
    · exact Tenant.isNamed_account id
  · rename_i hnone
    rcases h with h | h
    · simp [hnone, hasText] at h
    · exact (Tenant.isNamed_service_iff _ _).2 h.2

end Metadata

/-- A token that is about to be issued. -/
structure PendingToken where
  metadata : Metadata
  link : Link
  hasScope : metadata.HasScope
deriving DecidableEq

/-- A token would belong to no one. -/
inductive NoScope
  | noScope
deriving DecidableEq, Repr

/-- The text for people. -/
def NoScope.message : NoScope → String
  | noScope => "A token needs an account_id or a service_external_id with a service_mode"

/-- A new token, unless it would belong to no one. -/
def PendingToken.make (metadata : Metadata) (link : Link) : Except NoScope PendingToken :=
  if h : metadata.HasScope then .ok ⟨metadata, link, h⟩ else .error .noScope

/-! ## What is stored and what is shown -/

/-- A line of the table. -/
structure Row where
  hash : StorageHash
  link : Link
  metadata : Metadata
  issued : Instant
  lastUsed : Option Instant
  revoked : Option Instant
deriving DecidableEq, Repr

/-- May the token of the row still be used? -/
def Row.isActive (r : Row) : Bool :=
  r.revoked.isNone

/-- A token as it is shown. -/
structure Entity where
  link : Link
  metadata : Metadata
  issued : Option Timestamp
  lastUsed : Option Timestamp
  revoked : Option Timestamp
deriving DecidableEq, Repr

/-- Has the token been revoked? -/
def Entity.isRevoked (e : Entity) : Bool :=
  e.revoked.isSome

/-- The tenant that the token authorises. -/
def Entity.tenant (e : Entity) : Tenant :=
  e.metadata.tenant

/-- What is shown of a row. -/
def Row.entity (r : Row) : Entity where
  link := r.link
  metadata := r.metadata
  issued := some (.utc r.issued)
  lastUsed := r.lastUsed.map .utc
  revoked := r.revoked.map .utc

end BearerTokens
