/-
BearerTokens.Log — what is written to the log.

An `Event` says what happened; its level, the name of the log it goes to and
its text are functions of it. Events hold links, tenants and counts; there is
none that holds a key or a secret. The reason for which the database refused a
statement is passed on as it came, and may quote the statement with its hash.
-/
import BearerTokens.Token.Error

namespace BearerTokens

/-! ## Levels -/

/-- How grave an event is. -/
inductive Level
  | info
  | warning
  | error
deriving DecidableEq, Repr

/-- The word for a level. -/
def Level.name : Level → String
  | info => "INFO"
  | warning => "WARNING"
  | error => "ERROR"

/-- The rank of a level; a log keeps the events from some rank on. -/
def Level.rank : Level → Nat
  | info => 20
  | warning => 30
  | error => 40

/-! ## Events -/

/-- What can be reported. -/
inductive Event
  /-- A tag was given as `shown`, which names no member of its set. -/
  | unknownTag (kind shown : String)
  /-- A key of this length cannot be one. -/
  | keyLength (length : Nat)
  | keyNotAscii
  | keyCodeMismatch
  /-- The time of last use could not be written. -/
  | useNotRecorded (reason : String)
  /-- A new token collided with a stored one. -/
  | insertRefused (scope : String)
  | issued (link : Link) (scope : String) (paymentType : PaymentType) (source : Source)
  | revokedKeyUsed (link : Link)
  | descriptionUpdated (link : Link)
  /-- One token, found by the named column, was revoked. -/
  | revokedOne (column tenant : String)
  | revokedAll (count : Nat) (tenant : String)
  | schemaReady
  | pingFailed (reason : String)
  | started (name version : String)
  | stopped (name : String)
  /-- An error was answered as a failure of the service. -/
  | serviceFailed (error : TokenError)
  | requestAnswered (id method path : String) (status : Nat) (milliseconds : Int)
  | requestFailed (id method path : String) (milliseconds : Int)
deriving DecidableEq, Repr

namespace Event

/-- How grave the event is. -/
def level : Event → Level
  | unknownTag .. => .error
  | useNotRecorded _ => .warning
  | insertRefused _ => .error
  | pingFailed _ => .warning
  | serviceFailed _ => .error
  | requestFailed .. => .error
  | _ => .info

/-- The log that the event goes to. -/
def logger : Event → String
  | unknownTag .. => "tokenauth.models.tokens"
  | keyLength _ | keyNotAscii | keyCodeMismatch => "tokenauth.services.token_codec"
  | useNotRecorded _ | insertRefused _ => "tokenauth.services.token_store"
  | issued .. | revokedKeyUsed _ | descriptionUpdated _ | revokedOne .. | revokedAll .. =>
    "tokenauth.services.token_service"
  | schemaReady | pingFailed _ => "tokenauth.db.engine"
  | started .. | stopped _ | serviceFailed _ => "tokenauth.main"
  | requestAnswered .. | requestFailed .. => "tokenauth.api.request_logging"

/-- The text of the event. -/
def message : Event → String
  | unknownTag kind shown => s!"Unknown {kind}: {shown}"
  | keyLength length => s!"Rejected API key: length {length} outside window"
  | keyNotAscii => "Rejected API key: non-ASCII characters"
  | keyCodeMismatch => "Rejected API key: integrity code does not match"
  | useNotRecorded reason => s!"Could not update last_used on authentication: {reason}"
  | insertRefused scope => s!"Token insert failed for {scope}: unique constraint"
  | issued link scope paymentType source =>
    let tags := s!"type={Tag.name paymentType}, source={Tag.name source}"
    s!"Issued token {link.value} for {scope} ({tags})"
  | revokedKeyUsed link => s!"Authentication with revoked token {link.value}"
  | descriptionUpdated link => s!"Updated description of token {link.value}"
  | revokedOne column tenant => s!"Revoked token by {column} for {tenant}"
  | revokedAll count tenant => s!"Revoked {count} token(s) for {tenant}"
  | schemaReady => "Database schema ready"
  | pingFailed reason => s!"Database health check failed: {reason}"
  | started name version => s!"{name} v{version} started"
  | stopped name => s!"{name} stopped"
  | serviceFailed error => s!"{error.kind}: {error.message}"
  | requestAnswered id method path status milliseconds =>
    s!"[{id}] {method} {path} -> {status} ({milliseconds}ms)"
  | requestFailed id method path milliseconds =>
    s!"[{id}] {method} {path} failed after {milliseconds}ms"

end Event

/-- The events of a list that a log with this threshold keeps. -/
def keptFrom (threshold : Nat) (events : List Event) : List Event :=
  events.filter fun e => threshold ≤ e.level.rank

end BearerTokens
