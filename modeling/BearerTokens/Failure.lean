/-
BearerTokens.Failure — why an operation on tokens gives no answer.

`DatabaseError` is what the database says, `Failure` adds what the operations
themselves find wrong. Each is a cause; the text for people is a function of it.
-/
import BearerTokens.Codec.Basic

namespace BearerTokens

/-! ## The database -/

/-- What the database can refuse a statement with. -/
inductive DatabaseError
  | locked
  | unreachable
  | noTable
deriving DecidableEq, Repr

/-- The text of the database's refusal. -/
def DatabaseError.message : DatabaseError → String
  | locked => "database is locked"
  | unreachable => "connection refused"
  | noTable => "(sqlite3.OperationalError) no such table: tokens"

/-- A disturbance of the database: writes to existing rows fail, or all
statements on them do. New rows and transactions are not disturbed. A
disturbance lasts for a whole step, through all statements of an operation. -/
inductive Fault
  | touch
  | connection
deriving DecidableEq, Repr

/-! ## Operations -/

/-- Why an operation gives no answer. -/
inductive Failure
  | database (error : DatabaseError)
  | token (error : TokenError)
  | hashing (error : Codec.HashError)
  /-- A tenant that has no text was to be named, in the log or in a message. In the
  log this ends the operation on the assumption that the text of a report is made
  within it and that the log lets an error on the way out. A log that deals with
  such an error itself would leave the operation its answer. -/
  | unnamedTenant
  /-- Neither a link nor a key says which token is meant. -/
  | noIdentifier
deriving DecidableEq, Repr

/-- The text for people. -/
def Failure.message : Failure → String
  | database e => e.message
  | token e => e.message
  | hashing e => e.message
  | unnamedTenant => "'NoneType' object has no attribute 'value'"
  | noIdentifier => "revoke() needs a token link or an API key"

/-! ## Replies -/

/-- What an operation comes to: an answer or a failure, what it reports, and
the state it leaves. -/
structure Reply (σ α : Type) where
  answer : Except Failure α
  log : List Event
  state : σ

/-- The same reply with another form of answer. -/
def Reply.map {σ α β : Type} (f : α → β) (r : Reply σ α) : Reply σ β :=
  ⟨r.answer.map f, r.log, r.state⟩

@[simp] theorem Reply.state_map {σ α β : Type} (f : α → β) (r : Reply σ α) :
    (r.map f).state = r.state := rfl

@[simp] theorem Reply.log_map {σ α β : Type} (f : α → β) (r : Reply σ α) :
    (r.map f).log = r.log := rfl

end BearerTokens
