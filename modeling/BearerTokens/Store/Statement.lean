/-
BearerTokens.Store.Statement — how a refused statement is reported.

The database refuses some statements with a bare reason. If a table is missing,
the report also quotes the statement with its parameters and says where such
refusals are explained.
-/
import BearerTokens.Failure

namespace BearerTokens

/-- A statement with question marks, and the parameters that stand for them. -/
structure Statement where
  text : String
  parameters : List String
deriving DecidableEq, Repr

namespace Statement

/-- The statement that records the use of the active token of a hash. -/
def recordUse (now : Instant) (h : StorageHash) : Statement where
  text := "UPDATE tokens SET last_used=? WHERE tokens.token_hash = ? AND tokens.revoked IS NULL "
    ++ "RETURNING token_id"
  parameters := [(Timestamp.utc now).columnText, h.value]

/-- The page that explains the refusal of a statement. -/
def helpPage : String :=
  "https://" ++ "/".intercalate ["sqlalche.me", "e", "21", "e3q8"]

/-- The statement as it is quoted after a refusal. -/
def quoted (s : Statement) : String :=
  let parameters := ", ".intercalate (s.parameters.map Text.quote)
  s!"\n[SQL: {s.text}]\n[parameters: ({parameters})]\n(Background on this error at: {helpPage})"

/-- The report that the database refused the statement. -/
def report (s : Statement) : DatabaseError → String
  | .noTable => DatabaseError.noTable.message ++ s.quoted
  | e => e.message

end Statement
end BearerTokens
