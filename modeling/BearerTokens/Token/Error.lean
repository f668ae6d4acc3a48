/-
BearerTokens.Token.Error — what can be wrong with a token.

Each error has an HTTP status, an identifier for programs and a message for
people. An unknown key, a forged one and a malformed one are the same error;
only a key whose token was revoked is told apart.
-/
import BearerTokens.Token.Basic

namespace BearerTokens

/-- What can be wrong with a token. -/
inductive TokenError
  | invalid (message : String)
  | revoked (link : Link)
  | storage (message : String)
  | generic (message : String)
deriving DecidableEq, Repr

namespace TokenError

/-- The key is malformed, forged or unknown. -/
def unknownKey : TokenError :=
  invalid "Token invalid!"

/-- The text for people. -/
def message : TokenError → String
  | invalid m => m
  | revoked link => s!"Token with token_link {link.value} has been revoked"
  | storage m => m
  | generic m => m

/-- The HTTP status of an answer that reports the error. -/
def status : TokenError → Nat
  | invalid _ => 401
  | revoked _ => 401
  | storage _ => 500
  | generic _ => 500

/-- The identifier for programs. -/
def identifier : TokenError → String
  | invalid _ => "AUTH_TOKEN_INVALID"
  | revoked _ => "AUTH_TOKEN_REVOKED"
  | storage _ => "GENERIC"
  | generic _ => "GENERIC"

/-- The word for the error in the log. -/
def kind : TokenError → String
  | invalid _ => "TokenInvalidError"
  | revoked _ => "TokenRevokedError"
  | storage _ => "TokenStorageError"
  | generic _ => "TokenServiceError"

/-- The link that the error is about. -/
def link? : TokenError → Option Link
  | revoked link => some link
  | _ => none

end TokenError
end BearerTokens
