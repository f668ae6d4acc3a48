/-
BearerTokens.Request.Edit — requests to describe a token anew or to revoke it.
-/
import BearerTokens.Request.Issue

namespace BearerTokens.Request

/-! ## Descriptions -/

/-- A request to change the description of a token. -/
structure Describe where
  link : Link
  description : String
deriving DecidableEq

/-- Read the members of an object as a request to change a description. -/
def Describe.check (fields : Json.Fields) : Checked Describe :=
  let whole := Json.object fields
  let link := requiredText "token_link" linkLimit whole (fields.get? "token_link")
  let description := requiredText "description" nameLimit whole (fields.get? "description")
  match link, description with
  | .ok link, .ok description => ⟨.ok ⟨⟨link⟩, description⟩, []⟩
  | link, description => ⟨.error (.issues (issueOf link ++ issueOf description)), []⟩

/-- Read a value as a request to change a description. -/
def Describe.ofJson : Json → Checked Describe :=
  Checked.ofJson "UpdateTokenDescriptionRequest" Describe.check

/-! ## Revocation -/

/-- A request to revoke a token, which its link or its key names. -/
structure Revoke where
  link : Option Link
  key : Option String
deriving DecidableEq

/-- Read the members of an object as a request to revoke a token. -/
def Revoke.check (fields : Json.Fields) : Checked Revoke :=
  let link := optionalText "token_link" (some linkLimit) (fields.get? "token_link")
  let key := optionalText "token" none (fields.get? "token")
  match link, key with
  | .ok link, .ok key => ⟨.ok ⟨link.map .mk, key⟩, []⟩
  | link, key => ⟨.error (.issues (issueOf link ++ issueOf key)), []⟩

/-- Read a value as a request to revoke a token. -/
def Revoke.ofJson : Json → Checked Revoke :=
  Checked.ofJson "RevokeTokenRequest" Revoke.check

end BearerTokens.Request
