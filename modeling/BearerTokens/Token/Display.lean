/-
BearerTokens.Token.Display — tokens in diagnostics.

A link is shown with its value; a hash, an issued token and whatever holds a
secret are shown by their kind alone.
-/
import BearerTokens.Token.Basic
import BearerTokens.Text.Quoted

namespace BearerTokens

/-- A link in diagnostics. -/
def Link.display (l : Link) : String :=
  s!"TokenLink(value={Text.quote l.value})"

/-- A hash in diagnostics: its value is left out. -/
def StorageHash.display (_ : StorageHash) : String :=
  "TokenHash()"

/-- A hash in a message: the name of its column. -/
def StorageHash.describe (_ : StorageHash) : String :=
  "token_hash"

/-- A mode in diagnostics. -/
def Mode.display (m : Mode) : String :=
  s!"<ServiceMode.{Tag.name m}: {Text.quote (Tag.name m)}>"

/-- A tenant in diagnostics. -/
def Tenant.display : Tenant → String
  | account id => s!"AccountTenant(account_id={Text.quote id})"
  | service id mode =>
    let id := (id.map Text.quote).getD "None"
    let mode := (mode.map Mode.display).getD "None"
    s!"ServiceTenant(service_external_id={id}, service_mode={mode})"

/-- A stored token in diagnostics: its link, and whether it was revoked. -/
def displayRecord (link : Link) (revoked : Bool) : String :=
  let revoked := if revoked then "True" else "False"
  s!"<TokenRecord(token_link='{link.value}', revoked={revoked})>"

end BearerTokens
