/-
BearerTokens.Token.Tenant — whom a token belongs to.

A tenant is an account, or a service together with its mode. A record may
lack the mode or even the identifier of its service; such a tenant still has
an address in the table, but no text: `describe?` answers `none` for it.
-/
import BearerTokens.Tag.Basic

namespace BearerTokens

/-- An account, or a service in one of its modes. -/
inductive Tenant
  | account (id : String)
  | service (serviceId : Option String) (mode : Option Mode)
deriving DecidableEq, Repr

namespace Tenant

/-- The tenant in a message. A service without a mode has no text. -/
def describe? : Tenant → Option String
  | account id => some s!"account {id}"
  | service _ none => none
  | service id (some mode) =>
    let id := id.getD "None"
    some s!"service {id} ({Tag.name mode})"

/-- Can the tenant be named in a message? -/
def IsNamed (t : Tenant) : Prop :=
  t.describe?.isSome = true

instance (t : Tenant) : Decidable t.IsNamed :=
  inferInstanceAs (Decidable (_ = true))

theorem isNamed_account (id : String) : (account id).IsNamed := rfl

theorem isNamed_service_iff (id : Option String) (mode : Option Mode) :
    (service id mode).IsNamed ↔ mode ≠ none := by
  cases mode <;> simp [IsNamed, describe?]

end Tenant
end BearerTokens
