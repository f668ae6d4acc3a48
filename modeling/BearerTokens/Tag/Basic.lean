/-
BearerTokens.Tag.Basic — the closed sets of tags that tokens carry.

Each set has a name for every member. A text names a member if it is the name
after blanks around it are dropped and its letters are made upper case, so the
comparison is with `normalise` on one side only: names are upper case already
and hold no blanks.
-/
import BearerTokens.Text.Blank
import BearerTokens.Text.Uppercase

namespace BearerTokens

/-! ## The sets -/

/-- The kind of payment that a token is used for. -/
inductive PaymentType
  | card
  | directDebit
deriving DecidableEq, Repr

/-- The system that a token was made for. -/
inductive Source
  | api
  | products
  | demo
deriving DecidableEq, Repr

/-- Whether a token may still be used. -/
inductive State
  | active
  | revoked
deriving DecidableEq, Repr

/-- The mode of a service, one half of the address of its tokens. -/
inductive Mode
  | live
  | test
deriving DecidableEq, Repr

/-- A closed set of tags: a word for the set, its members, and their names. -/
class Tag (α : Type) where
  kind : String
  members : List α
  name : α → String

/-- A set in which one member stands in for every unknown name. -/
class DefaultTag (α : Type) extends Tag α where
  fallback : α

instance : DefaultTag PaymentType where
  kind := "TokenPaymentType"
  members := [.card, .directDebit]
  name
    | .card => "CARD"
    | .directDebit => "DIRECT_DEBIT"
  fallback := .card

instance : DefaultTag Source where
  kind := "TokenSource"
  members := [.api, .products, .demo]
  name
    | .api => "API"
    | .products => "PRODUCTS"
    | .demo => "DEMO"
  fallback := .api

instance : DefaultTag State where
  kind := "TokenState"
  members := [.active, .revoked]
  name
    | .active => "ACTIVE"
    | .revoked => "REVOKED"
  fallback := .active

instance : Tag Mode where
  kind := "ServiceMode"
  members := [.live, .test]
  name
    | .live => "LIVE"
    | .test => "TEST"

/-! ## Names -/

namespace Tag

variable {α : Type} [Tag α]

/-- The member with exactly this name. -/
def named? (s : String) : Option α :=
  members.find? fun a => name a == s

/-- A text without the blanks around it, in upper case. -/
def normalise (s : String) : String :=
  Text.upper (Text.strip s)

/-- The member that a text names. -/
def parse? (s : String) : Option α :=
  named? (normalise s)

/-- What was found has the name that was looked for. -/
theorem name_of_named? {s : String} {a : α} (h : named? s = some a) : name a = s := by
  simpa using List.find?_some h

/-- Where every name is found again, a text names a member if its normal form is
the member's name. -/
theorem parse?_eq_some_iff (hnames : ∀ a : α, named? (name a) = some a) {s : String} {a : α} :
    parse? s = some a ↔ normalise s = name a := by
  constructor
  · exact fun h => (name_of_named? h).symm
  · intro h
    rw [parse?, h, hnames]

end Tag

@[simp] theorem PaymentType.named?_name (t : PaymentType) : Tag.named? (Tag.name t) = some t := by
  cases t <;> decide

@[simp] theorem Source.named?_name (t : Source) : Tag.named? (Tag.name t) = some t := by
  cases t <;> decide

@[simp] theorem State.named?_name (t : State) : Tag.named? (Tag.name t) = some t := by
  cases t <;> decide

@[simp] theorem Mode.named?_name (t : Mode) : Tag.named? (Tag.name t) = some t := by
  cases t <;> decide

end BearerTokens
