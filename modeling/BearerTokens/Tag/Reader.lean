/-
BearerTokens.Tag.Reader — tags out of JSON values.

A set with a fallback is read leniently: a value that names no member, or that
stands for nothing, reads as the fallback, and that is reported. Only a value
that is neither a text nor void cannot be read at all. The mode of a service
has no fallback and is read strictly.
-/
import BearerTokens.Log
import BearerTokens.Json.Display

namespace BearerTokens.Tag

/-! ## Lenient sets -/

variable {α : Type}

/-- A value of this kind is not one that a tag can be read from. -/
structure NotText where
  kind : String
deriving DecidableEq, Repr

/-- The text for people. -/
def NotText.message (e : NotText) : String :=
  s!"'{e.kind}' object has no attribute 'strip'"

/-- The fallback, and the report that the value is unknown. -/
def fallBack [DefaultTag α] (value : Json) : α × List Event :=
  (DefaultTag.fallback, [.unknownTag (kind α) value.display])

/-- Read a tag from a text. -/
def ofText [DefaultTag α] (s : String) : α × List Event :=
  match parse? s with
  | some a => (a, [])
  | none => fallBack (.text s)

/-- Read a tag from a value. -/
def ofJson [DefaultTag α] (value : Json) : Except NotText (α × List Event) :=
  match value with
  | .text s => .ok (ofText s)
  | .string w => .ok (fallBack (.string w))
  | value => if value.isVoid then .ok (fallBack value) else .error ⟨value.kindName⟩

end BearerTokens.Tag

/-! ## The mode of a service -/

namespace BearerTokens.Mode

/-- The value, as shown, names no mode. -/
structure Unknown where
  shown : String
deriving DecidableEq, Repr

/-- The text for people. -/
def Unknown.message (e : Unknown) : String :=
  s!"Unknown service mode: {e.shown}"

/-- Read a mode from a text. -/
def ofText (s : String) : Except Unknown Mode :=
  match Tag.parse? s with
  | some mode => .ok mode
  | none => .error ⟨Text.quote s⟩

/-- Read a mode from a value. -/
def ofJson : Json → Except Unknown Mode
  | .text s => ofText s
  | value => .error ⟨value.display⟩

end BearerTokens.Mode
