/-
BearerTokens.Request.Issue — what can be wrong with a request.

An issue says what is wrong, where, and with which value. `Checked` is what
reading a request comes to: the request or the reason against it, and what was
reported on the way; reports stand even if the request is refused.
-/
import BearerTokens.Tag.Reader

namespace BearerTokens.Request

open Text (Wide)

/-! ## Issues -/

/-- What is wrong with a value. -/
inductive Problem
  | missing
  | notText
  /-- A string that is no text, since it holds surrogates. -/
  | notCharacters
  | tooShort
  | tooLong (most : Nat)
  | refused (message : String)
  /-- Not an object, where the named kind of request was looked for. -/
  | notRequest (name : String)
  /-- Not an object, in the body of a message. -/
  | notObject
  | notJson
deriving DecidableEq, Repr

/-- The word for a problem. -/
def Problem.code : Problem → String
  | missing => "missing"
  | notText => "string_type"
  | notCharacters => "string_unicode"
  | tooShort => "string_too_short"
  | tooLong _ => "string_too_long"
  | refused _ => "value_error"
  | notRequest _ => "model_type"
  | notObject => "model_attributes_type"
  | notJson => "json_invalid"

/-- The text for people. -/
def Problem.message : Problem → String
  | missing => "Field required"
  | notText => "Input should be a valid string"
  | notCharacters =>
    "Input should be a valid string, unable to parse raw data as a unicode string"
  | tooShort => "String should have at least 1 character"
  | tooLong most => s!"String should have at most {most} characters"
  | refused message => s!"Value error, {message}"
  | notRequest name => s!"Input should be a valid dictionary or instance of {name}"
  | notObject => "Input should be a valid dictionary or object to extract fields from"
  | notJson => "JSON decode error"

/-- A problem, the names on the way to it, and the value it is about. -/
structure Issue where
  problem : Problem
  place : List String
  input : Json

/-- The same issue, seen from further out. -/
def Issue.within (name : String) (i : Issue) : Issue :=
  { i with place := name :: i.place }

/-! ## Outcomes -/

/-- Why a request is not accepted. -/
inductive Refusal
  | issues (issues : List Issue)
  /-- A tag cannot be read at all. -/
  | notText (error : Tag.NotText)

/-- A request, or the reason against it; and reports. -/
structure Checked (α : Type) where
  result : Except Refusal α
  log : List Event

/-! ## Fields of text -/

/-- The most characters of a name or a description. -/
def nameLimit : Nat := 255

/-- The most characters of a link. -/
def linkLimit : Nat := 36

/-- A text of at most `most` characters. Where the length does not matter,
surrogates do not either. -/
def limitedText (name : String) : Option Nat → Wide → Except Issue String
  | none, w => .ok w.lossy
  | some _, .broken points noText =>
    .error ⟨.notCharacters, [name], .string (.broken points noText)⟩
  | some most, .text s =>
    if most < s.length then .error ⟨.tooLong most, [name], .text s⟩ else .ok s

/-- A text that may be left out or null. -/
def optionalText (name : String) (most : Option Nat) : Option Json → Except Issue (Option String)
  | none | some .null => .ok none
  | some (.string w) => (limitedText name most w).map some
  | some value => .error ⟨.notText, [name], value⟩

/-- A text that must be there and not empty; `whole` is what it is a part of. -/
def requiredText (name : String) (most : Nat) (whole : Json) : Option Json → Except Issue String
  | none => .error ⟨.missing, [name], whole⟩
  | some (.string w) =>
    if w.isEmpty then .error ⟨.tooShort, [name], .string w⟩ else limitedText name (some most) w
  | some value => .error ⟨.notText, [name], value⟩

/-- The issue that a check ended with, if it did. -/
def issueOf {α : Type} : Except Issue α → List Issue
  | .ok _ => []
  | .error i => [i]

/-! ## Values -/

/-- Read a value as a request of the named kind. Only an object has members
that can be checked. -/
def Checked.ofJson {α : Type} (name : String) (check : Json.Fields → Checked α) :
    Json → Checked α
  | .object fields => check fields
  | value => ⟨.error (.issues [⟨.notRequest name, [], value⟩]), []⟩

end BearerTokens.Request
