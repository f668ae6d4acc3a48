/-
BearerTokens.Settings.Connection.Options — what a query says about a
connection.

Parameters of some names are options, and an option is read as the kind of
value that it is: a number, an integer or a switch. Of a name that is repeated
only a switch can be made, which is then on. Parameters of other names say
nothing here.
-/
import BearerTokens.Settings.Address
import BearerTokens.Text.Lowercase

namespace BearerTokens.Settings

open Number (NumeralError)

/-! ## Errors -/

/-- Why a parameter is not the option that it should be. -/
inductive OptionError
  | numeral (error : NumeralError)
  | notSwitch (text : String)
  /-- Several values for an integer. -/
  | manyIntegers
  /-- Several values for a number. -/
  | manyReals
deriving DecidableEq, Repr

/-- The text for people. -/
def OptionError.message : OptionError → String
  | numeral error => error.message
  | notSwitch text => s!"String is not true/false: {Text.quote text}"
  | manyIntegers =>
    "int() argument must be a string, a bytes-like object or a real number, not 'tuple'"
  | manyReals => "float() argument must be a string or a real number, not 'tuple'"

/-! ## Reading -/

/-- The words for on. -/
def trueWords : List String := ["true", "yes", "on", "y", "t", "1"]

/-- The words for off. -/
def falseWords : List String := ["false", "no", "off", "n", "f", "0"]

namespace Parameter

/-- Read a switch, which may have blanks around it and be in any case. -/
def switch (p : Parameter) : Except OptionError Bool :=
  let word := Text.lower (Text.strip p.value)
  if !p.others.isEmpty || trueWords.contains word then .ok true
  else if falseWords.contains word then .ok false
  else .error (.notSwitch word)

/-- Read an integer. -/
def integer (p : Parameter) : Except OptionError Int :=
  if p.others.isEmpty then (Number.readInteger p.value).mapError .numeral
  else .error .manyIntegers

/-- Read a number. -/
def real (p : Parameter) : Except OptionError Number.Binary64 :=
  if p.others.isEmpty then (Number.readReal p.value).mapError .numeral
  else .error .manyReals

end Parameter

/-- Read the parameter of a name, if there is one. -/
def Address.option {α : Type} (a : Address) (name : String)
    (read : Parameter → Except OptionError α) : Except OptionError (Option α) :=
  match a.parameter? name with
  | some p => (read p).map some
  | none => .ok none

end BearerTokens.Settings
