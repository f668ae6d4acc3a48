/-
BearerTokens.Settings.Value — numbers and switches in the texts of settings.

An integer in its plain form is a minus sign, if any, and digits of which the
first is not a zero, or a zero alone; there is a bound on how many digits it
has. Other forms are made plain first: white space around it, a plus sign, zeros
before its other digits and a fraction of zeros do not count, and single
underscores may separate its digits. A number with a fraction may have white space around it or
underscores inside, but not both. A switch is one of twelve words, in any case,
with nothing around it.
-/
import BearerTokens.Number.Binary64

namespace BearerTokens.Settings

open Number (Binary64)

/-! ## Mismatches -/

/-- Why a text is not a value of the kind that is asked for. -/
inductive Mismatch
  | integer
  /-- An integer with more digits than are read. -/
  | longInteger
  | number
  | switch
deriving DecidableEq, Repr

/-- The word for a mismatch. -/
def Mismatch.code : Mismatch → String
  | integer => "int_parsing"
  | longInteger => "int_parsing_size"
  | number => "float_parsing"
  | switch => "bool_parsing"

/-- The text for people. -/
def Mismatch.message : Mismatch → String
  | integer => "Input should be a valid integer, unable to parse string as an integer"
  | longInteger => "Unable to parse input string as an integer, exceeded maximum size"
  | number => "Input should be a valid number, unable to parse string as a number"
  | switch => "Input should be a valid boolean, unable to interpret input"

/-! ## Plain integers -/

/-- The most digits of a plain integer. -/
def maxIntegerDigits : Nat := 4300

/-- The number of plain digits. Too many of them are too many whatever follows. -/
def plainDigits (cs : List Char) : Except Mismatch Nat :=
  let digits := cs.takeWhile Text.isAsciiDigit
  let rest := cs.dropWhile Text.isAsciiDigit
  if digits.isEmpty || (digits.head? == some '0' && digits.length != 1) then .error .integer
  else if maxIntegerDigits < digits.length then .error .longInteger
  else if rest.isEmpty then .ok (Text.digitsValue digits)
  else .error .integer

/-- Read a plain integer. -/
def plainInteger : List Char → Except Mismatch Int
  | '-' :: rest => (plainDigits rest).map fun n => -(n : Int)
  | cs => (plainDigits cs).map fun n => (n : Int)

/-! ## Other forms of integers -/

/-- A number without a plus sign, after which no minus sign may come. -/
def withoutPlus? : List Char → Option (List Char)
  | '+' :: '-' :: _ => none
  | '+' :: rest => some rest
  | cs => some cs

/-- The number after the zeros and underscores that follow a zero; `last` is
the character before. A text of zeros alone keeps its last character. -/
def afterZeros? (last : Char) : List Char → Option (List Char)
  | [] => some [last]
  | c :: rest =>
    if c == '0' || c == '_' then afterZeros? c rest
    else if Text.isAsciiDigit c || c == '-' then some (c :: rest)
    else if c == '.' then some (last :: c :: rest)
    else none

/-- A number without the zeros before it; it has to start with a digit or a
minus sign. -/
def withoutZeros? : List Char → Option (List Char)
  | [] => none
  | c :: rest =>
    if c == '0' then afterZeros? c rest
    else if Text.isAsciiDigit c || c == '-' then some (c :: rest)
    else none

/-- A number without the zeros before it, or between its minus sign and it. -/
def withoutSignedZeros? : List Char → Option (List Char)
  | '-' :: rest => (withoutZeros? rest).map ('-' :: ·)
  | cs => withoutZeros? cs

/-- A number without a fraction that consists of zeros. -/
def withoutZeroFraction (cs : List Char) : List Char :=
  let fraction := (cs.dropWhile (· != '.')).drop 1
  if !fraction.isEmpty && fraction.all (· == '0') then cs.takeWhile (· != '.') else cs

/-- A number of another form made plain. -/
def plainForm? (cs : List Char) : Option (List Char) := do
  let cs ← withoutPlus? (Text.trimChars Text.isSpace cs)
  let cs ← withoutSignedZeros? cs
  let cs := withoutZeroFraction cs
  return (Binary64.dropSeparators? cs).getD cs

/-- Read an integer. -/
def integer (s : String) : Except Mismatch Int :=
  match plainInteger s.toList with
  | .ok n => .ok n
  | .error .longInteger => .error .longInteger
  | .error _ =>
    match (plainForm? s.toList).map plainInteger with
    | some (.ok n) => .ok n
    | _ => .error .integer

/-! ## Numbers -/

/-- Read a number. -/
def number (s : String) : Except Mismatch Binary64 :=
  let separated := (Binary64.dropSeparators? s.toList).bind Binary64.parseChars?
  match (Binary64.parse? s).or separated with
  | some x => .ok x
  | none => .error .number

/-! ## Switches -/

/-- The words for off. -/
def offWords : List String := ["0", "off", "f", "false", "n", "no"]

/-- The words for on. -/
def onWords : List String := ["1", "on", "t", "true", "y", "yes"]

/-- Read a switch. -/
def switch (s : String) : Except Mismatch Bool :=
  let word := String.ofList (s.toList.map Char.toLower)
  if offWords.contains word then .ok false
  else if onWords.contains word then .ok true
  else .error .switch

end BearerTokens.Settings
