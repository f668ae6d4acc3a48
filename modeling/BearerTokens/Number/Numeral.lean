/-
BearerTokens.Number.Numeral — numbers as they are written in an address.

The digits of a number may be those of any script, single underscores may
stand between them, and white space may surround it. An integer is a sign, if
any, and digits, of which there may not be too many. Any other number is
written as `Binary64` reads it.
-/
import BearerTokens.Number.Binary64
import BearerTokens.Text.Quoted

namespace BearerTokens.Number

/-! ## Errors -/

/-- Why a text is not the number that is asked for. -/
inductive NumeralError
  | notInteger (text : String)
  | notReal (text : String)
  /-- An integer with more digits than are read. -/
  | tooLong (digits : Nat)
deriving DecidableEq, Repr

/-- The most digits that an integer is read with. -/
def maxDigits : Nat := 4300

/-- The most characters that a text which is no integer is quoted with. -/
def maxQuoted : Nat := 200

/-- The text for people. -/
def NumeralError.message : NumeralError → String
  | notInteger text =>
    "invalid literal for int() with base 10: "
      ++ String.ofList ((Text.quote text).toList.take maxQuoted)
  | notReal text => s!"could not convert string to float: {Text.quote text}"
  | tooLong digits =>
    s!"Exceeds the limit ({maxDigits} digits) for integer string conversion: "
      ++ s!"value has {digits} digits; use sys.set_int_max_str_digits() to increase the limit"

/-! ## Integers -/

/-- The number that a run of digits of any script stands for. -/
def scriptDigitsValue (cs : List Char) : Nat :=
  cs.foldl (fun n c => 10 * n + Text.digitValue c) 0

/-- Read an integer. Digits that are too many are so whatever follows them. -/
def readInteger (s : String) : Except NumeralError Int :=
  let (negative, body) := Binary64.takeSign (s.toList.dropWhile Text.isSpace)
  let isPart (c : Char) : Bool := Text.isDecimalDigit c || c == '_'
  let digits := (body.takeWhile isPart).filter (· != '_')
  if !Binary64.separatesAll true (body.takeWhile isPart) then .error (.notInteger s)
  else if maxDigits < digits.length then .error (.tooLong digits.length)
  else if !(body.dropWhile isPart).all Text.isSpace then .error (.notInteger s)
  else
    let n : Int := scriptDigitsValue digits
    .ok (if negative then -n else n)

/-! ## Other numbers -/

/-- A digit of any script as an ASCII digit; any other character as it is. -/
def asciiDigit (c : Char) : Char :=
  if Text.isDecimalDigit c then Char.ofNat (48 + Text.digitValue c) else c

/-- Does every underscore stand between two digits? `last` is the character
before. -/
def separatesDigits (last : Char) : List Char → Bool
  | [] => last != '_'
  | c :: rest =>
    let fits := if c == '_' then Text.isAsciiDigit last else last != '_' || Text.isAsciiDigit c
    fits && separatesDigits c rest

/-- Read a number. -/
def readReal (s : String) : Except NumeralError Binary64 :=
  let cs := (Text.trimChars Text.isSpace s.toList).map asciiDigit
  let number := if separatesDigits ' ' cs then Binary64.parseChars? (cs.filter (· != '_')) else none
  match number with
  | some x => .ok x
  | none => .error (.notReal s)

end BearerTokens.Number
