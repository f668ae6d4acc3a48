/-
BearerTokens.Text.Quoted — a text as it is quoted in a message.

The quotation mark is the apostrophe, unless the text holds an apostrophe and
no double quote. The mark and the backslash are escaped, line feed, carriage
return and tab have their own escapes, and any other character that is not
shown as itself is given by its code point in two, four or eight digits.
-/
import BearerTokens.Text.Printable
import BearerTokens.Text.Hex

namespace BearerTokens.Text

/-- The apostrophe, the usual mark. -/
def singleMark : Char := Char.ofNat 0x27

/-- The double quote, the other mark. -/
def doubleMark : Char := Char.ofNat 0x22

/-- The backslash, which starts an escape. -/
def backslash : Char := Char.ofNat 0x5C

/-- The mark that a text is quoted with. -/
def quoteMark (cs : List Char) : Char :=
  if cs.contains singleMark && !cs.contains doubleMark then doubleMark else singleMark

/-- The escape of a code point by its number. -/
def codeEscape (n : Nat) : List Char :=
  if n < 0x100 then backslash :: 'x' :: hexFixed 2 n
  else if n < 0x10000 then backslash :: 'u' :: hexFixed 4 n
  else backslash :: 'U' :: hexFixed 8 n

/-- One character between two marks. -/
def quoteChar (mark c : Char) : List Char :=
  if c == mark || c == backslash then [backslash, c]
  else if c == '\n' then [backslash, 'n']
  else if c == '\r' then [backslash, 'r']
  else if c == '\t' then [backslash, 't']
  else if isPrintable c then [c]
  else codeEscape c.toNat

/-- The text in quotation marks. -/
def quote (s : String) : String :=
  let mark := quoteMark s.toList
  String.ofList (mark :: s.toList.flatMap (quoteChar mark) ++ [mark])

end BearerTokens.Text
