/-
BearerTokens.Json.Writer — JSON text of a value, without spaces.

Text outside ASCII is written as it is; the quote, the backslash, the control
characters and the surrogates are escaped. Numbers that are not finite are written as the
three words that the reader accepts for them.
-/
import BearerTokens.Json.Basic
import BearerTokens.Number.Shortest

namespace BearerTokens.Json

open Number (Binary64)
open Text (Point Wide)

/-- One character inside a string. -/
def writeChar (c : Char) : List Char :=
  if c == Text.doubleMark || c == Text.backslash then [Text.backslash, c]
  else if c == '\n' then [Text.backslash, 'n']
  else if c == '\r' then [Text.backslash, 'r']
  else if c == '\t' then [Text.backslash, 't']
  else if c.toNat < 0x20 then Text.backslash :: 'u' :: Text.hexFixed 4 c.toNat
  else [c]

/-- One code point inside a string. -/
def writePoint : Point → List Char
  | .char c => writeChar c
  | .surrogate place => Text.codeEscape (0xD800 + place)

/-- A string with its quotes. -/
def writeString (w : Wide) : String :=
  String.ofList (Text.doubleMark :: w.points.flatMap writePoint ++ [Text.doubleMark])

/-- A number with a fraction or an exponent. -/
def writeReal : Binary64 → String
  | .nan => "NaN"
  | .infinite negative => if negative then "-Infinity" else "Infinity"
  | x => x.text

mutual
/-- The JSON text of a value. -/
def write : Json → String
  | null => "null"
  | bool b => if b then "true" else "false"
  | int n => toString n
  | real x => writeReal x
  | string w => writeString w
  | list items => "[" ++ ",".intercalate (writeList items) ++ "]"
  | object fields => "\x7b" ++ ",".intercalate (writeFields fields) ++ "\x7d"

/-- The texts of the items of a list. -/
def writeList : List Json → List String
  | [] => []
  | item :: rest => item.write :: writeList rest

/-- The texts of the members of an object. -/
def writeFields : Fields → List String
  | [] => []
  | (name, value) :: rest => (writeString name ++ ":" ++ value.write) :: writeFields rest
end

end BearerTokens.Json
