/-
BearerTokens.Text.Percent — bytes written as `%` and two hexadecimal digits.

Reading works on bytes: `%` before two hexadecimal digits is one byte, any
other `%` stands for itself, and the bytes that result are read as UTF-8 with
U+FFFD for what is malformed. Writing leaves the characters of a given set as
they are; the smallest such set is the unreserved one, and `percentEncode`
over it makes one segment of a path out of any text.
-/
import BearerTokens.Text.Hex
import BearerTokens.Text.Utf8

namespace BearerTokens.Text

/-! ## The unreserved characters -/

/-- An ASCII letter or digit. -/
def isAlphanumeric (c : Char) : Bool :=
  ('a' ≤ c && c ≤ 'z') || ('A' ≤ c && c ≤ 'Z') || ('0' ≤ c && c ≤ '9')

/-- A character that never needs encoding. -/
def isUnreserved (c : Char) : Bool :=
  isAlphanumeric c || c == '-' || c == '.' || c == '_' || c == '~'

/-! ## Writing -/

/-- A byte as `%` and two digits, the digits in upper case. -/
def percentByte (b : UInt8) : List Char :=
  '%' :: (hexFixed 2 b.toNat).map Char.toUpper

/-- One character: itself if it is kept, otherwise its bytes. -/
def percentChar (keep : Char → Bool) (c : Char) : List Char :=
  if keep c then [c] else (encodeChar c).flatMap percentByte

/-- A text in which only the characters in `keep` stand for themselves. -/
def percentEncodeKeeping (keep : Char → Bool) (s : String) : String :=
  String.ofList (s.toList.flatMap (percentChar keep))

/-- A text as one segment of a path: all but the unreserved is encoded. -/
def percentEncode (s : String) : String :=
  percentEncodeKeeping isUnreserved s

/-! ## Reading -/

/-- The byte that two hexadecimal digits stand for. -/
def hexPair? (high low : UInt8) : Option UInt8 := do
  let h ← hexValue? (Char.ofNat high.toNat)
  let l ← hexValue? (Char.ofNat low.toNat)
  return UInt8.ofNat (16 * h + l)

/-- The bytes that percent-encoded bytes stand for. -/
def percentDecodeBytes : List UInt8 → List UInt8
  | [] => []
  | [a] => [a]
  | [a, b] => [a, b]
  | a :: b :: c :: rest =>
    if a == 0x25 then
      match hexPair? b c with
      | some byte => byte :: percentDecodeBytes rest
      | none => a :: percentDecodeBytes (b :: c :: rest)
    else a :: percentDecodeBytes (b :: c :: rest)

/-- The text that a percent-encoded text stands for. -/
def percentDecode (s : String) : String :=
  decodeLossy (percentDecodeBytes (encode s))

end BearerTokens.Text
