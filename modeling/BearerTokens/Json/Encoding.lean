/-
BearerTokens.Json.Encoding — the code points of the bytes of a JSON document.

A document is in UTF-8, UTF-16 or UTF-32. A byte order mark decides; without
one the zero bytes among the first four do, since a document starts with an
ASCII character. A surrogate is read as it stands; only UTF-16 makes one
character of two that are a pair.
-/
import BearerTokens.Text.Utf8
import BearerTokens.Text.Wide

namespace BearerTokens.Json

open Text (Point)

/-- The encodings of a document; `big` tells whether the high byte comes first. -/
inductive Encoding
  | utf8
  | utf16 (big : Bool)
  | utf32 (big : Bool)
deriving DecidableEq, Repr

/-! ## Finding the encoding -/

/-- The encoding that a byte order mark names, and the length of the mark. -/
def markedEncoding? (bytes : List UInt8) : Option (Encoding × Nat) :=
  if [0x00, 0x00, 0xFE, 0xFF].isPrefixOf bytes then some (.utf32 true, 4)
  else if [0xFF, 0xFE, 0x00, 0x00].isPrefixOf bytes then some (.utf32 false, 4)
  else if [0xFE, 0xFF].isPrefixOf bytes then some (.utf16 true, 2)
  else if [0xFF, 0xFE].isPrefixOf bytes then some (.utf16 false, 2)
  else if [0xEF, 0xBB, 0xBF].isPrefixOf bytes then some (.utf8, 3)
  else none

/-- The encoding that the zero bytes at the start show. -/
def unmarkedEncoding : List UInt8 → Encoding
  | a :: b :: c :: d :: _ =>
    if a == 0 then (if b == 0 then .utf32 true else .utf16 true)
    else if b == 0 then (if c == 0 && d == 0 then .utf32 false else .utf16 false)
    else .utf8
  | [a, b] => if a == 0 then .utf16 true else if b == 0 then .utf16 false else .utf8
  | _ => .utf8

/-! ## Reading -/

/-- The number of bytes in the given order. -/
def bytesNumber (big : Bool) (bytes : List UInt8) : Nat :=
  (if big then bytes else bytes.reverse).foldl (fun acc b => 256 * acc + b.toNat) 0

/-- The code points of UTF-8. -/
def decodeUtf8? (bytes : List UInt8) : Option (List Point) := do
  let codes ← Text.decodeCodes? true bytes
  codes.mapM Point.ofCode?

/-- The code points of UTF-32. -/
def decodeUtf32? (big : Bool) : List UInt8 → Option (List Point)
  | [] => some []
  | a :: b :: c :: d :: rest => do
    let first ← Point.ofCode? (bytesNumber big [a, b, c, d])
    let more ← decodeUtf32? big rest
    return first :: more
  | _ => none

/-- The code points of UTF-16. -/
def decodeUtf16? (big : Bool) : List UInt8 → Option (List Point)
  | [] => some []
  | a :: b :: c :: d :: rest =>
    match Text.joinPair? (bytesNumber big [a, b]) (bytesNumber big [c, d]) with
    | some c => (decodeUtf16? big rest).map (.char c :: ·)
    | none => do
      let single ← Point.ofCode? (bytesNumber big [a, b])
      let more ← decodeUtf16? big (c :: d :: rest)
      return single :: more
  | [a, b] => (Point.ofCode? (bytesNumber big [a, b])).map ([·])
  | _ => none

/-- The code points of bytes in an encoding. -/
def Encoding.decode? : Encoding → List UInt8 → Option (List Point)
  | .utf8, bytes => decodeUtf8? bytes
  | .utf16 big, bytes => decodeUtf16? big bytes
  | .utf32 big, bytes => decodeUtf32? big bytes

/-- The code points of a document. -/
def documentPoints? (bytes : List UInt8) : Option (List Point) :=
  match markedEncoding? bytes with
  | some (encoding, skip) => encoding.decode? (bytes.drop skip)
  | none => (unmarkedEncoding bytes).decode? bytes

end BearerTokens.Json
