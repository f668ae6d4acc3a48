/-
BearerTokens.Text.Utf8 — text as bytes and bytes as text.

`encodeChar` writes one character by the ranges of its code point. Reading is
a machine that takes one byte at a time: `Awaiting.next` says which bytes may
follow. A byte that may not follow ends the malformed run before it, which is
reported once as `none`, and is then read afresh. So a malformed run is always
the longest beginning of some character that the input holds at that place.

The machine is structural in the list of bytes; `decode?` refuses malformed
runs and `decodeLossy` puts U+FFFD in their place. The bytes of a surrogate are
such a run for both; but the machine can be told to take them for a code point.
-/
namespace BearerTokens.Text

/-! ## Writing -/

/-- The bytes of one character. -/
def encodeChar (c : Char) : List UInt8 :=
  let n := c.toNat
  if n < 0x80 then [UInt8.ofNat n]
  else if n < 0x800 then [UInt8.ofNat (0xC0 + n / 0x40), UInt8.ofNat (0x80 + n % 0x40)]
  else if n < 0x10000 then
    [UInt8.ofNat (0xE0 + n / 0x1000), UInt8.ofNat (0x80 + n / 0x40 % 0x40),
      UInt8.ofNat (0x80 + n % 0x40)]
  else
    [UInt8.ofNat (0xF0 + n / 0x40000), UInt8.ofNat (0x80 + n / 0x1000 % 0x40),
      UInt8.ofNat (0x80 + n / 0x40 % 0x40), UInt8.ofNat (0x80 + n % 0x40)]

/-- The bytes of a text. -/
def encode (s : String) : List UInt8 :=
  s.toList.flatMap encodeChar

/-- An ASCII character is one byte, its code point. -/
theorem encodeChar_ascii {c : Char} (h : c.toNat < 0x80) :
    encodeChar c = [UInt8.ofNat c.toNat] := by
  simp [encodeChar, h]

/-! ## Reading -/

/-- What the machine waits for: the first byte of a character, or a byte from
`low` to `high` after which `left` more continuation bytes follow. -/
inductive Awaiting
  | first
  | next (code low high left : Nat)

/-- The effect of a byte that starts a code point or is malformed alone. -/
def startCode (surrogates : Bool) (b : Nat) : Awaiting × List (Option Nat) :=
  if b < 0x80 then (.first, [some b])
  else if 0xC2 ≤ b && b ≤ 0xDF then (.next (b - 0xC0) 0x80 0xBF 0, [])
  else if b == 0xE0 then (.next 0 0xA0 0xBF 1, [])
  else if b == 0xED && !surrogates then (.next 0xD 0x80 0x9F 1, [])
  else if 0xE1 ≤ b && b ≤ 0xEF then (.next (b - 0xE0) 0x80 0xBF 1, [])
  else if b == 0xF0 then (.next 0 0x90 0xBF 2, [])
  else if b == 0xF4 then (.next 4 0x80 0x8F 2, [])
  else if 0xF1 ≤ b && b ≤ 0xF3 then (.next (b - 0xF0) 0x80 0xBF 2, [])
  else (.first, [none])

/-- The effect of a byte in any state. -/
def Awaiting.step (surrogates : Bool) : Awaiting → Nat → Awaiting × List (Option Nat)
  | .first, b => startCode surrogates b
  | .next code low high left, b =>
    if low ≤ b && b ≤ high then
      let code := code * 0x40 + (b - 0x80)
      match left with
      | 0 => (.first, [some code])
      | left + 1 => (.next code 0x80 0xBF left, [])
    else
      let (state, out) := startCode surrogates b
      (state, none :: out)

/-- The code points of bytes, read from a state on; `none` stands for a
malformed run. -/
def decodeFrom (surrogates : Bool) : Awaiting → List UInt8 → List (Option Nat)
  | .first, [] => []
  | .next .., [] => [none]
  | state, b :: rest =>
    let (state, out) := state.step surrogates b.toNat
    out ++ decodeFrom surrogates state rest

/-- The code points of bytes that hold no malformed run. -/
def decodeCodes? (surrogates : Bool) (bytes : List UInt8) : Option (List Nat) :=
  (decodeFrom surrogates .first bytes).mapM id

/-- The text of bytes that hold no malformed run. -/
def decode? (bytes : List UInt8) : Option String :=
  (decodeCodes? false bytes).map fun codes => String.ofList (codes.map Char.ofNat)

/-- The text of bytes, with U+FFFD for each malformed run. -/
def decodeLossy (bytes : List UInt8) : String :=
  String.ofList ((decodeFrom false .first bytes).map fun code => Char.ofNat (code.getD 0xFFFD))

end BearerTokens.Text
