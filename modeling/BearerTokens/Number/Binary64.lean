/-
BearerTokens.Number.Binary64 — the binary floating-point numbers of 64 bits.

A number is kept as a signed integer times a power of two, so that every rule
about it is one about integers. `ofDecimal` rounds a decimal to the nearest
such number, a tie going to the even neighbour; it works on the quotient of
two natural numbers and is therefore exact. `parse?` reads the text of a
number in a setting.
-/
import BearerTokens.Text.Blank
import BearerTokens.Text.Digit

namespace BearerTokens.Number

/-! ## Numbers -/

/-- A number: `± mantissa · 2 ^ exponent`, an infinity, or none. -/
inductive Binary64
  | finite (negative : Bool) (mantissa : Nat) (exponent : Int)
  | infinite (negative : Bool)
  | nan
deriving DecidableEq, Repr, Inhabited

namespace Binary64

/-- Zero, of either sign. -/
def isZero : Binary64 → Bool
  | finite _ m _ => m == 0
  | _ => false

/-- Is it neither infinite nor undefined? -/
def isFinite : Binary64 → Bool
  | finite .. => true
  | _ => false

/-- The number with its sign turned. -/
def neg : Binary64 → Binary64
  | finite s m e => finite (!s) m e
  | infinite s => infinite (!s)
  | nan => nan

/-! ## Rounding -/

/-- The least exponent, that of the numbers next to zero. -/
def minExponent : Int := -1074

/-- The greatest exponent of a finite number. -/
def maxExponent : Int := 971

/-- The quotient rounded to an integer, a tie going to the even one. -/
def roundQuotient (num den : Nat) : Nat :=
  let q := num / den
  let r := num % den
  if 2 * r < den then q
  else if den < 2 * r then q + 1
  else if q % 2 == 0 then q else q + 1

/-- The quotient `num / den` in units of `2 ^ e`, as numerator and denominator. -/
def inUnits (num den : Nat) (e : Int) : Nat × Nat :=
  if 0 ≤ e then (num, den * Nat.pow 2 e.toNat) else (num * Nat.pow 2 (-e).toNat, den)

/-- The number nearest to a quotient of two positive naturals. -/
def ofQuotient (negative : Bool) (num den : Nat) : Binary64 :=
  let guess : Int := (num.log2 : Int) - (den.log2 : Int) - 52
  let (n, d) := inUnits num den guess
  let e := max minExponent (if n < d * Nat.pow 2 52 then guess - 1 else guess)
  let (n, d) := inUnits num den e
  let m := roundQuotient n d
  let (m, e) := if m == Nat.pow 2 53 then (Nat.pow 2 52, e + 1) else (m, e)
  if maxExponent < e then .infinite negative else .finite negative m e

/-! ## Arithmetic -/

/-- A positive number as a quotient of two naturals. -/
def quotient (mantissa : Nat) (exponent : Int) : Nat × Nat :=
  if 0 ≤ exponent then (mantissa * Nat.pow 2 exponent.toNat, 1)
  else (mantissa, Nat.pow 2 (-exponent).toNat)

/-- The number nearest to the product with a positive natural number. -/
def times (n : Nat) : Binary64 → Binary64
  | finite s m e =>
    if m == 0 then finite s m e
    else
      let (num, den) := quotient (m * n) e
      ofQuotient s num den
  | x => x

/-- The whole part of a finite number, without its sign. -/
def whole : Binary64 → Nat
  | finite _ m e =>
    let (num, den) := quotient m e
    num / den
  | _ => 0

/-! ## Decimals -/

/-- How many decimal digits a natural number has, or one more or less. -/
def decimalLength (n : Nat) : Nat :=
  n.log2 * 30103 / 100000 + 1

/-- The number nearest to `digits · 10 ^ scale`. Well beyond the bounds that are
tried first the answer is infinite or zero whatever the digits are. -/
def ofDecimal (negative : Bool) (digits : Nat) (scale : Int) : Binary64 :=
  let magnitude := (decimalLength digits : Int) + scale
  if digits == 0 || magnitude < -330 then .finite negative 0 minExponent
  else if 310 < magnitude then .infinite negative
  else if 0 ≤ scale then ofQuotient negative (digits * Nat.pow 10 scale.toNat) 1
  else ofQuotient negative digits (Nat.pow 10 (-scale).toNat)

/-! ## Reading -/

/-- The optional sign before a number. -/
def takeSign : List Char → Bool × List Char
  | '-' :: rest => (true, rest)
  | '+' :: rest => (false, rest)
  | rest => (false, rest)

/-- The exponent part, to the end of the text: nothing, or `e` and digits. -/
def parseExponent? : List Char → Option Int
  | [] => some 0
  | c :: rest =>
    if c == 'e' || c == 'E' then
      let (negative, digits) := takeSign rest
      if digits.isEmpty || !digits.all Text.isAsciiDigit then none
      else
        let n : Int := Text.digitsValue digits
        some (if negative then -n else n)
    else none

/-- Digits with at most one point among them, then an exponent. -/
def parseMagnitude? (negative : Bool) (cs : List Char) : Option Binary64 := do
  let whole := cs.takeWhile Text.isAsciiDigit
  let rest := cs.dropWhile Text.isAsciiDigit
  let (fraction, rest) := match rest with
    | '.' :: rest => (rest.takeWhile Text.isAsciiDigit, rest.dropWhile Text.isAsciiDigit)
    | rest => ([], rest)
  guard (!(whole ++ fraction).isEmpty)
  let exponent ← parseExponent? rest
  return ofDecimal negative (Text.digitsValue (whole ++ fraction)) (exponent - fraction.length)

/-- Does every underscore stand between two other characters? `after` tells
whether none may stand here. -/
def separatesAll : Bool → List Char → Bool
  | after, [] => !after
  | after, c :: rest =>
    if c == '_' then !after && separatesAll true rest else separatesAll false rest

/-- The text without its underscores, if each of them separates two others. -/
def dropSeparators? (cs : List Char) : Option (List Char) :=
  if separatesAll true cs then some (cs.filter (· != '_')) else none

/-- Read the characters of a number. The words for infinity and for no number
may be written in any case. -/
def parseChars? (cs : List Char) : Option Binary64 :=
  let (negative, body) := takeSign cs
  let word := String.ofList (body.map Char.toLower)
  if word == "inf" || word == "infinity" then some (.infinite negative)
  else if word == "nan" then some .nan
  else parseMagnitude? negative body

/-- Read the text of a number, with white space around it allowed. -/
def parse? (s : String) : Option Binary64 :=
  parseChars? (Text.trimChars Text.isSpace s.toList)

end Binary64
end BearerTokens.Number
