/-
BearerTokens.Number.Shortest — the shortest decimal text of a number.

Of all decimals that read back as the number, the text shows one with the
fewest digits and, of those, the nearest, or the even one of two that are
equally near. `shortest` looks for it on the grids of 1, 2, … , 17 digits: on
each grid only the two neighbours of the number can read back if any point
does. `Binary64.text` then places the point: positional
notation for a decimal exponent above -4 and up to 16, otherwise one digit, the
others after a point, and an exponent of at least two digits.
-/
import BearerTokens.Number.Binary64

namespace BearerTokens.Number.Binary64

/-! ## The digits -/

/-- Does the quotient reach `10 ^ k`? -/
def reaches (num den : Nat) (k : Int) : Bool :=
  if 0 ≤ k then den * Nat.pow 10 k.toNat ≤ num else den ≤ num * Nat.pow 10 (-k).toNat

/-- The least `k` from `start` on, within `tries` steps, whose power of ten the
quotient does not reach. -/
def leastAbove (num den : Nat) : Nat → Int → Int
  | 0, k => k
  | tries + 1, k => if reaches num den k then leastAbove num den tries (k + 1) else k

/-- The place of the point: the quotient lies in `[10 ^ (k-1), 10 ^ k)`. -/
def pointPlace (num den : Nat) : Int :=
  let twos : Int := (num.log2 : Int) - (den.log2 : Int) - 1
  leastAbove num den 6 (twos * 30103 / 100000 - 1)

/-- The digits of the quotient on the grid of step `10 ^ scale`: the point at
or below it, and whether the point above it is to be preferred, as nearer or,
of two equally near points, as the even one. -/
def gridPoint (num den : Nat) (scale : Int) : Nat × Bool :=
  let (n, d) :=
    if 0 ≤ scale then (num, den * Nat.pow 10 scale.toNat)
    else (num * Nat.pow 10 (-scale).toNat, den)
  (n / d, d < 2 * (n % d) || (d == 2 * (n % d) && n / d % 2 == 1))

/-- The first grid of at most 17 digits with a neighbour that reads back. -/
def shortestFrom (mantissa : Nat) (exponent : Int) (place : Int) : Nat → Nat → Nat × Int
  | 0, count => ((gridPoint (quotient mantissa exponent).1 (quotient mantissa exponent).2
      (place - count)).1, place - count)
  | tries + 1, count =>
    let (num, den) := quotient mantissa exponent
    let scale := place - count
    let (below, upward) := gridPoint num den scale
    let (first, second) := if upward then (below + 1, below) else (below, below + 1)
    let value := finite false mantissa exponent
    if ofDecimal false first scale == value then (first, scale)
    else if ofDecimal false second scale == value then (second, scale)
    else shortestFrom mantissa exponent place tries (count + 1)

/-- The digits and the scale of the shortest decimal of a positive number. -/
def shortest (mantissa : Nat) (exponent : Int) : Nat × Int :=
  let (num, den) := quotient mantissa exponent
  shortestFrom mantissa exponent (pointPlace num den) 17 1

/-! ## The text -/

/-- The digits without the zeros at the end. -/
def trimZeros (digits : List Char) : List Char :=
  (digits.reverse.dropWhile (· == '0')).reverse

/-- Digits with the point after the first `point` of them. -/
def positional (digits : List Char) (point : Int) : List Char :=
  if point ≤ 0 then '0' :: '.' :: (List.replicate (-point).toNat '0' ++ digits)
  else
    let n := point.toNat
    let whole := digits.take n ++ List.replicate (n - digits.length) '0'
    let fraction := digits.drop n
    whole ++ '.' :: (if fraction.isEmpty then ['0'] else fraction)

/-- Digits with the point after the first of them, and an exponent. -/
def scientific (digits : List Char) (point : Int) : List Char :=
  let mark := match digits with
    | [] => []
    | [d] => [d]
    | d :: rest => d :: '.' :: rest
  let e := point - 1
  let places := (toString e.natAbs).toList
  let places := if places.length < 2 then '0' :: places else places
  mark ++ 'e' :: (if e < 0 then '-' else '+') :: places

/-- The text of the digits of a positive number. -/
def layout (digits : Nat) (scale : Int) : List Char :=
  let shown := (toString digits).toList
  let point := (shown.length : Int) + scale
  let shown := trimZeros shown
  if -4 < point && point ≤ 16 then positional shown point else scientific shown point

/-- The text of a number. -/
def text : Binary64 → String
  | nan => "nan"
  | infinite negative => if negative then "-inf" else "inf"
  | finite negative mantissa exponent =>
    let body := if mantissa == 0 then ['0', '.', '0']
      else let (digits, scale) := shortest mantissa exponent; layout digits scale
    String.ofList (if negative then '-' :: body else body)

end BearerTokens.Number.Binary64
