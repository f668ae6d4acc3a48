/-
BearerTokens.Hash.Pi — the binary digits of the fraction of π.

Machin's formula gives π as `16 arctan (1/5) - 4 arctan (1/239)`. Both series
are summed in fixed point with 64 bits more than are asked for, which is more
than their rounding errors take.
-/
namespace BearerTokens.Hash.Pi

/-- The alternating sum of `power / k`, `power / (k + 2) / x²`, … in at most
`terms` terms; `sign` tells whether the next term is subtracted. -/
def series (square : Nat) : Nat → Nat → Nat → Bool → Int → Int
  | 0, _, _, _, sum => sum
  | terms + 1, power, k, sign, sum =>
    if power == 0 then sum
    else
      let term : Int := power / k
      series square terms (power / square) (k + 2) (!sign) (if sign then sum - term else sum + term)

/-- The arctangent of `1 / x` in units of `1 / one`. -/
def arctanInverse (one x : Nat) : Int :=
  series (x * x) (one.log2 + 1) (one / x) 1 false 0

/-- The first `bits` binary digits after the point of π, as one number. -/
def fraction (bits : Nat) : Nat :=
  let one := Nat.pow 2 (bits + 64)
  let pi := 16 * arctanInverse one 5 - 4 * arctanInverse one 239
  (pi.toNat - 3 * one) / Nat.pow 2 64

end BearerTokens.Hash.Pi
