/-
BearerTokens.Token.Secret — new secrets from random numbers.

A secret is a random number of 130 bits in base-32-hex. A number whose text is
shorter than twenty digits is thrown away and another one is drawn. `Draws`
hold a finite list of numbers followed by numbers of full length, so that
drawing comes to an end: it is structural in the list.
-/
import BearerTokens.Base32Hex
import BearerTokens.Supply

namespace BearerTokens

/-- The least length of a secret. -/
def Secret.minLength : Nat := 20

/-- The greatest length of a secret of 130 bits. -/
def Secret.maxLength : Nat := 26

/-- A finite list of numbers, then numbers of exactly 130 bits. -/
structure Draws extends Supply Nat where
  fresh_ge : ∀ n, 0x200000000000000000000000000000000 ≤ fresh n
  fresh_lt : ∀ n, fresh n < 0x400000000000000000000000000000000

namespace Draws

/-- Is the number's text long enough for a secret? -/
def isLong (draw : Nat) : Bool :=
  Secret.minLength ≤ (Base32Hex.ofNat draw).length

/-- The first long number of a list and what is left of the list, or else the
fresh number whose turn it is; `used` counts the numbers drawn so far. -/
def firstLong (fresh : Nat → Nat) : List Nat → Nat → Nat × List Nat × Nat
  | [], used => (fresh used, [], used + 1)
  | draw :: rest, used =>
    if isLong draw then (draw, rest, used + 1) else firstLong fresh rest (used + 1)

/-- Draw a number that is long enough. -/
def accept (d : Draws) : Nat × Draws :=
  let (draw, rest, used) := firstLong d.fresh d.scripted d.used
  (draw, { d with scripted := rest, used := used })

/-- Draw a new secret. -/
def drawSecret (d : Draws) : String × Draws :=
  let (draw, rest) := d.accept
  (Base32Hex.ofNat draw, rest)

end Draws
end BearerTokens
