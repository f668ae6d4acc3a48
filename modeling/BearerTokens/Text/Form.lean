/-
BearerTokens.Text.Form — names and values on one line.

Pairs are separated by `&` and a name from its value by the first `=`. In a
name or a value a plus sign stands for a space, and all but the unreserved
characters is percent-encoded. A reader takes what is not encoded as it is.
-/
import BearerTokens.Text.Percent
import BearerTokens.Text.Split

namespace BearerTokens.Text.Form

/-! ## Names and values -/

/-- A name or a value as it is written. -/
def encode (s : String) : String :=
  String.ofList (s.toList.flatMap fun c => if c == ' ' then ['+'] else percentChar isUnreserved c)

/-- A name or a value as it was meant. -/
def decode (cs : List Char) : String :=
  percentDecode (String.ofList (cs.map fun c => if c == '+' then ' ' else c))

/-! ## Pairs -/

/-- The pairs of a text, in order. What holds no equals sign is a name with an
empty value, and nothing between two separators is no pair. -/
def pairs (s : String) : List (String × String) :=
  ((splitAt '&' s.toList).filter fun piece => !piece.isEmpty).map fun piece =>
    (decode (piece.takeWhile (· != '=')), decode ((piece.dropWhile (· != '=')).drop 1))

/-- A pair as it is written. -/
def pairText (p : String × String) : String :=
  encode p.1 ++ "=" ++ encode p.2

/-- Pairs as they are written. -/
def text (ps : List (String × String)) : String :=
  "&".intercalate (ps.map pairText)

end BearerTokens.Text.Form
