/-
BearerTokens.Text.Split — a text cut at every place where a character stands.

The pieces stand between the places, so there is one more of them than places,
and a text without the character is its own only piece.
-/
namespace BearerTokens.Text

/-- The pieces of a text between the characters `c`; there is at least one. -/
def splitAt (c : Char) : List Char → List (List Char)
  | [] => [[]]
  | d :: rest =>
    if d == c then [] :: splitAt c rest
    else
      match splitAt c rest with
      | piece :: more => (d :: piece) :: more
      | [] => [[d]]

theorem splitAt_ne_nil (c : Char) (cs : List Char) : splitAt c cs ≠ [] := by
  cases cs with
  | nil => simp [splitAt]
  | cons d rest =>
    simp only [splitAt]
    split
    · simp
    · split <;> simp

end BearerTokens.Text
