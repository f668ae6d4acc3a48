/-
BearerTokens.Http.Query — the parameters after the question mark.

A query holds pairs in the way of a form. Of two values of one name the last
counts.
-/
import BearerTokens.Text.Form

namespace BearerTokens.Http

/-- The value of a parameter, of several the last one. -/
def queryValue? (name : String) (query : String) : Option String :=
  (Text.Form.pairs query).reverse.lookup name

end BearerTokens.Http
