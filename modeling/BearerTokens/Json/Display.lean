/-
BearerTokens.Json.Display — a value as it is quoted in a message.

Strings are in quotation marks, the words for null, true and false are
capitalised, lists are in brackets, and objects in braces with the names
quoted; a comma and a space separate items.
-/
import BearerTokens.Json.Basic
import BearerTokens.Number.Shortest

namespace BearerTokens.Json

mutual
/-- The text of a value in a message. -/
def display : Json → String
  | null => "None"
  | bool b => if b then "True" else "False"
  | int n => toString n
  | real x => x.text
  | string w => w.quote
  | list items => "[" ++ ", ".intercalate (displayList items) ++ "]"
  | object fields => "\x7b" ++ ", ".intercalate (displayFields fields) ++ "\x7d"

/-- The texts of the items of a list. -/
def displayList : List Json → List String
  | [] => []
  | item :: rest => item.display :: displayList rest

/-- The texts of the members of an object. -/
def displayFields : Fields → List String
  | [] => []
  | (name, value) :: rest => (name.quote ++ ": " ++ value.display) :: displayFields rest
end

end BearerTokens.Json
