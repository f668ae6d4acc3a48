/-
BearerTokens.Json.Basic — the values of the JSON data format.

Integers are unbounded and kept apart from numbers with a fraction or an
exponent, since the two are shown differently. A string or a name may hold
surrogates; `Json.text` is the string that is a text. The members of an object
keep the order of their names' first appearance, and no name appears twice in
an object that was read; `setField` is the operation that keeps it so.
-/
import BearerTokens.Number.Binary64
import BearerTokens.Text.Wide

namespace BearerTokens

open Number (Binary64)
open Text (Wide)

/-- A JSON value. -/
inductive Json
  | null
  | bool (b : Bool)
  | int (n : Int)
  | real (x : Binary64)
  | string (w : Wide)
  | list (items : List Json)
  | object (fields : List (Wide × Json))
deriving Inhabited, Repr

namespace Json

/-- A string that is a text. -/
@[match_pattern] abbrev text (s : String) : Json := string (.text s)

/-! ## Members of an object -/

/-- The members of an object: names and values, in order. -/
abbrev Fields := List (Wide × Json)

/-- Set a member: a new name goes to the end, a known one keeps its place. -/
def setField (name : Wide) (value : Json) : Fields → Fields
  | [] => [(name, value)]
  | (n, v) :: rest =>
    if n == name then (name, value) :: rest else (n, v) :: setField name value rest

/-- The value of the member of that name. -/
def Fields.get? (fields : Fields) (name : String) : Option Json :=
  fields.lookup (.text name)

/-- The member of that name, of an object. -/
def field? (name : String) : Json → Option Json
  | object fields => Fields.get? fields name
  | _ => none

theorem lookup_setField_self (name : Wide) (value : Json) (fields : Fields) :
    (setField name value fields).lookup name = some value := by
  induction fields with
  | nil => simp [setField]
  | cons f rest ih =>
    obtain ⟨n, v⟩ := f
    by_cases h : n = name
    · simp [setField, h]
    · have hn : (name == n) = false := by simpa using fun e => h e.symm
      simp [setField, h, List.lookup_cons, hn, ih]

/-! ## Kinds of values -/

/-- A value that stands for nothing: null, false, zero, or empty. -/
def isVoid : Json → Bool
  | null => true
  | bool b => !b
  | int n => n == 0
  | real x => x.isZero
  | string w => w.isEmpty
  | list items => items.isEmpty
  | object fields => fields.isEmpty

/-- The word for the kind of a value. -/
def kindName : Json → String
  | null => "NoneType"
  | bool _ => "bool"
  | int _ => "int"
  | real _ => "float"
  | string _ => "str"
  | list _ => "list"
  | object _ => "dict"

/-- A value or null. -/
def ofOption {α : Type} (encode : α → Json) (x : Option α) : Json :=
  x.elim null encode

/-! ## Leaving members out -/

mutual
/-- The value without the members whose name passes the test, at any depth. -/
def withoutNamed (test : Wide → Bool) : Json → Json
  | list items => list (withoutNamedItems test items)
  | object fields => object (withoutNamedFields test fields)
  | value => value

/-- The same for each item of a list. -/
def withoutNamedItems (test : Wide → Bool) : List Json → List Json
  | [] => []
  | item :: rest => item.withoutNamed test :: withoutNamedItems test rest

/-- The members whose name does not pass the test, and the same in their values. -/
def withoutNamedFields (test : Wide → Bool) : Fields → Fields
  | [] => []
  | (name, value) :: rest =>
    if test name then withoutNamedFields test rest
    else (name, value.withoutNamed test) :: withoutNamedFields test rest
end

/-! ## What holds everywhere in a value -/

mutual
/-- Do all values that hold no others pass one test, and all names another? -/
def all (leaf : Json → Bool) (named : Wide → Bool) : Json → Bool
  | list items => allItems leaf named items
  | object fields => allFields leaf named fields
  | value => leaf value

/-- The same for each item of a list. -/
def allItems (leaf : Json → Bool) (named : Wide → Bool) : List Json → Bool
  | [] => true
  | item :: rest => item.all leaf named && allItems leaf named rest

/-- The same for each member of an object. -/
def allFields (leaf : Json → Bool) (named : Wide → Bool) : Fields → Bool
  | [] => true
  | (name, value) :: rest => named name && value.all leaf named && allFields leaf named rest
end

/-- Is every number in the value finite? -/
def isFinite (value : Json) : Bool :=
  value.all (fun | real x => x.isFinite | _ => true) fun _ => true

/-- Is every string and every name in the value a text? -/
def isText (value : Json) : Bool :=
  value.all (fun | string w => w.isText | _ => true) Wide.isText

end Json
end BearerTokens
