/-
BearerTokens.Settings.Address — where the database is.

An address starts with a scheme and `://`. A user with a password, a host with
a port, a database and a query may follow in this order, each of them optional,
and what follows them does not count. User, password and database are
percent-encoded, and the query holds pairs in the way of a form, of which those
with an empty value do not count. The query ends with the line.

`Address.parse` reads an address, and `Address.display` is how it is shown: the
password covered and the parameters of the query sorted by name.
-/
import BearerTokens.Number.Numeral
import BearerTokens.Text.Form
import BearerTokens.Text.Word

namespace BearerTokens.Settings

open Number (NumeralError)

/-! ## Errors -/

/-- Why a text is not an address. -/
inductive AddressError
  | malformed
  | port (error : NumeralError)
deriving DecidableEq, Repr

/-- The text for people. -/
def AddressError.message : AddressError → String
  | malformed => "Could not parse SQLAlchemy URL from given URL string"
  | port error => error.message

/-! ## Addresses -/

/-- What a query gives for one name: a value, and more of them if the name is
repeated. -/
structure Parameter where
  name : String
  value : String
  others : List String
deriving DecidableEq, Repr

namespace Parameter

/-- All values, in order. -/
def values (p : Parameter) : List String := p.value :: p.others

/-- Add a pair: a new name goes to the end, a known one gets one more value. -/
def add (ps : List Parameter) (pair : String × String) : List Parameter :=
  if ps.any (·.name == pair.1) then
    ps.map fun p => if p.name == pair.1 then { p with others := p.others ++ [pair.2] } else p
  else ps ++ [⟨pair.1, pair.2, []⟩]

/-- The parameters of a query. -/
def ofQuery (query : String) : List Parameter :=
  ((Text.Form.pairs query).filter fun pair => !pair.2.isEmpty).foldl add []

/-- The query of parameters, which are sorted by name. -/
def query (ps : List Parameter) : String :=
  let sorted := ps.mergeSort fun p q => !(q.name < p.name)
  Text.Form.text (sorted.flatMap fun p => p.values.map fun value => (p.name, value))

end Parameter

/-- The parts of an address. -/
structure Address where
  scheme : String
  user : Option String
  password : Option String
  host : Option String
  port : Option Int
  database : Option String
  parameters : List Parameter
deriving DecidableEq, Repr

namespace Address

/-! ## Reading -/

/-- A character of a scheme. -/
def isSchemeChar (c : Char) : Bool :=
  Text.isWordChar c || c == '+'

/-- Cut before the last character that is `c`. -/
def cutLast? (c : Char) (cs : List Char) : Option (List Char × List Char) :=
  let tail := cs.reverse.takeWhile (· != c)
  match cs.reverse.dropWhile (· != c) with
  | _ :: before => some (before.reverse, tail.reverse)
  | [] => none

/-- The user and the password, which end at an `@`. -/
def takeUser (cs : List Char) : Option (List Char) × Option (List Char) × List Char :=
  let isUser (c : Char) : Bool := c != ':' && c != '/'
  let user := cs.takeWhile isUser
  let rest := cs.dropWhile isUser
  match rest with
  | ':' :: more =>
    match more.dropWhile (· != '@') with
    | _ :: after => (some user, some (more.takeWhile (· != '@')), after)
    | [] => withoutPassword user rest
  | rest => withoutPassword user rest
where
  /-- The user alone, up to the last `@` before a colon or a slash. -/
  withoutPassword (user rest : List Char) :
      Option (List Char) × Option (List Char) × List Char :=
    match cutLast? '@' user with
    | some (name, more) => (some name, none, more ++ rest)
    | none => (none, none, user ++ rest)

/-- The host, which may stand between brackets. -/
def takeHost (cs : List Char) : Option (List Char) × List Char :=
  let isBare (c : Char) : Bool := c != '/' && c != ':' && c != '?'
  let bare : Option (List Char) × List Char :=
    let host := cs.takeWhile isBare
    (if host.isEmpty then none else some host, cs.dropWhile isBare)
  match cs with
  | '[' :: rest =>
    let isInside (c : Char) : Bool := c != '/' && c != '?'
    match cutLast? ']' (rest.takeWhile isInside) with
    | some ([], _) | none => bare
    | some (host, more) => (some host, more ++ rest.dropWhile isInside)
  | _ => bare

/-- The part that a mark starts, up to a character that ends it. -/
def takePart (mark : Char) (ends : Char → Bool) (cs : List Char) :
    Option (List Char) × List Char :=
  match cs with
  | c :: rest =>
    if c == mark then (some (rest.takeWhile fun c => !ends c), rest.dropWhile fun c => !ends c)
    else (none, cs)
  | [] => (none, [])

/-- Characters that are percent-encoded, as they were meant. -/
def decodePart (cs : List Char) : String :=
  Text.percentDecode (String.ofList cs)

/-- Read an address. -/
def parse (s : String) : Except AddressError Address :=
  let scheme := s.toList.takeWhile isSchemeChar
  match s.toList.dropWhile isSchemeChar with
  | ':' :: '/' :: '/' :: rest =>
    if scheme.isEmpty then .error .malformed
    else
      let (user, password, rest) := takeUser rest
      let (host, rest) := takeHost rest
      let (port, rest) := takePart ':' (fun c => c == '/' || c == '?') rest
      let (database, rest) := takePart '/' (· == '?') rest
      let (query, _) := takePart '?' (· == '\n') rest
      let address (port : Option Int) : Address :=
        { scheme := String.ofList scheme
          user := user.map decodePart
          password := password.map decodePart
          host := host.map String.ofList
          port := port
          database := database.map decodePart
          parameters := Parameter.ofQuery (String.ofList (query.getD [])) }
      match port with
      | none => .ok (address none)
      | some digits =>
        match Number.readInteger (String.ofList digits) with
        | .ok n => .ok (address (some n))
        | .error e => .error (.port e)
  | _ => .error .malformed

/-! ## Showing -/

/-- A user as it is shown. -/
def shownUser (s : String) : String :=
  Text.percentEncodeKeeping (fun c => Text.isUnreserved c || c == ' ' || c == '+') s

/-- A database as it is shown. -/
def shownDatabase (s : String) : String :=
  Text.percentEncodeKeeping (fun c => Text.isUnreserved c || c == ' ' || c == '+' || c == '/') s

/-- The address as it is shown, the password covered. -/
def display (a : Address) : String :=
  let password := if a.password.isSome then ":***" else ""
  let user := (a.user.map fun user => shownUser user ++ password ++ "@").getD ""
  let host := (a.host.map fun host => if host.contains ':' then s!"[{host}]" else host).getD ""
  let port := (a.port.map fun port => s!":{port}").getD ""
  let database := (a.database.map fun database => "/" ++ shownDatabase database).getD ""
  let query := if a.parameters.isEmpty then "" else "?" ++ Parameter.query a.parameters
  a.scheme ++ "://" ++ user ++ host ++ port ++ database ++ query

/-! ## Parts -/

/-- Does an address name anything but a file? -/
def namesHost (a : Address) : Bool :=
  let isNamed (s : Option String) : Bool := s.any (!·.isEmpty)
  isNamed a.user || isNamed a.password || isNamed a.host || a.port.any (· != 0)

/-- What the query gives for a name. -/
def parameter? (a : Address) (name : String) : Option Parameter :=
  a.parameters.find? (·.name == name)

/-- The parameters of other names than those given. -/
def parametersBut (a : Address) (names : List String) : List Parameter :=
  a.parameters.filter fun p => !names.contains p.name

/-- The address without the parameters of these names. -/
def without (a : Address) (names : List String) : Address :=
  { a with parameters := a.parametersBut names }

end Address
end BearerTokens.Settings
