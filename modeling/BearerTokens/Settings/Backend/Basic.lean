/-
BearerTokens.Settings.Backend.Basic — kinds of databases and the drivers for
them.

A `Backend` is a kind of database. Under its names it holds drivers, one of
which is the usual one, and other things, which no address can be served with:
units of its code, types and functions. `Backend.driver?` looks a name up and
says what stands there instead if it is no driver.
-/
import BearerTokens.Text.Quoted

namespace BearerTokens.Settings

/-! ## Drivers -/

/-- What there is to connect with. -/
inductive Driver
  /-- The driver works on a file, and may block while it waits. -/
  | file (name : String) (blocks : Bool)
  /-- The driver connects to servers and does not block. -/
  | server (name : String)
  /-- The driver needs a module that is not there. -/
  | missing (moduleName : String)
deriving DecidableEq, Repr

/-- A thing that is not a driver. -/
inductive Thing
  /-- A unit of code. -/
  | unit (path : String)
  | type (name : String)
  /-- A type whose values are listed. -/
  | enumeration
  /-- A way to make a type from others. -/
  | form
  /-- A value of some kind. -/
  | value (kind : String)
deriving DecidableEq, Repr

/-- The text for people that says that the thing is no driver. -/
def Thing.refusal : Thing → String
  | unit path => s!"module {Text.quote path} has no attribute 'dialect'"
  | type name => s!"type object {Text.quote name} has no attribute 'dialect'"
  | enumeration | form => "dialect"
  | value kind => s!"{Text.quote kind} object has no attribute 'dialect'"

/-! ## Backends -/

/-- Where the units of backends are. -/
def registry : String := "sqlalchemy.dialects"

/-- A kind of database. -/
structure Backend where
  name : String
  /-- The driver where none is named. -/
  usual : Driver
  drivers : List (String × Driver)
  things : List (String × Thing)
deriving Repr

namespace Backend

/-- Units by their names, in the package of a backend. -/
def unitsOf (package : String) (names : List String) : List (String × Thing) :=
  names.map fun name => (name, .unit s!"{registry}.{package}.{name}")

/-- Types by their names. -/
def typesOf (names : List String) : List (String × Thing) :=
  names.map fun name => (name, .type name)

/-- Values of one kind by their names. -/
def valuesOf (kind : String) (names : List String) : List (String × Thing) :=
  names.map fun name => (name, .value kind)

/-- What stands under a name: a driver, another thing, or nothing. The name of
the base is one more name of the usual driver. -/
def driver? (b : Backend) (name : String) : Option (Except Thing Driver) :=
  if name == "base" then some (.ok b.usual)
  else
    match b.drivers.lookup name with
    | some driver => some (.ok driver)
    | none => (b.things.lookup name).map .error

end Backend
end BearerTokens.Settings
