/-
BearerTokens.Settings.Connection.Basic — whether an address can be connected
to.

`connectable` reads an address, finds the driver for it and looks at the query
as that driver does. Several things can be wrong with one address, and the
order in which they are looked at is fixed: the address itself, the plugins that
it asks for, the driver, what the driver makes of the address, and last
whether the driver blocks while it waits, which it must not.
-/
import BearerTokens.Settings.Backend.Known
import BearerTokens.Settings.Connection.Options
import BearerTokens.Settings.Connection.Servers

namespace BearerTokens.Settings

/-! ## Errors -/

/-- Why an address cannot be connected to. -/
inductive ConnectionError
  | address (error : AddressError)
  | unknownPlugin (name : String)
  | driver (error : DriverError)
  | missingModule (name : String)
  /-- A file was to be found on a host; the address is given as it is shown. -/
  | hostedFile (shown : String)
  | option (error : OptionError)
  /-- Parameters are to go with the name of a file, which is not given. -/
  | noFile
  | servers (error : ServersError)
  | blocking (name : String)
deriving DecidableEq, Repr

/-- The text for people. -/
def ConnectionError.message : ConnectionError → String
  | address error => error.message
  | unknownPlugin name => s!"Can't load plugin: sqlalchemy.plugins:{name}"
  | driver error => error.message
  | missingModule name => s!"No module named {Text.quote name}"
  | hostedFile shown =>
    s!"Invalid SQLite URL: {shown}\n"
      ++ "Valid SQLite URL forms are:\n"
      ++ " sqlite:///:memory: (or, sqlite://)\n"
      ++ " sqlite:///relative/path/to/file.db\n"
      ++ " sqlite:////absolute/path/to/file.db"
  | option error => error.message
  | noFile => "unsupported operand type(s) for +=: 'NoneType' and 'str'"
  | servers error => error.message
  | blocking name =>
    "The asyncio extension requires an async driver to be used. The loaded "
      ++ s!"{Text.quote name} is not async."

/-! ## Plugins -/

/-- The address without what it says about plugins; there are none that it could
ask for. -/
def Address.withoutPlugins (a : Address) : Except ConnectionError Address :=
  match a.parameter? "plugin" with
  | some p => .error (.unknownPlugin p.value)
  | none => .ok (a.without ["plugins"])

/-! ## What drivers make of an address -/

/-- The names of the options of a file. -/
def fileOptions : List String :=
  ["uri", "timeout", "isolation_level", "detect_types", "check_same_thread", "cached_statements"]

/-- Can a driver for files use the options of an address? -/
def Address.checkFileOptions (a : Address) : Except OptionError Bool := do
  let uri ← a.option "uri" Parameter.switch
  let _ ← a.option "timeout" Parameter.real
  let _ ← a.option "detect_types" Parameter.integer
  let _ ← a.option "check_same_thread" Parameter.switch
  let _ ← a.option "cached_statements" Parameter.integer
  return uri.getD false

/-- Can a driver for files use the address? Where the file is named by a URI the
parameters that are no options are appended to its name. -/
def Address.checkFile (a : Address) : Except ConnectionError Unit := do
  if a.namesHost then
    throw (.hostedFile a.display)
  let uri ← a.checkFileOptions.mapError .option
  if uri && a.database.isNone && !(a.parametersBut fileOptions).isEmpty then
    throw .noFile

/-- Can a driver for servers use the address? -/
def Address.checkServers (a : Address) : Except ConnectionError Unit := do
  let texts ← a.serverTexts.mapError .servers
  let servers ← (Servers.ofTexts texts).mapError .servers
  let _ ← servers.check.mapError .servers
  let _ ← (a.option "prepared_statement_cache_size" Parameter.integer).mapError .option

/-! ## Connecting -/

/-- The backend and the driver of an address that an engine can be built for. -/
def connectable (url : String) : Except ConnectionError (String × String) := do
  let address ← (Address.parse url).mapError .address
  let address ← address.withoutPlugins
  let (backend, driver) ← (Driver.find address.scheme).mapError .driver
  match driver with
  | .missing name => throw (.missingModule name)
  | .file name blocks =>
    address.checkFile
    if blocks then throw (.blocking name) else return (backend.name, name)
  | .server name =>
    address.checkServers
    return (backend.name, name)

end BearerTokens.Settings
