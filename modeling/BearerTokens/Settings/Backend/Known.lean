/-
BearerTokens.Settings.Backend.Known — the backends that are known, and the
driver that a scheme names.

A scheme is the name of a backend, after which a plus sign and the name of a
driver may follow. `Driver.find` is the driver of a scheme. Only the drivers for
files and `asyncpg` have all that they need; each of the others lacks a module.

Units of code that the backends share stand among them. A scheme can name what
is in such a unit, but never a driver.
-/
import BearerTokens.Settings.Backend.Basic
import BearerTokens.Text.Split

namespace BearerTokens.Settings

namespace Backend

/-! ## What every backend holds -/

/-- What a folder of units holds to describe itself. -/
def folderDescriptions : List (String × Thing) :=
  [("__class__", .type "module"), ("__doc__", .value "NoneType"), ("__spec__", .value "ModuleSpec")]
  ++ valuesOf "dict" ["__annotations__", "__dict__"]
  ++ valuesOf "str" ["__name__", "__package__"]
  ++ valuesOf "method-wrapper" ["__delattr__", "__eq__", "__ge__", "__getattribute__", "__gt__",
    "__hash__", "__init__", "__le__", "__lt__", "__ne__", "__repr__", "__setattr__", "__str__"]
  ++ valuesOf "builtin_function_or_method" ["__dir__", "__format__", "__getstate__",
    "__init_subclass__", "__new__", "__reduce__", "__reduce_ex__", "__sizeof__",
    "__subclasshook__"]

/-- What a unit holds to describe itself. -/
def unitDescriptions : List (String × Thing) :=
  [("__builtins__", .value "dict"), ("__loader__", .value "SourceFileLoader")]
  ++ valuesOf "str" ["__cached__", "__file__"]
  ++ folderDescriptions

/-- What every backend holds to describe itself. -/
def descriptions : List (String × Thing) :=
  [("__all__", .value "tuple"), ("__path__", .value "list")] ++ unitDescriptions

/-! ## The backends -/

/-- Databases in files. -/
def sqlite : Backend where
  name := "sqlite"
  usual := .file "pysqlite" true
  drivers := [
    ("aiosqlite", .file "aiosqlite" false),
    ("pysqlite", .file "pysqlite" true),
    ("pysqlcipher", .missing "pysqlcipher3")]
  things := ("dialect", .type "SQLiteDialect_pysqlite")
    :: unitsOf "sqlite" ["dml", "json"]
    ++ typesOf ["BLOB", "BOOLEAN", "CHAR", "DATE", "DATETIME", "DECIMAL", "FLOAT", "INTEGER",
      "Insert", "JSON", "JSONB", "NUMERIC", "REAL", "SMALLINT", "TEXT", "TIME", "TIMESTAMP",
      "VARCHAR"]
    ++ valuesOf "function" ["insert"]
    ++ descriptions

/-- The types of `postgresql`. -/
def postgresqlTypes : List String := [
  "ARRAY", "AbstractMultiRange", "AbstractRange", "AbstractSingleRange", "BIGINT", "BIT",
  "BOOLEAN", "BYTEA", "BitString", "CHAR", "CIDR", "CITEXT", "CreateDomainType",
  "CreateEnumType", "DATE", "DATEMULTIRANGE", "DATERANGE", "DOMAIN", "DOUBLE_PRECISION",
  "DropDomainType", "DropEnumType", "ENUM", "ExcludeConstraint", "FLOAT", "HSTORE", "INET",
  "INT4MULTIRANGE", "INT4RANGE", "INT8MULTIRANGE", "INT8RANGE", "INTEGER", "INTERVAL",
  "Insert", "JSON", "JSONB", "JSONPATH", "MACADDR", "MACADDR8", "MONEY", "MultiRange",
  "NUMERIC", "NUMMULTIRANGE", "NUMRANGE", "NamedType", "OID", "REAL", "REGCLASS", "REGCONFIG",
  "Range", "SMALLINT", "TEXT", "TIME", "TIMESTAMP", "TSMULTIRANGE", "TSQUERY", "TSRANGE",
  "TSTZMULTIRANGE", "TSTZRANGE", "TSVECTOR", "UUID", "VARCHAR", "aggregate_order_by", "array",
  "hstore", "phraseto_tsquery", "plainto_tsquery", "to_tsquery", "to_tsvector", "ts_headline",
  "websearch_to_tsquery"]

/-- The servers of `postgresql`. -/
def postgresql : Backend where
  name := "postgresql"
  usual := .missing "psycopg"
  drivers := [
    ("asyncpg", .server "asyncpg"),
    ("psycopg", .missing "psycopg"),
    ("psycopg_async", .missing "psycopg"),
    ("psycopg2", .missing "psycopg2"),
    ("psycopg2cffi", .missing "psycopg2cffi"),
    ("pg8000", .missing "pg8000")]
  things := ("dialect", .type "PGDialect_psycopg") :: ("ModuleType", .type "module")
    :: ("arraylib", .unit s!"{registry}.postgresql.array")
    :: unitsOf "postgresql" ["_psycopg_common", "bitstring", "dml", "ext", "json", "named_types",
      "operators", "pg_catalog", "ranges", "types"]
    ++ typesOf postgresqlTypes
    ++ valuesOf "function" ["All", "Any", "array_agg", "distinct_on", "insert"]
    ++ descriptions

/-- The drivers of `mysql`. -/
def mysqlDrivers : List (String × Driver) := [
  ("mysqldb", .missing "MySQLdb"),
  ("pymysql", .missing "pymysql"),
  ("aiomysql", .missing "aiomysql"),
  ("asyncmy", .missing "asyncmy"),
  ("mysqlconnector", .missing "mysql"),
  ("mariadbconnector", .missing "mariadb"),
  ("cymysql", .missing "cymysql"),
  ("pyodbc", .missing "pyodbc")]

/-- The units of `mysql`. -/
def mysqlUnits : List String := [
  "_mariadb_shim", "dml", "enumerated", "expression", "json", "mariadb", "reflection",
  "reserved_words", "types"]

/-- The servers of `mysql`. -/
def mysql : Backend where
  name := "mysql"
  usual := .missing "MySQLdb"
  drivers := mysqlDrivers
  things := ("dialect", .type "MySQLDialect_mysqldb")
    :: unitsOf "mysql" mysqlUnits
    ++ typesOf ["BIGINT", "BINARY", "BIT", "BLOB", "BOOLEAN", "CHAR", "DATE", "DATETIME",
      "DECIMAL", "DOUBLE", "ENUM", "FLOAT", "INET4", "INET6", "INTEGER", "Insert", "JSON",
      "LONGBLOB", "LONGTEXT", "MEDIUMBLOB", "MEDIUMINT", "MEDIUMTEXT", "NCHAR", "NUMERIC",
      "NVARCHAR", "REAL", "SET", "SMALLINT", "TEXT", "TIME", "TIMESTAMP", "TINYBLOB", "TINYINT",
      "TINYTEXT", "VARBINARY", "VARCHAR", "YEAR", "match"]
    ++ valuesOf "function" ["insert", "limit"]
    ++ descriptions

/-- The servers of `mariadb`, with the drivers and the units of `mysql`. One more
name, `__init__`, is for the usual driver. -/
def mariadb : Backend where
  name := "mariadb"
  usual := .missing "MySQLdb"
  drivers := ("__init__", .missing "MySQLdb") :: mysqlDrivers
  things := unitsOf "mysql" ("provision" :: "__pycache__" :: mysqlUnits)

/-- The servers of `oracle`, for which `NVARCHAR2` is one more name of a type. -/
def oracle : Backend where
  name := "oracle"
  usual := .missing "oracledb"
  drivers := [
    ("oracledb", .missing "oracledb"),
    ("oracledb_async", .missing "oracledb"),
    ("cx_oracle", .missing "cx_Oracle")]
  things := ("dialect", .type "OracleDialect_oracledb") :: ("ModuleType", .type "module")
    :: ("NVARCHAR2", .type "NVARCHAR")
    :: unitsOf "oracle" ["dictionary", "json", "types", "vector"]
    ++ typesOf ["BFILE", "BINARY_DOUBLE", "BINARY_FLOAT", "BLOB", "BOOLEAN", "CHAR", "CLOB", "DATE",
      "DOUBLE_PRECISION", "FLOAT", "INTERVAL", "JSON", "LONG", "NCHAR", "NCLOB", "NUMBER",
      "NVARCHAR", "RAW", "REAL", "ROWID", "SparseVector", "TIMESTAMP", "VARCHAR", "VARCHAR2",
      "VECTOR", "VectorIndexConfig"]
    ++ ["VectorDistanceType", "VectorIndexType", "VectorStorageFormat", "VectorStorageType"].map
      (·, .enumeration)
    ++ descriptions

/-- The servers of `mssql`. -/
def mssql : Backend where
  name := "mssql"
  usual := .missing "pyodbc"
  drivers := [
    ("pyodbc", .missing "pyodbc"),
    ("pymssql", .missing "pymssql"),
    ("aioodbc", .missing "aioodbc"),
    ("mssqlpython", .missing "mssql_python")]
  things := ("dialect", .type "MSDialect_pyodbc")
    :: unitsOf "mssql" ["information_schema", "json"]
    ++ typesOf ["BIGINT", "BINARY", "BIT", "CHAR", "DATE", "DATETIME", "DATETIME2",
      "DATETIMEOFFSET", "DECIMAL", "DOUBLE_PRECISION", "FLOAT", "IMAGE", "INTEGER", "JSON",
      "MONEY", "NCHAR", "NTEXT", "NUMERIC", "NVARCHAR", "REAL", "ROWVERSION", "SMALLDATETIME",
      "SMALLINT", "SMALLMONEY", "SQL_VARIANT", "TEXT", "TIME", "TIMESTAMP", "TINYINT",
      "UNIQUEIDENTIFIER", "VARBINARY", "VARCHAR", "XML"]
    ++ valuesOf "function" ["try_cast"]
    ++ descriptions

/-- The backends that are known. -/
def known : List Backend := [sqlite, postgresql, mysql, mariadb, oracle, mssql]

/-- The backend of that name. -/
def named? (name : String) : Option Backend :=
  known.find? (·.name == name)

/-! ## What stands among the backends -/

/-- The types that backends share. -/
def sharedTypes : List (String × Thing) :=
  [("annotations", .value "_Feature"), ("roles", .unit "sqlalchemy.sql.roles")]
  ++ typesOf ["Any", "Column", "ColumnCollection", "ColumnCollectionConstraint", "Index",
    "Iterable", "Mapping"]
  ++ ["Optional", "Union", "_OnConflictConstraintT", "_OnConflictIndexElementsT",
    "_OnConflictIndexWhereT", "_OnConflictSetT", "_OnConflictWhereT"].map (·, .form)
  ++ unitDescriptions

/-- What the registry itself is made of. -/
def registryThings : List (String × Thing) :=
  [("Any", .type "Any"), ("Callable", .type "Callable"), ("Optional", .form),
    ("TYPE_CHECKING", .value "bool"), ("Type", .type "type"), ("__all__", .value "tuple"),
    ("_auto_fn", .value "function"), ("annotations", .value "_Feature"),
    ("util", .unit "sqlalchemy.util")]
  ++ valuesOf "PluginLoader" ["plugins", "registry"]
  ++ unitDescriptions

/-- What the folder of the compiled units holds. -/
def compiledThings : List (String × Thing) :=
  [("__file__", .value "NoneType"), ("__loader__", .value "NamespaceLoader"),
    ("__path__", .value "_NamespacePath")]
  ++ folderDescriptions

/-- What has a name like a backend but is none, so it holds no drivers. -/
def bystanders : List (String × List (String × Thing)) :=
  [("_typing", sharedTypes), ("__init__", registryThings), ("__pycache__", compiledThings)]

/-- What stands under a name in something that is no backend. -/
def bystanderThing? (name thing : String) : Option Thing :=
  (bystanders.lookup name).bind (·.lookup thing)

end Backend

/-! ## Finding a driver -/

/-- Why there is no driver for a scheme. -/
inductive DriverError
  /-- The scheme has more than two parts. -/
  | manyParts
  | unknown (name : String)
  /-- What the scheme names is no driver. -/
  | otherThing (thing : Thing)
deriving DecidableEq, Repr

/-- The text for people. -/
def DriverError.message : DriverError → String
  | manyParts => "too many values to unpack (expected 2)"
  | unknown name => s!"Can't load plugin: {registry}:{name}"
  | otherThing thing => thing.refusal

/-- The parts of a scheme: a backend and perhaps a driver. -/
def schemeParts (scheme : String) : List String :=
  (Text.splitAt '+' scheme.toList).map String.ofList

/-- The backend and the driver that a scheme names. -/
def Driver.find (scheme : String) : Except DriverError (Backend × Driver) :=
  let parts := schemeParts scheme
  let found : Option (Except Thing (Backend × Driver)) :=
    match parts with
    | [name] => (Backend.named? name).map fun b => .ok (b, b.usual)
    | [name, driver] =>
      match Backend.named? name with
      | some b => (b.driver? driver).map fun d => d.map (b, ·)
      | none => (Backend.bystanderThing? name driver).map .error
    | _ => none
  if 2 < parts.length then .error .manyParts
  else
    match found with
    | some (.ok served) => .ok served
    | some (.error thing) => .error (.otherThing thing)
    | none => .error (.unknown (".".intercalate parts))

end BearerTokens.Settings
