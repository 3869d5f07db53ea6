import DeliveryStore.Locator

/-!
# Drivers

The first part of an address names a database system and, after a plus sign, a driver of that
system; without one the standard driver is meant. Of the drivers that there are, only those of
SQLite can be loaded: the others, and one of SQLite's own, need packages that are not there.
-/

namespace DeliveryStore

/-- The drivers of SQLite, of which one lets others work while it waits. -/
inductive Driver where
  | asynchronous
  | blocking
deriving DecidableEq, Repr

namespace Driver

/-- The name of the standard driver of a system. -/
def standard : String := "base"

/-- The system whose drivers can be loaded. -/
def loadableSystem : String := "sqlite"

/-- The driver of SQLite with a name. -/
def ofName? (name : String) : Option Driver :=
  if name = "aiosqlite" then some asynchronous
  else if name = standard || name = "pysqlite" then some blocking
  else none

/-- The drivers that need a package that is not there, by system and name, with the package. -/
def lacking : List (String × String × String) := [
    ("sqlite", "pysqlcipher", "pysqlcipher3"), ("postgresql", standard, "psycopg"),
    ("postgresql", "psycopg", "psycopg"), ("postgresql", "psycopg2", "psycopg2"),
    ("postgresql", "psycopg2cffi", "psycopg2cffi"), ("postgresql", "asyncpg", "asyncpg"),
    ("postgresql", "pg8000", "pg8000"), ("mysql", standard, "MySQLdb"),
    ("mysql", "mysqldb", "MySQLdb"), ("mysql", "pymysql", "pymysql"),
    ("mysql", "aiomysql", "aiomysql"), ("mysql", "asyncmy", "asyncmy"),
    ("mysql", "mysqlconnector", "mysql"), ("mysql", "cymysql", "cymysql"),
    ("mysql", "pyodbc", "pyodbc"), ("mysql", "mariadbconnector", "mariadb"),
    ("mariadb", standard, "MySQLdb"), ("mariadb", "mysqldb", "MySQLdb"),
    ("mariadb", "pymysql", "pymysql"), ("mariadb", "aiomysql", "aiomysql"),
    ("mariadb", "asyncmy", "asyncmy"), ("mariadb", "mysqlconnector", "mysql"),
    ("mariadb", "cymysql", "cymysql"), ("mariadb", "pyodbc", "pyodbc"),
    ("mariadb", "mariadbconnector", "mariadb"), ("oracle", standard, "oracledb"),
    ("oracle", "oracledb", "oracledb"), ("oracle", "cx_oracle", "cx_Oracle"),
    ("mssql", standard, "pyodbc"), ("mssql", "pyodbc", "pyodbc"),
    ("mssql", "aioodbc", "aioodbc"), ("mssql", "pymssql", "pymssql")]

/-- The package that a driver needs and that is not there. -/
def lackingPackage? (system name : String) : Option String :=
  (lacking.find? fun e => e.1 == system && e.2.1 == name).map (·.2.2)

/-- The types of columns that are named beside the drivers of SQLite. -/
def columnTypes : List String :=
  ["BLOB", "BOOLEAN", "CHAR", "DATE", "DATETIME", "DECIMAL", "FLOAT", "INTEGER", "JSON", "NUMERIC",
    "REAL", "SMALLINT", "TEXT", "TIME", "TIMESTAMP", "VARCHAR", "Insert"]

/-- What is named beside the drivers of SQLite and is none, each kind with its names. -/
def otherThings : List (String × List String) := [
    ("type object 'SQLiteDialect_pysqlite'", ["dialect"]),
    ("'function' object", ["insert"]),
    ("module 'sqlalchemy.dialects.sqlite.dml'", ["dml"]),
    ("module 'sqlalchemy.dialects.sqlite.json'", ["json"]),
    ("'str' object", ["__name__", "__package__", "__file__", "__cached__"]),
    ("'NoneType' object", ["__doc__"]),
    ("'list' object", ["__path__"]),
    ("'tuple' object", ["__all__"]),
    ("'dict' object", ["__dict__", "__builtins__", "__annotations__"]),
    ("'ModuleSpec' object", ["__spec__"]),
    ("'SourceFileLoader' object", ["__loader__"]),
    ("type object 'module'", ["__class__"]),
    ("'method-wrapper' object",
      ["__delattr__", "__eq__", "__ge__", "__getattribute__", "__gt__", "__hash__", "__init__",
        "__le__", "__lt__", "__ne__", "__repr__", "__setattr__", "__str__"]),
    ("'builtin_function_or_method' object",
      ["__dir__", "__format__", "__init_subclass__", "__new__", "__reduce__", "__reduce_ex__",
        "__sizeof__", "__subclasshook__", "__getstate__"])]

/-- What a name beside the drivers of SQLite stands for. -/
def otherThing? (name : String) : Option String :=
  if columnTypes.contains name then some ("type object '" ++ name ++ "'")
  else (otherThings.find? fun e => e.2.contains name).map (·.1)

/-- Loads the driver of a system; `shown` is the name of both, as messages give it. -/
def load (shown system name : String) : Except AddressFault Driver :=
  match lackingPackage? system name with
  | some package => .error (.missingPackage package)
  | none =>
    if system = loadableSystem then
      match ofName? name, otherThing? name with
      | some driver, _ => .ok driver
      | none, some thing => .error (.notADriver thing)
      | none, none => .error (.unknownDriver shown)
    else .error (.unknownDriver shown)

/-- Loads the driver that the first part of an address names. -/
def ofAddress (name : String) : Except AddressFault Driver :=
  let shown := String.ofList (name.toList.map fun c => if c = '+' then '.' else c)
  match (name.toList.splitOn '+').map String.ofList with
  | [system] => load shown system standard
  | [system, driver] => load shown system driver
  | _ => .error .crowdedDriver

end Driver

end DeliveryStore
