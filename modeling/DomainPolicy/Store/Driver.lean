import DomainPolicy.Text.Split

/-!
# Drivers

* A database is reached through a driver of its system. A name is looked up among the names of the system: it may be a
  driver's, with or without the driver being there, or the name of something else (`Driver.find`).
-/

namespace DomainPolicy.Driver

/-- Why a name leads to no driver. -/
inductive Error where
  | unknown
  | notADriver
  | missing
  deriving DecidableEq, Repr

/-- A driver that is there can wait without holding the process up, or it blocks. -/
inductive Kind where
  | waiting
  | blocking
  deriving DecidableEq, Repr

/-- A system of databases: its drivers, and the other names that it has. -/
structure System where
  name : String
  drivers : List String := []
  others : List String := []
  deriving DecidableEq, Repr

/-- Words with blanks between them. -/
def words (text : String) : List String := (Split.pieces ' ' text.toList).map String.ofList

/-- Names that every module has. -/
def moduleNames : List String :=
  words "__annotations__ __builtins__ __cached__ __class__ __delattr__ __dict__ __dir__ __doc__ __eq__ __file__" ++
  words "__format__ __ge__ __getattribute__ __getstate__ __gt__ __hash__ __init__ __init_subclass__ __le__" ++
  words "__loader__ __lt__ __name__ __ne__ __new__ __package__ __reduce__ __reduce_ex__ __repr__ __setattr__" ++
  words "__sizeof__ __spec__ __str__ __subclasshook__"

/-- Names that every system's module has besides. -/
def packageNames : List String := words "__all__ __path__ dialect" ++ moduleNames

def sqlite : System where
  name := "sqlite"
  drivers := words "base aiosqlite pysqlite pysqlcipher"
  others :=
    words "dml json BLOB BOOLEAN CHAR DATE DATETIME DECIMAL FLOAT INTEGER JSON NUMERIC REAL SMALLINT TEXT TIME" ++
    words "TIMESTAMP VARCHAR Insert insert" ++ packageNames

def postgresql : System where
  name := "postgresql"
  drivers := words "base asyncpg pg8000 psycopg psycopg_async psycopg2 psycopg2cffi"
  others :=
    words "_psycopg_common bitstring dml ext json named_types operators pg_catalog ranges types" ++
    words "ModuleType arraylib All Any ARRAY array BIGINT BOOLEAN CHAR DATE DOMAIN DOUBLE_PRECISION FLOAT INTEGER" ++
    words "NUMERIC REAL SMALLINT TEXT UUID VARCHAR BitString Insert insert aggregate_order_by array_agg distinct_on" ++
    words "ExcludeConstraint phraseto_tsquery plainto_tsquery to_tsquery to_tsvector ts_headline" ++
    words "websearch_to_tsquery HSTORE hstore JSON JSONB JSONPATH CreateDomainType CreateEnumType DropDomainType" ++
    words "DropEnumType ENUM NamedType AbstractMultiRange AbstractRange AbstractSingleRange DATEMULTIRANGE DATERANGE" ++
    words "INT4MULTIRANGE INT4RANGE INT8MULTIRANGE INT8RANGE MultiRange NUMMULTIRANGE NUMRANGE Range TSMULTIRANGE" ++
    words "TSRANGE TSTZMULTIRANGE TSTZRANGE BIT BYTEA CIDR CITEXT INET INTERVAL MACADDR MACADDR8 MONEY OID REGCLASS" ++
    words "REGCONFIG TIME TIMESTAMP TSQUERY TSVECTOR" ++ packageNames

/-- The modules of the `mysql` system that are no drivers. -/
def mysqlModules : List String :=
  words "_mariadb_shim dml enumerated expression json mariadb reflection reserved_words types"

def mysql : System where
  name := "mysql"
  drivers := words "base aiomysql asyncmy cymysql mariadbconnector mysqlconnector mysqldb pymysql pyodbc"
  others :=
    words "BIGINT BINARY BIT BLOB BOOLEAN CHAR DATE DATETIME DECIMAL DOUBLE ENUM FLOAT INTEGER JSON LONGBLOB LONGTEXT" ++
    words "MEDIUMBLOB MEDIUMINT MEDIUMTEXT NCHAR NUMERIC NVARCHAR REAL SET SMALLINT TEXT TIME TIMESTAMP TINYBLOB" ++
    words "TINYINT TINYTEXT VARBINARY VARCHAR YEAR Insert insert limit match INET4 INET6" ++ mysqlModules ++ packageNames

/-- The system that shares the modules of `mysql`, and nothing else. -/
def mariadb : System where
  name := "mariadb"
  drivers := "__init__" :: mysql.drivers
  others := "provision" :: mysqlModules

def oracle : System where
  name := "oracle"
  drivers := words "base cx_oracle oracledb oracledb_async"
  others :=
    words "dictionary types vector json ModuleType BFILE BINARY_DOUBLE BINARY_FLOAT BLOB BOOLEAN CHAR CLOB DATE" ++
    words "DOUBLE_PRECISION FLOAT INTERVAL JSON LONG NCHAR NCLOB NUMBER NVARCHAR NVARCHAR2 RAW REAL ROWID TIMESTAMP" ++
    words "VARCHAR VARCHAR2 VECTOR SparseVector VectorDistanceType VectorIndexConfig VectorIndexType" ++
    words "VectorStorageFormat VectorStorageType" ++ packageNames

def mssql : System where
  name := "mssql"
  drivers := words "base aioodbc mssqlpython pymssql pyodbc"
  others :=
    words "information_schema json BIGINT BINARY BIT CHAR DATE DATETIME DATETIME2 DATETIMEOFFSET DECIMAL" ++
    words "DOUBLE_PRECISION FLOAT IMAGE INTEGER JSON MONEY NCHAR NTEXT NUMERIC NVARCHAR REAL ROWVERSION SMALLDATETIME" ++
    words "SMALLINT SMALLMONEY SQL_VARIANT TEXT TIME TIMESTAMP TINYINT try_cast UNIQUEIDENTIFIER VARBINARY VARCHAR XML"
    ++ packageNames

/-- The registry of systems itself, which can be named like a system. -/
def registry : System where
  name := "__init__"
  others :=
    words "annotations Any Callable Optional Type TYPE_CHECKING util _auto_fn registry plugins __all__" ++ moduleNames

/-- The kinds of things that systems have in common, likewise. -/
def kinds : System where
  name := "_typing"
  others :=
    words "annotations Any Iterable Mapping Optional Union roles ColumnCollection ReadOnlyColumnCollection Column" ++
    words "ColumnCollectionConstraint Index _OnConflictConstraintT _OnConflictIndexElementsT _OnConflictIndexWhereT" ++
    words "_OnConflictSetT _OnConflictWhereT" ++ moduleNames

def systems : List System := [sqlite, postgresql, mysql, mariadb, oracle, mssql, registry, kinds]

/-- Drivers that are there. -/
def installed : List ((String × String) × Kind) :=
  [(("sqlite", "base"), .blocking), (("sqlite", "pysqlite"), .blocking), (("sqlite", "aiosqlite"), .waiting)]

/-- Looks a driver up by its system and its name. -/
def find (system name : String) : Except Error Kind :=
  match systems.find? (·.name = system) with
  | none => .error .unknown
  | some s =>
    if s.drivers.contains name then (installed.find? (·.1 = (system, name))).elim (.error .missing) (.ok ·.2)
    else .error (if s.others.contains name then .notADriver else .unknown)

end DomainPolicy.Driver
