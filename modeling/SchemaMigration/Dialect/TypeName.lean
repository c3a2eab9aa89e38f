import SchemaMigration.Dialect

/-!
The declared types of columns in each dialect. Only SQLite has columns without a declared type.
-/

namespace SchemaMigration.Dialect

def mysqlTypeName? : ColumnType → Option String
  | .unset => none
  | .binary => some "VARBINARY"
  | .blob => some "BLOB"
  | .dateTime => some "DATETIME"
  | .decimal => some "DECIMAL"
  | .double => some "DOUBLE"
  | .fixedBinary => some "BINARY"
  | .fixedString => some "CHAR"
  | .guid => some "CHAR(36)"
  | .int => some "INT"
  | .longBlob => some "LONGBLOB"
  | .longText => some "LONGTEXT"
  | .mediumBlob => some "MEDIUMBLOB"
  | .mediumText => some "MEDIUMTEXT"
  | .smallInt => some "SMALLINT"
  | .string => some "VARCHAR"
  | .text => some "TEXT"
  | .tinyBlob => some "TINYBLOB"
  | .tinyInt => some "TINYINT"
  | .tinyText => some "TINYTEXT"
  | .mediumInt => some "MEDIUMINT"
  | .bigInt => some "BIGINT"
  | .float => some "FLOAT"
  | .date => some "DATE"
  | .timestamp => some "TIMESTAMP"
  | .time => some "TIME"
  | .year => some "YEAR"
  | .enumeration => some "ENUM"

def postgresTypeName? : ColumnType → Option String
  | .unset => none
  | .binary | .blob | .fixedBinary | .longBlob | .mediumBlob | .tinyBlob => some "BYTEA"
  | .dateTime => some "TIMESTAMP"
  | .decimal => some "NUMERIC"
  | .double => some "DOUBLE PRECISION"
  | .fixedString => some "CHAR"
  | .guid => some "UUID"
  | .int | .mediumInt => some "INTEGER"
  | .longText | .mediumText | .text | .tinyText => some "TEXT"
  | .smallInt | .tinyInt | .year => some "SMALLINT"
  | .string | .enumeration => some "VARCHAR"
  | .bigInt => some "BIGINT"
  | .float => some "REAL"
  | .date => some "DATE"
  | .timestamp => some "TIMESTAMP WITH TIME ZONE"
  | .time => some "TIME"

/-- SQLite keeps a declared type as it is written, so each type has a name of its own. -/
def sqliteTypeName : ColumnType → String
  | .unset => ""
  | .binary => "VARBINARY"
  | .blob => "BLOB"
  | .dateTime => "DATETIME"
  | .decimal => "DECIMAL"
  | .double => "DOUBLE"
  | .fixedBinary => "BINARY"
  | .fixedString => "CHAR"
  | .guid => "UUID"
  | .int => "INTEGER"
  | .longBlob => "LONGBLOB"
  | .longText => "LONGTEXT"
  | .mediumBlob => "MEDIUMBLOB"
  | .mediumText => "MEDIUMTEXT"
  | .smallInt => "SMALLINT"
  | .string => "VARCHAR"
  | .text => "TEXT"
  | .tinyBlob => "TINYBLOB"
  | .tinyInt => "TINYINT"
  | .tinyText => "TINYTEXT"
  | .mediumInt => "MEDIUMINT"
  | .bigInt => "BIGINT"
  | .float => "FLOAT"
  | .date => "DATE"
  | .timestamp => "TIMESTAMP"
  | .time => "TIME"
  | .year => "YEAR"
  | .enumeration => "ENUM"

def sqlServerTypeName? : ColumnType → Option String
  | .unset => none
  | .binary => some "VARBINARY"
  | .blob | .longBlob | .mediumBlob => some "VARBINARY(MAX)"
  | .dateTime => some "DATETIME2"
  | .decimal => some "DECIMAL"
  | .double => some "FLOAT(53)"
  | .fixedBinary => some "BINARY"
  | .fixedString => some "NCHAR"
  | .guid => some "UNIQUEIDENTIFIER"
  | .int | .mediumInt => some "INT"
  | .longText | .mediumText | .text => some "NVARCHAR(MAX)"
  | .smallInt | .year => some "SMALLINT"
  | .string | .enumeration => some "NVARCHAR"
  | .tinyBlob => some "VARBINARY(255)"
  | .tinyInt => some "TINYINT"
  | .tinyText => some "NVARCHAR(255)"
  | .bigInt => some "BIGINT"
  | .float => some "REAL"
  | .date => some "DATE"
  | .timestamp => some "DATETIMEOFFSET"
  | .time => some "TIME"

def typeName? : Dialect → ColumnType → Option String
  | mysql, t => mysqlTypeName? t
  | postgres, t => postgresTypeName? t
  | sqlite, t => some (sqliteTypeName t)
  | sqlServer, t => sqlServerTypeName? t

def withLength (name : String) (length : Int) : String := name ++ "(" ++ toString length ++ ")"

def withPrecision (name : String) (precision scale : Int) : String :=
  name ++ "(" ++ toString precision ++ ", " ++ toString scale ++ ")"

def longest : List String → Nat
  | [] => 1
  | value :: values => values.foldl (fun n v => max n v.length) value.length

def writesLength (d : Dialect) (t : ColumnType) : Bool :=
  !(d == postgres && (t == .binary || t == .fixedBinary))

/-- How a dialect declares an enumeration: with its values, as a text that holds the longest of
them, or like any other type. -/
def enumeration? (d : Dialect) (name : String) (values : List String) : Option String :=
  match d with
  | mysql => some ("ENUM(" ++ ", ".intercalate (values.map literal) ++ ")")
  | postgres | sqlServer => some (withLength name (longest values))
  | sqlite => none

def sizedType (d : Dialect) (name : String) (c : Column) : String :=
  match c.length with
  | none => name
  | some length =>
    if c.type = .decimal then withPrecision name length (c.scale.getD 0)
    else if d.writesLength c.type then withLength name length
    else name

def typeOf? (d : Dialect) (c : Column) : Option String :=
  (d.typeName? c.type).map fun name =>
    if c.type = .enumeration then (d.enumeration? name c.enumValues).getD (d.sizedType name c)
    else d.sizedType name c

end SchemaMigration.Dialect
