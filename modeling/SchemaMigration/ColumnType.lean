import SchemaMigration.Text.Blank
import SchemaMigration.Text.Case
import SchemaMigration.Text.Shown

/-!
Canonical column types. Every dialect's spelling of a type names one of them, whatever its letter
case and however many blanks stand between its words.
-/

namespace SchemaMigration

/-- What a column holds, independent of any dialect. `unset` is a column without a declared type. -/
inductive ColumnType
  | unset
  | binary
  | blob
  | dateTime
  | decimal
  | double
  | fixedBinary
  | fixedString
  | guid
  | int
  | longBlob
  | longText
  | mediumBlob
  | mediumText
  | smallInt
  | string
  | text
  | tinyBlob
  | tinyInt
  | tinyText
  | mediumInt
  | bigInt
  | float
  | date
  | timestamp
  | time
  | year
  | enumeration
  deriving DecidableEq, Repr, Inhabited

namespace ColumnType

def all : List ColumnType :=
  [unset, binary, blob, dateTime, decimal, double, fixedBinary, fixedString, guid, int, longBlob,
   longText, mediumBlob, mediumText, smallInt, string, text, tinyBlob, tinyInt, tinyText,
   mediumInt, bigInt, float, date, timestamp, time, year, enumeration]

def name : ColumnType → String
  | unset => "unset"
  | binary => "binary"
  | blob => "blob"
  | dateTime => "date_time"
  | decimal => "decimal"
  | double => "double"
  | fixedBinary => "fixed_binary"
  | fixedString => "fixed_string"
  | guid => "guid"
  | int => "int"
  | longBlob => "long_blob"
  | longText => "long_text"
  | mediumBlob => "medium_blob"
  | mediumText => "medium_text"
  | smallInt => "small_int"
  | string => "string"
  | text => "text"
  | tinyBlob => "tiny_blob"
  | tinyInt => "tiny_int"
  | tinyText => "tiny_text"
  | mediumInt => "medium_int"
  | bigInt => "big_int"
  | float => "float"
  | date => "date"
  | timestamp => "timestamp"
  | time => "time"
  | year => "year"
  | enumeration => "enumeration"

def names : List String := all.map name

def ofName? (s : String) : Option ColumnType := all.find? fun t => t.name == s

theorem mem_all (t : ColumnType) : t ∈ all := by cases t <;> decide

theorem ofName?_name (t : ColumnType) : ofName? t.name = some t := by cases t <;> decide

def spellings : List (String × ColumnType) :=
  [("int", int), ("integer", int), ("int4", int), ("serial", int),
   ("double", double), ("real", double), ("double precision", double), ("float8", double),
   ("decimal", decimal), ("dec", decimal), ("numeric", decimal), ("money", decimal),
   ("bool", tinyInt), ("boolean", tinyInt), ("tinyint", tinyInt), ("bit", tinyInt),
   ("smallint", smallInt), ("int2", smallInt),
   ("mediumint", mediumInt),
   ("bigint", bigInt), ("int8", bigInt), ("bigserial", bigInt),
   ("float", float), ("float4", float),
   ("varchar", string), ("character varying", string), ("nvarchar", string),
   ("text", text), ("ntext", text),
   ("blob", blob), ("bytea", blob),
   ("datetime", dateTime), ("datetime2", dateTime), ("timestamp without time zone", dateTime),
   ("date", date),
   ("timestamp", timestamp), ("timestamptz", timestamp), ("timestamp with time zone", timestamp),
   ("time", time),
   ("year", year),
   ("char", fixedString), ("character", fixedString), ("nchar", fixedString),
   ("binary", fixedBinary),
   ("varbinary", binary),
   ("tinyblob", tinyBlob), ("tinytext", tinyText),
   ("mediumblob", mediumBlob), ("mediumtext", mediumText),
   ("longblob", longBlob), ("longtext", longText),
   ("enum", enumeration),
   ("guid", guid), ("uuid", guid), ("uniqueidentifier", guid)]

/-- A spelling in lower case, its words set apart by single spaces. -/
def normalized (spelling : String) : String :=
  " ".intercalate ((Text.words (Text.lower spelling).toList).map String.ofList)

def ofSpelling? (spelling : String) : Option ColumnType := spellings.lookup (normalized spelling)

def spellingsOf (t : ColumnType) : List String :=
  (spellings.filter fun entry => entry.2 == t).map Prod.fst

def requiresLength : ColumnType → Bool
  | string | fixedString | binary | fixedBinary => true
  | _ => false

/-- The part of a declared length and scale that matters for a type: a length where one is required,
precision and scale of a decimal, nothing otherwise. -/
def keptLength (t : ColumnType) (length scale : Option Int) : Option Int × Option Int :=
  if t.requiresLength then (length, none)
  else if t = decimal then (length, if length.isSome then scale else none)
  else (none, none)

def nameRequiresLength (name : String) : Except String Bool :=
  match ofName? name with
  | some t => .ok t.requiresLength
  | none => .error ("Unexpected DB type: " ++ Text.shown name)

end ColumnType

end SchemaMigration
