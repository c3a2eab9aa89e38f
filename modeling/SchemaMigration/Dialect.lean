import SchemaMigration.Snapshot
import SchemaMigration.Snapshot.Projection
import SchemaMigration.Text.Quoted

/-!
The SQL dialects: how they quote names, what they call the column types, and which rules they have.
-/

namespace SchemaMigration

inductive Dialect
  | mysql
  | postgres
  | sqlite
  | sqlServer
  deriving DecidableEq, Repr, Inhabited

namespace Dialect

def all : List Dialect := [mysql, postgres, sqlite, sqlServer]

def id : Dialect → String
  | mysql => "mysql"
  | postgres => "postgres"
  | sqlite => "sqlite"
  | sqlServer => "sqlserver"

def separator : Dialect → String
  | sqlServer => "\nGO"
  | _ => ";"

def quote : Dialect → String → String
  | mysql => Text.Quoted.quote '\x60' '\x60'
  | postgres | sqlite => Text.Quoted.quote '"' '"'
  | sqlServer => Text.Quoted.quote '[' ']'

/-- Quotes a text value, in the same way in all dialects. -/
def literal (value : String) : String := Text.Quoted.quote '\'' '\'' value

def quotedList (d : Dialect) (names : List String) : String :=
  ", ".intercalate (names.map d.quote)

/-- Types that cannot have a literal default in MySQL. -/
def mysqlTypesWithoutDefault : List ColumnType :=
  [.tinyText, .text, .mediumText, .longText, .tinyBlob, .blob, .mediumBlob, .longBlob]

def rules : Dialect → Rules
  | mysql => ⟨some 64, true, mysqlTypesWithoutDefault⟩
  | postgres => ⟨some 63, false, []⟩
  | sqlite => ⟨none, false, []⟩
  | sqlServer => ⟨some 128, false, []⟩

/-- The collations that servers of a dialect use for a character set unless told otherwise. -/
def defaultCollations : Dialect → List (String × String)
  | mysql =>
    [("utf8mb4", "utf8mb4_0900_ai_ci"), ("utf8mb3", "utf8mb3_general_ci"),
     ("utf8", "utf8mb3_general_ci"), ("latin1", "latin1_swedish_ci"),
     ("ascii", "ascii_general_ci"), ("binary", "binary"), ("ucs2", "ucs2_general_ci"),
     ("utf16", "utf16_general_ci"), ("utf32", "utf32_general_ci")]
  | postgres =>
    [("utf8", "en_US.utf8"), ("utf8mb4", "en_US.utf8"), ("latin1", "en_US.iso88591"),
     ("sql_ascii", "C")]
  | sqlite => []
  | sqlServer =>
    [("utf8", "Latin1_General_100_CI_AS_SC_UTF8"), ("utf8mb4", "Latin1_General_100_CI_AS_SC_UTF8"),
     ("latin1", "SQL_Latin1_General_CP1_CI_AS")]

def defaultCollation? (d : Dialect) (charset : String) : Option String :=
  d.defaultCollations.lookup (Text.lower charset)

def projection (d : Dialect) : Projection := ⟨d.rules, d.defaultCollation?⟩

end Dialect

end SchemaMigration
