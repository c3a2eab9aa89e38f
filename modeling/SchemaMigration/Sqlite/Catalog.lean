/-!
The catalog of a SQLite database: the rows that it answers when it is asked for its tables and for
what belongs to them. Every question may fail.
-/

namespace SchemaMigration.Sqlite

structure TableRow where
  name : String
  definition : Option String
  deriving DecidableEq, Repr

structure ColumnRow where
  name : String
  declared : Option String
  notNull : Bool
  default : Option String
  keyRank : Int
  deriving DecidableEq, Repr

structure IndexRow where
  name : String
  unique : Bool
  /-- What the index comes from; those that were created as such have the letter `c`. -/
  origin : String
  deriving DecidableEq, Repr

structure IndexColumnRow where
  rank : Int
  columnRank : Int
  name : Option String
  deriving DecidableEq, Repr

structure ForeignKeyRow where
  /-- Rows with the same number belong to one foreign key. -/
  key : Int
  rank : Int
  table : String
  column : String
  referenced : Option String
  onUpdate : String
  onDelete : String
  deriving DecidableEq, Repr

/-- The answers of a database; a failed question gives the message of the database. -/
structure Catalog where
  tables : Except String (List TableRow)
  columns : String → Except String (List ColumnRow)
  indexes : String → Except String (List IndexRow)
  indexColumns : String → Except String (List IndexColumnRow)
  foreignKeys : String → Except String (List ForeignKeyRow)

def Catalog.empty : Catalog :=
  ⟨.ok [], fun _ => .ok [], fun _ => .ok [], fun _ => .ok [], fun _ => .ok []⟩

end SchemaMigration.Sqlite
