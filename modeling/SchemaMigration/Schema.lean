import SchemaMigration.Text.Blank

/-!
Declarative schemas: the tables that a database should have, as their author wrote them. Column
types are spellings of some dialect, and nothing is checked yet.
-/

namespace SchemaMigration

inductive ReferentialAction
  | noAction
  | restrict
  | cascade
  | setNull
  | setDefault
  deriving DecidableEq, Repr, Inhabited

namespace ReferentialAction

def all : List ReferentialAction := [noAction, restrict, cascade, setNull, setDefault]

def text : ReferentialAction → String
  | noAction => "NO ACTION"
  | restrict => "RESTRICT"
  | cascade => "CASCADE"
  | setNull => "SET NULL"
  | setDefault => "SET DEFAULT"

def ofText? (s : String) : Option ReferentialAction := all.find? fun action => action.text == s

theorem ofText?_text (action : ReferentialAction) : ofText? action.text = some action := by
  cases action <;> decide

end ReferentialAction

structure ColumnDef where
  name : String
  type : String
  length : Option Int
  scale : Option Int
  nullable : Bool
  default : Option String
  enumValues : Option (List String)
  collation : Option String
  deriving DecidableEq, Repr

structure IndexDef where
  name : String
  columns : List String
  unique : Bool
  deriving DecidableEq, Repr

structure ForeignKeyDef where
  name : Option String
  columns : List String
  referencedTable : String
  referencedColumns : List String
  onDelete : ReferentialAction
  onUpdate : ReferentialAction
  deriving DecidableEq, Repr

structure TableDef where
  name : String
  columns : List ColumnDef
  primaryKey : List String
  indexes : List IndexDef
  foreignKeys : List ForeignKeyDef
  charset : Option String
  collation : Option String
  deriving DecidableEq, Repr

structure Schema where
  name : String
  database : Option String
  charset : String
  collation : Option String
  tables : List TableDef
  deriving DecidableEq, Repr

namespace TableDef

def columnNames (t : TableDef) : List String := t.columns.map ColumnDef.name

end TableDef

namespace Schema

def ofName (name : String) : Schema := ⟨name, none, "utf8mb4", none, []⟩

/-- The database of a schema, which is named like the schema unless another one is given. -/
def databaseName (s : Schema) : String := (Text.nonempty? s.database).getD s.name

def table? (s : Schema) (name : String) : Option TableDef := s.tables.find? fun t => t.name == name

end Schema

end SchemaMigration
