import SchemaMigration.Snapshot
import SchemaMigration.Text.Blank

/-!
Changes: single steps from one snapshot towards another.
-/

namespace SchemaMigration

inductive ChangeCategory
  | table
  | column
  | index
  | constraint
  deriving DecidableEq, Repr

def ChangeCategory.name : ChangeCategory → String
  | table => "table"
  | column => "column"
  | index => "index"
  | constraint => "constraint"

inductive ChangeKind
  | createTable
  | dropTable
  | alterTable
  | addColumn
  | dropColumn
  | alterColumnType
  | alterColumnNullDefault
  | addIndex
  | dropIndex
  | addForeignKey
  | dropForeignKey
  deriving DecidableEq, Repr

namespace ChangeKind

def all : List ChangeKind :=
  [createTable, dropTable, alterTable, addColumn, dropColumn, alterColumnType,
   alterColumnNullDefault, addIndex, dropIndex, addForeignKey, dropForeignKey]

def name : ChangeKind → String
  | createTable => "create_table"
  | dropTable => "drop_table"
  | alterTable => "alter_table"
  | addColumn => "add_column"
  | dropColumn => "drop_column"
  | alterColumnType => "alter_column_type"
  | alterColumnNullDefault => "alter_column_null_default"
  | addIndex => "add_index"
  | dropIndex => "drop_index"
  | addForeignKey => "add_foreign_key"
  | dropForeignKey => "drop_foreign_key"

def ofName? (s : String) : Option ChangeKind := all.find? fun kind => kind.name == s

def category : ChangeKind → ChangeCategory
  | createTable | dropTable | alterTable => .table
  | addColumn | dropColumn | alterColumnType | alterColumnNullDefault => .column
  | addIndex | dropIndex => .index
  | addForeignKey | dropForeignKey => .constraint

def isDestructive : ChangeKind → Bool
  | dropTable | dropColumn => true
  | _ => false

/-- The order of changes that do not wait for each other: what depends on other things is dropped
first, then tables and columns are created, altered and dropped, and last come indexes and foreign
keys. -/
def phase : ChangeKind → Nat
  | dropForeignKey => 0
  | dropIndex => 1
  | createTable => 2
  | addColumn => 3
  | alterColumnType => 4
  | alterColumnNullDefault => 5
  | alterTable => 6
  | dropColumn => 7
  | dropTable => 8
  | addIndex => 9
  | addForeignKey => 10

end ChangeKind

/-- What is done to a table. The old definition of a column may be unknown. -/
inductive Action
  | createTable (definition : Table)
  | dropTable (definition : Table)
  | alterTable (old new : Table)
  | addColumn (column : Column)
  | dropColumn (column : Column)
  | alterColumnType (old : Option Column) (new : Column)
  | alterColumnNullDefault (old : Option Column) (new : Column)
  | addIndex (index : Index)
  | dropIndex (index : Index)
  | addForeignKey (key : ForeignKey)
  | dropForeignKey (key : ForeignKey)
  /-- A change of some kind that does not say what it is about. -/
  | incomplete (kind : ChangeKind)
  deriving DecidableEq, Repr

namespace Action

def kind : Action → ChangeKind
  | createTable _ => .createTable
  | dropTable _ => .dropTable
  | alterTable _ _ => .alterTable
  | addColumn _ => .addColumn
  | dropColumn _ => .dropColumn
  | alterColumnType _ _ => .alterColumnType
  | alterColumnNullDefault _ _ => .alterColumnNullDefault
  | addIndex _ => .addIndex
  | dropIndex _ => .dropIndex
  | addForeignKey _ => .addForeignKey
  | dropForeignKey _ => .dropForeignKey
  | incomplete kind => kind

/-- The column that is added, dropped or altered, as it is described by the change. -/
def column? : Action → Option Column
  | addColumn c | dropColumn c | alterColumnType _ c | alterColumnNullDefault _ c => some c
  | _ => none

def oldColumn? : Action → Option Column
  | alterColumnType old _ | alterColumnNullDefault old _ => old
  | _ => none

def index? : Action → Option Index
  | addIndex i | dropIndex i => some i
  | _ => none

def foreignKey? : Action → Option ForeignKey
  | addForeignKey k | dropForeignKey k => some k
  | _ => none

end Action

def ForeignKey.subject (key : ForeignKey) : String :=
  (Text.nonempty? key.name).getD (",".intercalate key.columns)

structure ChangeLabel where
  kind : ChangeKind
  table : String
  /-- Empty if the change is about the table itself. -/
  subject : String
  deriving DecidableEq, Repr

namespace ChangeLabel

def qualified (l : ChangeLabel) : String :=
  if l.subject = "" then l.table else l.table ++ "." ++ l.subject

def id (l : ChangeLabel) : String := l.kind.name ++ ":" ++ l.qualified

def describe (l : ChangeLabel) : String := l.kind.name ++ " " ++ l.qualified

end ChangeLabel

structure Change where
  table : String
  action : Action
  deriving DecidableEq, Repr

namespace Change

def kind (c : Change) : ChangeKind := c.action.kind

def subject (c : Change) : String :=
  match c.action.column?, c.action.index?, c.action.foreignKey? with
  | some column, _, _ => column.name
  | none, some index, _ => index.name
  | none, none, some key => key.subject
  | none, none, none => ""

def label (c : Change) : ChangeLabel := ⟨c.kind, c.table, c.subject⟩

def describe (c : Change) : String := c.label.describe

end Change

structure Step where
  id : String
  change : Change
  deriving DecidableEq, Repr

end SchemaMigration
