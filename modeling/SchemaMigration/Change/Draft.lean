import SchemaMigration.Change

/-!
Drafts of changes: what someone asks for, which may lack what a change of its kind is about, or
name more than that.
-/

namespace SchemaMigration

structure Change.Draft where
  kind : ChangeKind
  table : String
  definition : Option Table
  oldDefinition : Option Table
  column : Option Column
  oldColumn : Option Column
  index : Option Index
  key : Option ForeignKey
  deriving DecidableEq, Repr

namespace Change.Draft

/-- The name of what a draft is about. It is taken from the column, else the index, else the foreign
key, whatever the kind of the change. -/
def subject (d : Draft) : String :=
  (d.column.map Column.name <|> d.index.map Index.name <|> d.key.map ForeignKey.subject).getD ""

def label (d : Draft) : ChangeLabel := ⟨d.kind, d.table, d.subject⟩

/-- What a draft does to its table, if it says enough for that. -/
def action? (d : Draft) : Option Action :=
  match d.kind with
  | .createTable => d.definition.map .createTable
  | .dropTable => some (.dropTable (d.definition.getD (Table.ofName d.table)))
  | .alterTable => .alterTable <$> d.oldDefinition <*> d.definition
  | .addColumn => d.column.map .addColumn
  | .dropColumn => d.column.map .dropColumn
  | .alterColumnType => d.column.map (.alterColumnType d.oldColumn)
  | .alterColumnNullDefault => d.column.map (.alterColumnNullDefault d.oldColumn)
  | .addIndex => d.index.map .addIndex
  | .dropIndex => d.index.map .dropIndex
  | .addForeignKey => d.key.map .addForeignKey
  | .dropForeignKey => d.key.map .dropForeignKey

def change (d : Draft) : Change := ⟨d.table, d.action?.getD (.incomplete d.kind)⟩

end Change.Draft

end SchemaMigration
