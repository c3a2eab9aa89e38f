import SchemaMigration.Schema.Rules
import SchemaMigration.Snapshot

/-!
Projection of a declarative schema: the snapshot of a database that has exactly what the schema
declares.
-/

namespace SchemaMigration

structure Projection where
  rules : Rules
  defaultCollation? : String → Option String

namespace Projection

def ofRules (rules : Rules) : Projection := ⟨rules, fun _ => none⟩

def column (p : Projection) (table : TableDef) (c : ColumnDef) : Except SchemaError Column := do
  let type ← Rules.typeOf c
  let (length, scale) := type.keptLength c.length c.scale
  if type.requiresLength ∧ length = none then
    .error (.missingLength (.column table.name c.name) c.type)
  return {
    name := c.name
    type, length, scale
    nullable := c.nullable && !table.primaryKey.contains c.name
    default := c.default
    enumValues := c.enumValues.getD []
    collation := if p.rules.comparesCollations then c.collation else none }

def index (i : IndexDef) : Index := ⟨i.name, i.columns, i.unique⟩

def foreignKey (table : TableDef) (k : ForeignKeyDef) : ForeignKey :=
  { name := some ((Text.nonempty? k.name).getD (ForeignKey.generatedName table.name k.columns))
    columns := k.columns
    referencedTable := k.referencedTable
    referencedColumns := k.referencedColumns
    onDelete := k.onDelete.text
    onUpdate := k.onUpdate.text }

/-- The character set and collation of a table: its own, else those of the schema, else the default
collation. Without a collation neither is known. -/
def options (p : Projection) (schema : Schema) (table : TableDef) :
    Option String × Option String :=
  let charset := (Text.nonempty? table.charset).getD schema.charset
  let collation :=
    match Text.nonempty? table.collation <|> schema.collation with
    | some collation => some collation
    | none => if charset = "" then none else p.defaultCollation? charset
  if collation.isSome ∧ p.rules.comparesCollations then (some charset, collation)
  else (none, none)

def table (p : Projection) (schema : Schema) (t : TableDef) : Except SchemaError Table := do
  let columns ← t.columns.mapM (p.column t)
  let (charset, collation) := p.options schema t
  return {
    name := t.name
    columns
    primaryKey := t.primaryKey
    indexes := t.indexes.map index
    foreignKeys := t.foreignKeys.map (foreignKey t)
    charset, collation }

/-- The snapshot of a valid schema. -/
def snapshot (p : Projection) (schema : Schema) : Except SchemaError Snapshot := do
  p.rules.validate schema
  return .ofTables (← schema.tables.mapM (p.table schema))

end Projection

end SchemaMigration
