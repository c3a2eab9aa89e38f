import SchemaMigration.ColumnType
import SchemaMigration.Schema
import SchemaMigration.Schema.Error

/-!
What a dialect demands of a schema. The first violation is reported: duplicate tables before
everything else, then table by table.
-/

namespace SchemaMigration

/-- The limits of a dialect, and whether it can tell character sets and collations apart. -/
structure Rules where
  maxIdentifierLength : Option Nat
  comparesCollations : Bool
  typesWithoutDefault : List ColumnType
  deriving DecidableEq, Repr

namespace Rules

def neutral : Rules := ⟨none, true, []⟩

def checkName (rules : Rules) (name : String) (part : SchemaPart) : Except SchemaError Unit :=
  if name = "" then .error (.missingName part)
  else match rules.maxIdentifierLength with
    | some limit => if limit < name.length then .error (.nameTooLong part limit) else .ok ()
    | none => .ok ()

/-- The columns that a part names exist in a table. -/
def checkColumnsExist (table : TableDef) (part : SchemaPart) :
    List String → Except SchemaError Unit
  | [] => .ok ()
  | column :: rest =>
    if table.columnNames.contains column then checkColumnsExist table part rest
    else .error (.unknownColumn part column table.name)

def typeOf (column : ColumnDef) : Except SchemaError ColumnType :=
  match ColumnType.ofSpelling? column.type with
  | some type => .ok type
  | none => .error (.unknownType column.type)

def hasEnumValues (column : ColumnDef) : Bool :=
  match column.enumValues with
  | some (_ :: _) => true
  | _ => false

def checkColumnType (part : SchemaPart) (column : ColumnDef) : Except SchemaError Unit :=
  match typeOf column with
  | .error e => .error e
  | .ok type =>
    if type.requiresLength ∧ column.length = none then .error (.missingLength part column.type)
    else if type = .enumeration ∧ hasEnumValues column = false then .error (.missingEnumValues part)
    else .ok ()

def checkColumns (rules : Rules) (table : String) (seen : List String) :
    List ColumnDef → Except SchemaError Unit
  | [] => .ok ()
  | column :: rest => do
    let part := SchemaPart.column table column.name
    rules.checkName column.name part
    if seen.contains column.name then .error (.duplicateColumn part)
    checkColumnType part column
    checkColumns rules table (column.name :: seen) rest

def checkIndexes (rules : Rules) (table : TableDef) (seen : List String) :
    List IndexDef → Except SchemaError Unit
  | [] => .ok ()
  | index :: rest => do
    let part := SchemaPart.index index.name
    rules.checkName index.name part
    if seen.contains index.name then .error (.duplicateIndex index.name table.name)
    if index.columns = [] then .error (.emptyIndex index.name)
    checkColumnsExist table part index.columns
    checkIndexes rules table (index.name :: seen) rest

/-- A foreign key joins as many existing columns to existing columns of an existing table. -/
def checkForeignKey (rules : Rules) (schema : Schema) (table : TableDef) (key : ForeignKeyDef) :
    Except SchemaError Unit := do
  let part := SchemaPart.foreignKey key.name key.columns table.name
  match Text.nonempty? key.name with
  | some name => rules.checkName name part
  | none => .ok ()
  checkColumnsExist table part key.columns
  match schema.table? key.referencedTable with
  | none => .error (.unknownTable part key.referencedTable)
  | some referenced =>
    if key.columns.length ≠ key.referencedColumns.length then .error (.mismatchedColumns part)
    checkColumnsExist referenced part key.referencedColumns

def checkDefaults (rules : Rules) (table : String) : List ColumnDef → Except SchemaError Unit
  | [] => .ok ()
  | column :: rest => do
    if column.default.isSome then
      let type ← typeOf column
      if rules.typesWithoutDefault.contains type then
        .error (.refusedDefault (.column table column.name) column.type)
    checkDefaults rules table rest

def checkTable (rules : Rules) (schema : Schema) (table : TableDef) : Except SchemaError Unit := do
  rules.checkName table.name (.table table.name)
  if table.columns = [] then .error (.noColumns table.name)
  rules.checkColumns table.name [] table.columns
  checkColumnsExist table .primaryKey table.primaryKey
  rules.checkIndexes table [] table.indexes
  table.foreignKeys.forM (rules.checkForeignKey schema table)
  rules.checkDefaults table.name table.columns

def checkTableNames (seen : List String) : List TableDef → Except SchemaError Unit
  | [] => .ok ()
  | table :: rest =>
    if seen.contains table.name then .error (.duplicateTable table.name)
    else checkTableNames (table.name :: seen) rest

def validate (rules : Rules) (schema : Schema) : Except SchemaError Unit := do
  checkTableNames [] schema.tables
  schema.tables.forM (rules.checkTable schema)

end Rules

end SchemaMigration
