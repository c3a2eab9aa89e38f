import SchemaMigration.ColumnType.Declared
import SchemaMigration.Failure
import SchemaMigration.Sqlite.Catalog
import SchemaMigration.Sqlite.EnumCheck

/-!
The snapshot of a SQLite database, as its catalog shows it. Rows are taken in the order of their
ranks, so the order of the answers does not matter.
-/

namespace SchemaMigration.Sqlite

def rows {α : Type} : Except String (List α) → Except Failure (List α)
  | .ok rs => .ok rs
  | .error message => .error (.database message)

def integerArgument : Option String → Except Failure (Option Int)
  | none => .ok none
  | some text =>
    match Text.readInteger text with
    | .ok n => .ok (some n)
    | .error fault => .error (.invalidInteger fault)

/-- The canonical type of a declared one, with its arguments. -/
def declaredType (table column declared : String) :
    Except Failure (ColumnType × List String) :=
  if declared = "" then .ok (.unset, [])
  else match DeclaredType.split? declared with
    | none => .error (.schema (.malformedType declared))
    | some parts =>
      match ColumnType.ofSpelling? parts.name with
      | some type => .ok (type, parts.arguments)
      | none =>
        .error (.migration (.unsupportedType table column declared)
          (some (.schema (.unknownType parts.name))))

def readColumn (table definition : String) (row : ColumnRow) : Except Failure Column := do
  let (type, arguments) ← declaredType table row.name (row.declared.getD "")
  let length ← integerArgument arguments[0]?
  let scale ← integerArgument arguments[1]?
  let (length, scale) := type.keptLength length scale
  let values ←
    if type = .enumeration then
      match enumValues definition row.name with
      | .ok values => pure values
      | .error fault => .error (.definition fault)
    else pure []
  return {
    name := row.name
    type, length, scale
    nullable := !row.notNull && row.keyRank == 0
    default := row.default
    enumValues := values
    collation := none }

/-- The columns of the primary key in the order of their ranks. A name that occurs twice has the
rank of its last row. -/
def keyColumns (columns : List ColumnRow) : List String :=
  let ranks : OrderedMap String Int :=
    .ofList ((columns.filter fun c => c.keyRank != 0).map fun c => (c.name, c.keyRank))
  (ranks.entries.mergeSort fun a b => decide (a.2 ≤ b.2)).map Prod.fst

def IndexColumnRow.ordered (a b : IndexColumnRow) : Bool :=
  a.rank < b.rank || (a.rank == b.rank && a.columnRank ≤ b.columnRank)

/-- An index with its columns; one over expressions is passed over. -/
def readIndex (c : Catalog) (row : IndexRow) : Except Failure (Option Index) := do
  let columns ← rows (c.indexColumns row.name)
  let names := (columns.mergeSort IndexColumnRow.ordered).map IndexColumnRow.name
  return if names.contains none then none else some ⟨row.name, names.filterMap id, row.unique⟩

def readIndexes (c : Catalog) (table : String) : Except Failure (List Index) := do
  let created := (← rows (c.indexes table)).filter fun row => row.origin == "c"
  let indexes ← created.mapM (readIndex c)
  return (indexes.filterMap id).mergeSort fun a b => decide (a.name ≤ b.name)

def keyRows (rs : List ForeignKeyRow) (key : Int) : List ForeignKeyRow :=
  (rs.filter fun row => row.key == key).mergeSort fun a b => decide (a.rank ≤ b.rank)

def keyNumbers (rs : List ForeignKeyRow) : List Int :=
  (rs.map ForeignKeyRow.key).eraseDups.mergeSort fun a b => decide (a ≤ b)

/-- The foreign key of some rows. One without referenced columns refers to the primary key. -/
def readForeignKey (c : Catalog) (table : String) :
    List ForeignKeyRow → Except Failure (Option ForeignKey)
  | [] => .ok none
  | row :: rest => do
    let members := row :: rest
    let named := members.map ForeignKeyRow.referenced
    let referenced ←
      if named.contains none then do
        let key := keyColumns (← rows (c.columns row.table))
        if key.length = members.length then pure key
        else .error (.ofMigration (.unmatchedReference table row.table))
      else pure (named.filterMap id)
    return some {
      name := none
      columns := members.map ForeignKeyRow.column
      referencedTable := row.table
      referencedColumns := referenced
      onDelete := row.onDelete
      onUpdate := row.onUpdate }

def readForeignKeys (c : Catalog) (table : String) : Except Failure (List ForeignKey) := do
  let rs ← rows (c.foreignKeys table)
  let keys ← (keyNumbers rs).mapM fun key => readForeignKey c table (keyRows rs key)
  return keys.filterMap id

def readTable (c : Catalog) (row : TableRow) : Except Failure Table := do
  let columnRows ← rows (c.columns row.name)
  let columns ← columnRows.mapM (readColumn row.name (row.definition.getD ""))
  return {
    name := row.name
    columns
    primaryKey := keyColumns columnRows
    indexes := ← readIndexes c row.name
    foreignKeys := ← readForeignKeys c row.name
    charset := none
    collation := none }

def readSnapshot (c : Catalog) : Except Failure Snapshot := do
  let tables ← (← rows c.tables).mapM (readTable c)
  return .ofTables tables

end SchemaMigration.Sqlite
