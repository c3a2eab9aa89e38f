import SchemaMigration.Emission.Basic

/-!
Emission for SQLite, which can neither change a column nor a key of a table. A table that needs
such a change is rebuilt once: a table with the new definition is created beside it, the shared
columns are copied, the old table is dropped, the new one takes its name, and the indexes that went
away with the old table are created again.
-/

namespace SchemaMigration.Emission.Sqlite

def holdsColumn (table : Table) (column : String) : Bool :=
  table.primaryKey.contains column || table.foreignKeys.any fun k => k.columns.contains column

/-- Whether a change can only be carried out by rebuilding its table. -/
def needsRebuild (current : Snapshot) (c : Change) : Except EmissionFault Bool :=
  match c.action with
  | .addColumn column => .ok (!column.nullable && column.default.isNone)
  | .dropColumn column =>
    match current.table? c.table with
    | some table => .ok (holdsColumn table column.name)
    | none => .error (.absent .primaryKey)
  | .alterTable _ _ | .alterColumnType _ _ | .alterColumnNullDefault _ _
  | .addForeignKey _ | .dropForeignKey _ => .ok true
  | .createTable _ | .dropTable _ | .addIndex _ | .dropIndex _ => .ok false
  | .incomplete kind =>
    match kind with
    | .addColumn => .error (.absent .nullable)
    | .dropColumn => .error (.absent .name)
    | .alterTable | .alterColumnType | .alterColumnNullDefault
    | .addForeignKey | .dropForeignKey => .ok true
    | .createTable | .dropTable | .addIndex | .dropIndex => .ok false

/-- The tables with changes that need a rebuild, among those that are neither created nor
dropped. -/
def tablesToRebuild (x : Context) : Except EmissionFault (List String) := do
  let whole := x.changes.filter fun c => c.kind == .createTable || c.kind == .dropTable
  let kept := x.changes.filter fun c => !(whole.map Change.table).contains c.table
  let needs ← kept.filterM (needsRebuild x.current)
  return needs.map Change.table

def temporaryName (table : String) : String := table ++ "__new"

/-- Whether the table is to get an index of which nothing is said. -/
def hasUnknownIndex (x : Context) (name : String) : Bool :=
  x.changes.any fun c => c.table == name && c.action == .incomplete .addIndex

/-- The indexes that are created again after a rebuild: those that the table had, or all of the new
definition that are not created later on. -/
def recreatedIndexes (x : Context) (p : Progress) (name : String) (old : Option Table)
    (new : Table) : Except EmissionFault (List Index) := do
  let indexes ←
    if x.skipsConstraints then
      match old with
      | some old => pure old.indexes
      | none => .error (.absent .indexes)
    else if hasUnknownIndex x name then .error (.absent .name)
    else
      let pending := x.changes.filterMap fun c =>
        match c.action with
        | .addIndex index =>
          if c.table = name ∧ (name, index.name) ∉ p.createdIndexes then some index.name else none
        | _ => none
      pure (new.indexes.filter fun index => !pending.contains index.name)
  return indexes.filter fun index => index.columns.all new.hasColumn

def sharedColumns (old : Option Table) (new : Table) : Except EmissionFault (List String) :=
  match old, new.columns with
  | some old, _ => .ok (new.columnNames.filter old.hasColumn)
  | none, [] => .ok []
  | none, _ :: _ => .error (.absent .column)

def replaceTable (x : Context) (p : Progress) (name : String) (old : Option Table) (new : Table) :
    Emission :=
  let temporary := temporaryName name
  match sharedColumns old new with
  | .error fault => stop fault
  | .ok shared =>
    of ((if shared = [] then [] else [Statement.copyRows name temporary shared]) ++
      [.dropTable name, .renameTable temporary name]) ++
    match recreatedIndexes x p name old new with
    | .error fault => stop fault
    | .ok indexes => of (indexes.map (.createIndex name))

def rebuild (x : Context) (p : Progress) (name : String) : Progress × Emission :=
  if p.rebuilt.contains name then (p, of [])
  else ({ p with rebuilt := name :: p.rebuilt },
    match x.target.table? name with
    | none => stop (.absent .columns)
    | some new =>
      createTable x new (temporaryName name) ++ replaceTable x p name (x.current.table? name) new)

def emit (x : Context) (p : Progress) (c : Change) : Progress × Emission :=
  let isRebuilt := p.rebuilding.contains c.table
  match c.action with
  | .alterTable _ _ | .alterColumnType _ _ | .alterColumnNullDefault _ _ => rebuild x p c.table
  | .addColumn _ | .dropColumn _ => if isRebuilt then rebuild x p c.table else (p, plain x c)
  | .addForeignKey _ | .dropForeignKey _ =>
    if isRebuilt then rebuild x p c.table else (p, of [])
  | .addIndex index =>
    ({ p with createdIndexes := (c.table, index.name) :: p.createdIndexes }, plain x c)
  | .createTable _ | .dropTable _ | .dropIndex _ => (p, plain x c)
  | .incomplete kind =>
    match kind with
    | .alterTable | .alterColumnType | .alterColumnNullDefault => rebuild x p c.table
    | .addColumn | .dropColumn =>
      if isRebuilt then rebuild x p c.table else (p, stop (.absent .name))
    | .addForeignKey | .dropForeignKey =>
      if isRebuilt then rebuild x p c.table else (p, of [])
    | .createTable | .dropTable | .addIndex | .dropIndex => (p, stop (.absent .name))

end SchemaMigration.Emission.Sqlite
