import SchemaMigration.Change
import SchemaMigration.DependencyGraph
import SchemaMigration.Schema.Rules

/-!
The difference of two snapshots: the changes that turn one into the other, in an order in which
each of them finds what it needs.
-/

namespace SchemaMigration

structure Difference where
  current : Snapshot
  target : Snapshot
  steps : List Step
  deriving DecidableEq, Repr

namespace Difference

def changes (d : Difference) : List Change := d.steps.map Step.change

def isEmpty (d : Difference) : Bool := d.steps.isEmpty

def forTable (d : Difference) (table : String) : List Step :=
  d.steps.filter fun s => s.change.table == table

def touchesForeignKeys (d : Difference) : Bool :=
  d.changes.any fun c => c.kind == .addForeignKey || c.kind == .dropForeignKey

end Difference

/-- Two snapshots to compare. Without constraints and indexes, foreign keys and indexes are left as
they are. -/
structure Comparison where
  current : Snapshot
  target : Snapshot
  rules : Rules
  skipsConstraints : Bool
  deriving DecidableEq, Repr

namespace Comparison

def creation (c : Comparison) (table : Table) : List Change :=
  ⟨table.name, .createTable table⟩ ::
    if c.skipsConstraints then []
    else table.indexes.map (fun i => ⟨table.name, .addIndex i⟩) ++
      table.foreignKeys.map (fun k => ⟨table.name, .addForeignKey k⟩)

def removal (c : Comparison) (table : Table) : List Change :=
  (if c.skipsConstraints then []
    else table.foreignKeys.map fun k => ⟨table.name, .dropForeignKey k⟩) ++
    [⟨table.name, .dropTable table⟩]

/-- The foreign keys of a table by what they do; of equal ones the last is kept. -/
def keysOf (table : Table) : OrderedMap ForeignKey.Signature ForeignKey :=
  .ofList (table.foreignKeys.map fun k => (k.signature, k))

def foreignKeyChanges (old new : Table) : List Change :=
  let oldKeys := keysOf old
  let newKeys := keysOf new
  (oldKeys.entries.filter fun entry => !newKeys.contains entry.1).map
      (fun entry => ⟨old.name, .dropForeignKey entry.2⟩) ++
    (newKeys.entries.filter fun entry => !oldKeys.contains entry.1).map
      (fun entry => ⟨new.name, .addForeignKey entry.2⟩)

def indexChanges (old new : Table) : List Change :=
  (old.indexes.filter fun i => new.index? i.name != some i).map
      (fun i => ⟨old.name, .dropIndex i⟩) ++
    (new.indexes.filter fun i => old.index? i.name != some i).map
      (fun i => ⟨new.name, .addIndex i⟩)

/-- Whether two columns have the same type, as far as the dialect can tell. -/
def sameType (c : Comparison) (old new : Column) : Bool :=
  if c.rules.comparesCollations then old.SameType new
  else old.withoutCollation.SameType new.withoutCollation

def columnChanges (c : Comparison) (old new : Table) (column : Column) : List Change :=
  match old.column? column.name with
  | none => [⟨new.name, .addColumn column⟩]
  | some oldColumn =>
    (if c.sameType oldColumn column then []
      else [⟨new.name, .alterColumnType (some oldColumn) column⟩]) ++
    if oldColumn.SameNullDefault column then []
      else [⟨new.name, .alterColumnNullDefault (some oldColumn) column⟩]

def droppedColumns (old new : Table) : List Change :=
  (old.columns.filter fun column => !new.hasColumn column.name).map
    fun column => ⟨new.name, .dropColumn column⟩

def sameOptions (c : Comparison) (old new : Table) : Bool :=
  !c.rules.comparesCollations || (old.charset == new.charset && old.collation == new.collation)

def tableChanges (c : Comparison) (old new : Table) : List Change :=
  (if c.skipsConstraints then [] else foreignKeyChanges old new ++ indexChanges old new) ++
    new.columns.flatMap (c.columnChanges old new) ++
    droppedColumns old new ++
    if old.primaryKey == new.primaryKey && c.sameOptions old new then []
    else [⟨new.name, .alterTable old new⟩]

/-- All changes in the order of their discovery: the tables of the new snapshot, then those that it
lacks. -/
def changes (c : Comparison) : List Change :=
  (c.target.tables.entries.flatMap fun (name, table) =>
    match c.current.table? name with
    | none => c.creation table
    | some old => c.tableChanges old table) ++
  (c.current.tables.entries.filter fun entry => (c.target.table? entry.1).isNone).flatMap
    fun entry => c.removal entry.2

/-- Numbers the repeated identifiers of changes. Those before had the identifiers `seen`. -/
def numbered (seen : List String) : List Change → List Step
  | [] => []
  | change :: rest =>
    let id := change.label.id
    let count := seen.count id
    ⟨if count = 0 then id else id ++ "#" ++ toString count, change⟩ :: numbered (id :: seen) rest

def steps (c : Comparison) : List Step := numbered [] c.changes

end Comparison

namespace Change

/-- The column that a change brings into the form that it has in the new snapshot. -/
def settledColumn? (c : Change) : Option String :=
  match c.action with
  | .addColumn column | .alterColumnType _ column => some column.name
  | _ => none

def settles (c : Change) (wanted : String → Bool) : Bool := c.settledColumn?.any wanted

/-- Why a foreign key that is added waits for another change: both of its ends and the key that it
refers to have to be there, and a foreign key of its name has to be gone. -/
def addedForeignKeyWaits? (table : String) (key : ForeignKey) (other : Change) : Option Reason :=
  let isOwn := other.table == table
  let isReferenced := other.table == key.referencedTable
  if !isOwn && !isReferenced then none
  else if other.settles fun name =>
      (isOwn && key.columns.contains name) || (isReferenced && key.referencedColumns.contains name)
    then some .columnExists
  else match other.action with
    | .createTable _ => some .tableExists
    | .alterTable _ _ => if isReferenced then some .keyExists else none
    | .dropForeignKey old =>
      if isOwn && key.name.isSome && old.name == key.name then some .replace else none
    | _ => none

def addedIndexWaits? (table : String) (index : Index) (other : Change) : Option Reason :=
  if other.table != table then none
  else if other.settles index.columns.contains then some .columnExists
  else match other.action with
    | .createTable _ => some .tableExists
    | .dropIndex old => if old.name == index.name then some .replace else none
    | _ => none

/-- Why the end of a table, or of one of its columns, waits for another change: foreign keys and
indexes that hold it are dropped first. -/
def releaseWaits? (table : String) (column : Option String) (other : Change) : Option Reason :=
  match other.action with
  | .dropForeignKey key =>
    let holds (names : List String) : Bool := column.all names.contains
    if (other.table == table && holds key.columns) ||
        (key.referencedTable == table && holds key.referencedColumns)
    then some .releaseReference else none
  | .dropIndex index =>
    if other.table == table && column.all index.columns.contains then some .releaseIndex else none
  | _ => none

def alteredTableWaits? (table : String) (new : Table) (other : Change) : Option Reason :=
  if other.table == table then
    if other.settles new.primaryKey.contains then some .columnExists else none
  else match other.action with
    | .dropForeignKey key =>
      if key.referencedTable == table then some .releaseReference else none
    | _ => none

def waitsFor? (change other : Change) : Option Reason :=
  match change.action with
  | .addForeignKey key => addedForeignKeyWaits? change.table key other
  | .addIndex index => addedIndexWaits? change.table index other
  | .dropTable _ => releaseWaits? change.table none other
  | .alterColumnType _ column => releaseWaits? change.table (some column.name) other
  | .dropColumn column =>
    match other.action with
    | .alterTable old _ =>
      if other.table == change.table && old.primaryKey.contains column.name
      then some .releaseKey else none
    | _ => releaseWaits? change.table (some column.name) other
  | .alterColumnNullDefault _ column =>
    match other.action with
    | .alterColumnType _ retyped =>
      if other.table == change.table && retyped.name == column.name
      then some .columnOrdering else none
    | _ => none
  | .alterTable _ new => alteredTableWaits? change.table new other
  | .createTable _ | .addColumn _ | .dropIndex _ | .dropForeignKey _ | .incomplete _ => none

end Change

namespace Comparison

open DependencyGraph

def edgesTo (steps : List Step) (step : Step) : List Edge :=
  steps.filterMap fun other =>
    (step.change.waitsFor? other.change).map fun reason => ⟨other.id, step.id, reason⟩

def graphOf (steps : List Step) : Except Refusal (DependencyGraph Change) := do
  let nodes ← steps.foldlM (fun g s => g.discover s.id s.change s.change.kind.phase) empty
  (steps.flatMap (edgesTo steps)).foldlM addEdge nodes

/-- Why two snapshots have no difference. -/
inductive Fault
  | refused (refusal : Refusal)
  | circular (cycles : List (List String))
  deriving DecidableEq, Repr

def describe (g : DependencyGraph Change) (id : String) : String :=
  match g.node? id with
  | some node => node.payload.describe
  | none => id

def difference (c : Comparison) : Except Fault Difference :=
  match graphOf c.steps with
  | .error refusal => .error (.refused refusal)
  | .ok graph =>
    match graph.sort with
    | .error cycles => .error (.circular (namedCycles (describe graph) cycles))
    | .ok nodes => .ok ⟨c.current, c.target, nodes.map fun n => ⟨n.id, n.payload⟩⟩

end Comparison

end SchemaMigration
