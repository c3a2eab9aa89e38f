import SchemaMigration.Difference
import SchemaMigration.Statement

/-!
Emission: the statements that carry out a change. The statements before a failure are kept, since
they are part of the script by then.
-/

namespace SchemaMigration

inductive Trait
  | name
  | columns
  | column
  | primaryKey
  | indexes
  | table
  | nullable
  | default
  | unique
  deriving DecidableEq, Repr

inductive EmissionFault
  | untypedColumn
  | absent (asked : Trait)
  | unnamedForeignKey (table : String) (columns : List String)
  deriving DecidableEq, Repr

structure Emission where
  statements : List Statement
  fault : Option EmissionFault
  deriving DecidableEq, Repr

namespace Emission

def of (statements : List Statement) : Emission := ⟨statements, none⟩

def stop (fault : EmissionFault) : Emission := ⟨[], some fault⟩

/-- What comes after a fault is not emitted. -/
def andThen (first second : Emission) : Emission :=
  match first.fault with
  | some _ => first
  | none => ⟨first.statements ++ second.statements, second.fault⟩

instance : Append Emission := ⟨andThen⟩

theorem of_append_of (first second : List Statement) :
    of first ++ of second = of (first ++ second) := rfl

theorem append_of_fault_none {first : Emission} (h : first.fault = none) (second : Emission) :
    first ++ second = ⟨first.statements ++ second.statements, second.fault⟩ := by
  show first.andThen second = _
  rw [andThen, h]

end Emission

/-- What the statements for a change depend on besides the change itself. -/
structure Context where
  dialect : Dialect
  current : Snapshot
  target : Snapshot
  changes : List Change
  skipsConstraints : Bool
  deriving DecidableEq, Repr

/-- What was done so far. -/
structure Progress where
  restated : List (String × String)
  rebuilding : List String
  rebuilt : List String
  createdIndexes : List (String × String)
  deriving DecidableEq, Repr

def Progress.start : Progress := ⟨[], [], [], []⟩

def ColumnClause.of? (d : Dialect) (c : Column) : Except EmissionFault ColumnClause :=
  match d.typeOf? c with
  | some type => .ok ⟨c, type⟩
  | none => .error .untypedColumn

def ForeignKeyClause.of (table : String) (k : ForeignKey) : ForeignKeyClause :=
  ⟨(Text.nonempty? k.name).getD (ForeignKey.generatedName table k.columns), k⟩

namespace Context

/-- The foreign keys that the definition of a table has to list: none where they can be added
later, else those of the table. If constraints are to be left as they are, they are those that the
table has already. -/
def inlineForeignKeys (x : Context) (table : Table) : List ForeignKey :=
  if x.dialect ≠ .sqlite then []
  else if x.skipsConstraints then ((x.current.table? table.name).map Table.foreignKeys).getD []
  else table.foreignKeys

def tableClause (x : Context) (table : Table) (name : String) :
    Except EmissionFault TableClause := do
  let columns ← table.columns.mapM (ColumnClause.of? x.dialect)
  return {
    name, columns
    primaryKey := table.primaryKey
    keyOwner := table.name
    foreignKeys := (x.inlineForeignKeys table).map (ForeignKeyClause.of table.name)
    charset := table.charset
    collation := table.collation }

end Context

namespace Emission

/-- A statement about a column that has a declared type. -/
def withColumn (d : Dialect) (c : Column) (statement : ColumnClause → Statement) : Emission :=
  match ColumnClause.of? d c with
  | .ok clause => of [statement clause]
  | .error fault => stop fault

def createTable (x : Context) (table : Table) (name : String) : Emission :=
  match x.tableClause table name with
  | .ok clause => of [.createTable clause]
  | .error fault => stop fault

def convertTable (d : Dialect) (table : Table) : Emission :=
  match d, Text.nonempty? table.charset with
  | .mysql, some charset => of [.convertCharset table.name charset table.collation]
  | _, _ => of []

/-- A change of the primary key and of the character set. -/
def alterTable (d : Dialect) (old new : Table) : Emission :=
  let key :=
    if old.primaryKey = new.primaryKey then []
    else (if old.primaryKey = [] then [] else [Statement.dropPrimaryKey old.name]) ++
      if new.primaryKey = [] then [] else [.addPrimaryKey new.name new.primaryKey]
  of key ++
    if old.charset = new.charset ∧ old.collation = new.collation then of []
    else convertTable d new

def dropForeignKey (table : String) (k : ForeignKey) : Emission :=
  match Text.nonempty? k.name with
  | some name => of [.dropForeignKey table name]
  | none => stop (.unnamedForeignKey table k.columns)

def firstTrait : ChangeKind → Trait
  | .alterTable => .primaryKey
  | .addIndex => .unique
  | .createTable | .dropTable | .addColumn | .dropColumn | .alterColumnType
  | .alterColumnNullDefault | .dropIndex | .addForeignKey | .dropForeignKey => .name

def plain (x : Context) (c : Change) : Emission :=
  match c.action with
  | .createTable table => createTable x table table.name
  | .dropTable _ => of [.dropTable c.table]
  | .alterTable old new => alterTable x.dialect old new
  | .addColumn column => withColumn x.dialect column (.addColumn c.table)
  | .dropColumn column => of [.dropColumn c.table column.name]
  | .addIndex index => of [.createIndex c.table index]
  | .dropIndex index => of [.dropIndex c.table index.name]
  | .addForeignKey key => of [.addForeignKey c.table (.of c.table key)]
  | .dropForeignKey key => dropForeignKey c.table key
  | .alterColumnType _ _ | .alterColumnNullDefault _ _ => of []
  | .incomplete kind => stop (.absent (firstTrait kind))

end Emission

end SchemaMigration
