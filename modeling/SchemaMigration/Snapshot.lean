import SchemaMigration.ColumnType
import SchemaMigration.OrderedMap

/-!
Snapshots: the structure of a database at one moment, in terms that do not depend on a dialect.
-/

namespace SchemaMigration

structure Column where
  name : String
  type : ColumnType
  length : Option Int
  scale : Option Int
  nullable : Bool
  default : Option String
  enumValues : List String
  collation : Option String
  deriving DecidableEq, Repr

structure Index where
  name : String
  columns : List String
  unique : Bool
  deriving DecidableEq, Repr

structure ForeignKey where
  name : Option String
  columns : List String
  referencedTable : String
  referencedColumns : List String
  onDelete : String
  onUpdate : String
  deriving DecidableEq, Repr

structure Table where
  name : String
  columns : List Column
  primaryKey : List String
  indexes : List Index
  foreignKeys : List ForeignKey
  charset : Option String
  collation : Option String
  deriving DecidableEq, Repr

structure Snapshot where
  tables : OrderedMap String Table
  deriving DecidableEq, Repr

namespace Column

def SameType (a b : Column) : Bool :=
  a.type == b.type && a.length == b.length && a.scale == b.scale &&
    a.enumValues == b.enumValues && a.collation == b.collation

def SameNullDefault (a b : Column) : Bool := a.nullable == b.nullable && a.default == b.default

def withoutCollation (c : Column) : Column := { c with collation := none }

def HasEnumValues (c : Column) : Bool := c.type == .enumeration && !c.enumValues.isEmpty

theorem enumValues_ne_nil {c : Column} (h : c.HasEnumValues = true) : c.enumValues ≠ [] := by
  intro none
  simp [HasEnumValues, none] at h

end Column

namespace ForeignKey

/-- What a foreign key does. Its name is left out, because not every dialect reports it. -/
structure Signature where
  columns : List String
  referencedTable : String
  referencedColumns : List String
  onDelete : String
  onUpdate : String
  deriving DecidableEq, Repr

def signature (key : ForeignKey) : Signature :=
  ⟨key.columns, key.referencedTable, key.referencedColumns, key.onDelete, key.onUpdate⟩

/-- The name of a foreign key that was given none. -/
def generatedName (table : String) (columns : List String) : String :=
  "fk_" ++ table ++ "_" ++ "_".intercalate columns

end ForeignKey

namespace Table

def ofName (name : String) : Table := ⟨name, [], [], [], [], none, none⟩

def columnNames (t : Table) : List String := t.columns.map Column.name

def column? (t : Table) (name : String) : Option Column := t.columns.find? fun c => c.name == name

def hasColumn (t : Table) (name : String) : Bool := (t.column? name).isSome

def index? (t : Table) (name : String) : Option Index := t.indexes.find? fun i => i.name == name

end Table

namespace Snapshot

def empty : Snapshot := ⟨.empty⟩

instance : Inhabited Snapshot := ⟨empty⟩

/-- The last of several tables with one name counts, at the place of the first. -/
def ofTables (tables : List Table) : Snapshot :=
  ⟨.ofList (tables.map fun t => (t.name, t))⟩

def table? (s : Snapshot) (name : String) : Option Table := s.tables.find? name

/-- Equal structure; the order of the tables does not matter. -/
def SameAs (a b : Snapshot) : Bool := a.tables.SameAs b.tables

end Snapshot

end SchemaMigration
