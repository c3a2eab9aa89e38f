import Mathlib.Data.List.Nodup
import SchemaMigration.Emission.Sqlite
import SchemaMigration.Proofs.WellFormed

/-!
A SQLite database, as far as its structure goes: tables with the foreign keys of their definitions,
and the indexes of all tables under names that they share. A statement can be executed only if it
finds what SQLite asks for.
-/

namespace SchemaMigration

theorem Snapshot.mem_parts {α : Type} {s : Snapshot} {parts : Table → List α} {name : String}
    {a : α} : (name, a) ∈ s.tables.entries.flatMap (fun e => (parts e.2).map fun b => (e.1, b)) ↔
      ∃ t, s.table? name = some t ∧ a ∈ parts t := by
  simp only [List.mem_flatMap, List.mem_map, Prod.mk.injEq, table?_eq_some_iff]
  constructor
  · rintro ⟨⟨key, t⟩, ht, b, hb, rfl, rfl⟩
    exact ⟨t, ht, hb⟩
  · rintro ⟨t, ht, ha⟩
    exact ⟨(name, t), ht, a, ha, rfl, rfl⟩

def Snapshot.ownedIndexes (s : Snapshot) : List (String × Index) :=
  s.tables.entries.flatMap fun e => e.2.indexes.map fun i => (e.1, i)

theorem Snapshot.mem_ownedIndexes {s : Snapshot} {name : String} {i : Index} :
    (name, i) ∈ s.ownedIndexes ↔ ∃ t, s.table? name = some t ∧ i ∈ t.indexes := mem_parts

def Snapshot.ownedKeys (s : Snapshot) : List (String × ForeignKey) :=
  s.tables.entries.flatMap fun e => e.2.foreignKeys.map fun k => (e.1, k)

theorem Snapshot.mem_ownedKeys {s : Snapshot} {owner : String} {k : ForeignKey} :
    (owner, k) ∈ s.ownedKeys ↔ s.HoldsKey owner k := mem_parts

namespace Sqlite

structure StoredTable where
  columns : List Column
  primaryKey : List String
  foreignKeys : List ForeignKey
  deriving DecidableEq, Repr

namespace StoredTable

def columnNames (t : StoredTable) : List String := t.columns.map Column.name

def ofTable (t : Table) : StoredTable := ⟨t.columns, t.primaryKey, t.foreignKeys⟩

def ofClause (t : TableClause) : StoredTable :=
  ⟨t.columns.map ColumnClause.column, t.primaryKey, t.foreignKeys.map ForeignKeyClause.key⟩

end StoredTable

structure Database where
  tables : OrderedMap String StoredTable
  indexes : List (String × Index)
  deriving DecidableEq, Repr

namespace Database

def table? (db : Database) (name : String) : Option StoredTable := db.tables.find? name

def indexNames (db : Database) : List String := db.indexes.map fun e => e.2.name

def putTable (db : Database) (name : String) (t : StoredTable) : Database :=
  { db with tables := db.tables.insert name t }

/-- A table goes together with its indexes. -/
def removeTable (db : Database) (name : String) : Database :=
  ⟨db.tables.erase name, db.indexes.filter fun e => e.1 ≠ name⟩

/-- The database after a statement, if the statement can be executed. What SQLite cannot do to a
table can never be. -/
def exec? (db : Database) : Statement → Option Database
  | .set _ => some db
  | .createTable t =>
    if (db.table? t.name).isSome then none else some (db.putTable t.name (.ofClause t))
  | .dropTable name =>
    if (db.table? name).isSome then
      some ⟨db.tables.erase name, db.indexes.filter fun e => e.1 ≠ name⟩
    else none
  | .renameTable old new =>
    match db.table? old, db.table? new with
    | some t, none =>
      some ⟨(db.tables.erase old).insert new t,
        db.indexes.map fun e => (if e.1 = old then new else e.1, e.2)⟩
    | _, _ => none
  | .copyRows source target columns => do
    let s ← db.table? source
    let t ← db.table? target
    if ∀ n ∈ columns, n ∈ s.columnNames ∧ n ∈ t.columnNames then some db else none
  | .addColumn name clause => do
    let t ← db.table? name
    if clause.column.name ∉ t.columnNames ∧
        (clause.column.nullable = true ∨ clause.column.default.isSome) then
      some (db.putTable name { t with columns := t.columns ++ [clause.column] })
    else none
  | .dropColumn name column => do
    let t ← db.table? name
    if column ∈ t.columnNames ∧ column ∉ t.primaryKey ∧
        (∀ k ∈ t.foreignKeys, column ∉ k.columns) ∧
        ∀ e ∈ db.indexes, e.1 = name → column ∉ e.2.columns then
      some (db.putTable name { t with columns := t.columns.filter fun x => x.name ≠ column })
    else none
  | .createIndex name index => do
    let t ← db.table? name
    if index.name ∉ db.indexNames ∧ ∀ n ∈ index.columns, n ∈ t.columnNames then
      some { db with indexes := db.indexes ++ [(name, index)] }
    else none
  | .dropIndex _ index => some { db with indexes := db.indexes.filter fun e => e.2.name ≠ index }
  | .modifyColumn .. | .setType .. | .setNullable .. | .setDefault .. | .dropDefault ..
  | .addCheck .. | .dropCheck .. | .addPrimaryKey .. | .dropPrimaryKey .. | .convertCharset ..
  | .addForeignKey .. | .dropForeignKey .. => none

def run? (db : Database) (statements : List Statement) : Option Database :=
  statements.foldlM exec? db

def ofSnapshot (s : Snapshot) : Database where
  tables :=
    { entries := s.tables.entries.map fun e => (e.1, .ofTable e.2)
      distinct := by simpa [Function.comp_def] using s.tables.distinct }
  indexes := s.ownedIndexes

variable {db : Database}

@[simp] theorem table?_putTable (name other : String) (t : StoredTable) :
    (db.putTable name t).table? other = if name = other then some t else db.table? other :=
  OrderedMap.find?_insert _ _ _ _

@[simp] theorem indexes_putTable (name : String) (t : StoredTable) :
    (db.putTable name t).indexes = db.indexes := rfl

@[simp] theorem table?_removeTable (name other : String) :
    (db.removeTable name).table? other = if name = other then none else db.table? other :=
  OrderedMap.find?_erase _ _ _

theorem exec?_dropTable {name : String} {t : StoredTable} (present : db.table? name = some t) :
    db.exec? (.dropTable name) = some (db.removeTable name) := by
  simp [exec?, removeTable, present]

/-- A table without indexes is renamed alone. -/
theorem exec?_renameTable {old new : String} {t : StoredTable} (found : db.table? old = some t)
    (free : db.table? new = none) (unowned : ∀ e ∈ db.indexes, e.1 ≠ old) :
    ∃ after, db.exec? (.renameTable old new) = some after ∧ after.indexes = db.indexes ∧
      ∀ n, after.table? n =
        if new = n then some t else if old = n then none else db.table? n := by
  have owners : db.indexes.map (fun e => (if e.1 = old then new else e.1, e.2)) = db.indexes := by
    rw [List.map_congr_left (g := id), List.map_id]
    intro e he
    simp [unowned e he]
  refine ⟨⟨(db.tables.erase old).insert new t, db.indexes⟩, ?_, rfl, fun n => ?_⟩
  · simp only [exec?, found, free, owners]
  · rw [table?, OrderedMap.find?_insert, OrderedMap.find?_erase]
    rfl

@[simp] theorem run?_nil : db.run? [] = some db := rfl

theorem run?_cons (statement : Statement) (rest : List Statement) :
    db.run? (statement :: rest) = (db.exec? statement).bind (·.run? rest) := rfl

theorem run?_append (first second : List Statement) :
    db.run? (first ++ second) = (db.run? first).bind (·.run? second) := by
  simp [run?, List.foldlM_append]

theorem run?_singleton (statement : Statement) : db.run? [statement] = db.exec? statement := by
  simp [run?]

theorem run?_settings (settings : List Setting) :
    db.run? (settings.map .set) = some db := by
  induction settings with
  | nil => rfl
  | cons setting rest ih => simpa [run?_cons, exec?] using ih

theorem table?_ofSnapshot (s : Snapshot) (name : String) :
    (ofSnapshot s).table? name = (s.table? name).map .ofTable :=
  OrderedMap.lookup_map _ _ _

/-- Indexes of one table can be created together under new names. -/
theorem run?_createIndexes {name : String} {t : StoredTable} {indexes : List Index}
    (ht : db.table? name = some t) (distinct : (indexes.map Index.name).Nodup)
    (absent : ∀ i ∈ indexes, i.name ∉ db.indexNames)
    (columns : ∀ i ∈ indexes, ∀ n ∈ i.columns, n ∈ t.columnNames) :
    db.run? (indexes.map (.createIndex name)) =
      some { db with indexes := db.indexes ++ indexes.map fun i => (name, i) } := by
  induction indexes generalizing db with
  | nil => simp
  | cons i rest ih =>
    rw [List.map_cons, List.nodup_cons] at distinct
    have first : db.exec? (.createIndex name i) =
        some { db with indexes := db.indexes ++ [(name, i)] } := by
      simp only [exec?, ht, Option.bind_eq_bind, Option.bind_some]
      exact if_pos ⟨absent i List.mem_cons_self, columns i List.mem_cons_self⟩
    rw [List.map_cons, run?_cons, first, Option.bind_some]
    have fresh : ∀ j ∈ rest, j.name ∉ (db.indexes ++ [(name, i)]).map fun e => e.2.name := by
      intro j hj
      simp only [List.map_append, List.mem_append, List.map_cons, List.map_nil,
        List.mem_singleton, not_or]
      refine ⟨absent j (List.mem_cons_of_mem _ hj), fun heq => ?_⟩
      exact distinct.1 (heq ▸ List.mem_map_of_mem hj)
    have others := @ih ⟨db.tables, db.indexes ++ [(name, i)]⟩ ht distinct.2 fresh
      fun j hj => columns j (List.mem_cons_of_mem _ hj)
    rw [others]
    simp

end Database

end Sqlite

end SchemaMigration
