import SchemaMigration.Proofs.Creation

/-!
A MySQL database, as far as character sets and collations go. A text column whose definition names
no collation takes that of its table, and a conversion gives one collation to the table and to all
of its text columns. What statements do that the server refuses is not told: those of a difference
find what they are about.
-/

namespace SchemaMigration

def Snapshot.set (s : Snapshot) (name : String) : Option Table → Snapshot
  | some t => s.put name t
  | none => s.remove name

@[simp] theorem Snapshot.table?_set (s : Snapshot) (name other : String) (t : Option Table) :
    (s.set name t).table? other = if name = other then t else s.table? other := by
  cases t <;> simp [set]

namespace Table

def mapColumns (t : Table) (f : Column → Column) : Table := { t with columns := t.columns.map f }

theorem column?_mapColumns (t : Table) {f : Column → Column} (h : ∀ x, (f x).name = x.name)
    (name : String) : (t.mapColumns f).column? name = (t.column? name).map f := by
  have same : (fun c : Column => c.name == name) ∘ f = fun c => c.name == name := by
    funext x
    simp [h x]
  rw [column?, mapColumns, List.find?_map, same]
  rfl

theorem updateColumn_eq (t : Table) (name : String) (f : Column → Column) :
    t.updateColumn name f = t.mapColumns fun x => if x.name = name then f x else x := rfl

end Table

namespace Mysql

/-- What a server decides when a statement leaves it open. -/
structure Server where
  charset : String
  collationOf : String → String
  named : ∀ charset, collationOf charset ≠ ""

def isText : ColumnType → Bool
  | .string | .fixedString | .guid | .enumeration | .tinyText | .text | .mediumText
  | .longText => true
  | _ => false

/-- A column of a table as it is kept, whose definition names a collation or not. -/
def kept (t : Table) (y : Column) : Column :=
  { y with collation :=
      if isText y.type then (Text.nonempty? y.collation).or t.collation else none }

def converted (collation : String) (y : Column) : Column :=
  if isText y.type then { y with collation := some collation } else y

def Server.chosen (server : Server) (charset : String) (collation : Option String) : String :=
  (Text.nonempty? collation).getD (server.collationOf charset)

def created (server : Server) (clause : TableClause) : Table :=
  let charset := (Text.nonempty? clause.charset).getD server.charset
  let bare : Table := {
    name := clause.name
    columns := []
    primaryKey := clause.primaryKey
    indexes := []
    foreignKeys := clause.foreignKeys.map fun k => { k.key with name := some k.name }
    charset := some charset
    collation := some (server.chosen charset clause.collation) }
  { bare with columns := clause.columns.map fun y => kept bare y.column }

/-- A column leaves the keys and indexes that it is part of. -/
def withoutColumn (t : Table) (name : String) : Table :=
  { t with
    columns := t.columns.filter fun y => y.name ≠ name
    primaryKey := t.primaryKey.filter fun n => n ≠ name
    indexes :=
      (t.indexes.map fun i => { i with columns := i.columns.filter fun n => n ≠ name }).filter
        fun i => i.columns ≠ [] }

def alter (server : Server) (t : Table) : Statement → Table
  | .addColumn _ clause => { t with columns := t.columns ++ [kept t clause.column] }
  | .modifyColumn _ clause => t.updateColumn clause.column.name fun _ => kept t clause.column
  | .dropColumn _ name => withoutColumn t name
  | .addPrimaryKey _ columns => { t with primaryKey := columns }
  | .dropPrimaryKey _ => { t with primaryKey := [] }
  | .convertCharset _ charset collation =>
    { t.mapColumns (converted (server.chosen charset collation)) with
      charset := some charset
      collation := some (server.chosen charset collation) }
  | .createIndex _ index => { t with indexes := t.indexes ++ [index] }
  | .dropIndex _ name => { t with indexes := t.indexes.filter fun i => i.name ≠ name }
  | .addForeignKey _ clause =>
    { t with foreignKeys := t.foreignKeys ++ [{ clause.key with name := some clause.name }] }
  | .dropForeignKey _ name =>
    { t with foreignKeys := t.foreignKeys.filter fun k => k.name ≠ some name }
  | _ => t

def table? : Statement → Option String
  | .createTable clause => some clause.name
  | .dropTable name | .addColumn name _ | .modifyColumn name _ | .dropColumn name _
  | .addPrimaryKey name _ | .dropPrimaryKey name | .convertCharset name _ _ | .createIndex name _
  | .dropIndex name _ | .addForeignKey name _ | .dropForeignKey name _ => some name
  | _ => none

def effect (server : Server) (statement : Statement) (held : Option Table) : Option Table :=
  match statement with
  | .createTable clause => some (created server clause)
  | .dropTable _ => none
  | other => held.map fun t => alter server t other

def exec (server : Server) (s : Snapshot) (statement : Statement) : Snapshot :=
  match table? statement with
  | some name => s.set name (effect server statement (s.table? name))
  | none => s

def run (server : Server) (s : Snapshot) (statements : List Statement) : Snapshot :=
  statements.foldl (exec server) s

variable {server : Server} {s : Snapshot} {statement : Statement} {name : String} {t : Table}

@[simp] theorem run_nil : run server s [] = s := rfl

@[simp] theorem run_cons (rest : List Statement) :
    run server s (statement :: rest) = run server (exec server s statement) rest := rfl

theorem run_append (first second : List Statement) :
    run server s (first ++ second) = run server (run server s first) second :=
  List.foldl_append

/-- A statement does something to its own table only. -/
theorem table?_exec (name : String) :
    (exec server s statement).table? name =
      if table? statement = some name then effect server statement (s.table? name)
      else s.table? name := by
  unfold exec
  cases about : table? statement with
  | none => simp
  | some own =>
    by_cases same : own = name
    · subst same
      simp
    · simp [same]

theorem table?_run_of_ne {statements : List Statement}
    (elsewhere : ∀ st ∈ statements, table? st ≠ some name) :
    (run server s statements).table? name = s.table? name := by
  induction statements generalizing s with
  | nil => rfl
  | cons st rest ih =>
    rw [List.forall_mem_cons] at elsewhere
    rw [run_cons, ih elsewhere.2, table?_exec, if_neg elsewhere.1]

@[simp] theorem name_kept (t : Table) (y : Column) : (kept t y).name = y.name := rfl

theorem collation_kept {y : Column} {collation : String} (text : isText y.type = true)
    (given : Text.nonempty? y.collation = some collation) :
    (kept t y).collation = some collation := by
  simp [kept, text, given]

@[simp] theorem name_converted (collation : String) (y : Column) :
    (converted collation y).name = y.name := by
  unfold converted
  split <;> rfl

@[simp] theorem type_converted (collation : String) (y : Column) :
    (converted collation y).type = y.type := by
  unfold converted
  split <;> rfl

/-- What is left of a table by statements that neither convert it nor give it another primary key:
its options, its other columns, and its primary key if no column of it is dropped. -/
structure Leaves (columns dropped : String → Prop) (t after : Table) : Prop where
  charset : after.charset = t.charset
  collation : after.collation = t.collation
  primaryKey : (∀ n ∈ t.primaryKey, ¬ dropped n) → after.primaryKey = t.primaryKey
  columns : ∀ n, ¬ columns n → after.column? n = t.column? n

theorem Leaves.refl (columns dropped : String → Prop) (t : Table) : Leaves columns dropped t t :=
  ⟨rfl, rfl, fun _ => rfl, fun _ _ => rfl⟩

theorem Leaves.imp {columns dropped more moreDropped : String → Prop} {after : Table}
    (h : Leaves columns dropped t after) (hmore : ∀ n, columns n → more n)
    (hdropped : ∀ n, dropped n → moreDropped n) : Leaves more moreDropped t after where
  charset := h.charset
  collation := h.collation
  primaryKey keyed := h.primaryKey fun n hn gone => keyed n hn (hdropped n gone)
  columns n hn := h.columns n fun changed => hn (hmore n changed)

theorem column?_addColumn (server : Server) (t : Table) (table : String) (clause : ColumnClause)
    (n : String) :
    (alter server t (.addColumn table clause)).column? n =
      (t.column? n).or
        (if clause.column.name = n then some (kept t clause.column) else none) := by
  show (t.columns ++ [kept t clause.column]).find? _ = _
  rw [List.find?_append]
  congr 1
  by_cases same : clause.column.name = n
  · simp [same]
  · simp [same]

theorem column?_modifyColumn (server : Server) (t : Table) (table : String) (clause : ColumnClause)
    (n : String) :
    (alter server t (.modifyColumn table clause)).column? n =
      (t.column? n).map fun y => if n = clause.column.name then kept t clause.column else y := by
  have named : ∀ x : Column,
      (if x.name = clause.column.name then kept t clause.column else x).name = x.name := by
    intro x
    by_cases same : x.name = clause.column.name
    · simp [same]
    · simp [same]
  rw [alter, Table.updateColumn_eq, Table.column?_mapColumns t named]
  cases found : t.column? n with
  | none => rfl
  | some x =>
    have hname : x.name = n := by simpa using List.find?_some found
    rw [Option.map_some, Option.map_some, hname]

theorem column?_withoutColumn {n : String} (h : n ≠ name) :
    (withoutColumn t name).column? n = t.column? n := by
  rw [Table.column?, Table.column?, withoutColumn, List.find?_filter]
  congr 1
  funext y
  by_cases same : y.name = n
  · simp [same, h]
  · simp [same]

theorem leaves_addColumn (server : Server) (table : String) (clause : ColumnClause) :
    Leaves (· = clause.column.name) (fun _ => False) t
      (alter server t (.addColumn table clause)) where
  charset := rfl
  collation := rfl
  primaryKey _ := rfl
  columns n h := by
    rw [column?_addColumn, if_neg fun same => h same.symm, Option.or_none]

theorem leaves_modifyColumn (server : Server) (table : String) (clause : ColumnClause) :
    Leaves (· = clause.column.name) (fun _ => False) t
      (alter server t (.modifyColumn table clause)) where
  charset := rfl
  collation := rfl
  primaryKey _ := rfl
  columns n h := by
    rw [column?_modifyColumn]
    simp [h]

theorem leaves_dropColumn (server : Server) (table : String) :
    Leaves (· = name) (· = name) t (alter server t (.dropColumn table name)) where
  charset := rfl
  collation := rfl
  primaryKey keyed := by
    show t.primaryKey.filter _ = t.primaryKey
    rw [List.filter_eq_self]
    intro n hn
    have other : n ≠ name := keyed n hn
    simp [other]
  columns n h := column?_withoutColumn h

end Mysql

end SchemaMigration
