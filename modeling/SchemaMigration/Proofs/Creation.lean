import SchemaMigration.Proofs.Faults
import SchemaMigration.Proofs.ForeignKeyNames
import SchemaMigration.Proofs.QuotedNames

/-!
The creation of a whole schema. From an empty database on there is nothing to alter or to drop, so
the statements of all changes are those that create each table, its indexes and its foreign keys.
-/

namespace SchemaMigration

variable {d : Dialect} {x : Context} {p : Progress} {skips : Bool}

/-! ### Statements of changes that only create -/

def Change.creates (change : Change) : Bool :=
  match change.action with
  | .createTable _ | .addIndex _ | .addForeignKey _ => true
  | _ => false

namespace Emission

variable {change : Change} {changes : List Change}

theorem emitAll_cons (faultless : (emit x p change).2.fault = none) (rest : List Change) :
    emitAll x p (change :: rest) =
      ((emitAll x (emit x p change).1 rest).1,
        (emit x p change).2 ++ (emitAll x (emit x p change).1 rest).2) := by
  simp only [emitAll, faultless]

theorem emit_of_creates (other : x.dialect ≠ .sqlite) (h : change.creates = true) :
    emit x p change = (p, plain x change) := by
  obtain ⟨table, action⟩ := change
  unfold emit
  cases hd : x.dialect with
  | sqlite => exact absurd hd other
  | mysql | postgres | sqlServer =>
    cases action <;> first | rfl | cases h

theorem emitAll_of_creates (other : x.dialect ≠ .sqlite) (h : ∀ y ∈ changes, y.creates = true)
    (faultless : ∀ y ∈ changes, (plain x y).fault = none) :
    emitAll x p changes = (p, of (changes.flatMap fun y => (plain x y).statements)) := by
  induction changes with
  | nil => rfl
  | cons y rest ih =>
    rw [List.forall_mem_cons] at h faultless
    have first := emit_of_creates (p := p) other h.1
    rw [emitAll_cons (by rw [first]; exact faultless.1), first, ih h.2 faultless.2,
      append_of_fault_none faultless.1]
    rfl

end Emission

/-! ### The statements of a table -/

namespace ColumnClause

def declared (d : Dialect) (y : Column) : ColumnClause := ⟨y, (d.typeOf? y).getD ""⟩

theorem of?_eq_declared (d : Dialect) {y : Column} (typed : y.type ≠ .unset) :
    of? d y = .ok (declared d y) := by
  obtain ⟨type, htype⟩ := Option.isSome_iff_exists.mp (d.typeOf?_isSome typed)
  rw [of?, declared, htype]
  rfl

theorem mapM_of?_eq_declared (d : Dialect) {columns : List Column}
    (typed : ∀ y ∈ columns, y.type ≠ .unset) :
    columns.mapM (of? d) = .ok (columns.map (declared d)) := by
  induction columns with
  | nil => rfl
  | cons y rest ih =>
    rw [List.forall_mem_cons] at typed
    exact mapM_cons_eq_ok_iff.mpr ⟨_, _, of?_eq_declared d typed.1, ih typed.2, rfl⟩

end ColumnClause

namespace Table

def clause (d : Dialect) (t : Table) : TableClause where
  name := t.name
  columns := t.columns.map (ColumnClause.declared d)
  primaryKey := t.primaryKey
  keyOwner := t.name
  foreignKeys := []
  charset := t.charset
  collation := t.collation

/-- What is added to a table after its creation, unless constraints and indexes are skipped. -/
def additions (skips : Bool) (t : Table) : List Statement :=
  if skips then []
  else t.indexes.map (Statement.createIndex t.name) ++
    t.foreignKeys.map fun k => .addForeignKey t.name (.of t.name k)

def creationStatements (d : Dialect) (skips : Bool) (t : Table) : List Statement :=
  .createTable (t.clause d) :: t.additions skips

theorem tableClause_eq (other : x.dialect ≠ .sqlite) {t : Table}
    (typed : ∀ y ∈ t.columns, y.type ≠ .unset) :
    x.tableClause t t.name = .ok (t.clause x.dialect) := by
  rw [Context.tableClause, ColumnClause.mapM_of?_eq_declared x.dialect typed,
    Context.inlineForeignKeys, if_pos other]
  rfl

end Table

namespace Comparison

variable {c : Comparison} {t : Table}

theorem creates_of_mem_creation {y : Change} (h : y ∈ c.creation t) : y.creates = true := by
  rcases List.mem_cons.mp h with rfl | h
  · rfl
  · split at h
    · cases h
    · rcases List.mem_append.mp h with h | h
      · obtain ⟨i, -, rfl⟩ := List.mem_map.mp h
        rfl
      · obtain ⟨k, -, rfl⟩ := List.mem_map.mp h
        rfl

theorem statements_of_creation (other : x.dialect ≠ .sqlite)
    (typed : ∀ y ∈ t.columns, y.type ≠ .unset) :
    (c.creation t).flatMap (fun y => (Emission.plain x y).statements) =
      t.creationStatements x.dialect c.skipsConstraints := by
  have created : (Emission.plain x ⟨t.name, .createTable t⟩).statements =
      [.createTable (t.clause x.dialect)] := by
    show (Emission.createTable x t t.name).statements = _
    rw [Emission.createTable, Table.tableClause_eq other typed]
    rfl
  rw [creation, List.flatMap_cons, created, Table.creationStatements, Table.additions]
  cases c.skipsConstraints with
  | true => rfl
  | false =>
    simp only [Bool.false_eq_true, if_false, List.flatMap_append, List.flatMap_map,
      Emission.plain, Emission.of, ← List.map_eq_flatMap, List.singleton_append]

/-- From an empty snapshot on, every table is created. -/
theorem changes_from_empty (target : Snapshot) (rules : Rules) (skips : Bool) :
    (Comparison.mk .empty target rules skips).changes =
      target.tables.entries.flatMap
        fun e => (Comparison.mk .empty target rules skips).creation e.2 := by
  rw [changes_eq]
  exact List.append_nil _

/-- A schema is created by the statements of its tables, in the order of their phases. -/
theorem body_from_empty (other : d ≠ .sqlite) {target : Snapshot} (named : target.TablesNamed)
    (typed : target.Typed) {rules : Rules} {difference : Difference}
    (h : (Comparison.mk .empty target rules skips).difference = .ok difference) :
    ∃ statements,
      (Emission.body ⟨d, .empty, target, difference.changes, skips⟩ .start).2 = .of statements ∧
        statements.Perm
          (target.tables.entries.flatMap fun e => e.2.creationStatements d skips) := by
  set c := Comparison.mk .empty target rules skips with hc
  set x : Context := ⟨d, .empty, target, difference.changes, skips⟩ with hx
  have nothing : Snapshot.empty.TablesNamed := by decide
  have informs : c.Informs x := informs_of_difference nothing named typed h d
  have discovered : difference.changes.Perm
      (target.tables.entries.flatMap fun e => c.creation e.2) := by
    rw [changes_of_difference h, ordered, ← changes_from_empty]
    exact List.mergeSort_perm _ _
  have creates : ∀ y ∈ x.changes, y.creates = true := by
    intro y hy
    obtain ⟨e, -, hmem⟩ := List.mem_flatMap.mp (discovered.mem_iff.mp hy)
    exact creates_of_mem_creation hmem
  have faultless : ∀ y ∈ x.changes, (Emission.plain x y).fault = none := by
    rintro ⟨table, action⟩ hy
    rw [Emission.fault_plain (informs.sound hy)]
    have created := creates _ hy
    cases action <;> first | rfl | cases created
  refine ⟨difference.changes.flatMap fun y => (Emission.plain x y).statements, ?_, ?_⟩
  · rw [Emission.body, Emission.emitAll_of_creates other creates faultless]
    simp [Emission.of, Emission.append_of_fault_none, Progress.start, hx]
  · refine (discovered.flatMap_right _).trans ?_
    rw [List.flatMap_assoc]
    refine List.Perm.of_eq (List.flatMap_congr fun e he => ?_)
    exact statements_of_creation other (typed e he)

end Comparison

end SchemaMigration
