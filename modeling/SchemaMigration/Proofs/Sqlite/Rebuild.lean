import SchemaMigration.Emission
import SchemaMigration.Proofs.Midway
import SchemaMigration.Proofs.Sqlite.Database

/-!
Rebuilding a table. A run that rebuilds tables finds out which ones before its first statement. The
statements that rebuild a table leave it with its new definition and with those of its indexes that
are not created later, and they leave everything else as it is.
-/

namespace SchemaMigration.Sqlite

open Emission.Sqlite (temporaryName needsRebuild)

/-! ### Tables are created as they are defined -/

theorem clauses_of_columns (columns : List Column) :
    ∃ clauses, columns.mapM (ColumnClause.of? .sqlite) = .ok clauses ∧
      clauses.map ColumnClause.column = columns := by
  induction columns with
  | nil => exact ⟨[], rfl, rfl⟩
  | cons x rest ih =>
    obtain ⟨clauses, hclauses, hcolumns⟩ := ih
    obtain ⟨clause, hclause, hcolumn⟩ : ∃ clause, ColumnClause.of? .sqlite x = .ok clause ∧
        clause.column = x := ⟨_, rfl, rfl⟩
    refine ⟨clause :: clauses, ?_, by simp [hcolumn, hcolumns]⟩
    rw [List.mapM_cons, hclause, hclauses]
    rfl

/-- What the statements of a run depend on, for changes that no policy restricts. -/
def context (c : Comparison) (changes : List Change) : Context :=
  ⟨.sqlite, c.current, c.target, changes, c.skipsConstraints⟩

variable {c : Comparison} {changes : List Change}

/-- A table is created with what its definition says, and with the foreign keys that it may have. -/
theorem createTable_clause (table : Table) (name : String) :
    ∃ clause : TableClause, clause.name = name ∧
      clause.columns.map ColumnClause.column = table.columns ∧
      clause.primaryKey = table.primaryKey ∧
      clause.foreignKeys.map ForeignKeyClause.key =
        (context c changes).inlineForeignKeys table ∧
      Emission.createTable (context c changes) table name = .of [.createTable clause] := by
  obtain ⟨clauses, hclauses, hcolumns⟩ := clauses_of_columns table.columns
  have hclause : (context c changes).tableClause table name = .ok
      { name
        columns := clauses
        primaryKey := table.primaryKey
        keyOwner := table.name
        foreignKeys :=
          ((context c changes).inlineForeignKeys table).map (ForeignKeyClause.of table.name)
        charset := table.charset
        collation := table.collation } := by
    rw [Context.tableClause]
    simp only [context, hclauses]
    rfl
  refine ⟨_, ?_, hcolumns, ?_, ?_, by rw [Emission.createTable, hclause]⟩
  · rfl
  · rfl
  · simp [Function.comp_def, ForeignKeyClause.of]

theorem createTable_spec (keeps : c.skipsConstraints = false) (table : Table) (name : String) :
    ∃ clause : TableClause, clause.name = name ∧
      StoredTable.ofClause clause = StoredTable.ofTable table ∧
      Emission.createTable (context c changes) table name = .of [.createTable clause] := by
  obtain ⟨clause, hname, hcolumns, hkey, hkeys, hcreate⟩ :=
    @createTable_clause c changes table name
  have hall : (context c changes).inlineForeignKeys table = table.foreignKeys := by
    simp [Context.inlineForeignKeys, context, keeps]
  refine ⟨clause, hname, ?_, hcreate⟩
  rw [StoredTable.ofClause, hcolumns, hkey, hkeys, hall]
  rfl

namespace Database

/-- A table is put into the place of another one. -/
theorem run?_replace {db : Database} {clause : TableClause} {name temporary : String}
    {old : StoredTable} {columns : List String} {copies : List Statement}
    (hname : clause.name = temporary)
    (hcopies : copies = [] ∨ copies = [.copyRows name temporary columns])
    (absent : db.table? temporary = none) (present : db.table? name = some old)
    (shared : ∀ n ∈ columns, n ∈ old.columnNames ∧ n ∈ (StoredTable.ofClause clause).columnNames)
    (unowned : ∀ e ∈ db.indexes, e.1 ≠ temporary) :
    ∃ after, db.run? (.createTable clause :: copies ++
        [.dropTable name, .renameTable temporary name]) = some after ∧
      after.indexes = db.indexes.filter (fun e => e.1 ≠ name) ∧
      ∀ n, after.table? n = if n = name then some (.ofClause clause) else db.table? n := by
  subst hname
  have hne : clause.name ≠ name := by
    rintro rfl
    rw [absent] at present
    cases present
  have create : db.exec? (.createTable clause) =
      some (db.putTable clause.name (.ofClause clause)) := by simp [exec?, absent]
  have copy : (db.putTable clause.name (.ofClause clause)).run? copies =
      some (db.putTable clause.name (.ofClause clause)) := by
    rcases hcopies with rfl | rfl
    · rfl
    · simp only [run?_singleton, exec?, table?_putTable, if_neg hne, present, if_true,
        Option.bind_eq_bind, Option.bind_some]
      exact if_pos shared
  have drop : (db.putTable clause.name (.ofClause clause)).exec? (.dropTable name) =
      some ((db.putTable clause.name (.ofClause clause)).removeTable name) :=
    exec?_dropTable (by rw [table?_putTable, if_neg hne, present])
  have found : ((db.putTable clause.name (.ofClause clause)).removeTable name).table? clause.name =
      some (.ofClause clause) := by simp [Ne.symm hne]
  have free : ((db.putTable clause.name (.ofClause clause)).removeTable name).table? name =
      none := by simp
  obtain ⟨after, rename, hindexes, htables⟩ :=
    exec?_renameTable found free fun e he => unowned e (List.mem_filter.mp he).1
  refine ⟨after, ?_, hindexes, fun n => ?_⟩
  · rw [List.cons_append, run?_cons, create, Option.bind_some, run?_append, copy,
      Option.bind_some, run?_cons, drop, Option.bind_some, run?_singleton]
    exact rename
  · rw [htables, table?_removeTable, table?_putTable]
    by_cases hn : name = n
    · simp [hn]
    · by_cases ht : clause.name = n
      · subst ht
        simp [hn, Ne.symm hn, absent]
      · simp [hn, Ne.symm hn, ht]

end Database

/-! ### The emission of a rebuild -/

def Pending (changes : List Change) (p : Progress) (name n : String) : Prop :=
  ∃ i, ⟨name, .addIndex i⟩ ∈ changes ∧ i.name = n ∧ (name, n) ∉ p.createdIndexes

/-- A rebuild leaves out the indexes that are still to be created. -/
theorem recreatedIndexes_spec (keeps : c.skipsConstraints = false) (p : Progress) (name : String)
    (old : Option Table) {new : Table} (owns : new.OwnsColumns)
    (known : ∀ x ∈ changes, x.action ≠ .incomplete .addIndex) :
    ∃ indexes, Emission.Sqlite.recreatedIndexes (context c changes) p name old new = .ok indexes ∧
      indexes.Sublist new.indexes ∧
      ∀ i, i ∈ indexes ↔ i ∈ new.indexes ∧ ¬ Pending changes p name i.name := by
  have hknown : Emission.Sqlite.hasUnknownIndex (context c changes) name = false := by
    simp only [Emission.Sqlite.hasUnknownIndex, context, List.any_eq_false, Bool.and_eq_true,
      beq_iff_eq, not_and]
    exact fun x hx _ => known x hx
  have hkeeps : (context c changes).skipsConstraints = false := keeps
  obtain ⟨names, heq, hnames⟩ : ∃ names : List String,
      Emission.Sqlite.recreatedIndexes (context c changes) p name old new = .ok
        ((new.indexes.filter fun i => !names.contains i.name).filter
          fun i => i.columns.all new.hasColumn) ∧
      ∀ n, n ∈ names ↔ Pending changes p name n := by
    unfold Emission.Sqlite.recreatedIndexes
    rw [if_neg (by simp [hkeeps]), if_neg (by simp [hknown])]
    refine ⟨_, rfl, fun n => ?_⟩
    rw [List.mem_filterMap]
    constructor
    · rintro ⟨⟨table, action⟩, hx, h⟩
      dsimp only at h
      split at h
      · next i =>
        split at h
        · next hcond =>
          obtain ⟨rfl, huncreated⟩ := hcond
          obtain rfl := Option.some.inj h
          exact ⟨i, hx, rfl, huncreated⟩
        · cases h
      · cases h
    · rintro ⟨i, hx, rfl, huncreated⟩
      exact ⟨_, hx, by simp [huncreated]⟩
  refine ⟨_, heq, List.filter_sublist.trans List.filter_sublist, fun i => ?_⟩
  simp only [List.mem_filter, List.all_eq_true, Table.hasColumn_iff, Bool.not_eq_true',
    List.contains_eq_mem, decide_eq_false_iff_not, hnames]
  exact ⟨And.left, fun h => ⟨h, owns.indexes i h.1⟩⟩

/-- A rebuild creates the new table under another name, copies what both tables have, puts the new
table into the place of the old one and creates the indexes again. -/
theorem rebuild_eq {p : Progress} {name : String} {old new : Table}
    (hold : c.current.table? name = some old) (hnew : c.target.table? name = some new)
    (first : name ∉ p.rebuilt) {clause : TableClause} {indexes : List Index}
    (create : Emission.createTable (context c changes) new (temporaryName name) =
      .of [.createTable clause])
    (recreate : Emission.Sqlite.recreatedIndexes (context c changes) p name (some old) new =
      .ok indexes) :
    Emission.Sqlite.rebuild (context c changes) p name =
      ({ p with rebuilt := name :: p.rebuilt },
        .of (.createTable clause ::
          (if new.columnNames.filter old.hasColumn = [] then [] else
            [.copyRows name (temporaryName name) (new.columnNames.filter old.hasColumn)]) ++
          [.dropTable name, .renameTable (temporaryName name) name] ++
          indexes.map (.createIndex name))) := by
  have htarget : (context c changes).target.table? name = some new := hnew
  have hcurrent : (context c changes).current.table? name = some old := hold
  rw [Emission.Sqlite.rebuild, if_neg (by simpa using first)]
  simp only [htarget, hcurrent, create, Emission.Sqlite.replaceTable,
    Emission.Sqlite.sharedColumns, recreate, Emission.of_append_of]
  simp

theorem copies_cases (source target : String) (shared : List String) :
    (if shared = [] then [] else [Statement.copyRows source target shared]) = [] ∨
      (if shared = [] then [] else [Statement.copyRows source target shared]) =
        [.copyRows source target shared] := by
  split
  · exact Or.inl rfl
  · exact Or.inr rfl

/-- The statements that rebuild a table, and what they do. -/
theorem rebuild_spec (keeps : c.skipsConstraints = false) {p : Progress} {name : String}
    {old new : Table} (hold : c.current.table? name = some old)
    (hnew : c.target.table? name = some new) (owns : new.OwnsColumns) (distinct : new.Distinct)
    (known : ∀ x ∈ changes, x.action ≠ .incomplete .addIndex) (first : name ∉ p.rebuilt)
    {db : Database} (present : db.table? name = some (.ofTable old))
    (absent : db.table? (temporaryName name) = none)
    (unowned : ∀ e ∈ db.indexes, e.1 ≠ temporaryName name)
    (free : ∀ i ∈ new.indexes, ¬ Pending changes p name i.name →
      ∀ e ∈ db.indexes, e.1 ≠ name → e.2.name ≠ i.name) :
    ∃ em after, Emission.Sqlite.rebuild (context c changes) p name =
        ({ p with rebuilt := name :: p.rebuilt }, em) ∧ em.fault = none ∧
      db.run? em.statements = some after ∧
      (∀ n, after.table? n = if n = name then some (.ofTable new) else db.table? n) ∧
      (∀ n i, (n, i) ∈ after.indexes ↔ if n = name then
        i ∈ new.indexes ∧ ¬ Pending changes p name i.name else (n, i) ∈ db.indexes) ∧
      (db.indexes.Nodup → after.indexes.Nodup) := by
  obtain ⟨clause, hname, hclause, hcreate⟩ :=
    @createTable_spec c changes keeps new (temporaryName name)
  obtain ⟨indexes, hindexes, hsub, hmem⟩ :=
    @recreatedIndexes_spec c changes keeps p name (some old) new owns known
  have hem := rebuild_eq hold hnew first hcreate hindexes
  obtain ⟨replaced, hreplaced, hrest, htables⟩ := Database.run?_replace hname
    (copies_cases name _ (new.columnNames.filter old.hasColumn)) absent present
    (fun n hn => by
      obtain ⟨hin, hhas⟩ := List.mem_filter.mp hn
      exact ⟨Table.hasColumn_iff.mp hhas, by rw [hclause]; exact hin⟩) unowned
  have hcreated : replaced.run? (indexes.map (.createIndex name)) =
      some { replaced with indexes := replaced.indexes ++ indexes.map fun i => (name, i) } := by
    refine Database.run?_createIndexes (by rw [htables, if_pos rfl])
      (distinct.indexes.sublist (hsub.map Index.name)) (fun i hi => ?_) fun i hi n hn => ?_
    · rw [Database.indexNames, hrest, List.mem_map]
      rintro ⟨e, he, heq⟩
      obtain ⟨he, hother⟩ := List.mem_filter.mp he
      obtain ⟨hnew, hpending⟩ := (hmem i).mp hi
      exact free i hnew hpending e he (by simpa using hother) heq
    · rw [hclause]
      exact owns.indexes i ((hmem i).mp hi).1 n hn
  refine ⟨_, { replaced with indexes := replaced.indexes ++ indexes.map fun i => (name, i) },
    hem, rfl, ?_, fun n => ?_, fun n i => ?_, fun hnodup => ?_⟩
  · rw [Emission.of, Database.run?_append, hreplaced, Option.bind_some, hcreated]
  · rw [← hclause]
    exact htables n
  · simp only [List.mem_append, hrest, List.mem_filter, List.mem_map, Prod.mk.injEq,
      decide_eq_true_eq]
    split
    · next heq =>
      subst heq
      rw [← hmem i]
      constructor
      · rintro (⟨-, hne⟩ | ⟨j, hj, -, rfl⟩)
        · exact absurd rfl hne
        · exact hj
      · exact fun hi => Or.inr ⟨i, hi, rfl, rfl⟩
    · next hne =>
      constructor
      · rintro (⟨hin, -⟩ | ⟨j, -, heq, -⟩)
        · exact hin
        · exact absurd heq.symm hne
      · exact fun hin => Or.inl ⟨hin, hne⟩
  · refine List.nodup_append.mpr ⟨?_, ?_, ?_⟩
    · rw [hrest]
      exact hnodup.filter _
    · exact (distinct.indexes.of_map.sublist hsub).map fun i j heq => (Prod.mk.inj heq).2
    · rintro e he f hf rfl
      rw [hrest] at he
      obtain ⟨j, -, rfl⟩ := List.mem_map.mp hf
      simp at he

/-! ### The tables that are rebuilt -/

structure Rebuilds (c : Comparison) (name : String) : Prop where
  old : ∃ old, c.current.table? name = some old
  new : ∃ new, c.target.table? name = some new
  cause : ∃ a, c.Discovers ⟨name, a⟩ ∧ needsRebuild c.current ⟨name, a⟩ = .ok true

theorem filterAuxM_spec {ε α : Type} {f : α → Except ε Bool} {items : List α}
    (h : ∀ a ∈ items, ∃ b, f a = .ok b) (acc : List α) :
    ∃ out, List.filterAuxM f items acc = .ok out ∧
      ∀ a, a ∈ out ↔ a ∈ acc ∨ a ∈ items ∧ f a = .ok true := by
  induction items generalizing acc with
  | nil => exact ⟨acc, rfl, by simp⟩
  | cons first rest ih =>
    obtain ⟨b, hb⟩ := h first List.mem_cons_self
    obtain ⟨out, hout, hmem⟩ := ih (fun a ha => h a (List.mem_cons_of_mem _ ha))
      (cond b (first :: acc) acc)
    refine ⟨out, ?_, fun a => ?_⟩
    · rw [List.filterAuxM, hb]
      exact hout
    · rw [hmem, List.mem_cons]
      cases b with
      | true =>
        simp only [cond_true, List.mem_cons]
        constructor
        · rintro ((rfl | hacc) | ⟨hrest, ha⟩)
          · exact Or.inr ⟨Or.inl rfl, hb⟩
          · exact Or.inl hacc
          · exact Or.inr ⟨Or.inr hrest, ha⟩
        · rintro (hacc | ⟨rfl | hrest, ha⟩)
          · exact Or.inl (Or.inr hacc)
          · exact Or.inl (Or.inl rfl)
          · exact Or.inr ⟨hrest, ha⟩
      | false =>
        simp only [cond_false]
        constructor
        · rintro (hacc | ⟨hrest, ha⟩)
          · exact Or.inl hacc
          · exact Or.inr ⟨Or.inr hrest, ha⟩
        · rintro (hacc | ⟨rfl | hrest, ha⟩)
          · exact Or.inl hacc
          · rw [hb] at ha
            cases ha
          · exact Or.inr ⟨hrest, ha⟩

theorem filterM_spec {ε α : Type} {f : α → Except ε Bool} {items : List α}
    (h : ∀ a ∈ items, ∃ b, f a = .ok b) :
    ∃ out, items.filterM f = .ok out ∧ ∀ a, a ∈ out ↔ a ∈ items ∧ f a = .ok true := by
  obtain ⟨out, hout, hmem⟩ := filterAuxM_spec h []
  refine ⟨out.reverse, ?_, fun a => by simp [hmem]⟩
  rw [List.filterM, hout]
  rfl

/-- Whether a change needs a rebuild is known for every discovered change. -/
theorem needsRebuild_ok {x : Change} (h : c.Discovers x) :
    ∃ b, needsRebuild c.current x = .ok b := by
  cases h with
  | creation => exact ⟨_, rfl⟩
  | removal => exact ⟨_, rfl⟩
  | @part name start goal a course needs =>
    cases needs with
    | @dropColumn y mem gone =>
      cases hold : c.current.table? name with
      | some old => exact ⟨_, by simp only [needsRebuild, hold]; rfl⟩
      | none =>
        cases hnew : c.target.table? name with
        | none => simp [Comparison.course?, hold, hnew] at course
        | some new =>
          simp only [Comparison.course?, hold, hnew, Option.some.injEq, Prod.mk.injEq] at course
          obtain ⟨rfl, rfl⟩ := course
          exact absurd (List.mem_map_of_mem mem) gone
    | _ => exact ⟨_, rfl⟩

theorem not_rebuilds_of_created (absent : c.current.table? name = none) : ¬ Rebuilds c name := by
  rintro ⟨⟨old, hold⟩, -, -⟩
  rw [absent] at hold
  cases hold

theorem not_rebuilds_of_dropped (absent : c.target.table? name = none) : ¬ Rebuilds c name := by
  rintro ⟨-, ⟨new, hnew⟩, -⟩
  rw [absent] at hnew
  cases hnew

/-- Whether a change to a part of a table is carried out by rebuilding the table, if the table is
rebuilt at all. -/
def causesRebuild : Action → Bool
  | .addIndex _ | .dropIndex _ | .createTable _ | .dropTable _ => false
  | _ => true

theorem causesRebuild_of_needsRebuild {name : String} {a : Action}
    (discovered : c.Discovers ⟨name, a⟩)
    (h : needsRebuild c.current ⟨name, a⟩ = .ok true) : causesRebuild a = true := by
  cases discovered with
  | creation => cases h
  | removal => cases h
  | part _ needs =>
    cases needs with
    | addIndex | dropIndex => cases h
    | _ => rfl

section Parts

variable {p : Progress} {name : String} {start goal : Table}

theorem emit_of_rebuilding {a : Action} (needs : c.Needs start goal a)
    (cause : causesRebuild a = true) (rebuilding : name ∈ p.rebuilding) :
    Emission.emit (context c changes) p ⟨name, a⟩ =
      Emission.Sqlite.rebuild (context c changes) p name := by
  have hcontains : p.rebuilding.contains name = true := by simpa using rebuilding
  cases needs with
  | addIndex | dropIndex => cases cause
  | alterColumnType | alterColumnNullDefault | alterTable => rfl
  | addColumn | dropColumn | addForeignKey | dropForeignKey =>
    simp only [Emission.emit, context, Emission.Sqlite.emit, hcontains, if_true]

/-- A change to the columns or options of a table that is not rebuilt needs no rebuild. -/
theorem needsRebuild_eq_false (hc : c.current.Distinct) (ht : c.target.Distinct) {a : Action}
    (course : c.course? name = some (start, goal)) (needs : c.Needs start goal a)
    (kept : ¬ Rebuilds c name) (index : a.index? = none) (key : a.foreignKey? = none) :
    (∃ old, c.current.table? name = some old) ∧
      needsRebuild c.current ⟨name, a⟩ = .ok false := by
  have stays : (∃ old, c.current.table? name = some old) ∧
      ∃ new, c.target.table? name = some new := by
    cases Comparison.course_cases course with
    | kept held wanted => exact ⟨⟨_, held⟩, ⟨_, wanted⟩⟩
    | created _ wanted =>
      obtain ⟨-, ⟨i, -, rfl⟩ | ⟨k, -, rfl⟩⟩ :=
        (Comparison.needs_bare_iff (ht.of_table? wanted)).mp needs
      · cases index
      · cases key
    | dropped held _ =>
      obtain ⟨-, k, -, rfl⟩ :=
        (Comparison.needs_detached_iff (hc.of_table? held)).mp needs
      cases key
  have discovered : c.Discovers ⟨name, a⟩ := .part course needs
  obtain ⟨b, hb⟩ := needsRebuild_ok discovered
  cases b with
  | true => exact absurd ⟨stays.1, stays.2, a, discovered, hb⟩ kept
  | false => exact ⟨stays.1, hb⟩

end Parts

theorem stays_iff {name : String} {a : Action} (h : c.Discovers ⟨name, a⟩) :
    (∀ b, c.Discovers ⟨name, b⟩ → b.isPart = true) ↔
      (∃ old, c.current.table? name = some old) ∧ ∃ new, c.target.table? name = some new := by
  constructor
  · intro parts
    cases hold : c.current.table? name with
    | none =>
      cases hnew : c.target.table? name with
      | none =>
        cases h with
        | creation _ present => simp [hnew] at present
        | removal present _ => simp [hold] at present
        | part course _ => simp [Comparison.course?, hold, hnew] at course
      | some new => cases parts _ (.creation hold hnew)
    | some old =>
      cases hnew : c.target.table? name with
      | none => cases parts _ (.removal hold hnew)
      | some new => exact ⟨⟨old, rfl⟩, ⟨new, rfl⟩⟩
  · rintro ⟨⟨old, hold⟩, ⟨new, hnew⟩⟩ b hb
    cases hb with
    | creation absent _ => simp [hold] at absent
    | removal _ absent => simp [hnew] at absent
    | part _ needs => exact needs.isPart

/-- A table is rebuilt if it is neither created nor dropped and one of its changes needs it. -/
theorem mem_tablesToRebuild {x : Context}
    (decided : ∀ y ∈ x.changes, ∃ b, needsRebuild x.current y = .ok b) :
    ∃ names, Emission.Sqlite.tablesToRebuild x = .ok names ∧
      ∀ name, name ∈ names ↔ ∃ y ∈ x.changes, y.table = name ∧
        (∀ z ∈ x.changes, z.table = name → z.kind ≠ .createTable ∧ z.kind ≠ .dropTable) ∧
        needsRebuild x.current y = .ok true := by
  let whole := x.changes.filter fun y => y.kind == .createTable || y.kind == .dropTable
  let kept := x.changes.filter fun y => !(whole.map Change.table).contains y.table
  have mem_kept (y : Change) : y ∈ kept ↔ y ∈ x.changes ∧
      ∀ z ∈ x.changes, z.table = y.table → z.kind ≠ .createTable ∧ z.kind ≠ .dropTable := by
    have mem_whole : y.table ∈ whole.map Change.table ↔ ∃ z ∈ x.changes, z.table = y.table ∧
        (z.kind = .createTable ∨ z.kind = .dropTable) := by
      simp only [whole, List.mem_map, List.mem_filter, Bool.or_eq_true, beq_iff_eq]
      exact ⟨fun ⟨z, ⟨hz, hkind⟩, same⟩ => ⟨z, hz, same, hkind⟩,
        fun ⟨z, hz, same, hkind⟩ => ⟨z, ⟨hz, hkind⟩, same⟩⟩
    simp only [kept, List.mem_filter, List.contains_eq_mem, Bool.not_eq_true',
      decide_eq_false_iff_not, mem_whole, not_exists, not_and, not_or]
  obtain ⟨needs, hneeds, hmem⟩ := filterM_spec (f := needsRebuild x.current) fun y hy =>
    decided y ((mem_kept y).mp hy).1
  have chosen : Emission.Sqlite.tablesToRebuild x =
      (kept.filterM (needsRebuild x.current)).map (·.map Change.table) := rfl
  refine ⟨needs.map Change.table, by rw [chosen, hneeds]; rfl, fun name => ?_⟩
  rw [List.mem_map]
  constructor
  · rintro ⟨y, hy, rfl⟩
    obtain ⟨hin, hcause⟩ := (hmem y).mp hy
    obtain ⟨hin, hparts⟩ := (mem_kept y).mp hin
    exact ⟨y, hin, rfl, hparts, hcause⟩
  · rintro ⟨y, hin, rfl, hparts, hcause⟩
    exact ⟨y, (hmem y).mpr ⟨(mem_kept y).mpr ⟨hin, hparts⟩, hcause⟩, rfl⟩

theorem tablesToRebuild_spec (discovered : ∀ x, x ∈ changes ↔ c.Discovers x) :
    ∃ names, Emission.Sqlite.tablesToRebuild (context c changes) = .ok names ∧
      ∀ name, name ∈ names ↔ Rebuilds c name := by
  obtain ⟨names, hnames, hmem⟩ := mem_tablesToRebuild (x := context c changes) fun y hy =>
    needsRebuild_ok ((discovered y).mp hy)
  have isPart_iff {y : Change} (hy : c.Discovers y) :
      y.action.isPart = true ↔ y.kind ≠ .createTable ∧ y.kind ≠ .dropTable := by
    cases hy with
    | creation => simp [Change.kind, Action.kind, Action.isPart]
    | removal => simp [Change.kind, Action.kind, Action.isPart]
    | part _ needs => cases needs <;> simp [Change.kind, Action.kind, Action.isPart]
  have parts_iff (name : String) :
      (∀ z ∈ changes, z.table = name → z.kind ≠ .createTable ∧ z.kind ≠ .dropTable) ↔
        ∀ b, c.Discovers ⟨name, b⟩ → b.isPart = true := by
    constructor
    · exact fun h b hb => (isPart_iff hb).mpr (h _ ((discovered _).mpr hb) rfl)
    · rintro h ⟨table, b⟩ hz rfl
      have hb := (discovered _).mp hz
      exact (isPart_iff hb).mp (h b hb)
  refine ⟨names, hnames, fun name => (hmem name).trans ?_⟩
  constructor
  · rintro ⟨⟨table, a⟩, hin, rfl, hparts, hcause⟩
    have hdiscovered := (discovered _).mp hin
    obtain ⟨hold, hnew⟩ := (stays_iff hdiscovered).mp ((parts_iff _).mp hparts)
    exact ⟨hold, hnew, a, hdiscovered, hcause⟩
  · rintro ⟨hold, hnew, a, hdiscovered, hcause⟩
    have hparts := (stays_iff hdiscovered).mpr ⟨hold, hnew⟩
    exact ⟨⟨name, a⟩, (discovered _).mpr hdiscovered, rfl, (parts_iff name).mpr hparts, hcause⟩

/-- Foreign keys are not enforced while tables are rebuilt. -/
theorem prolog_settings {names : List String}
    (h : Emission.Sqlite.tablesToRebuild (context c changes) = .ok names) (charset : String) :
    Emission.prolog (context c changes) charset = .ok ({ Progress.start with rebuilding := names },
      if names ≠ [] then [.foreignKeys false]
      else if changes.any fun x => x.kind == .addForeignKey || x.kind == .dropForeignKey then
        [.foreignKeys true]
      else []) := by
  have hdialect : (context c changes).dialect = .sqlite := rfl
  rw [Emission.prolog, hdialect]
  simp only [h]
  rfl

theorem prolog_eq {names : List String}
    (h : Emission.Sqlite.tablesToRebuild (context c changes) = .ok names) (charset : String) :
    ∃ settings, Emission.prolog (context c changes) charset =
        .ok ({ Progress.start with rebuilding := names }, settings) ∧
      if names = [] then ∀ s ∈ settings, s = .foreignKeys true
      else settings = [.foreignKeys false] := by
  refine ⟨_, prolog_settings h charset, ?_⟩
  by_cases hnames : names = []
  · simp only [hnames, ne_eq, not_true_eq_false, if_false, if_true]
    split
    · simp
    · simp
  · simp [hnames]

/-- The prolog of a run never fails, and finds the tables that are rebuilt. -/
theorem prolog_spec (discovered : ∀ x, x ∈ changes ↔ c.Discovers x) (charset : String) :
    ∃ p settings, Emission.prolog (context c changes) charset = .ok (p, settings) ∧
      p.rebuilt = [] ∧ p.createdIndexes = [] ∧ ∀ name, name ∈ p.rebuilding ↔ Rebuilds c name := by
  obtain ⟨names, hnames, hmem⟩ := tablesToRebuild_spec discovered
  obtain ⟨settings, hprolog, -⟩ := prolog_eq hnames charset
  exact ⟨_, settings, hprolog, rfl, rfl, hmem⟩

end SchemaMigration.Sqlite
