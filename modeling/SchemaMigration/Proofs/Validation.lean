import SchemaMigration.Proofs.Alteration
import SchemaMigration.Proofs.ColumnChanges
import SchemaMigration.Proofs.Settled
import SchemaMigration.Proofs.Spelling

/-!
What validation is good for. A schema has a projection exactly if the rules accept it, and nothing
that the later stages rely on is missing from the projection.
-/

namespace SchemaMigration

/-! ### What the later stages rely on -/

structure Column.Complete (c : Column) : Prop where
  typed : c.type ≠ .unset
  length : c.type.requiresLength = true → c.length ≠ none
  values : c.type = .enumeration → c.enumValues ≠ []

theorem Column.Complete.hasEnumValues_iff {c : Column} (h : c.Complete) :
    c.HasEnumValues = true ↔ c.type = .enumeration := by
  simp only [Column.HasEnumValues, Bool.and_eq_true, beq_iff_eq, Bool.not_eq_true',
    List.isEmpty_eq_false_iff]
  exact ⟨And.left, fun htype => ⟨htype, h.values htype⟩⟩

/-- A table has columns, and nothing is missing that its columns, keys and indexes need. -/
structure Table.Complete (t : Table) : Prop where
  nonempty : t.columns ≠ []
  titled : ∀ name ∈ t.columnNames, name ≠ ""
  named : t.Named
  owns : t.OwnsColumns
  covering : ∀ i ∈ t.indexes, i.columns ≠ []
  required : t.KeyRequired
  columns : ∀ c ∈ t.columns, c.Complete

structure Snapshot.Joins (s : Snapshot) (k : ForeignKey) : Prop where
  resolves : s.Resolves k
  paired : k.columns.length = k.referencedColumns.length

structure Snapshot.Projects (s : Snapshot) (schema : Schema) : Prop where
  keys : s.tables.keys = schema.tables.map TableDef.name
  named : ∀ entry ∈ s.tables.entries, entry.2.name = entry.1
  tables : ∀ entry ∈ s.tables.entries, entry.2.Complete
  joins : ∀ entry ∈ s.tables.entries, ∀ k ∈ entry.2.foreignKeys, s.Joins k

theorem Snapshot.Projects.columnsNamed {s : Snapshot} {schema : Schema} (h : s.Projects schema) :
    s.ColumnsNamed :=
  ⟨h.named, fun entry hentry => (h.tables entry hentry).named.columns⟩

/-! ### What has been checked -/

namespace Rules

variable {rules : Rules} {schema : Schema} {table : String} {t : TableDef} {seen : List String}

theorem mem_of_checkColumnsExist {part : SchemaPart} {columns : List String}
    (h : checkColumnsExist t part columns = .ok ()) : ∀ name ∈ columns, name ∈ t.columnNames := by
  induction columns with
  | nil => exact List.forall_mem_nil _
  | cons column rest ih =>
    rw [checkColumnsExist] at h
    split at h
    next hfound => exact List.forall_mem_cons.mpr ⟨List.contains_iff_mem.mp hfound, ih h⟩
    next => cases h

theorem titled_of_checkColumns {columns : List ColumnDef}
    (h : rules.checkColumns table seen columns = .ok ()) : ∀ c ∈ columns, c.name ≠ "" := by
  induction columns generalizing seen with
  | nil => exact List.forall_mem_nil _
  | cons c rest ih =>
    obtain ⟨hname, -, -, hrest⟩ := of_checkColumns_cons h
    exact List.forall_mem_cons.mpr ⟨ne_empty_of_checkName hname, ih hrest⟩

theorem columns_of_checkIndexes {indexes : List IndexDef}
    (h : rules.checkIndexes t seen indexes = .ok ()) :
    ∀ i ∈ indexes, i.columns ≠ [] ∧ ∀ name ∈ i.columns, name ∈ t.columnNames := by
  induction indexes generalizing seen with
  | nil => exact List.forall_mem_nil _
  | cons i rest ih =>
    obtain ⟨-, -, hnonempty, hexist, hrest⟩ := of_checkIndexes_cons h
    exact List.forall_mem_cons.mpr ⟨⟨hnonempty, mem_of_checkColumnsExist hexist⟩, ih hrest⟩

theorem of_checkForeignKey {k : ForeignKeyDef} (h : rules.checkForeignKey schema t k = .ok ()) :
    (∀ name ∈ k.columns, name ∈ t.columnNames) ∧
      ∃ referenced, schema.table? k.referencedTable = some referenced ∧
        k.columns.length = k.referencedColumns.length ∧
        ∀ name ∈ k.referencedColumns, name ∈ referenced.columnNames := by
  obtain ⟨_, hcolumns, h⟩ : ∃ a : Unit, checkColumnsExist t _ k.columns = .ok a ∧ _ := by
    unfold checkForeignKey at h
    dsimp only at h
    split at h
    · obtain ⟨_, -, h⟩ := bind_eq_ok_iff.mp h
      exact bind_eq_ok_iff.mp h
    · exact bind_eq_ok_iff.mp h
  refine ⟨mem_of_checkColumnsExist hcolumns, ?_⟩
  cases hfound : schema.table? k.referencedTable with
  | none =>
    rw [hfound] at h
    cases h
  | some referenced =>
    rw [hfound] at h
    dsimp only at h
    split at h
    next => cases h
    next hpaired =>
      exact ⟨referenced, rfl, not_not.mp hpaired, mem_of_checkColumnsExist h⟩

end Rules

theorem ColumnType.ne_unset_of_spelling {spelling : String} {type : ColumnType}
    (h : ofSpelling? spelling = some type) : type ≠ .unset := by
  have known : ∀ entry ∈ spellings, entry.2 ≠ .unset := by decide
  exact known _ (mem_spellings h)

/-! ### What is projected -/

namespace Projection

variable {p : Projection} {schema : Schema} {t : TableDef} {c : ColumnDef} {column : Column}
  {table : Table} {s : Snapshot}

theorem name_of_column (h : p.column t c = .ok column) : column.name = c.name := by
  unfold Projection.column at h
  obtain ⟨type, -, h⟩ := bind_eq_ok_iff.mp h
  dsimp only at h
  split at h
  · cases h
  · cases h
    rfl

theorem complete_of_column {part : SchemaPart} (hchecked : Rules.checkColumnType part c = .ok ())
    (h : p.column t c = .ok column) :
    (c.name ∈ t.primaryKey → column.nullable = false) ∧ column.Complete := by
  obtain ⟨type, htype, hlength, hvalues⟩ := Rules.of_checkColumnType hchecked
  cases (column_eq htype hlength).symm.trans h
  refine ⟨?_, ?_, ?_, ?_⟩
  · intro hkey
    simp [hkey]
  · dsimp only
    unfold Rules.typeOf at htype
    split at htype
    next hspelled =>
      cases htype
      exact ColumnType.ne_unset_of_spelling hspelled
    next => cases htype
  · intro hrequires
    dsimp only at hrequires ⊢
    rw [ColumnType.keptLength, if_pos hrequires]
    exact hlength hrequires
  · intro henum hnone
    have given := hvalues henum
    unfold Rules.hasEnumValues at given
    cases hgiven : c.enumValues with
    | none => simp [hgiven] at given
    | some values => cases values <;> simp_all

structure Makes (p : Projection) (t : TableDef) (table : Table) : Prop where
  name : table.name = t.name
  columns : t.columns.mapM (p.column t) = .ok table.columns
  primaryKey : table.primaryKey = t.primaryKey
  indexes : table.indexes = t.indexes.map index
  foreignKeys : table.foreignKeys = t.foreignKeys.map (foreignKey t)

theorem makes_of_table (h : p.table schema t = .ok table) : p.Makes t table := by
  obtain ⟨columns, hcolumns, h⟩ := bind_eq_ok_iff.mp h
  cases h
  exact ⟨rfl, hcolumns, rfl, rfl, rfl⟩

theorem Makes.columnNames (h : p.Makes t table) : table.columnNames = t.columnNames :=
  map_of_mapM_eq_ok (fun _ _ _ => name_of_column) h.columns

/-- A table that was checked is complete when it is made. -/
theorem Makes.complete (h : p.Makes t table) (hchecked : p.rules.Checked schema t) :
    table.Complete where
  nonempty := by
    intro hnone
    have names := h.columnNames
    rw [Table.columnNames, hnone, TableDef.columnNames] at names
    exact hchecked.nonempty (List.map_eq_nil_iff.mp names.symm)
  titled := by
    rw [h.columnNames]
    exact List.forall_mem_map.mpr (Rules.titled_of_checkColumns hchecked.columns)
  named := by
    constructor
    · rw [h.columnNames]
      exact (Rules.of_checkColumns hchecked.columns).1
    · rw [h.indexes, List.map_map]
      exact (Rules.of_checkIndexes hchecked.indexes).1
  owns := by
    constructor
    · rw [h.primaryKey, h.columnNames]
      exact Rules.mem_of_checkColumnsExist hchecked.primaryKey
    · rw [h.indexes, h.columnNames, List.forall_mem_map]
      exact fun i hi => (Rules.columns_of_checkIndexes hchecked.indexes i hi).2
    · rw [h.foreignKeys, h.columnNames, List.forall_mem_map]
      exact fun k hk => (Rules.of_checkForeignKey (hchecked.foreignKeys k hk)).1
  covering := by
    rw [h.indexes, List.forall_mem_map]
    exact fun i hi => (Rules.columns_of_checkIndexes hchecked.indexes i hi).1
  required := by
    intro name hname
    rw [h.primaryKey] at hname
    have known := Rules.mem_of_checkColumnsExist hchecked.primaryKey name hname
    obtain ⟨c, hc, rfl⟩ := List.mem_map.mp known
    obtain ⟨column, hcolumn, hmade⟩ := (of_mapM_eq_ok h.columns).2 c hc
    have typed := Rules.checkColumnType_of_checkColumns hchecked.columns c hc
    exact ⟨column, hcolumn, name_of_column hmade, (complete_of_column typed hmade).1 hname⟩
  columns := by
    intro column hcolumn
    obtain ⟨c, hc, hmade⟩ := (of_mapM_eq_ok h.columns).1 column hcolumn
    have typed := Rules.checkColumnType_of_checkColumns hchecked.columns c hc
    exact (complete_of_column typed hmade).2

/-- The tables of a snapshot are made of the definitions of a schema, which were checked. -/
theorem entries_of_snapshot (h : p.snapshot schema = .ok s) :
    ∃ tables, schema.tables.mapM (p.table schema) = .ok tables ∧
      s = .ofTables tables ∧ s.tables.entries = (tables.map fun t => (t.name, t)) ∧
      ∀ t ∈ schema.tables, p.rules.checkTable schema t = .ok () := by
  obtain ⟨_, hvalid, h⟩ := bind_eq_ok_iff.mp h
  obtain ⟨tables, hmade, h⟩ := bind_eq_ok_iff.mp h
  cases h
  obtain ⟨hnodup, hchecked⟩ := Rules.of_validate hvalid
  have names : tables.map Table.name = schema.tables.map TableDef.name :=
    map_of_mapM_eq_ok (fun _ _ _ h => (makes_of_table h).name) hmade
  refine ⟨tables, hmade, rfl, OrderedMap.entries_ofList ?_, hchecked⟩
  rw [List.map_map]
  exact names ▸ hnodup

/-- The part of a length and scale that matters for a type is all that its column has. -/
theorem kept_of_column (h : p.column t c = .ok column) :
    column.type.keptLength column.length column.scale = (column.length, column.scale) := by
  unfold Projection.column at h
  obtain ⟨type, -, h⟩ := bind_eq_ok_iff.mp h
  dsimp only at h
  split at h
  · cases h
  · cases h
    unfold ColumnType.keptLength
    dsimp only
    split
    · rfl
    · split
      · cases c.length <;> rfl
      · rfl

theorem kept_of_snapshot (h : p.snapshot schema = .ok s) :
    ∀ entry ∈ s.tables.entries, ∀ y ∈ entry.2.columns,
      y.type.keptLength y.length y.scale = (y.length, y.scale) := by
  obtain ⟨tables, hmade, -, entries, -⟩ := entries_of_snapshot h
  rw [entries, List.forall_mem_map]
  intro table htable y hy
  obtain ⟨t, -, hfrom⟩ := (of_mapM_eq_ok hmade).1 table htable
  obtain ⟨c, -, hcolumn⟩ := (of_mapM_eq_ok (makes_of_table hfrom).columns).1 y hy
  exact kept_of_column hcolumn

theorem clauses_of_column (h : p.column t c = .ok column) :
    column.default = c.default ∧
      column.collation = if p.rules.comparesCollations then c.collation else none := by
  unfold Projection.column at h
  obtain ⟨type, -, h⟩ := bind_eq_ok_iff.mp h
  dsimp only at h
  split at h
  · cases h
  · cases h
    exact ⟨rfl, rfl⟩

/-- A table of a projection is made of a definition. -/
theorem made_of_snapshot (h : p.snapshot schema = .ok s) {name : String}
    (held : s.table? name = some table) :
    ∃ t ∈ schema.tables, p.Makes t table := by
  obtain ⟨tables, hmade, -, entries, -⟩ := entries_of_snapshot h
  have entry := Snapshot.table?_eq_some_iff.mp held
  rw [entries] at entry
  obtain ⟨made, hmem, heq⟩ := List.mem_map.mp entry
  obtain ⟨t, ht, hfrom⟩ := (of_mapM_eq_ok hmade).1 made hmem
  cases heq
  exact ⟨t, ht, makes_of_table hfrom⟩

/-- A snapshot that is made of a schema has all that the later stages rely on. -/
theorem projects_of_snapshot (h : p.snapshot schema = .ok s) : s.Projects schema := by
  obtain ⟨tables, hmade, rfl, entries, hchecked⟩ := entries_of_snapshot h
  obtain ⟨origins, results⟩ := of_mapM_eq_ok hmade
  have names : tables.map Table.name = schema.tables.map TableDef.name :=
    map_of_mapM_eq_ok (fun _ _ _ h => (makes_of_table h).name) hmade
  -- a definition that is found under its name has become the table under this name
  have found : ∀ name t, schema.table? name = some t → ∃ table,
      (Snapshot.ofTables tables).table? name = some table ∧ table.columnNames = t.columnNames := by
    intro name t ht
    obtain ⟨table, htable, hfrom⟩ := results t (List.mem_of_find?_eq_some ht)
    have made := makes_of_table hfrom
    have hname : t.name = name := by simpa using List.find?_some ht
    refine ⟨table, Snapshot.table?_eq_some_iff.mpr ?_, made.columnNames⟩
    rw [entries]
    exact List.mem_map.mpr ⟨table, htable, by rw [made.name, hname]⟩
  constructor
  · rw [OrderedMap.keys, entries, List.map_map]
    exact names
  · rw [entries, List.forall_mem_map]
    exact fun table _ => rfl
  · rw [entries, List.forall_mem_map]
    intro table htable
    obtain ⟨t, ht, hfrom⟩ := origins table htable
    exact (makes_of_table hfrom).complete (Rules.checked_of_checkTable (hchecked t ht))
  · rw [entries, List.forall_mem_map]
    intro table htable
    obtain ⟨t, ht, hfrom⟩ := origins table htable
    have checked := Rules.checked_of_checkTable (hchecked t ht)
    rw [(makes_of_table hfrom).foreignKeys, List.forall_mem_map]
    intro k hk
    obtain ⟨-, referenced, hreferenced, hpaired, hexist⟩ :=
      Rules.of_checkForeignKey (checked.foreignKeys k hk)
    obtain ⟨target, htarget, hnames⟩ := found _ _ hreferenced
    refine ⟨Snapshot.resolves_iff.mpr ⟨target, htarget, ?_⟩, hpaired⟩
    rw [hnames]
    exact hexist

/-- Validation is what projection needs: a schema that the rules accept has a complete snapshot, and
any other is refused for what the rules have against it. -/
theorem snapshot_of_valid_is_complete (p : Projection) (schema : Schema) :
    ((∃ s, p.snapshot schema = .ok s) ↔ p.rules.validate schema = .ok ()) ∧
      (∀ error, p.snapshot schema = .error error ↔ p.rules.validate schema = .error error) ∧
      ∀ s, p.snapshot schema = .ok s → s.Projects schema := by
  refine ⟨⟨?_, ?_⟩, fun error => snapshot_eq_error_iff, fun s => projects_of_snapshot⟩
  · rintro ⟨s, h⟩
    obtain ⟨⟨⟩, hvalid, -⟩ := bind_eq_ok_iff.mp h
    exact hvalid
  · intro hvalid
    obtain ⟨s, hs, -⟩ := snapshot_ok hvalid
    exact ⟨s, hs⟩

end Projection

theorem Shop.catalogue_is_complete :
    ∃ s, (Dialect.projection .mysql).snapshot catalogue = .ok s ∧ s.Projects catalogue := by
  obtain ⟨accepts, -, complete⟩ :=
    Projection.snapshot_of_valid_is_complete (Dialect.projection .mysql) catalogue
  obtain ⟨s, hs⟩ := accepts.mpr rfl
  exact ⟨s, hs, complete s hs⟩

end SchemaMigration
