import SchemaMigration.Proofs.Equivalence
import SchemaMigration.Proofs.Result
import SchemaMigration.Snapshot.Projection

/-!
Projections of valid schemas. A schema that its rules accept has a snapshot, and all that has a name
in it is found under that name.
-/

namespace SchemaMigration

/-- Names that are new one after the other are distinct. -/
theorem nodup_of_fresh {α : Type} {name : α → String} {a : α} {as : List α} {seen : List String}
    (hfresh : ¬ seen.contains (name a) = true)
    (h : (as.map name).Nodup ∧ ∀ b ∈ as, name b ∉ name a :: seen) :
    ((a :: as).map name).Nodup ∧ ∀ b ∈ a :: as, name b ∉ seen := by
  rw [List.contains_iff_mem] at hfresh
  obtain ⟨hnodup, hnew⟩ := h
  constructor
  · rw [List.map_cons, List.nodup_cons]
    refine ⟨fun hmem => ?_, hnodup⟩
    obtain ⟨b, hb, hname⟩ := List.mem_map.mp hmem
    exact hnew b hb (hname ▸ List.mem_cons_self)
  · intro b hb
    rcases List.mem_cons.mp hb with rfl | hb
    · exact hfresh
    · exact fun hmem => hnew b hb (List.mem_cons_of_mem _ hmem)

namespace Rules

variable {rules : Rules} {schema : Schema} {table : String} {t : TableDef} {seen : List String}

theorem of_checkTableNames {tables : List TableDef} (h : checkTableNames seen tables = .ok ()) :
    (tables.map TableDef.name).Nodup ∧ ∀ t ∈ tables, t.name ∉ seen := by
  induction tables generalizing seen with
  | nil => exact ⟨List.nodup_nil, List.forall_mem_nil _⟩
  | cons t rest ih =>
    rw [checkTableNames] at h
    split at h
    next => cases h
    next hfresh => exact nodup_of_fresh hfresh (ih h)

theorem ne_empty_of_checkName {name : String} {part : SchemaPart}
    (h : rules.checkName name part = .ok ()) : name ≠ "" := by
  rintro rfl
  cases h

theorem of_checkColumns_cons {c : ColumnDef} {rest : List ColumnDef}
    (h : rules.checkColumns table seen (c :: rest) = .ok ()) :
    rules.checkName c.name (.column table c.name) = .ok () ∧ ¬ seen.contains c.name = true ∧
      checkColumnType (.column table c.name) c = .ok () ∧
      rules.checkColumns table (c.name :: seen) rest = .ok () := by
  rw [checkColumns] at h
  obtain ⟨_, hname, h⟩ := bind_eq_ok_iff.mp h
  split at h
  next => cases h
  next hfresh =>
    obtain ⟨_, htype, hrest⟩ := bind_eq_ok_iff.mp h
    exact ⟨hname, hfresh, htype, hrest⟩

theorem of_checkColumns {columns : List ColumnDef}
    (h : rules.checkColumns table seen columns = .ok ()) :
    (columns.map ColumnDef.name).Nodup ∧ ∀ c ∈ columns, c.name ∉ seen := by
  induction columns generalizing seen with
  | nil => exact ⟨List.nodup_nil, List.forall_mem_nil _⟩
  | cons c rest ih =>
    obtain ⟨-, hfresh, -, hrest⟩ := of_checkColumns_cons h
    exact nodup_of_fresh hfresh (ih hrest)

theorem of_checkColumnType {part : SchemaPart} {c : ColumnDef}
    (h : checkColumnType part c = .ok ()) :
    ∃ type, typeOf c = .ok type ∧ (type.requiresLength = true → c.length ≠ none) ∧
      (type = .enumeration → hasEnumValues c = true) := by
  unfold checkColumnType at h
  split at h
  next => cases h
  next type hfound =>
    split at h
    next => cases h
    next hlength =>
      split at h
      next => cases h
      next hvalues =>
        refine ⟨type, hfound, fun hrequires hnone => hlength ⟨hrequires, hnone⟩, fun henum => ?_⟩
        exact Bool.of_not_eq_false fun hnone => hvalues ⟨henum, hnone⟩

theorem checkColumnType_of_checkColumns {columns : List ColumnDef}
    (h : rules.checkColumns table seen columns = .ok ()) :
    ∀ c ∈ columns, checkColumnType (.column table c.name) c = .ok () := by
  induction columns generalizing seen with
  | nil => exact List.forall_mem_nil _
  | cons c rest ih =>
    obtain ⟨-, -, htype, hrest⟩ := of_checkColumns_cons h
    exact List.forall_mem_cons.mpr ⟨htype, ih hrest⟩

theorem of_checkIndexes_cons {i : IndexDef} {rest : List IndexDef}
    (h : rules.checkIndexes t seen (i :: rest) = .ok ()) :
    rules.checkName i.name (.index i.name) = .ok () ∧ ¬ seen.contains i.name = true ∧
      i.columns ≠ [] ∧ checkColumnsExist t (.index i.name) i.columns = .ok () ∧
      rules.checkIndexes t (i.name :: seen) rest = .ok () := by
  rw [checkIndexes] at h
  obtain ⟨_, hname, h⟩ := bind_eq_ok_iff.mp h
  dsimp only at h
  split at h
  next => cases h
  next hfresh =>
    split at h
    next => cases h
    next hnonempty =>
      obtain ⟨_, hcolumns, hrest⟩ := bind_eq_ok_iff.mp h
      exact ⟨hname, hfresh, hnonempty, hcolumns, hrest⟩

theorem of_checkIndexes {indexes : List IndexDef}
    (h : rules.checkIndexes t seen indexes = .ok ()) :
    (indexes.map IndexDef.name).Nodup ∧ ∀ i ∈ indexes, i.name ∉ seen := by
  induction indexes generalizing seen with
  | nil => exact ⟨List.nodup_nil, List.forall_mem_nil _⟩
  | cons i rest ih =>
    obtain ⟨-, hfresh, -, -, hrest⟩ := of_checkIndexes_cons h
    exact nodup_of_fresh hfresh (ih hrest)

structure Checked (rules : Rules) (schema : Schema) (t : TableDef) : Prop where
  name : rules.checkName t.name (.table t.name) = .ok ()
  nonempty : t.columns ≠ []
  columns : rules.checkColumns t.name [] t.columns = .ok ()
  primaryKey : checkColumnsExist t .primaryKey t.primaryKey = .ok ()
  indexes : rules.checkIndexes t [] t.indexes = .ok ()
  foreignKeys : ∀ k ∈ t.foreignKeys, rules.checkForeignKey schema t k = .ok ()

theorem checked_of_checkTable (h : rules.checkTable schema t = .ok ()) :
    rules.Checked schema t := by
  unfold checkTable at h
  obtain ⟨_, name, h⟩ := bind_eq_ok_iff.mp h
  split at h
  next => cases h
  next nonempty =>
    obtain ⟨_, columns, h⟩ := bind_eq_ok_iff.mp h
    obtain ⟨_, primaryKey, h⟩ := bind_eq_ok_iff.mp h
    obtain ⟨_, indexes, h⟩ := bind_eq_ok_iff.mp h
    obtain ⟨_, foreignKeys, -⟩ := bind_eq_ok_iff.mp h
    exact ⟨name, nonempty, columns, primaryKey, indexes, of_forM_eq_ok foreignKeys⟩

theorem of_validate (h : rules.validate schema = .ok ()) :
    (schema.tables.map TableDef.name).Nodup ∧
      ∀ t ∈ schema.tables, rules.checkTable schema t = .ok () := by
  obtain ⟨_, hnames, htables⟩ := bind_eq_ok_iff.mp h
  exact ⟨(of_checkTableNames hnames).1, of_forM_eq_ok htables⟩

end Rules

namespace Projection

variable {p : Projection} {schema : Schema} {t : TableDef}

/-- A column that has what its type needs is projected without looking for more. -/
theorem column_eq {c : ColumnDef} {type : ColumnType} (htype : Rules.typeOf c = .ok type)
    (hlength : type.requiresLength = true → c.length ≠ none) :
    p.column t c = .ok {
      name := c.name
      type
      length := (type.keptLength c.length c.scale).1
      scale := (type.keptLength c.length c.scale).2
      nullable := c.nullable && !t.primaryKey.contains c.name
      default := c.default
      enumValues := c.enumValues.getD []
      collation := if p.rules.comparesCollations then c.collation else none } := by
  have complete : ¬ (type.requiresLength = true ∧
      (type.keptLength c.length c.scale).1 = none) := by
    rintro ⟨hrequires, hnone⟩
    rw [ColumnType.keptLength, if_pos hrequires] at hnone
    exact hlength hrequires hnone
  rw [column, htype]
  exact if_neg complete

theorem table_ok (h : p.rules.checkTable schema t = .ok ()) :
    ∃ table, p.table schema t = .ok table ∧ table.name = t.name ∧ table.Named := by
  have checked := Rules.checked_of_checkTable h
  have made : ∀ c ∈ t.columns, ∃ column, p.column t c = .ok column ∧
      column.name = c.name ∧ True := by
    intro c hc
    obtain ⟨type, htype, hlength, -⟩ :=
      Rules.of_checkColumnType (Rules.checkColumnType_of_checkColumns checked.columns c hc)
    exact ⟨_, column_eq htype hlength, rfl, trivial⟩
  obtain ⟨columns, hmade, hnames, -⟩ := mapM_eq_ok made
  have named : (columns.map Column.name).Nodup := by
    rw [hnames]
    exact (Rules.of_checkColumns checked.columns).1
  have indexed : ((t.indexes.map index).map Index.name).Nodup := by
    rw [List.map_map]
    exact (Rules.of_checkIndexes checked.indexes).1
  rw [table, hmade]
  exact ⟨_, rfl, rfl, named, indexed⟩

/-- A schema that the rules accept has a snapshot. -/
theorem snapshot_ok (h : p.rules.validate schema = .ok ()) :
    ∃ s, p.snapshot schema = .ok s ∧ s.Named := by
  obtain ⟨hnodup, htables⟩ := Rules.of_validate h
  obtain ⟨tables, hmade, hnames, hnamed⟩ : ∃ tables, schema.tables.mapM (p.table schema) =
      .ok tables ∧ tables.map Table.name = schema.tables.map TableDef.name ∧
        ∀ t ∈ tables, t.Named :=
    mapM_eq_ok fun t ht => table_ok (htables t ht)
  have distinct : ((tables.map fun t => (t.name, t)).map Prod.fst).Nodup := by
    rw [List.map_map]
    exact hnames ▸ hnodup
  have entries : (Snapshot.ofTables tables).tables.entries = tables.map fun t => (t.name, t) :=
    OrderedMap.entries_ofList distinct
  refine ⟨.ofTables tables, ?_, ?_, ?_⟩
  · rw [snapshot, h, hmade]
    rfl
  · rw [entries, List.forall_mem_map]
    exact fun t _ => rfl
  · rw [entries, List.forall_mem_map]
    exact hnamed

/-- A schema is refused for what the rules have against it. -/
theorem snapshot_eq_error_iff {error : SchemaError} :
    p.snapshot schema = .error error ↔ p.rules.validate schema = .error error := by
  cases hvalid : p.rules.validate schema with
  | error e =>
    rw [snapshot, hvalid]
    constructor <;> intro h <;> cases h <;> rfl
  | ok =>
    obtain ⟨s, hs, -⟩ := snapshot_ok hvalid
    rw [hs]
    exact ⟨nofun, nofun⟩

end Projection

end SchemaMigration
