import SchemaMigration.Difference
import SchemaMigration.Proofs.Discovery

/-!
Replaying changes on a snapshot. A change can be replayed only if it finds what it needs: what it
creates must be absent, and what it alters or drops must be there. Between two changes of a
difference, every table that is there consists of what its changes so far have left or brought.
-/

namespace SchemaMigration

namespace Column

def retyped (x y : Column) : Column :=
  { x with
    type := y.type
    length := y.length
    scale := y.scale
    enumValues := y.enumValues
    collation := y.collation }

def redefaulted (x y : Column) : Column := { x with nullable := y.nullable, default := y.default }

@[simp] theorem name_retyped (x y : Column) : (x.retyped y).name = x.name := rfl

@[simp] theorem name_redefaulted (x y : Column) : (x.redefaulted y).name = x.name := rfl

end Column

namespace Table

def updateColumn (t : Table) (name : String) (f : Column → Column) : Table :=
  { t with columns := t.columns.map fun x => if x.name = name then f x else x }

theorem columnNames_updateColumn (t : Table) (name : String) {f : Column → Column}
    (h : ∀ x, (f x).name = x.name) : (t.updateColumn name f).columnNames = t.columnNames := by
  simp only [columnNames, updateColumn, List.map_map]
  refine List.map_congr_left fun x _ => ?_
  simp only [Function.comp_apply]
  split
  · exact h x
  · rfl

end Table

/-- The table after a change to one of its parts, if the change can be made. Indexes are dropped by
their names and foreign keys by what they do. -/
def Action.alter? (t : Table) : Action → Option Table
  | addColumn x => if t.hasColumn x.name then none else some { t with columns := t.columns ++ [x] }
  | dropColumn x =>
    if t.hasColumn x.name then
      some { t with columns := t.columns.filter fun y => y.name ≠ x.name }
    else none
  | alterColumnType _ x =>
    if t.hasColumn x.name then some (t.updateColumn x.name (·.retyped x)) else none
  | alterColumnNullDefault _ x =>
    if t.hasColumn x.name then some (t.updateColumn x.name (·.redefaulted x)) else none
  | alterTable _ new =>
    some { t with
      primaryKey := new.primaryKey
      charset := new.charset
      collation := new.collation }
  | addIndex i =>
    if (t.index? i.name).isSome then none else some { t with indexes := t.indexes ++ [i] }
  | dropIndex i =>
    if (t.index? i.name).isSome then
      some { t with indexes := t.indexes.filter fun j => j.name ≠ i.name }
    else none
  | addForeignKey k =>
    if k.signature ∈ t.signatures then none
    else some { t with foreignKeys := t.foreignKeys ++ [k] }
  | dropForeignKey k =>
    if k.signature ∈ t.signatures then
      some { t with foreignKeys := t.foreignKeys.filter fun l => l.signature ≠ k.signature }
    else none
  | createTable _ | dropTable _ | incomplete _ => none

namespace Action

variable {t changed : Table}

theorem alter?_addColumn {x : Column} (h : (addColumn x).alter? t = some changed) :
    x.name ∉ t.columnNames ∧ changed = { t with columns := t.columns ++ [x] } := by
  dsimp only [alter?] at h
  split at h
  · cases h
  · next absent => exact ⟨by rwa [Table.hasColumn_iff] at absent, (Option.some.inj h).symm⟩

theorem alter?_dropColumn {x : Column} (h : (dropColumn x).alter? t = some changed) :
    x.name ∈ t.columnNames ∧
      changed = { t with columns := t.columns.filter fun y => y.name ≠ x.name } := by
  dsimp only [alter?] at h
  split at h
  · next present => exact ⟨Table.hasColumn_iff.mp present, (Option.some.inj h).symm⟩
  · cases h

theorem alter?_addIndex {i : Index} (h : (addIndex i).alter? t = some changed) :
    i.name ∉ t.indexes.map Index.name ∧ changed = { t with indexes := t.indexes ++ [i] } := by
  dsimp only [alter?] at h
  split at h
  · cases h
  · next absent => exact ⟨by rwa [Table.index?_isSome_iff] at absent, (Option.some.inj h).symm⟩

theorem alter?_dropIndex {i : Index} (h : (dropIndex i).alter? t = some changed) :
    i.name ∈ t.indexes.map Index.name ∧
      changed = { t with indexes := t.indexes.filter fun j => j.name ≠ i.name } := by
  dsimp only [alter?] at h
  split at h
  · next present => exact ⟨Table.index?_isSome_iff.mp present, (Option.some.inj h).symm⟩
  · cases h

/-- Only two kinds of actions touch indexes. -/
theorem indexes_alter? {a : Action} (h : a.alter? t = some changed) (add : ∀ i, a ≠ addIndex i)
    (drop : ∀ i, a ≠ dropIndex i) : changed.indexes = t.indexes := by
  cases a with
  | addIndex i => exact absurd rfl (add i)
  | dropIndex i => exact absurd rfl (drop i)
  | createTable | dropTable | incomplete => cases h
  | alterTable =>
    obtain rfl := Option.some.inj h
    rfl
  | _ =>
    dsimp only [alter?] at h
    split at h <;> first | (cases h; rfl) | cases h

end Action

def Action.isPart : Action → Bool
  | createTable _ | dropTable _ => false
  | _ => true

namespace Snapshot

def put (s : Snapshot) (name : String) (t : Table) : Snapshot := ⟨s.tables.insert name t⟩

def remove (s : Snapshot) (name : String) : Snapshot := ⟨s.tables.erase name⟩

@[simp] theorem table?_put (s : Snapshot) (name other : String) (t : Table) :
    (s.put name t).table? other = if name = other then some t else s.table? other :=
  OrderedMap.find?_insert _ _ _ _

@[simp] theorem table?_remove (s : Snapshot) (name other : String) :
    (s.remove name).table? other = if name = other then none else s.table? other :=
  OrderedMap.find?_erase _ _ _

/-- The snapshot after a change, if the change can be made. A table is created without its indexes
and foreign keys, and it is dropped with them. -/
def after? (s : Snapshot) (x : Change) : Option Snapshot :=
  match x.action with
  | .createTable t => if (s.table? x.table).isSome then none else some (s.put x.table t.bare)
  | .dropTable _ => if (s.table? x.table).isSome then some (s.remove x.table) else none
  | action => do
    let t ← s.table? x.table
    let changed ← action.alter? t
    return s.put x.table changed

/-- The snapshot after changes in their order, if each of them can be made when its turn comes. -/
def replay? (s : Snapshot) (changes : List Change) : Option Snapshot := changes.foldlM after? s

@[simp] theorem replay?_nil (s : Snapshot) : s.replay? [] = some s := rfl

theorem replay?_concat (s : Snapshot) (changes : List Change) (x : Change) :
    s.replay? (changes ++ [x]) = (s.replay? changes).bind (·.after? x) := by
  simp [replay?, List.foldlM_append]

theorem after?_of_alter? {s : Snapshot} {x : Change} {t changed : Table}
    (ht : s.table? x.table = some t) (h : x.action.alter? t = some changed) :
    s.after? x = some (s.put x.table changed) := by
  obtain ⟨name, action⟩ := x
  cases action with
  | createTable | dropTable | incomplete => cases h
  | _ => simp only [after?, ht, h, Option.bind_eq_bind, Option.bind_some]; rfl

theorem after?_createTable {s after : Snapshot} {name : String} {t : Table}
    (h : s.after? ⟨name, .createTable t⟩ = some after) :
    s.table? name = none ∧ after = s.put name t.bare := by
  dsimp only [after?] at h
  split at h
  · cases h
  · next absent => exact ⟨by simpa using absent, (Option.some.inj h).symm⟩

theorem after?_dropTable {s after : Snapshot} {name : String} {t : Table}
    (h : s.after? ⟨name, .dropTable t⟩ = some after) :
    (∃ old, s.table? name = some old) ∧ after = s.remove name := by
  dsimp only [after?] at h
  split at h
  · next present => exact ⟨Option.isSome_iff_exists.mp present, (Option.some.inj h).symm⟩
  · cases h

theorem after?_part {s after : Snapshot} {name : String} {a : Action} (part : a.isPart = true)
    (h : s.after? ⟨name, a⟩ = some after) :
    ∃ t changed, s.table? name = some t ∧ a.alter? t = some changed ∧
      after = s.put name changed := by
  have heq : s.after? ⟨name, a⟩ = (s.table? name).bind fun t =>
      (a.alter? t).bind fun changed => some (s.put name changed) := by
    cases a with
    | createTable | dropTable => cases part
    | _ => rfl
  rw [heq, Option.bind_eq_some_iff] at h
  obtain ⟨t, ht, h⟩ := h
  obtain ⟨changed, hchanged, h⟩ := Option.bind_eq_some_iff.mp h
  exact ⟨t, changed, ht, hchanged, (Option.some.inj h).symm⟩

end Snapshot

/-! ### A table between two changes -/

def Column.during (done : List Change) (goal : Table) (x : Column) : Column :=
  match goal.column? x.name with
  | none => x
  | some y =>
    let typed := if ⟨goal.name, .alterColumnType (some x) y⟩ ∈ done then x.retyped y else x
    if ⟨goal.name, .alterColumnNullDefault (some x) y⟩ ∈ done then typed.redefaulted y else typed

@[simp] theorem Column.name_during (done : List Change) (goal : Table) (x : Column) :
    (x.during done goal).name = x.name := by
  unfold during
  split
  · rfl
  · dsimp only
    split <;> split <;> rfl

structure Table.At (done : List Change) (start goal t : Table) : Prop where
  name : t.name = goal.name
  distinct : t.Distinct
  columns : ∀ x, x ∈ t.columns ↔ x ∈ goal.columns ∧ ⟨goal.name, .addColumn x⟩ ∈ done ∨
    ∃ y ∈ start.columns, ⟨goal.name, .dropColumn y⟩ ∉ done ∧ x = y.during done goal
  indexes : ∀ i, i ∈ t.indexes ↔ i ∈ goal.indexes ∧ ⟨goal.name, .addIndex i⟩ ∈ done ∨
    i ∈ start.indexes ∧ ⟨goal.name, .dropIndex i⟩ ∉ done
  foreignKeys : ∀ k, k ∈ t.foreignKeys ↔
    k ∈ goal.foreignKeys ∧ ⟨goal.name, .addForeignKey k⟩ ∈ done ∨
      k ∈ start.foreignKeys ∧ ⟨goal.name, .dropForeignKey k⟩ ∉ done
  primaryKey : t.primaryKey =
    if ⟨goal.name, .alterTable start goal⟩ ∈ done then goal.primaryKey else start.primaryKey
  charset : t.charset =
    if ⟨goal.name, .alterTable start goal⟩ ∈ done then goal.charset else start.charset
  collation : t.collation =
    if ⟨goal.name, .alterTable start goal⟩ ∈ done then goal.collation else start.collation

variable {done : List Change} {start goal t : Table}

theorem Column.during_congr {done' : List Change} {x : Column}
    (h : ∀ y, (⟨goal.name, .alterColumnType (some x) y⟩ ∈ done' ↔
        ⟨goal.name, .alterColumnType (some x) y⟩ ∈ done) ∧
      (⟨goal.name, .alterColumnNullDefault (some x) y⟩ ∈ done' ↔
        ⟨goal.name, .alterColumnNullDefault (some x) y⟩ ∈ done)) :
    x.during done' goal = x.during done goal := by
  simp only [during, (h _).1, (h _).2]

theorem Column.during_concat {x : Column} {a : Action}
    (htype : ∀ y, a ≠ .alterColumnType (some x) y)
    (hdefault : ∀ y, a ≠ .alterColumnNullDefault (some x) y) :
    x.during (done ++ [⟨goal.name, a⟩]) goal = x.during done goal := by
  refine during_congr fun y => ⟨?_, ?_⟩
  · simp [(htype y).symm]
  · simp [(hdefault y).symm]

theorem Column.during_retyped {x y : Column} (h : goal.column? x.name = some y) :
    x.during (done ++ [⟨goal.name, .alterColumnType (some x) y⟩]) goal =
      (x.during done goal).retyped y := by
  simp only [during, h, List.mem_append, List.mem_singleton, Change.mk.injEq, reduceCtorEq,
    and_false, or_true, or_false, if_true]
  split <;> split <;> rfl

theorem Column.during_redefaulted {x y : Column} (h : goal.column? x.name = some y) :
    x.during (done ++ [⟨goal.name, .alterColumnNullDefault (some x) y⟩]) goal =
      (x.during done goal).redefaulted y := by
  simp only [during, h, List.mem_append, List.mem_singleton, Change.mk.injEq, reduceCtorEq,
    and_false, or_true, or_false, if_true]
  split <;> split <;> rfl

namespace Table.At

/-- Before the first change to one of its parts, a table is the one it started as. -/
theorem unchanged (hs : start.Distinct) (hname : start.name = goal.name)
    (h : ∀ a, ⟨goal.name, a⟩ ∈ done → ∃ d, a = .createTable d) : At done start goal start := by
  have absent : ∀ a : Action, (∀ d, a ≠ .createTable d) → ⟨goal.name, a⟩ ∉ done := by
    intro a ha hmem
    obtain ⟨d, rfl⟩ := h a hmem
    exact ha d rfl
  have during : ∀ x : Column, x.during done goal = x := by
    intro x
    unfold Column.during
    split
    · rfl
    · simp [absent]
  constructor <;> simp [absent, during, hname, hs]

/-- What is done to other tables does not matter. -/
theorem frame {done' : List Change} (h : At done start goal t)
    (same : ∀ a, ⟨goal.name, a⟩ ∈ done' ↔ ⟨goal.name, a⟩ ∈ done) : At done' start goal t := by
  have during : ∀ x : Column, x.during done' goal = x.during done goal :=
    fun x => Column.during_congr fun y => ⟨same _, same _⟩
  exact
    { name := h.name
      distinct := h.distinct
      columns := by simpa only [same, during] using h.columns
      indexes := by simpa only [same] using h.indexes
      foreignKeys := by simpa only [same] using h.foreignKeys
      primaryKey := by simpa only [same] using h.primaryKey
      charset := by simpa only [same] using h.charset
      collation := by simpa only [same] using h.collation }

theorem mem_columnNames (h : At done start goal t) {name : String} :
    name ∈ t.columnNames ↔
      (∃ x ∈ goal.columns, ⟨goal.name, .addColumn x⟩ ∈ done ∧ x.name = name) ∨
        ∃ y ∈ start.columns, ⟨goal.name, .dropColumn y⟩ ∉ done ∧ y.name = name := by
  rw [columnNames, List.mem_map]
  constructor
  · rintro ⟨x, hx, rfl⟩
    rcases (h.columns x).mp hx with ⟨hg, hadd⟩ | ⟨y, hy, hdrop, rfl⟩
    · exact Or.inl ⟨x, hg, hadd, rfl⟩
    · exact Or.inr ⟨y, hy, hdrop, (y.name_during done goal).symm⟩
  · rintro (⟨x, hg, hadd, rfl⟩ | ⟨y, hy, hdrop, rfl⟩)
    · exact ⟨x, (h.columns x).mpr (Or.inl ⟨hg, hadd⟩), rfl⟩
    · exact ⟨y.during done goal, (h.columns _).mpr (Or.inr ⟨y, hy, hdrop, rfl⟩),
        y.name_during done goal⟩

theorem addColumn (h : At done start goal t) {x : Column} (hx : x ∈ goal.columns)
    (hfresh : x.name ∉ t.columnNames) :
    At (done ++ [⟨goal.name, .addColumn x⟩]) start goal { t with columns := t.columns ++ [x] } where
  name := h.name
  distinct :=
    { h.distinct with
      columns := by
        simpa [columnNames, List.nodup_append, hfresh] using
          ⟨h.distinct.columns, fun y hy heq => hfresh (heq ▸ List.mem_map_of_mem hy)⟩ }
  columns z := by
    rw [List.mem_append, h.columns z]
    simp only [List.mem_append, List.mem_singleton, Change.mk.injEq, Action.addColumn.injEq,
      reduceCtorEq, true_and, or_false, and_false]
    rw [and_or_left, or_right_comm]
    have : z = x ↔ z ∈ goal.columns ∧ z = x := ⟨fun e => ⟨e ▸ hx, e⟩, And.right⟩
    rw [← this]
    simp [Column.during_concat]
  indexes i := by simpa using h.indexes i
  foreignKeys k := by simpa using h.foreignKeys k
  primaryKey := by simpa using h.primaryKey
  charset := by simpa using h.charset
  collation := by simpa using h.collation

theorem dropColumn (h : At done start goal t) (hs : start.Distinct) {x : Column}
    (hx : x ∈ start.columns) (hgone : x.name ∉ goal.columnNames) :
    At (done ++ [⟨goal.name, .dropColumn x⟩]) start goal
      { t with columns := t.columns.filter fun y => y.name ≠ x.name } where
  name := h.name
  distinct :=
    { h.distinct with columns := h.distinct.columns.sublist (List.filter_sublist.map Column.name) }
  columns z := by
    simp only [List.mem_filter, h.columns z, List.mem_append, List.mem_singleton, Change.mk.injEq,
      Action.dropColumn.injEq, reduceCtorEq, true_and, or_false, and_false, decide_eq_true_eq]
    constructor
    · rintro ⟨⟨hz, hadd⟩ | ⟨y, hy, hdrop, rfl⟩, hne⟩
      · exact Or.inl ⟨hz, hadd⟩
      · refine Or.inr ⟨y, hy, ?_, by simp [Column.during_concat]⟩
        rintro (hdropped | rfl)
        · exact hdrop hdropped
        · exact hne (y.name_during done goal)
    · rintro (⟨hz, hadd⟩ | ⟨y, hy, hdrop, rfl⟩)
      · exact ⟨Or.inl ⟨hz, hadd⟩, fun heq => hgone (heq ▸ List.mem_map_of_mem hz)⟩
      · rw [not_or] at hdrop
        refine ⟨Or.inr ⟨y, hy, hdrop.1, by simp [Column.during_concat]⟩, fun heq => ?_⟩
        rw [Column.name_during] at heq
        exact hdrop.2 (hs.column_eq hy hx heq)
  indexes i := by simpa using h.indexes i
  foreignKeys k := by simpa using h.foreignKeys k
  primaryKey := by simpa using h.primaryKey
  charset := by simpa using h.charset
  collation := by simpa using h.collation

/-- A column that was there from the start can be changed in place. -/
theorem mem_updateColumn (h : At done start goal t) (hs : start.Distinct) (hg : goal.Distinct)
    {x y : Column} (hx : x ∈ start.columns) (hy : y ∈ goal.columns) (hname : x.name = y.name)
    (hadded : ⟨goal.name, .addColumn y⟩ ∉ done) (f : Column → Column) (z : Column) :
    z ∈ (t.updateColumn y.name f).columns ↔
      z ∈ goal.columns ∧ ⟨goal.name, .addColumn z⟩ ∈ done ∨
        ∃ w ∈ start.columns, ⟨goal.name, .dropColumn w⟩ ∉ done ∧
          z = if w = x then f (w.during done goal) else w.during done goal := by
  have hnew : ∀ v ∈ goal.columns, ⟨goal.name, .addColumn v⟩ ∈ done → v.name ≠ y.name := by
    intro v hv hadd heq
    exact hadded (hg.column_eq hv hy heq ▸ hadd)
  have hold : ∀ w ∈ start.columns, (w.name = y.name ↔ w = x) := by
    intro w hw
    exact ⟨fun heq => hs.column_eq hw hx (heq.trans hname.symm), fun heq => heq ▸ hname⟩
  simp only [updateColumn, List.mem_map]
  constructor
  · rintro ⟨v, hv, rfl⟩
    rcases (h.columns v).mp hv with ⟨hvg, hadd⟩ | ⟨w, hw, hdrop, rfl⟩
    · rw [if_neg (hnew v hvg hadd)]
      exact Or.inl ⟨hvg, hadd⟩
    · refine Or.inr ⟨w, hw, hdrop, ?_⟩
      simp only [Column.name_during, hold w hw]
  · rintro (⟨hzg, hadd⟩ | ⟨w, hw, hdrop, rfl⟩)
    · exact ⟨z, (h.columns z).mpr (Or.inl ⟨hzg, hadd⟩), if_neg (hnew z hzg hadd)⟩
    · refine ⟨w.during done goal, (h.columns _).mpr (Or.inr ⟨w, hw, hdrop, rfl⟩), ?_⟩
      simp only [Column.name_during, hold w hw]

theorem alterColumnType (h : At done start goal t) (hs : start.Distinct) (hg : goal.Distinct)
    {x y : Column} (hx : x ∈ start.columns) (hy : y ∈ goal.columns) (hname : x.name = y.name)
    (hadded : ⟨goal.name, .addColumn y⟩ ∉ done) :
    At (done ++ [⟨goal.name, .alterColumnType (some x) y⟩]) start goal
      (t.updateColumn y.name (·.retyped y)) where
  name := h.name
  distinct :=
    { h.distinct with
      columns := by
        rw [columnNames_updateColumn t y.name fun z => z.name_retyped y]
        exact h.distinct.columns }
  columns z := by
    have hcolumn : goal.column? x.name = some y := hg.column?_eq_some_iff.mpr ⟨hy, hname.symm⟩
    have hduring : ∀ w : Column,
        w.during (done ++ [⟨goal.name, .alterColumnType (some x) y⟩]) goal =
          if w = x then (w.during done goal).retyped y else w.during done goal := by
      intro w
      split
      · next heq =>
        subst heq
        exact Column.during_retyped hcolumn
      · next hne => exact Column.during_concat (fun _ heq => hne (by simp_all)) (by simp)
    rw [h.mem_updateColumn hs hg hx hy hname hadded]
    simp [hduring]
  indexes i := by simpa [updateColumn] using h.indexes i
  foreignKeys k := by simpa [updateColumn] using h.foreignKeys k
  primaryKey := by simpa [updateColumn] using h.primaryKey
  charset := by simpa [updateColumn] using h.charset
  collation := by simpa [updateColumn] using h.collation

theorem alterColumnNullDefault (h : At done start goal t) (hs : start.Distinct)
    (hg : goal.Distinct) {x y : Column} (hx : x ∈ start.columns) (hy : y ∈ goal.columns)
    (hname : x.name = y.name) (hadded : ⟨goal.name, .addColumn y⟩ ∉ done) :
    At (done ++ [⟨goal.name, .alterColumnNullDefault (some x) y⟩]) start goal
      (t.updateColumn y.name (·.redefaulted y)) where
  name := h.name
  distinct :=
    { h.distinct with
      columns := by
        rw [columnNames_updateColumn t y.name fun z => z.name_redefaulted y]
        exact h.distinct.columns }
  columns z := by
    have hcolumn : goal.column? x.name = some y := hg.column?_eq_some_iff.mpr ⟨hy, hname.symm⟩
    have hduring : ∀ w : Column,
        w.during (done ++ [⟨goal.name, .alterColumnNullDefault (some x) y⟩]) goal =
          if w = x then (w.during done goal).redefaulted y else w.during done goal := by
      intro w
      split
      · next heq =>
        subst heq
        exact Column.during_redefaulted hcolumn
      · next hne => exact Column.during_concat (by simp) fun _ heq => hne (by simp_all)
    rw [h.mem_updateColumn hs hg hx hy hname hadded]
    simp [hduring]
  indexes i := by simpa [updateColumn] using h.indexes i
  foreignKeys k := by simpa [updateColumn] using h.foreignKeys k
  primaryKey := by simpa [updateColumn] using h.primaryKey
  charset := by simpa [updateColumn] using h.charset
  collation := by simpa [updateColumn] using h.collation

theorem alterTable (h : At done start goal t) :
    At (done ++ [⟨goal.name, .alterTable start goal⟩]) start goal
      { t with
        primaryKey := goal.primaryKey
        charset := goal.charset
        collation := goal.collation } where
  name := h.name
  distinct := { h.distinct with }
  columns x := by simpa [Column.during_concat] using h.columns x
  indexes i := by simpa using h.indexes i
  foreignKeys k := by simpa using h.foreignKeys k
  primaryKey := by simp
  charset := by simp
  collation := by simp

theorem addIndex (h : At done start goal t) {i : Index} (hi : i ∈ goal.indexes)
    (hfresh : i.name ∉ t.indexes.map Index.name) :
    At (done ++ [⟨goal.name, .addIndex i⟩]) start goal { t with indexes := t.indexes ++ [i] } where
  name := h.name
  distinct :=
    { h.distinct with
      indexes := by
        have hne : ∀ j ∈ t.indexes, j.name ≠ i.name :=
          fun j hj heq => hfresh (heq ▸ List.mem_map_of_mem hj)
        simpa [List.nodup_append] using ⟨h.distinct.indexes, hne⟩ }
  columns x := by simpa [Column.during_concat] using h.columns x
  indexes j := by
    simp only [List.mem_append, h.indexes j, List.mem_singleton, Change.mk.injEq, true_and,
      Action.addIndex.injEq, reduceCtorEq, or_false, and_false]
    constructor
    · rintro ((⟨hj, hadd⟩ | hkept) | rfl)
      · exact Or.inl ⟨hj, Or.inl hadd⟩
      · exact Or.inr hkept
      · exact Or.inl ⟨hi, Or.inr rfl⟩
    · rintro (⟨hj, hadd | rfl⟩ | hkept)
      · exact Or.inl (Or.inl ⟨hj, hadd⟩)
      · exact Or.inr rfl
      · exact Or.inl (Or.inr hkept)
  foreignKeys k := by simpa using h.foreignKeys k
  primaryKey := by simpa using h.primaryKey
  charset := by simpa using h.charset
  collation := by simpa using h.collation

theorem dropIndex (h : At done start goal t) (hs : start.Distinct) {i : Index}
    (hi : i ∈ start.indexes)
    (hadded : ∀ j ∈ goal.indexes, ⟨goal.name, .addIndex j⟩ ∈ done → j.name ≠ i.name) :
    At (done ++ [⟨goal.name, .dropIndex i⟩]) start goal
      { t with indexes := t.indexes.filter fun j => j.name ≠ i.name } where
  name := h.name
  distinct :=
    { h.distinct with indexes := h.distinct.indexes.sublist (List.filter_sublist.map Index.name) }
  columns x := by simpa [Column.during_concat] using h.columns x
  indexes j := by
    simp only [List.mem_filter, h.indexes j, List.mem_append, List.mem_singleton, true_and,
      Change.mk.injEq, Action.dropIndex.injEq, reduceCtorEq, or_false, and_false, not_or,
      decide_eq_true_eq]
    constructor
    · rintro ⟨hnew | ⟨hj, hdrop⟩, hne⟩
      · exact Or.inl hnew
      · exact Or.inr ⟨hj, hdrop, fun heq => hne (heq ▸ rfl)⟩
    · rintro (⟨hj, hadd⟩ | ⟨hj, hdrop, hne⟩)
      · exact ⟨Or.inl ⟨hj, hadd⟩, hadded j hj hadd⟩
      · exact ⟨Or.inr ⟨hj, hdrop⟩, fun heq => hne (hs.index_eq hj hi heq)⟩
  foreignKeys k := by simpa using h.foreignKeys k
  primaryKey := by simpa using h.primaryKey
  charset := by simpa using h.charset
  collation := by simpa using h.collation

theorem addForeignKey (h : At done start goal t) {k : ForeignKey} (hk : k ∈ goal.foreignKeys)
    (hfresh : k.signature ∉ t.signatures) :
    At (done ++ [⟨goal.name, .addForeignKey k⟩]) start goal
      { t with foreignKeys := t.foreignKeys ++ [k] } where
  name := h.name
  distinct :=
    { h.distinct with
      foreignKeys := by
        have hne : ∀ l ∈ t.foreignKeys, l.signature ≠ k.signature :=
          fun l hl heq => hfresh (heq ▸ List.mem_map_of_mem hl)
        simpa [signatures, List.nodup_append] using ⟨h.distinct.foreignKeys, hne⟩ }
  columns x := by simpa [Column.during_concat] using h.columns x
  indexes i := by simpa using h.indexes i
  foreignKeys l := by
    simp only [List.mem_append, h.foreignKeys l, List.mem_singleton, Change.mk.injEq, true_and,
      Action.addForeignKey.injEq, reduceCtorEq, or_false, and_false]
    constructor
    · rintro ((⟨hl, hadd⟩ | hkept) | rfl)
      · exact Or.inl ⟨hl, Or.inl hadd⟩
      · exact Or.inr hkept
      · exact Or.inl ⟨hk, Or.inr rfl⟩
    · rintro (⟨hl, hadd | rfl⟩ | hkept)
      · exact Or.inl (Or.inl ⟨hl, hadd⟩)
      · exact Or.inr rfl
      · exact Or.inl (Or.inr hkept)
  primaryKey := by simpa using h.primaryKey
  charset := by simpa using h.charset
  collation := by simpa using h.collation

theorem dropForeignKey (h : At done start goal t) (hs : start.Distinct) {k : ForeignKey}
    (hk : k ∈ start.foreignKeys)
    (hadded : ∀ l ∈ goal.foreignKeys,
      ⟨goal.name, .addForeignKey l⟩ ∈ done → l.signature ≠ k.signature) :
    At (done ++ [⟨goal.name, .dropForeignKey k⟩]) start goal
      { t with foreignKeys := t.foreignKeys.filter fun l => l.signature ≠ k.signature } where
  name := h.name
  distinct :=
    { h.distinct with
      foreignKeys := h.distinct.foreignKeys.sublist
        (List.filter_sublist.map ForeignKey.signature) }
  columns x := by simpa [Column.during_concat] using h.columns x
  indexes i := by simpa using h.indexes i
  foreignKeys l := by
    simp only [List.mem_filter, h.foreignKeys l, List.mem_append, List.mem_singleton, true_and,
      Change.mk.injEq, Action.dropForeignKey.injEq, reduceCtorEq, or_false, and_false, not_or,
      decide_eq_true_eq]
    constructor
    · rintro ⟨hnew | ⟨hl, hdrop⟩, hne⟩
      · exact Or.inl hnew
      · exact Or.inr ⟨hl, hdrop, fun heq => hne (heq ▸ rfl)⟩
    · rintro (⟨hl, hadd⟩ | ⟨hl, hdrop, hne⟩)
      · exact ⟨Or.inl ⟨hl, hadd⟩, hadded l hl hadd⟩
      · exact ⟨Or.inr ⟨hl, hdrop⟩, fun heq => hne (hs.key_eq hl hk heq)⟩
  primaryKey := by simpa using h.primaryKey
  charset := by simpa using h.charset
  collation := by simpa using h.collation

end Table.At

end SchemaMigration
