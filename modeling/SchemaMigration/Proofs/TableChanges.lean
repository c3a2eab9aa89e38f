import SchemaMigration.Proofs.ColumnChanges

/-!
The changes to one table. Whatever else is discovered in between, the changes to a table are those
that its own two definitions tell, in the order in which they are told.
-/

namespace SchemaMigration

def Snapshot.TablesNamed (s : Snapshot) : Prop :=
  ∀ entry ∈ s.tables.entries, entry.2.name = entry.1

instance (s : Snapshot) : Decidable s.TablesNamed := by
  unfold Snapshot.TablesNamed
  infer_instance

theorem Snapshot.TablesNamed.name_of_table? {s : Snapshot} (h : s.TablesNamed) {name : String}
    {t : Table} (ht : s.table? name = some t) : t.name = name :=
  h _ (Snapshot.table?_eq_some_iff.mp ht)

namespace Comparison

variable {c : Comparison} {old new t : Table} {x : Change} {name : String}

def changesOf (c : Comparison) (name : String) : List Change :=
  match c.current.table? name, c.target.table? name with
  | some old, some new => c.tableChanges old new
  | none, some new => c.creation new
  | some old, none => c.removal old
  | none, none => []

theorem table_of_mem_creation (h : x ∈ c.creation t) : x.table = t.name := by
  rcases List.mem_cons.mp h with rfl | h
  · rfl
  · split at h
    · cases h
    · rcases List.mem_append.mp h with h | h
      · obtain ⟨i, -, rfl⟩ := List.mem_map.mp h
        rfl
      · obtain ⟨k, -, rfl⟩ := List.mem_map.mp h
        rfl

theorem table_of_mem_removal (h : x ∈ c.removal t) : x.table = t.name := by
  rcases List.mem_append.mp h with h | h
  · split at h
    · cases h
    · obtain ⟨k, -, rfl⟩ := List.mem_map.mp h
      rfl
  · obtain rfl := List.mem_singleton.mp h
    rfl

theorem table_of_mem_foreignKeyChanges (same : old.name = new.name)
    (h : x ∈ foreignKeyChanges old new) : x.table = new.name := by
  rcases List.mem_append.mp h with h | h
  · obtain ⟨entry, -, rfl⟩ := List.mem_map.mp h
    exact same
  · obtain ⟨entry, -, rfl⟩ := List.mem_map.mp h
    rfl

theorem table_of_mem_indexChanges (same : old.name = new.name)
    (h : x ∈ indexChanges old new) : x.table = new.name := by
  rcases List.mem_append.mp h with h | h
  · obtain ⟨i, -, rfl⟩ := List.mem_map.mp h
    exact same
  · obtain ⟨i, -, rfl⟩ := List.mem_map.mp h
    rfl

theorem table_of_mem_columnChanges {y : Column} (h : x ∈ c.columnChanges old new y) :
    x.table = new.name := by
  rcases columnChanges_cases h with rfl | ⟨z, rfl | rfl⟩ <;> rfl

theorem table_of_mem_tableChanges (same : old.name = new.name) (h : x ∈ c.tableChanges old new) :
    x.table = new.name := by
  simp only [tableChanges, List.mem_append] at h
  rcases h with ((keys | columns) | dropped) | options
  · split at keys
    · cases keys
    · rcases List.mem_append.mp keys with keys | indexes
      · exact table_of_mem_foreignKeyChanges same keys
      · exact table_of_mem_indexChanges same indexes
  · obtain ⟨y, -, hx⟩ := List.mem_flatMap.mp columns
    exact table_of_mem_columnChanges hx
  · obtain ⟨y, -, rfl⟩ := List.mem_map.mp dropped
    rfl
  · split at options
    · cases options
    · obtain rfl := List.mem_singleton.mp options
      rfl

/-- Of changes that all belong to one table, those to a table are all or none. -/
theorem filter_table_eq {changes : List Change} {table : String}
    (h : ∀ x ∈ changes, x.table = table) (name : String) :
    changes.filter (fun x => x.table = name) = if table = name then changes else [] := by
  split
  · next heq =>
    rw [List.filter_eq_self]
    intro x hx
    simp [h x hx, heq]
  · next hne =>
    rw [List.filter_eq_nil_iff]
    intro x hx
    simp [h x hx, hne]

theorem lookup_filter (p : String → Bool) (name : String) (entries : List (String × Table)) :
    OrderedMap.lookup name (entries.filter fun e => p e.1) =
      if p name then OrderedMap.lookup name entries else none := by
  induction entries with
  | nil => simp [OrderedMap.lookup]
  | cons e rest ih =>
    obtain ⟨key, t⟩ := e
    by_cases heq : key = name
    · subst heq
      by_cases hp : p key = true <;> simp [OrderedMap.lookup, hp, ih]
    · by_cases hp : p key = true <;> simp [OrderedMap.lookup, hp, heq, ih]

/-- What is discovered for the tables under some names, if there is at most one of them. -/
theorem filter_table_flatMap {entries : List (String × Table)}
    (distinct : (entries.map Prod.fst).Nodup) {f : String × Table → List Change}
    (table : ∀ e ∈ entries, ∀ x ∈ f e, x.table = e.1) (name : String) :
    (entries.flatMap f).filter (fun x => x.table = name) =
      ((OrderedMap.lookup name entries).map fun t => f (name, t)).getD [] := by
  rw [List.filter_flatMap]
  cases hlookup : OrderedMap.lookup name entries with
  | none =>
    have absent := OrderedMap.lookup_eq_none_iff.mp hlookup
    rw [Option.map_none, Option.getD_none, List.flatMap_eq_nil_iff]
    intro e he
    rw [filter_table_eq (table e he), if_neg]
    rintro rfl
    exact absent (List.mem_map_of_mem he)
  | some t =>
    have mem := (OrderedMap.lookup_eq_some_iff distinct).mp hlookup
    rw [Option.map_some, Option.getD_some, flatMap_eq_of_key distinct mem]
    · rw [filter_table_eq (table _ mem), if_pos rfl]
    · intro e he hne
      rw [filter_table_eq (table e he), if_neg hne]

/-- What is discovered when a table of the new snapshot comes up. -/
def changesFor (c : Comparison) (entry : String × Table) : List Change :=
  match c.current.table? entry.1 with
  | none => c.creation entry.2
  | some old => c.tableChanges old entry.2

theorem changes_eq (c : Comparison) : c.changes =
    c.target.tables.entries.flatMap c.changesFor ++
      (c.current.tables.entries.filter fun entry => (c.target.table? entry.1).isNone).flatMap
        fun entry => c.removal entry.2 := rfl

theorem table_of_mem_changesFor (hc : c.current.TablesNamed) {entry : String × Table}
    (named : entry.2.name = entry.1) (h : x ∈ c.changesFor entry) : x.table = entry.1 := by
  unfold changesFor at h
  split at h
  · exact (table_of_mem_creation h).trans named
  · next old hold =>
    exact (table_of_mem_tableChanges ((hc.name_of_table? hold).trans named.symm) h).trans named

/-- The changes to a table, in the order of their discovery. -/
theorem changes_of_table (hc : c.current.TablesNamed) (ht : c.target.TablesNamed) (name : String) :
    c.changes.filter (fun x => x.table = name) = c.changesOf name := by
  have gone_distinct := c.current.tables.distinct.sublist
    ((List.filter_sublist (p := fun entry => (c.target.table? entry.1).isNone)).map Prod.fst)
  rw [changes_eq, List.filter_append,
    filter_table_flatMap c.target.tables.distinct
      fun entry hentry x hx => table_of_mem_changesFor hc (ht entry hentry) hx,
    filter_table_flatMap gone_distinct fun entry hentry x hx =>
      (table_of_mem_removal hx).trans (hc entry (List.mem_of_mem_filter hentry)),
    lookup_filter fun key => (c.target.table? key).isNone]
  change ((c.target.table? name).map _).getD [] ++
    ((if (c.target.table? name).isNone then c.current.table? name else none).map _).getD [] = _
  unfold changesFor changesOf
  cases c.target.table? name with
  | none => cases c.current.table? name <;> rfl
  | some new => cases hold : c.current.table? name <;> simp [hold]

theorem mem_changes_iff_of_table (hc : c.current.TablesNamed) (ht : c.target.TablesNamed) :
    x ∈ c.changes ↔ x ∈ c.changesOf x.table := by
  rw [← changes_of_table hc ht, List.mem_filter, decide_eq_true_eq, and_iff_left rfl]

end Comparison

/-! ### Changes to whole tables -/

def Change.Titled (change : Change) : Prop :=
  match change.action with
  | .createTable t => t.name = change.table
  | .alterTable old new => old.name = change.table ∧ new.name = change.table
  | _ => True

/-- Sorted changes, taken apart where one of them comes up first. -/
theorem Change.exists_split {changes : List Change} {change : Change}
    (sorted : changes.Pairwise fun a b => a.phase ≤ b.phase) (mem : change ∈ changes) :
    ∃ before after, changes = before ++ change :: after ∧ change ∉ before ∧
      (∀ y ∈ before, y.phase ≤ change.phase) ∧ ∀ y ∈ after, change.phase ≤ y.phase := by
  obtain ⟨before, after, rfl, fresh⟩ := List.eq_append_cons_of_mem mem
  obtain ⟨-, tail, apart⟩ := List.pairwise_append.mp sorted
  refine ⟨before, after, rfl, fresh, ?_, ?_⟩
  · intro y hy
    exact apart y hy change List.mem_cons_self
  · intro y hy
    exact List.rel_of_pairwise_cons tail hy

namespace Comparison

variable {c : Comparison} {change : Change} {name : String} {old new t : Table}

theorem alterTable_mem_tableChanges_iff {first second : Table} :
    ⟨name, .alterTable first second⟩ ∈ c.tableChanges old new ↔
      name = new.name ∧ first = old ∧ second = new ∧
        ¬ (old.primaryKey = new.primaryKey ∧ c.sameOptions old new = true) := by
  have keys : (⟨name, .alterTable first second⟩ : Change) ∉
      if c.skipsConstraints then [] else foreignKeyChanges old new ++ indexChanges old new := by
    split <;> simp [foreignKeyChanges, indexChanges]
  have columns : (⟨name, .alterTable first second⟩ : Change) ∉
      new.columns.flatMap (c.columnChanges old new) := by
    rw [List.mem_flatMap]
    rintro ⟨y, -, hy⟩
    rcases columnChanges_cases hy with h | ⟨z, h | h⟩ <;> cases h
  have dropped : (⟨name, .alterTable first second⟩ : Change) ∉ droppedColumns old new := by
    simp [droppedColumns]
  simp only [tableChanges, List.mem_append, keys, columns, dropped, false_or]
  split
  · next same =>
    rw [Bool.and_eq_true, beq_iff_eq] at same
    constructor
    · intro h
      cases h
    · rintro ⟨-, -, -, differs⟩
      exact absurd same differs
  · next differs =>
    rw [Bool.and_eq_true, beq_iff_eq] at differs
    rw [List.mem_singleton]
    constructor
    · intro h
      cases h
      exact ⟨rfl, rfl, rfl, differs⟩
    · rintro ⟨rfl, rfl, rfl, -⟩
      rfl

/-- A table is altered if it stays, and its primary key or its options differ. -/
theorem alterTable_mem_changes_iff (ht : c.target.TablesNamed) :
    ⟨name, .alterTable old new⟩ ∈ c.changes ↔
      c.current.table? name = some old ∧ c.target.table? name = some new ∧
        ¬ (old.primaryKey = new.primaryKey ∧ c.sameOptions old new = true) := by
  rw [changes, List.mem_append, List.mem_flatMap, List.mem_flatMap]
  constructor
  · rintro (⟨⟨key, table⟩, entry, h⟩ | ⟨entry, -, h⟩)
    · have hkey : table.name = key := ht _ entry
      dsimp only at h
      split at h
      · simp [creation] at h
      · next first hfirst =>
        obtain ⟨rfl, rfl, rfl, differs⟩ := alterTable_mem_tableChanges_iff.mp h
        rw [hkey]
        exact ⟨hfirst, Snapshot.table?_eq_some_iff.mpr entry, differs⟩
    · simp [removal] at h
  · rintro ⟨hold, hnew, differs⟩
    refine .inl ⟨(name, new), Snapshot.table?_eq_some_iff.mp hnew, ?_⟩
    simp only [hold]
    exact alterTable_mem_tableChanges_iff.mpr
      ⟨(ht.name_of_table? hnew).symm, rfl, rfl, differs⟩

/-- A table is created if it is new. -/
theorem createTable_mem_changes_iff (hc : c.current.TablesNamed) (ht : c.target.TablesNamed) :
    ⟨name, .createTable t⟩ ∈ c.changes ↔
      c.current.table? name = none ∧ c.target.table? name = some t := by
  rw [mem_changes_iff_of_table hc ht, changesOf]
  dsimp only
  split
  · next first second hfirst hsecond =>
    rw [hfirst]
    constructor
    · intro h
      simp only [tableChanges, List.mem_append, List.mem_flatMap] at h
      rcases h with ((keys | ⟨y, -, column⟩) | dropped) | options
      · split at keys
        · cases keys
        · simp [foreignKeyChanges, indexChanges] at keys
      · rcases columnChanges_cases column with h | ⟨z, h | h⟩ <;> cases h
      · simp [droppedColumns] at dropped
      · split at options
        · cases options
        · cases List.mem_singleton.mp options
    · rintro ⟨h, -⟩
      cases h
  · next second hnone hsecond =>
    rw [hnone, hsecond]
    constructor
    · intro h
      rcases List.mem_cons.mp h with h | h
      · cases h
        exact ⟨rfl, rfl⟩
      · split at h
        · cases h
        · simp at h
    · rintro ⟨-, h⟩
      cases h
      exact List.mem_cons.mpr (.inl (by rw [ht.name_of_table? hsecond]))
  · next first hfirst hnone =>
    simp [removal, hfirst]
  · next hnone hgone =>
    simp [hnone, hgone]

theorem titled_of_mem_changes (hc : c.current.TablesNamed) (ht : c.target.TablesNamed)
    (h : change ∈ c.changes) : change.Titled := by
  obtain ⟨name, action⟩ := change
  cases action with
  | createTable t =>
    exact ht.name_of_table? ((createTable_mem_changes_iff hc ht).mp h).2
  | alterTable old new =>
    obtain ⟨hold, hnew, -⟩ := (alterTable_mem_changes_iff ht).mp h
    exact ⟨hc.name_of_table? hold, ht.name_of_table? hnew⟩
  | _ => trivial

/-- The changes to a table that stays are changes to parts of it, and its columns are dropped if the
new table does not have them. -/
theorem part_of_mem_tableChanges (h : change ∈ c.tableChanges old new) :
    change.action.isPart = true ∧
      ∀ y, change.action = .dropColumn y → y.name ∉ new.columnNames := by
  simp only [tableChanges, List.mem_append, List.mem_flatMap] at h
  rcases h with ((keys | ⟨y, -, column⟩) | dropped) | options
  · split at keys
    · cases keys
    · simp only [foreignKeyChanges, indexChanges, List.mem_append, List.mem_map] at keys
      rcases keys with (⟨_, -, rfl⟩ | ⟨_, -, rfl⟩) | ⟨_, -, rfl⟩ | ⟨_, -, rfl⟩ <;>
        exact ⟨rfl, fun _ h => by cases h⟩
  · rcases columnChanges_cases column with rfl | ⟨z, rfl | rfl⟩ <;>
      exact ⟨rfl, fun _ h => by cases h⟩
  · obtain ⟨y, hy, rfl⟩ := List.mem_map.mp dropped
    refine ⟨rfl, fun z hz => ?_⟩
    cases hz
    have gone := (List.mem_filter.mp hy).2
    rw [← Table.hasColumn_iff]
    simpa using gone
  · split at options
    · cases options
    · obtain rfl := List.mem_singleton.mp options
      exact ⟨rfl, fun _ h => by cases h⟩

theorem part_of_mem_changes (hc : c.current.TablesNamed) (ht : c.target.TablesNamed)
    (hold : c.current.table? change.table = some old)
    (hnew : c.target.table? change.table = some new) (h : change ∈ c.changes) :
    change.action.isPart = true ∧
      ∀ y, change.action = .dropColumn y → y.name ∉ new.columnNames := by
  rw [mem_changes_iff_of_table hc ht, changesOf, hold, hnew] at h
  exact part_of_mem_tableChanges h

end Comparison

end SchemaMigration
