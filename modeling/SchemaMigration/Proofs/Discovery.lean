import SchemaMigration.Difference
import SchemaMigration.Proofs.WellFormed

/-!
What a comparison discovers. The changes of a table depend on its two definitions alone. Each of
them is needed for one part of the table, and none is discovered twice.
-/

namespace SchemaMigration

def Table.bare (t : Table) : Table := { t with indexes := [], foreignKeys := [] }

def Table.detached (t : Table) : Table := { t with foreignKeys := [] }

theorem Table.Distinct.bare {t : Table} (h : t.Distinct) : t.bare.Distinct :=
  ⟨h.columns, List.nodup_nil, List.nodup_nil⟩

theorem Table.Distinct.detached {t : Table} (h : t.Distinct) : t.detached.Distinct :=
  ⟨h.columns, h.indexes, List.nodup_nil⟩

theorem Column.sameType_self (x : Column) : x.SameType x = true := by simp [SameType]

theorem Column.sameNullDefault_self (x : Column) : x.SameNullDefault x = true := by
  simp [SameNullDefault]

theorem Column.sameNullDefault_iff {x y : Column} :
    x.SameNullDefault y = true ↔ x.nullable = y.nullable ∧ x.default = y.default := by
  simp [SameNullDefault]

namespace Comparison

variable {c : Comparison} {old new : Table}

theorem sameType_self (c : Comparison) (x : Column) : c.sameType x x = true := by
  unfold sameType
  split <;> exact Column.sameType_self _

theorem sameType_iff {x y : Column} :
    c.sameType x y = true ↔ x.type = y.type ∧ x.length = y.length ∧ x.scale = y.scale ∧
      x.enumValues = y.enumValues ∧
        (c.rules.comparesCollations = true → x.collation = y.collation) := by
  unfold sameType
  split
  · next compares => simp [Column.SameType, compares, and_assoc]
  · next ignores => simp [Column.SameType, Column.withoutCollation, ignores, and_assoc]

theorem sameOptions_self (c : Comparison) (t : Table) : c.sameOptions t t = true := by
  simp [sameOptions]

/-- What has to be done to a table for one of its parts to become that of the new definition. -/
inductive Needs (c : Comparison) (old new : Table) : Action → Prop where
  | dropForeignKey {k : ForeignKey} (keeps : c.skipsConstraints = false)
      (mem : k ∈ old.foreignKeys) (gone : k.signature ∉ new.signatures) :
      Needs c old new (.dropForeignKey k)
  | dropIndex {i : Index} (keeps : c.skipsConstraints = false)
      (mem : i ∈ old.indexes) (gone : i ∉ new.indexes) : Needs c old new (.dropIndex i)
  | addColumn {x : Column} (mem : x ∈ new.columns) (fresh : x.name ∉ old.columnNames) :
      Needs c old new (.addColumn x)
  | alterColumnType {x y : Column} (memOld : x ∈ old.columns) (mem : y ∈ new.columns)
      (name : x.name = y.name) (differs : c.sameType x y = false) :
      Needs c old new (.alterColumnType (some x) y)
  | alterColumnNullDefault {x y : Column} (memOld : x ∈ old.columns) (mem : y ∈ new.columns)
      (name : x.name = y.name) (differs : x.SameNullDefault y = false) :
      Needs c old new (.alterColumnNullDefault (some x) y)
  | alterTable (differs : old.primaryKey = new.primaryKey → c.sameOptions old new = false) :
      Needs c old new (.alterTable old new)
  | dropColumn {x : Column} (mem : x ∈ old.columns) (gone : x.name ∉ new.columnNames) :
      Needs c old new (.dropColumn x)
  | addIndex {i : Index} (keeps : c.skipsConstraints = false)
      (mem : i ∈ new.indexes) (fresh : i ∉ old.indexes) : Needs c old new (.addIndex i)
  | addForeignKey {k : ForeignKey} (keeps : c.skipsConstraints = false)
      (mem : k ∈ new.foreignKeys) (fresh : k.signature ∉ old.signatures) :
      Needs c old new (.addForeignKey k)

/-! ### The changes of one table -/

theorem entries_keysOf {t : Table} (h : t.Distinct) :
    (keysOf t).entries = t.foreignKeys.map fun k => (k.signature, k) :=
  OrderedMap.entries_ofList (by simpa [Table.signatures, Function.comp_def] using h.foreignKeys)

theorem contains_keysOf (t : Table) (signature : ForeignKey.Signature) :
    (keysOf t).contains signature = t.signatures.contains signature := by
  rw [Bool.eq_iff_iff, OrderedMap.contains_iff, keysOf, OrderedMap.mem_keys_ofList]
  simp [Table.signatures]

theorem foreignKeyChanges_eq (ho : old.Distinct) (hn : new.Distinct) :
    foreignKeyChanges old new =
      (old.foreignKeys.filter fun k => !new.signatures.contains k.signature).map
          (fun k => ⟨old.name, .dropForeignKey k⟩) ++
        (new.foreignKeys.filter fun k => !old.signatures.contains k.signature).map
          fun k => ⟨new.name, .addForeignKey k⟩ := by
  simp [foreignKeyChanges, entries_keysOf ho, entries_keysOf hn, contains_keysOf,
    List.filter_map, Function.comp_def]

theorem indexChanges_eq (ho : old.Distinct) (hn : new.Distinct) :
    indexChanges old new =
      (old.indexes.filter fun i => !new.indexes.contains i).map
          (fun i => ⟨old.name, .dropIndex i⟩) ++
        (new.indexes.filter fun i => !old.indexes.contains i).map
          fun i => ⟨new.name, .addIndex i⟩ := by
  have found : ∀ {t : Table}, t.Distinct → ∀ i : Index,
      (t.index? i.name != some i) = !t.indexes.contains i := by
    intro t ht i
    rw [Bool.eq_iff_iff, bne_iff_ne, Ne, ht.index?_eq_some_iff]
    simp
  simp only [indexChanges, found ho, found hn]

theorem mem_columnChanges (ho : old.Distinct) {y : Column} {x : Change} :
    x ∈ c.columnChanges old new y ↔ x.table = new.name ∧
      (y.name ∉ old.columnNames ∧ x.action = .addColumn y ∨
        ∃ z ∈ old.columns, z.name = y.name ∧
          (c.sameType z y = false ∧ x.action = .alterColumnType (some z) y ∨
            z.SameNullDefault y = false ∧ x.action = .alterColumnNullDefault (some z) y)) := by
  obtain ⟨table, action⟩ := x
  unfold columnChanges
  split
  · next hnone =>
    have habsent := Table.column?_eq_none_iff.mp hnone
    have hno : ¬ ∃ z ∈ old.columns, z.name = y.name := by simpa [Table.columnNames] using habsent
    simp only [List.mem_singleton, Change.mk.injEq, habsent, not_false_eq_true, true_and]
    constructor
    · rintro ⟨ht, ha⟩
      exact ⟨ht, Or.inl ha⟩
    · rintro ⟨ht, ha | ⟨z, hz, hname, -⟩⟩
      · exact ⟨ht, ha⟩
      · exact absurd ⟨z, hz, hname⟩ hno
  · next z hsome =>
    obtain ⟨hz, hname⟩ := ho.column?_eq_some_iff.mp hsome
    have hin : y.name ∈ old.columnNames := hname ▸ List.mem_map_of_mem hz
    have honly : ∀ w ∈ old.columns, w.name = y.name → w = z := fun w hw hwn =>
      ho.column_eq hw hz (hwn.trans hname.symm)
    rw [List.mem_append]
    constructor
    · intro h
      rcases h with h | h
      · split at h
        · cases h
        · next hd =>
          simp only [List.mem_singleton, Change.mk.injEq] at h
          exact ⟨h.1, Or.inr ⟨z, hz, hname, Or.inl ⟨by simpa using hd, h.2⟩⟩⟩
      · split at h
        · cases h
        · next hd =>
          simp only [List.mem_singleton, Change.mk.injEq] at h
          exact ⟨h.1, Or.inr ⟨z, hz, hname, Or.inr ⟨by simpa using hd, h.2⟩⟩⟩
    · rintro ⟨ht, ⟨habsent, -⟩ | ⟨w, hw, hwn, h⟩⟩
      · exact absurd hin habsent
      · obtain rfl := honly w hw hwn
        rcases h with ⟨hd, ha⟩ | ⟨hd, ha⟩
        · exact Or.inl (by simp_all)
        · exact Or.inr (by simp_all)

theorem mem_foreignKeyChanges (ho : old.Distinct) (hn : new.Distinct) (hname : old.name = new.name)
    {x : Change} :
    x ∈ foreignKeyChanges old new ↔ x.table = new.name ∧
      ((∃ k ∈ old.foreignKeys, k.signature ∉ new.signatures ∧ x.action = .dropForeignKey k) ∨
        ∃ k ∈ new.foreignKeys, k.signature ∉ old.signatures ∧ x.action = .addForeignKey k) := by
  obtain ⟨table, action⟩ := x
  simp only [foreignKeyChanges_eq ho hn, List.mem_append, List.mem_map, List.mem_filter, hname,
    Change.mk.injEq, Bool.not_eq_true', List.contains_eq_mem, decide_eq_false_iff_not]
  constructor
  · rintro (⟨k, ⟨hk, hg⟩, rfl, rfl⟩ | ⟨k, ⟨hk, hg⟩, rfl, rfl⟩)
    · exact ⟨rfl, Or.inl ⟨k, hk, hg, rfl⟩⟩
    · exact ⟨rfl, Or.inr ⟨k, hk, hg, rfl⟩⟩
  · rintro ⟨rfl, ⟨k, hk, hg, rfl⟩ | ⟨k, hk, hg, rfl⟩⟩
    · exact Or.inl ⟨k, ⟨hk, hg⟩, rfl, rfl⟩
    · exact Or.inr ⟨k, ⟨hk, hg⟩, rfl, rfl⟩

theorem mem_indexChanges (ho : old.Distinct) (hn : new.Distinct) (hname : old.name = new.name)
    {x : Change} :
    x ∈ indexChanges old new ↔ x.table = new.name ∧
      ((∃ i ∈ old.indexes, i ∉ new.indexes ∧ x.action = .dropIndex i) ∨
        ∃ i ∈ new.indexes, i ∉ old.indexes ∧ x.action = .addIndex i) := by
  obtain ⟨table, action⟩ := x
  simp only [indexChanges_eq ho hn, List.mem_append, List.mem_map, List.mem_filter, hname,
    Change.mk.injEq, Bool.not_eq_true', List.contains_eq_mem, decide_eq_false_iff_not]
  constructor
  · rintro (⟨i, ⟨hi, hg⟩, rfl, rfl⟩ | ⟨i, ⟨hi, hg⟩, rfl, rfl⟩)
    · exact ⟨rfl, Or.inl ⟨i, hi, hg, rfl⟩⟩
    · exact ⟨rfl, Or.inr ⟨i, hi, hg, rfl⟩⟩
  · rintro ⟨rfl, ⟨i, hi, hg, rfl⟩ | ⟨i, hi, hg, rfl⟩⟩
    · exact Or.inl ⟨i, ⟨hi, hg⟩, rfl, rfl⟩
    · exact Or.inr ⟨i, ⟨hi, hg⟩, rfl, rfl⟩

theorem mem_droppedColumns {x : Change} :
    x ∈ droppedColumns old new ↔ x.table = new.name ∧
      ∃ y ∈ old.columns, y.name ∉ new.columnNames ∧ x.action = .dropColumn y := by
  obtain ⟨table, action⟩ := x
  simp only [droppedColumns, List.mem_map, List.mem_filter, Change.mk.injEq, Bool.not_eq_true',
    Bool.eq_false_iff, Ne, Table.hasColumn_iff]
  constructor
  · rintro ⟨y, ⟨hy, hg⟩, rfl, rfl⟩
    exact ⟨rfl, y, hy, hg, rfl⟩
  · rintro ⟨rfl, y, hy, hg, rfl⟩
    exact ⟨y, ⟨hy, hg⟩, rfl, rfl⟩

theorem mem_tableChanges (ho : old.Distinct) (hn : new.Distinct) (hname : old.name = new.name)
    {x : Change} : x ∈ c.tableChanges old new ↔ x.table = new.name ∧ c.Needs old new x.action := by
  obtain ⟨table, action⟩ := x
  simp only [tableChanges, List.mem_append, List.mem_flatMap]
  constructor
  · rintro (((h | ⟨y, hy, h⟩) | h) | h)
    · split at h
      · cases h
      · next hk =>
        have hkeeps : c.skipsConstraints = false := by simpa using hk
        rcases List.mem_append.mp h with h | h
        · obtain ⟨ht, ⟨k, hk, hg, rfl⟩ | ⟨k, hk, hg, rfl⟩⟩ :=
            (mem_foreignKeyChanges ho hn hname).mp h
          · exact ⟨ht, .dropForeignKey hkeeps hk hg⟩
          · exact ⟨ht, .addForeignKey hkeeps hk hg⟩
        · obtain ⟨ht, ⟨i, hi, hg, rfl⟩ | ⟨i, hi, hg, rfl⟩⟩ := (mem_indexChanges ho hn hname).mp h
          · exact ⟨ht, .dropIndex hkeeps hi hg⟩
          · exact ⟨ht, .addIndex hkeeps hi hg⟩
    · obtain ⟨ht, ⟨habsent, rfl⟩ | ⟨z, hz, hzn, ⟨hd, rfl⟩ | ⟨hd, rfl⟩⟩⟩ :=
        (mem_columnChanges ho).mp h
      · exact ⟨ht, .addColumn hy habsent⟩
      · exact ⟨ht, .alterColumnType hz hy hzn hd⟩
      · exact ⟨ht, .alterColumnNullDefault hz hy hzn hd⟩
    · obtain ⟨ht, y, hy, hg, rfl⟩ := mem_droppedColumns.mp h
      exact ⟨ht, .dropColumn hy hg⟩
    · split at h
      · cases h
      · next hd =>
        simp only [List.mem_singleton, Change.mk.injEq] at h
        obtain ⟨rfl, rfl⟩ := h
        exact ⟨rfl, .alterTable fun hp => by simpa [hp] using hd⟩
  · rintro ⟨rfl, h⟩
    cases h with
    | dropForeignKey keeps mem gone =>
      have : ⟨new.name, .dropForeignKey _⟩ ∈ foreignKeyChanges old new :=
        (mem_foreignKeyChanges ho hn hname).mpr ⟨rfl, Or.inl ⟨_, mem, gone, rfl⟩⟩
      simp [keeps, this]
    | addForeignKey keeps mem fresh =>
      have : ⟨new.name, .addForeignKey _⟩ ∈ foreignKeyChanges old new :=
        (mem_foreignKeyChanges ho hn hname).mpr ⟨rfl, Or.inr ⟨_, mem, fresh, rfl⟩⟩
      simp [keeps, this]
    | dropIndex keeps mem gone =>
      have : ⟨new.name, .dropIndex _⟩ ∈ indexChanges old new :=
        (mem_indexChanges ho hn hname).mpr ⟨rfl, Or.inl ⟨_, mem, gone, rfl⟩⟩
      simp [keeps, this]
    | addIndex keeps mem fresh =>
      have : ⟨new.name, .addIndex _⟩ ∈ indexChanges old new :=
        (mem_indexChanges ho hn hname).mpr ⟨rfl, Or.inr ⟨_, mem, fresh, rfl⟩⟩
      simp [keeps, this]
    | addColumn mem fresh =>
      refine Or.inl (Or.inl (Or.inr ⟨_, mem, ?_⟩))
      exact (mem_columnChanges ho).mpr ⟨rfl, Or.inl ⟨fresh, rfl⟩⟩
    | alterColumnType memOld mem name differs =>
      refine Or.inl (Or.inl (Or.inr ⟨_, mem, ?_⟩))
      exact (mem_columnChanges ho).mpr ⟨rfl, Or.inr ⟨_, memOld, name, Or.inl ⟨differs, rfl⟩⟩⟩
    | alterColumnNullDefault memOld mem name differs =>
      refine Or.inl (Or.inl (Or.inr ⟨_, mem, ?_⟩))
      exact (mem_columnChanges ho).mpr ⟨rfl, Or.inr ⟨_, memOld, name, Or.inr ⟨differs, rfl⟩⟩⟩
    | dropColumn mem gone => exact Or.inl (Or.inr (mem_droppedColumns.mpr ⟨rfl, _, mem, gone, rfl⟩))
    | alterTable differs =>
      refine Or.inr ?_
      have hd : ¬ (old.primaryKey == new.primaryKey && c.sameOptions old new) = true := by
        intro h
        rw [Bool.and_eq_true, beq_iff_eq] at h
        simp [differs h.1] at h
      rw [if_neg hd]
      exact List.mem_singleton_self _

/-! ### Nothing is discovered twice -/

/-- The part of the discovery in which a kind of change turns up. -/
def discoveryRank : ChangeKind → Nat
  | .dropForeignKey => 0
  | .addForeignKey => 1
  | .dropIndex => 2
  | .addIndex => 3
  | .addColumn | .alterColumnType => 4
  | .alterColumnNullDefault => 5
  | .dropColumn => 6
  | .createTable | .dropTable | .alterTable => 7

theorem nodup_append_of_rank {first second : List Change} (rank : Nat) (h₁ : first.Nodup)
    (h₂ : second.Nodup) (below : ∀ x ∈ first, discoveryRank x.kind < rank)
    (above : ∀ x ∈ second, rank ≤ discoveryRank x.kind) : (first ++ second).Nodup := by
  refine List.nodup_append.mpr ⟨h₁, h₂, ?_⟩
  rintro x hx y hy rfl
  have := below x hx
  have := above x hy
  omega

theorem nodup_changes_of {α : Type} {items : List α} (h : items.Nodup) (table : String)
    {action : α → Action} (inj : Function.Injective action) :
    (items.map fun a => (⟨table, action a⟩ : Change)).Nodup :=
  h.map fun a b hab => inj (by simpa using hab)

theorem nodup_foreignKeyChanges (ho : old.Distinct) (hn : new.Distinct) :
    (foreignKeyChanges old new).Nodup := by
  rw [foreignKeyChanges_eq ho hn]
  refine nodup_append_of_rank 1
    (nodup_changes_of (ho.foreignKeys.of_map.filter _) _ fun _ _ => by simp)
    (nodup_changes_of (hn.foreignKeys.of_map.filter _) _ fun _ _ => by simp) ?_ ?_
  · intro x hx
    obtain ⟨k, -, rfl⟩ := List.mem_map.mp hx
    exact Nat.zero_lt_one
  · intro x hx
    obtain ⟨k, -, rfl⟩ := List.mem_map.mp hx
    exact Nat.le_refl 1

theorem rank_of_mem_foreignKeyChanges {x : Change} (h : x ∈ foreignKeyChanges old new) :
    discoveryRank x.kind < 2 := by
  rcases List.mem_append.mp h with h | h
  · obtain ⟨k, -, rfl⟩ := List.mem_map.mp h
    exact Nat.zero_lt_two
  · obtain ⟨k, -, rfl⟩ := List.mem_map.mp h
    exact Nat.one_lt_two

theorem nodup_indexChanges (ho : old.Distinct) (hn : new.Distinct) :
    (indexChanges old new).Nodup := by
  rw [indexChanges_eq ho hn]
  refine nodup_append_of_rank 3
    (nodup_changes_of (ho.indexes.of_map.filter _) _ fun _ _ => by simp)
    (nodup_changes_of (hn.indexes.of_map.filter _) _ fun _ _ => by simp) ?_ ?_
  · intro x hx
    obtain ⟨i, -, rfl⟩ := List.mem_map.mp hx
    exact Nat.lt_succ_self 2
  · intro x hx
    obtain ⟨i, -, rfl⟩ := List.mem_map.mp hx
    exact Nat.le_refl 3

theorem rank_of_mem_indexChanges {x : Change} (h : x ∈ indexChanges old new) :
    2 ≤ discoveryRank x.kind ∧ discoveryRank x.kind < 4 := by
  rcases List.mem_append.mp h with h | h
  · obtain ⟨i, -, rfl⟩ := List.mem_map.mp h
    exact (by decide : 2 ≤ 2 ∧ 2 < 4)
  · obtain ⟨i, -, rfl⟩ := List.mem_map.mp h
    exact (by decide : 2 ≤ 3 ∧ 3 < 4)

theorem columnChanges_cases {y : Column} {x : Change} (h : x ∈ c.columnChanges old new y) :
    x = ⟨new.name, .addColumn y⟩ ∨ ∃ z, x = ⟨new.name, .alterColumnType (some z) y⟩ ∨
      x = ⟨new.name, .alterColumnNullDefault (some z) y⟩ := by
  unfold columnChanges at h
  split at h
  · exact Or.inl (List.mem_singleton.mp h)
  · next z _ =>
    rcases List.mem_append.mp h with h | h
    · split at h
      · cases h
      · exact Or.inr ⟨z, Or.inl (List.mem_singleton.mp h)⟩
    · split at h
      · cases h
      · exact Or.inr ⟨z, Or.inr (List.mem_singleton.mp h)⟩

theorem of_mem_columnChanges {y : Column} {x : Change} (h : x ∈ c.columnChanges old new y) :
    x.action.column? = some y ∧ 4 ≤ discoveryRank x.kind ∧ discoveryRank x.kind < 6 := by
  rcases columnChanges_cases h with rfl | ⟨z, rfl | rfl⟩
  · exact ⟨rfl, (by decide : 4 ≤ 4 ∧ 4 < 6)⟩
  · exact ⟨rfl, (by decide : 4 ≤ 4 ∧ 4 < 6)⟩
  · exact ⟨rfl, (by decide : 4 ≤ 5 ∧ 5 < 6)⟩

theorem nodup_columnChanges (y : Column) : (c.columnChanges old new y).Nodup := by
  unfold columnChanges
  split
  · exact List.nodup_singleton _
  · split <;> split <;> simp

theorem nodup_columns_flatMap (hn : new.Distinct) :
    (new.columns.flatMap (c.columnChanges old new)).Nodup := by
  refine List.nodup_flatMap.mpr ⟨fun y _ => nodup_columnChanges y, ?_⟩
  refine hn.columns.of_map.imp fun hne x hx hy => hne ?_
  have hx := (of_mem_columnChanges hx).1
  rw [(of_mem_columnChanges hy).1] at hx
  simpa using hx.symm

theorem nodup_tableChanges (ho : old.Distinct) (hn : new.Distinct) :
    (c.tableChanges old new).Nodup := by
  have rank_constraints : ∀ x ∈ (if c.skipsConstraints then []
      else foreignKeyChanges old new ++ indexChanges old new), discoveryRank x.kind < 4 := by
    intro x hx
    split at hx
    · cases hx
    · rcases List.mem_append.mp hx with hx | hx
      · have := rank_of_mem_foreignKeyChanges hx
        omega
      · exact (rank_of_mem_indexChanges hx).2
  have rank_columns : ∀ x ∈ new.columns.flatMap (c.columnChanges old new),
      4 ≤ discoveryRank x.kind ∧ discoveryRank x.kind < 6 := by
    intro x hx
    obtain ⟨y, -, hx⟩ := List.mem_flatMap.mp hx
    exact (of_mem_columnChanges hx).2
  have rank_dropped : ∀ x ∈ droppedColumns old new, discoveryRank x.kind = 6 := by
    intro x hx
    obtain ⟨y, -, rfl⟩ := List.mem_map.mp hx
    rfl
  have nodup_constraints : (foreignKeyChanges old new ++ indexChanges old new).Nodup :=
    nodup_append_of_rank 2 (nodup_foreignKeyChanges ho hn) (nodup_indexChanges ho hn)
      (fun _ => rank_of_mem_foreignKeyChanges) (fun _ hx => (rank_of_mem_indexChanges hx).1)
  have nodup_dropped : (droppedColumns old new).Nodup :=
    nodup_changes_of (ho.columns.of_map.filter _) _ fun _ _ => by simp
  refine nodup_append_of_rank 7 (nodup_append_of_rank 6
    (nodup_append_of_rank 4 ?_ (nodup_columns_flatMap hn) rank_constraints
      fun x hx => (rank_columns x hx).1)
    nodup_dropped ?_ fun x hx => Nat.le_of_eq (rank_dropped x hx).symm) ?_ ?_ ?_
  · split
    · exact List.nodup_nil
    · exact nodup_constraints
  · intro x hx
    rcases List.mem_append.mp hx with hx | hx
    · have := rank_constraints x hx
      omega
    · exact (rank_columns x hx).2
  · split
    · exact List.nodup_nil
    · exact List.nodup_singleton _
  · intro x hx
    rcases List.mem_append.mp hx with hx | hx
    · rcases List.mem_append.mp hx with hx | hx
      · have := rank_constraints x hx
        omega
      · have := rank_columns x hx
        omega
    · have := rank_dropped x hx
      omega
  · intro x hx
    split at hx
    · cases hx
    · obtain rfl := List.mem_singleton.mp hx
      exact Nat.le_refl 7

/-! ### The changes of all tables -/

/-- A table that keeps its columns, its primary key and its options needs changes to its indexes and
foreign keys at most. -/
theorem Needs.of_same_columns {a : Action} (h : c.Needs old new a) (hn : new.Distinct)
    (columns : old.columns = new.columns) (primaryKey : old.primaryKey = new.primaryKey)
    (options : c.sameOptions old new = true) :
    c.skipsConstraints = false ∧
      ((∃ k ∈ old.foreignKeys, a = .dropForeignKey k) ∨
        (∃ i ∈ old.indexes, i ∉ new.indexes ∧ a = .dropIndex i) ∨
        (∃ i ∈ new.indexes, i ∉ old.indexes ∧ a = .addIndex i) ∨
        ∃ k ∈ new.foreignKeys, a = .addForeignKey k) := by
  have names : old.columnNames = new.columnNames := congrArg (List.map Column.name) columns
  cases h with
  | dropForeignKey keeps mem _ => exact ⟨keeps, Or.inl ⟨_, mem, rfl⟩⟩
  | dropIndex keeps mem gone => exact ⟨keeps, Or.inr (Or.inl ⟨_, mem, gone, rfl⟩)⟩
  | addIndex keeps mem fresh => exact ⟨keeps, Or.inr (Or.inr (Or.inl ⟨_, mem, fresh, rfl⟩))⟩
  | addForeignKey keeps mem _ => exact ⟨keeps, Or.inr (Or.inr (Or.inr ⟨_, mem, rfl⟩))⟩
  | addColumn mem fresh =>
    rw [names] at fresh
    exact absurd (List.mem_map_of_mem mem) fresh
  | dropColumn mem gone =>
    rw [← names] at gone
    exact absurd (List.mem_map_of_mem mem) gone
  | alterColumnType memOld mem name differs =>
    obtain rfl := hn.column_eq (columns ▸ memOld) mem name
    rw [sameType_self] at differs
    cases differs
  | alterColumnNullDefault memOld mem name differs =>
    obtain rfl := hn.column_eq (columns ▸ memOld) mem name
    rw [Column.sameNullDefault_self] at differs
    cases differs
  | alterTable differs =>
    rw [options] at differs
    cases differs primaryKey

theorem needs_bare_iff {t : Table} (h : t.Distinct) {a : Action} :
    c.Needs t.bare t a ↔ c.skipsConstraints = false ∧
      ((∃ i ∈ t.indexes, a = .addIndex i) ∨ ∃ k ∈ t.foreignKeys, a = .addForeignKey k) := by
  constructor
  · intro ha
    obtain ⟨keeps, ⟨k, hk, -⟩ | ⟨i, hi, -⟩ | ⟨i, hi, -, rfl⟩ | ⟨k, hk, rfl⟩⟩ :=
      ha.of_same_columns h rfl rfl (sameOptions_self c t)
    · cases hk
    · cases hi
    · exact ⟨keeps, Or.inl ⟨i, hi, rfl⟩⟩
    · exact ⟨keeps, Or.inr ⟨k, hk, rfl⟩⟩
  · rintro ⟨keeps, ⟨i, hi, rfl⟩ | ⟨k, hk, rfl⟩⟩
    · exact .addIndex keeps hi List.not_mem_nil
    · exact .addForeignKey keeps hk List.not_mem_nil

theorem needs_detached_iff {t : Table} (h : t.Distinct) {a : Action} :
    c.Needs t t.detached a ↔ c.skipsConstraints = false ∧
      ∃ k ∈ t.foreignKeys, a = .dropForeignKey k := by
  constructor
  · intro ha
    obtain ⟨keeps, ⟨k, hk, rfl⟩ | ⟨i, hi, gone, -⟩ | ⟨i, hi, fresh, -⟩ | ⟨k, hk, -⟩⟩ :=
      ha.of_same_columns h.detached rfl rfl (sameOptions_self c t)
    · exact ⟨keeps, k, hk, rfl⟩
    · exact absurd hi gone
    · exact absurd hi fresh
    · cases hk
  · rintro ⟨keeps, k, hk, rfl⟩
    exact .dropForeignKey keeps hk List.not_mem_nil

theorem mem_creation {t : Table} (h : t.Distinct) {x : Change} :
    x ∈ c.creation t ↔
      x.table = t.name ∧ (x.action = .createTable t ∨ c.Needs t.bare t x.action) := by
  obtain ⟨table, action⟩ := x
  rw [needs_bare_iff h, creation, List.mem_cons, Change.mk.injEq]
  cases c.skipsConstraints with
  | true => simp
  | false =>
    simp only [Bool.false_eq_true, if_false, List.mem_append, List.mem_map, Change.mk.injEq,
      true_and]
    constructor
    · rintro (⟨rfl, rfl⟩ | ⟨i, hi, rfl, rfl⟩ | ⟨k, hk, rfl, rfl⟩)
      · exact ⟨rfl, Or.inl rfl⟩
      · exact ⟨rfl, Or.inr (Or.inl ⟨i, hi, rfl⟩)⟩
      · exact ⟨rfl, Or.inr (Or.inr ⟨k, hk, rfl⟩)⟩
    · rintro ⟨rfl, rfl | ⟨i, hi, rfl⟩ | ⟨k, hk, rfl⟩⟩
      · exact Or.inl ⟨rfl, rfl⟩
      · exact Or.inr (Or.inl ⟨i, hi, rfl, rfl⟩)
      · exact Or.inr (Or.inr ⟨k, hk, rfl, rfl⟩)

theorem mem_removal {t : Table} (h : t.Distinct) {x : Change} :
    x ∈ c.removal t ↔
      x.table = t.name ∧ (x.action = .dropTable t ∨ c.Needs t t.detached x.action) := by
  obtain ⟨table, action⟩ := x
  rw [needs_detached_iff h, removal, List.mem_append, List.mem_singleton, Change.mk.injEq]
  cases c.skipsConstraints with
  | true => simp
  | false =>
    simp only [Bool.false_eq_true, if_false, List.mem_map, Change.mk.injEq, true_and]
    constructor
    · rintro (⟨k, hk, rfl, rfl⟩ | ⟨rfl, rfl⟩)
      · exact ⟨rfl, Or.inr ⟨k, hk, rfl⟩⟩
      · exact ⟨rfl, Or.inl rfl⟩
    · rintro ⟨rfl, rfl | ⟨k, hk, rfl⟩⟩
      · exact Or.inr ⟨rfl, rfl⟩
      · exact Or.inl ⟨k, hk, rfl, rfl⟩

theorem nodup_creation {t : Table} (h : t.Distinct) : (c.creation t).Nodup := by
  unfold creation
  cases c.skipsConstraints with
  | true => exact List.nodup_singleton _
  | false =>
    refine List.nodup_cons.mpr ⟨by simp, List.nodup_append.mpr ⟨?_, ?_, ?_⟩⟩
    · exact nodup_changes_of h.indexes.of_map _ fun _ _ => by simp
    · exact nodup_changes_of h.foreignKeys.of_map _ fun _ _ => by simp
    · intro x hx y hy heq
      obtain ⟨i, -, rfl⟩ := List.mem_map.mp hx
      obtain ⟨k, -, rfl⟩ := List.mem_map.mp hy
      simp at heq

theorem nodup_removal {t : Table} (h : t.Distinct) : (c.removal t).Nodup := by
  unfold removal
  cases c.skipsConstraints with
  | true => exact List.nodup_singleton _
  | false =>
    refine List.nodup_append.mpr ⟨?_, List.nodup_singleton _, ?_⟩
    · exact nodup_changes_of h.foreignKeys.of_map _ fun _ _ => by simp
    · intro x hx y hy heq
      obtain ⟨k, -, rfl⟩ := List.mem_map.mp hx
      obtain rfl := List.mem_singleton.mp hy
      simp at heq

/-- The definitions between which the changes of a table lead while it is there. It is created
without indexes and foreign keys, and dropped without foreign keys. -/
def course? (c : Comparison) (name : String) : Option (Table × Table) :=
  match c.current.table? name, c.target.table? name with
  | some old, some new => some (old, new)
  | none, some new => some (new.bare, new)
  | some old, none => some (old, old.detached)
  | none, none => none

inductive Course (c : Comparison) (name : String) : Table → Table → Prop where
  | kept {old new : Table} (held : c.current.table? name = some old)
      (wanted : c.target.table? name = some new) : Course c name old new
  | created {new : Table} (absent : c.current.table? name = none)
      (wanted : c.target.table? name = some new) : Course c name new.bare new
  | dropped {old : Table} (held : c.current.table? name = some old)
      (unwanted : c.target.table? name = none) : Course c name old old.detached

theorem course_cases {name : String} {start goal : Table}
    (h : c.course? name = some (start, goal)) : c.Course name start goal := by
  unfold course? at h
  split at h
  · next hold hnew =>
    cases h
    exact .kept hold hnew
  · next hnone hnew =>
    cases h
    exact .created hnone hnew
  · next hold hnone =>
    cases h
    exact .dropped hold hnone
  · cases h

inductive Discovers (c : Comparison) : Change → Prop where
  | creation {name : String} {new : Table} (absent : c.current.table? name = none)
      (present : c.target.table? name = some new) : Discovers c ⟨name, .createTable new⟩
  | removal {name : String} {old : Table} (present : c.current.table? name = some old)
      (absent : c.target.table? name = none) : Discovers c ⟨name, .dropTable old⟩
  | part {name : String} {start goal : Table} {action : Action}
      (course : c.course? name = some (start, goal)) (needs : c.Needs start goal action) :
      Discovers c ⟨name, action⟩

theorem mem_changes (hc : c.current.Distinct) (ht : c.target.Distinct) {x : Change} :
    x ∈ c.changes ↔ c.Discovers x := by
  obtain ⟨name, action⟩ := x
  simp only [changes, List.mem_append, List.mem_flatMap, List.mem_filter]
  constructor
  · rintro (⟨⟨key, new⟩, hentry, hx⟩ | ⟨⟨key, old⟩, ⟨hentry, hgone⟩, hx⟩)
    · have hnew := Snapshot.table?_eq_some_iff.mpr hentry
      have hdistinct := ht.of_table? hnew
      have hkey := ht.name_of_table? hnew
      dsimp only at hx
      split at hx
      · next hnone =>
        obtain ⟨rfl, rfl | hneeds⟩ := (mem_creation hdistinct).mp hx
        · exact .creation (hkey ▸ hnone) (hkey ▸ hnew)
        · exact .part (by simp [course?, hkey, hnone, hnew]) hneeds
      · next old hold =>
        obtain ⟨rfl, hneeds⟩ := (mem_tableChanges (hc.of_table? hold) hdistinct
          ((hc.name_of_table? hold).trans hkey.symm)).mp hx
        exact .part (by simp [course?, hkey, hold, hnew]) hneeds
    · have hold := Snapshot.table?_eq_some_iff.mpr hentry
      have hkey := hc.name_of_table? hold
      have hnone : c.target.table? key = none := by simpa using hgone
      obtain ⟨rfl, rfl | hneeds⟩ := (mem_removal (hc.of_table? hold)).mp hx
      · exact .removal (hkey ▸ hold) (hkey ▸ hnone)
      · exact .part (by simp [course?, hkey, hnone, hold]) hneeds
  · intro hx
    cases hx with
    | creation absent present =>
      refine Or.inl ⟨(name, _), Snapshot.table?_eq_some_iff.mp present, ?_⟩
      simp only [absent]
      exact (mem_creation (ht.of_table? present)).mpr
        ⟨(ht.name_of_table? present).symm, Or.inl rfl⟩
    | removal present absent =>
      refine Or.inr ⟨(name, _), ⟨Snapshot.table?_eq_some_iff.mp present, by simp [absent]⟩, ?_⟩
      exact (mem_removal (hc.of_table? present)).mpr
        ⟨(hc.name_of_table? present).symm, Or.inl rfl⟩
    | part course needs =>
      cases course_cases course with
      | kept held wanted =>
        refine Or.inl ⟨(name, _), Snapshot.table?_eq_some_iff.mp wanted, ?_⟩
        simp only [held]
        exact (mem_tableChanges (hc.of_table? held) (ht.of_table? wanted)
          ((hc.name_of_table? held).trans (ht.name_of_table? wanted).symm)).mpr
          ⟨(ht.name_of_table? wanted).symm, needs⟩
      | created absent wanted =>
        refine Or.inl ⟨(name, _), Snapshot.table?_eq_some_iff.mp wanted, ?_⟩
        simp only [absent]
        exact (mem_creation (ht.of_table? wanted)).mpr
          ⟨(ht.name_of_table? wanted).symm, Or.inr needs⟩
      | dropped held unwanted =>
        refine Or.inr ⟨(name, _), ⟨Snapshot.table?_eq_some_iff.mp held, by simp [unwanted]⟩, ?_⟩
        exact (mem_removal (hc.of_table? held)).mpr
          ⟨(hc.name_of_table? held).symm, Or.inr needs⟩

theorem nodup_flatMap_entries {entries : List (String × Table)}
    (distinct : (entries.map Prod.fst).Nodup) {f : String × Table → List Change}
    (nodup : ∀ e ∈ entries, (f e).Nodup) (table : ∀ e ∈ entries, ∀ x ∈ f e, x.table = e.1) :
    (entries.flatMap f).Nodup := by
  refine List.nodup_flatMap.mpr ⟨nodup, ?_⟩
  refine List.Pairwise.imp_of_mem ?_ (List.pairwise_map.mp distinct)
  intro a b ha hb hne x hxa hxb
  exact hne ((table a ha x hxa).symm.trans (table b hb x hxb))

/-- The changes of a table are discovered together. -/
theorem changes_by_table (hc : c.current.Distinct) (ht : c.target.Distinct) :
    ∃ kept gone, c.changes = c.target.tables.entries.flatMap kept ++
        (c.current.tables.entries.filter fun e => (c.target.table? e.1).isNone).flatMap gone ∧
      (∀ e ∈ c.target.tables.entries, (kept e).Nodup ∧ ∀ x ∈ kept e, x.table = e.1) ∧
      ∀ e ∈ c.current.tables.entries, (gone e).Nodup ∧ ∀ x ∈ gone e, x.table = e.1 := by
  refine ⟨_, _, rfl, fun e he => ?_, fun e he => ?_⟩
  · dsimp only
    split
    · exact ⟨nodup_creation (ht.tables e he),
        fun x hx => ((mem_creation (ht.tables e he)).mp hx).1.trans (ht.named e he)⟩
    · next old hold =>
      have hname := (hc.name_of_table? hold).trans (ht.named e he).symm
      refine ⟨nodup_tableChanges (hc.of_table? hold) (ht.tables e he), fun x hx => ?_⟩
      exact ((mem_tableChanges (hc.of_table? hold) (ht.tables e he) hname).mp hx).1.trans
        (ht.named e he)
  · exact ⟨nodup_removal (hc.tables e he),
      fun x hx => ((mem_removal (hc.tables e he)).mp hx).1.trans (hc.named e he)⟩

theorem nodup_changes (hc : c.current.Distinct) (ht : c.target.Distinct) : c.changes.Nodup := by
  obtain ⟨kept, gone, heq, hkept, hgone⟩ := changes_by_table hc ht
  rw [heq]
  refine List.nodup_append.mpr ⟨?_, ?_, ?_⟩
  · exact nodup_flatMap_entries c.target.tables.distinct (fun e he => (hkept e he).1)
      fun e he => (hkept e he).2
  · refine nodup_flatMap_entries (c.current.tables.distinct.sublist
      (List.filter_sublist.map Prod.fst)) ?_ ?_
    · exact fun e he => (hgone e (List.mem_filter.mp he).1).1
    · exact fun e he => (hgone e (List.mem_filter.mp he).1).2
  · rintro x hx y hy rfl
    obtain ⟨e, he, hx⟩ := List.mem_flatMap.mp hx
    obtain ⟨d, hd, hy⟩ := List.mem_flatMap.mp hy
    obtain ⟨hd, habsent⟩ := List.mem_filter.mp hd
    have hsame : e.1 = d.1 := ((hkept e he).2 x hx).symm.trans ((hgone d hd).2 x hy)
    have hsome := Snapshot.table?_eq_some_iff.mpr he
    rw [hsame] at hsome
    simp [hsome] at habsent

theorem course_distinct (hc : c.current.Distinct) (ht : c.target.Distinct) {name : String}
    {start goal : Table} (h : c.course? name = some (start, goal)) :
    start.Distinct ∧ goal.Distinct ∧ start.name = name ∧ goal.name = name := by
  cases course_cases h with
  | kept held wanted =>
    exact ⟨hc.of_table? held, ht.of_table? wanted, hc.name_of_table? held,
      ht.name_of_table? wanted⟩
  | created _ wanted =>
    have hname := ht.name_of_table? wanted
    exact ⟨(ht.of_table? wanted).bare, ht.of_table? wanted, hname, hname⟩
  | dropped held _ =>
    have hname := hc.name_of_table? held
    exact ⟨hc.of_table? held, (hc.of_table? held).detached, hname, hname⟩

end Comparison

end SchemaMigration
