import SchemaMigration.Proofs.Midway

/-!
When there is nothing to do. A comparison finds no change exactly if its snapshots have the same
structure, as far as the dialect can tell and the policy looks. Names of foreign keys and the order
of tables, columns, indexes and foreign keys are no part of that structure.
-/

namespace SchemaMigration

structure Column.Matches (rules : Rules) (x y : Column) : Prop where
  name : x.name = y.name
  type : x.type = y.type
  length : x.length = y.length
  scale : x.scale = y.scale
  enumValues : x.enumValues = y.enumValues
  nullable : x.nullable = y.nullable
  default : x.default = y.default
  collation : rules.comparesCollations = true → x.collation = y.collation

theorem Column.Matches.symm {rules : Rules} {x y : Column} (h : x.Matches rules y) :
    y.Matches rules x :=
  ⟨h.name.symm, h.type.symm, h.length.symm, h.scale.symm, h.enumValues.symm, h.nullable.symm,
    h.default.symm, fun compares => (h.collation compares).symm⟩

theorem Column.Matches.refl (rules : Rules) (x : Column) : x.Matches rules x :=
  ⟨rfl, rfl, rfl, rfl, rfl, rfl, rfl, fun _ => rfl⟩

namespace Table

structure Named (t : Table) : Prop where
  columns : t.columnNames.Nodup
  indexes : (t.indexes.map Index.name).Nodup

instance (t : Table) : Decidable t.Named :=
  decidable_of_iff (t.columnNames.Nodup ∧ (t.indexes.map Index.name).Nodup)
    ⟨fun ⟨hc, hi⟩ => ⟨hc, hi⟩, fun h => ⟨h.columns, h.indexes⟩⟩

/-- Two tables have the same columns, the same primary key in the same order and the same options.
Unless constraints are skipped, they have the same indexes and foreign keys that do the same. -/
structure Matches (rules : Rules) (skipsConstraints : Bool) (t u : Table) : Prop where
  name : t.name = u.name
  columns : ∀ x ∈ t.columns, ∃ y ∈ u.columns, x.Matches rules y
  noOthers : ∀ y ∈ u.columns, ∃ x ∈ t.columns, x.Matches rules y
  primaryKey : t.primaryKey = u.primaryKey
  options : rules.comparesCollations = true → t.charset = u.charset ∧ t.collation = u.collation
  indexes : skipsConstraints = false → ∀ i, i ∈ t.indexes ↔ i ∈ u.indexes
  foreignKeys : skipsConstraints = false → ∀ s, s ∈ t.signatures ↔ s ∈ u.signatures

variable {rules : Rules} {skipsConstraints : Bool} {t u : Table}

theorem Matches.symm (h : t.Matches rules skipsConstraints u) :
    u.Matches rules skipsConstraints t where
  name := h.name.symm
  columns y hy := by
    obtain ⟨x, hx, same⟩ := h.noOthers y hy
    exact ⟨x, hx, same.symm⟩
  noOthers x hx := by
    obtain ⟨y, hy, same⟩ := h.columns x hx
    exact ⟨y, hy, same.symm⟩
  primaryKey := h.primaryKey.symm
  options compares := ⟨(h.options compares).1.symm, (h.options compares).2.symm⟩
  indexes keeps i := (h.indexes keeps i).symm
  foreignKeys keeps s := (h.foreignKeys keeps s).symm

theorem Matches.refl (rules : Rules) (skipsConstraints : Bool) (t : Table) :
    t.Matches rules skipsConstraints t where
  name := rfl
  columns x hx := ⟨x, hx, .refl rules x⟩
  noOthers x hx := ⟨x, hx, .refl rules x⟩
  primaryKey := rfl
  options _ := ⟨rfl, rfl⟩
  indexes _ _ := Iff.rfl
  foreignKeys _ _ := Iff.rfl

end Table

namespace Snapshot

structure Named (s : Snapshot) : Prop where
  named : ∀ entry ∈ s.tables.entries, entry.2.name = entry.1
  tables : ∀ entry ∈ s.tables.entries, entry.2.Named

instance (s : Snapshot) : Decidable s.Named :=
  decidable_of_iff
    ((∀ entry ∈ s.tables.entries, entry.2.name = entry.1) ∧
      ∀ entry ∈ s.tables.entries, entry.2.Named)
    ⟨fun ⟨hn, ht⟩ => ⟨hn, ht⟩, fun h => ⟨h.named, h.tables⟩⟩

variable {a b : Snapshot} {name : String} {t : Table}

theorem Named.name_of_table? (h : a.Named) (ht : a.table? name = some t) : t.name = name :=
  h.named _ (table?_eq_some_iff.mp ht)

theorem Named.of_table? (h : a.Named) (ht : a.table? name = some t) : t.Named :=
  h.tables _ (table?_eq_some_iff.mp ht)

structure Matches (rules : Rules) (skipsConstraints : Bool) (a b : Snapshot) : Prop where
  names : ∀ name, name ∈ a.tables.keys ↔ name ∈ b.tables.keys
  tables : ∀ name t u, a.table? name = some t → b.table? name = some u →
    t.Matches rules skipsConstraints u

variable {rules : Rules} {skipsConstraints : Bool}

theorem Matches.symm (h : a.Matches rules skipsConstraints b) :
    b.Matches rules skipsConstraints a where
  names name := (h.names name).symm
  tables name t u ht hu := (h.tables name u t hu ht).symm

theorem Matches.refl (rules : Rules) (skipsConstraints : Bool) (a : Snapshot) :
    a.Matches rules skipsConstraints a where
  names _ := Iff.rfl
  tables name t u ht hu := by
    rw [ht] at hu
    cases hu
    exact .refl rules skipsConstraints t

end Snapshot

namespace Comparison

variable {c : Comparison} {old new : Table}

/-! ### Tables without changes -/

theorem matches_iff {x y : Column} :
    x.Matches c.rules y ↔
      x.name = y.name ∧ c.sameType x y = true ∧ x.SameNullDefault y = true := by
  rw [sameType_iff, Column.sameNullDefault_iff]
  constructor
  · intro h
    exact ⟨h.name, ⟨h.type, h.length, h.scale, h.enumValues, h.collation⟩, h.nullable, h.default⟩
  · rintro ⟨name, ⟨type, length, scale, enumValues, collation⟩, nullable, default⟩
    exact ⟨name, type, length, scale, enumValues, nullable, default, collation⟩

/-- A change that is made unless a test is passed. -/
theorem unless_eq_nil_iff (passed : Bool) (x : Change) :
    (if passed then [] else [x]) = [] ↔ passed = true := by
  cases passed <;> simp

theorem columnChanges_eq_nil_iff (ho : old.Named) {y : Column} :
    c.columnChanges old new y = [] ↔ ∃ x ∈ old.columns, x.Matches c.rules y := by
  have found : ∀ x, old.column? y.name = some x ↔ x ∈ old.columns ∧ x.name = y.name :=
    fun x => find?_key_eq_some_iff ho.columns
  unfold columnChanges
  split
  · next hnone =>
    constructor
    · intro h
      cases h
    · rintro ⟨x, hx, same⟩
      rw [(found x).mpr ⟨hx, same.name⟩] at hnone
      cases hnone
  · next x hsome =>
    obtain ⟨hx, hname⟩ := (found x).mp hsome
    rw [List.append_eq_nil_iff, unless_eq_nil_iff, unless_eq_nil_iff]
    constructor
    · rintro ⟨type, nullDefault⟩
      exact ⟨x, hx, matches_iff.mpr ⟨hname, type, nullDefault⟩⟩
    · rintro ⟨z, hz, same⟩
      have heq : some x = some z := hsome.symm.trans ((found z).mpr ⟨hz, same.name⟩)
      cases heq
      exact (matches_iff.mp same).2

theorem droppedColumns_eq_nil_iff :
    droppedColumns old new = [] ↔ ∀ x ∈ old.columns, x.name ∈ new.columnNames := by
  simp [droppedColumns, List.filter_eq_nil_iff, Table.hasColumn_iff]

theorem foreignKeyChanges_eq_nil_iff :
    foreignKeyChanges old new = [] ↔ ∀ s, s ∈ old.signatures ↔ s ∈ new.signatures := by
  have known : ∀ (t : Table) s, s ∈ t.signatures ↔ ∃ k, (s, k) ∈ (keysOf t).entries := by
    intro t s
    have hkeys : s ∈ (keysOf t).keys ↔ s ∈ t.signatures := by
      rw [← OrderedMap.contains_iff, contains_keysOf, List.contains_iff_mem]
    rw [← hkeys, OrderedMap.keys, List.mem_map]
    constructor
    · rintro ⟨⟨_, k⟩, hk, rfl⟩
      exact ⟨k, hk⟩
    · rintro ⟨k, hk⟩
      exact ⟨(s, k), hk, rfl⟩
  have quiet : ∀ t u : Table, ((keysOf t).entries.filter fun e => !(keysOf u).contains e.1) = [] ↔
      ∀ s ∈ t.signatures, s ∈ u.signatures := by
    intro t u
    simp only [List.filter_eq_nil_iff, contains_keysOf, Bool.not_eq_true, Bool.not_eq_false',
      List.contains_iff_mem]
    constructor
    · intro h s hs
      obtain ⟨k, hk⟩ := (known t s).mp hs
      exact h _ hk
    · rintro h ⟨s, k⟩ hk
      exact h s ((known t s).mpr ⟨k, hk⟩)
  rw [foreignKeyChanges, List.append_eq_nil_iff, List.map_eq_nil_iff, List.map_eq_nil_iff, quiet,
    quiet]
  exact ⟨fun h s => ⟨h.1 s, h.2 s⟩, fun h => ⟨fun s => (h s).mp, fun s => (h s).mpr⟩⟩

theorem indexChanges_eq_nil_iff (ho : old.Named) (hn : new.Named) :
    indexChanges old new = [] ↔ ∀ i, i ∈ old.indexes ↔ i ∈ new.indexes := by
  have found : ∀ {t : Table}, t.Named → ∀ i, (t.index? i.name != some i) = true ↔ i ∉ t.indexes := by
    intro t ht i
    have hfind : t.index? i.name = some i ↔ i ∈ t.indexes ∧ i.name = i.name :=
      find?_key_eq_some_iff ht.indexes
    rw [bne_iff_ne, Ne, hfind, and_iff_left rfl]
  rw [indexChanges, List.append_eq_nil_iff, List.map_eq_nil_iff, List.map_eq_nil_iff,
    List.filter_eq_nil_iff, List.filter_eq_nil_iff]
  simp only [found ho, found hn, not_not]
  exact ⟨fun h i => ⟨h.1 i, h.2 i⟩, fun h => ⟨fun i => (h i).mp, fun i => (h i).mpr⟩⟩

theorem sameOptions_iff : c.sameOptions old new = true ↔
    (c.rules.comparesCollations = true →
      old.charset = new.charset ∧ old.collation = new.collation) := by
  cases h : c.rules.comparesCollations <;> simp [sameOptions, h]

/-- A table needs no change exactly if its definitions match. -/
theorem tableChanges_eq_nil_iff (ho : old.Named) (hn : new.Named) (hname : old.name = new.name) :
    c.tableChanges old new = [] ↔ old.Matches c.rules c.skipsConstraints new := by
  have constraints : (if c.skipsConstraints then []
      else foreignKeyChanges old new ++ indexChanges old new) = [] ↔
      (c.skipsConstraints = false → ∀ i, i ∈ old.indexes ↔ i ∈ new.indexes) ∧
        (c.skipsConstraints = false → ∀ s, s ∈ old.signatures ↔ s ∈ new.signatures) := by
    cases c.skipsConstraints with
    | true => simp
    | false =>
      simp only [Bool.false_eq_true, if_false, List.append_eq_nil_iff, true_implies,
        foreignKeyChanges_eq_nil_iff, indexChanges_eq_nil_iff ho hn]
      exact And.comm
  have altered : (if old.primaryKey == new.primaryKey && c.sameOptions old new then []
      else [(⟨new.name, .alterTable old new⟩ : Change)]) = [] ↔
      old.primaryKey = new.primaryKey ∧ c.sameOptions old new = true := by
    rw [unless_eq_nil_iff, Bool.and_eq_true, beq_iff_eq]
  simp only [tableChanges, List.append_eq_nil_iff, List.flatMap_eq_nil_iff, constraints, altered,
    columnChanges_eq_nil_iff ho, droppedColumns_eq_nil_iff, sameOptions_iff]
  constructor
  · rintro ⟨⟨⟨⟨indexes, foreignKeys⟩, noOthers⟩, kept⟩, primaryKey, options⟩
    refine ⟨hname, fun x hx => ?_, noOthers, primaryKey, options, indexes, foreignKeys⟩
    obtain ⟨y, hy, hyx⟩ := List.mem_map.mp (kept x hx)
    obtain ⟨z, hz, same⟩ := noOthers y hy
    obtain rfl : z = x := List.inj_on_of_nodup_map ho.columns hz hx (same.name.trans hyx)
    exact ⟨y, hy, same⟩
  · intro h
    refine ⟨⟨⟨⟨h.indexes, h.foreignKeys⟩, h.noOthers⟩, fun x hx => ?_⟩, h.primaryKey, h.options⟩
    obtain ⟨y, hy, same⟩ := h.columns x hx
    exact same.name ▸ List.mem_map_of_mem hy

/-! ### Snapshots without changes -/

theorem creation_ne_nil (t : Table) : c.creation t ≠ [] := List.cons_ne_nil _ _

theorem removal_ne_nil (t : Table) : c.removal t ≠ [] :=
  List.append_ne_nil_of_right_ne_nil _ (List.cons_ne_nil _ _)

theorem changes_eq_nil_iff (hc : c.current.Named) (ht : c.target.Named) :
    c.changes = [] ↔ c.current.Matches c.rules c.skipsConstraints c.target := by
  rw [changes, List.append_eq_nil_iff, List.flatMap_eq_nil_iff, List.flatMap_eq_nil_iff]
  constructor
  · rintro ⟨kept, gone⟩
    have wanted : ∀ name new, c.target.table? name = some new → ∃ old,
        c.current.table? name = some old ∧ old.Matches c.rules c.skipsConstraints new := by
      intro name new hnew
      have quiet := kept _ (Snapshot.table?_eq_some_iff.mp hnew)
      cases hold : c.current.table? name with
      | none =>
        simp only [hold] at quiet
        exact absurd quiet (creation_ne_nil new)
      | some old =>
        simp only [hold] at quiet
        have hname := (hc.name_of_table? hold).trans (ht.name_of_table? hnew).symm
        exact ⟨old, rfl,
          (tableChanges_eq_nil_iff (hc.of_table? hold) (ht.of_table? hnew) hname).mp quiet⟩
    refine ⟨fun name => ?_, fun name old new hold hnew => ?_⟩
    · rw [Snapshot.mem_keys_iff, Snapshot.mem_keys_iff]
      constructor
      · rintro ⟨old, hold⟩
        by_contra absent
        have hnone : c.target.table? name = none :=
          Option.eq_none_iff_forall_not_mem.mpr fun new hnew => absent ⟨new, hnew⟩
        have mem : (name, old) ∈ c.current.tables.entries.filter
            fun entry => (c.target.table? entry.1).isNone :=
          List.mem_filter.mpr ⟨Snapshot.table?_eq_some_iff.mp hold, by simp [hnone]⟩
        exact removal_ne_nil old (gone _ mem)
      · rintro ⟨new, hnew⟩
        obtain ⟨old, hold, -⟩ := wanted name new hnew
        exact ⟨old, hold⟩
    · obtain ⟨old', hold', same⟩ := wanted name new hnew
      rw [hold] at hold'
      cases hold'
      exact same
  · intro same
    constructor
    · rintro ⟨name, new⟩ hentry
      have hnew := Snapshot.table?_eq_some_iff.mpr hentry
      obtain ⟨old, hold⟩ := Snapshot.mem_keys_iff.mp
        ((same.names name).mpr (Snapshot.mem_keys_iff.mpr ⟨new, hnew⟩))
      have hname := (hc.name_of_table? hold).trans (ht.name_of_table? hnew).symm
      simp only [hold]
      exact (tableChanges_eq_nil_iff (hc.of_table? hold) (ht.of_table? hnew) hname).mpr
        (same.tables name old new hold hnew)
    · rintro ⟨name, old⟩ hentry
      obtain ⟨hentry, hgone⟩ := List.mem_filter.mp hentry
      have hold := Snapshot.table?_eq_some_iff.mpr hentry
      obtain ⟨new, hnew⟩ := Snapshot.mem_keys_iff.mp
        ((same.names name).mp (Snapshot.mem_keys_iff.mpr ⟨old, hold⟩))
      simp [hnew] at hgone

/-- There is a difference, and it holds no change. -/
def FindsNothing (c : Comparison) : Prop := ∃ d, c.difference = .ok d ∧ d.isEmpty = true

theorem findsNothing_iff : c.FindsNothing ↔ c.changes = [] := by
  have hchanges : c.steps.map Step.change = c.changes := changes_numbered [] c.changes
  constructor
  · rintro ⟨d, hd, hempty⟩
    obtain ⟨-, -, -, hsteps⟩ := difference_ok hd
    have hnone : c.steps.mergeSort inPhaseOrder = [] := by
      rw [← hsteps]
      exact List.isEmpty_iff.mp hempty
    have hperm := List.mergeSort_perm c.steps inPhaseOrder
    rw [hnone] at hperm
    rw [← hchanges, ← hperm.nil_eq]
    rfl
  · intro hnone
    have hsteps : c.steps = [] := by
      rw [steps, hnone]
      rfl
    obtain ⟨g, -, -, -, hd⟩ := difference_of_nodup (c := c) (by simp [hsteps])
    exact ⟨_, hd, by simp [Difference.isEmpty, hsteps]⟩

def reversed (c : Comparison) : Comparison := { c with current := c.target, target := c.current }

/-- Nothing is found exactly between snapshots that match. So it does not matter which of them is
the current one, and between a snapshot and itself nothing is ever found. -/
theorem findsNothing_iff_matches (hc : c.current.Named) (ht : c.target.Named) :
    (c.FindsNothing ↔ c.current.Matches c.rules c.skipsConstraints c.target) ∧
      (c.FindsNothing ↔ c.reversed.FindsNothing) ∧
      FindsNothing { c with target := c.current } := by
  have forward : c.FindsNothing ↔ c.current.Matches c.rules c.skipsConstraints c.target :=
    findsNothing_iff.trans (changes_eq_nil_iff hc ht)
  have backward : c.reversed.FindsNothing ↔
      c.target.Matches c.rules c.skipsConstraints c.current :=
    findsNothing_iff.trans (changes_eq_nil_iff (c := c.reversed) ht hc)
  refine ⟨forward, ?_, ?_⟩
  · rw [forward, backward]
    exact ⟨Snapshot.Matches.symm, Snapshot.Matches.symm⟩
  · refine findsNothing_iff.mpr ?_
    exact (changes_eq_nil_iff (c := { c with target := c.current }) hc hc).mpr
      (.refl c.rules c.skipsConstraints c.current)

end Comparison

namespace Shop

def rearranged : Snapshot :=
  .ofTables [
    { orders with
      columns := orders.columns.reverse
      foreignKeys := orders.foreignKeys.map fun k => { k with name := none } },
    users]

theorem rearranged_matches :
    comparison.current ≠ rearranged ∧
      comparison.current.Matches .neutral false rearranged ∧
      Comparison.FindsNothing ⟨rearranged, comparison.current, .neutral, false⟩ := by
  have nothing : Comparison.FindsNothing ⟨comparison.current, rearranged, .neutral, false⟩ :=
    ⟨⟨comparison.current, rearranged, []⟩, by decide, rfl⟩
  obtain ⟨same, back, -⟩ := Comparison.findsNothing_iff_matches
    (c := ⟨comparison.current, rearranged, .neutral, false⟩) (by decide) (by decide)
  exact ⟨by decide, same.mp nothing, back.mp nothing⟩

end Shop

end SchemaMigration
