import Mathlib.Data.List.Nodup
import SchemaMigration.Snapshot

/-!
Well-formed snapshots: every table is found under its own name, nothing in a table can be taken for
something else, and all that keys and indexes refer to is there.
-/

namespace SchemaMigration

theorem find?_key_eq_some_iff {α β : Type} [DecidableEq β] {key : α → β} {items : List α}
    (distinct : (items.map key).Nodup) {k : β} {a : α} :
    (items.find? fun b => key b == k) = some a ↔ a ∈ items ∧ key a = k := by
  constructor
  · intro h
    exact ⟨List.mem_of_find?_eq_some h, by simpa using List.find?_some h⟩
  · rintro ⟨ha, hk⟩
    cases hf : items.find? fun b => key b == k with
    | none =>
      have := List.find?_eq_none.mp hf a ha
      simp [hk] at this
    | some b =>
      have hb : key b = k := by simpa using List.find?_some hf
      have hmem := List.mem_of_find?_eq_some hf
      rw [List.inj_on_of_nodup_map distinct hmem ha (hb.trans hk.symm)]

namespace Table

def signatures (t : Table) : List ForeignKey.Signature := t.foreignKeys.map ForeignKey.signature

structure Distinct (t : Table) : Prop where
  columns : t.columnNames.Nodup
  indexes : (t.indexes.map Index.name).Nodup
  foreignKeys : t.signatures.Nodup

instance (t : Table) : Decidable t.Distinct :=
  decidable_of_iff
    (t.columnNames.Nodup ∧ (t.indexes.map Index.name).Nodup ∧ t.signatures.Nodup)
    ⟨fun ⟨hc, hi, hk⟩ => ⟨hc, hi, hk⟩, fun h => ⟨h.columns, h.indexes, h.foreignKeys⟩⟩

theorem hasColumn_iff {t : Table} {name : String} :
    t.hasColumn name = true ↔ name ∈ t.columnNames := by
  simp [hasColumn, column?, columnNames]

theorem column?_eq_none_iff {t : Table} {name : String} :
    t.column? name = none ↔ name ∉ t.columnNames := by
  rw [← hasColumn_iff, hasColumn, Option.isSome_iff_ne_none, not_not]

theorem index?_isSome_iff {t : Table} {name : String} :
    (t.index? name).isSome = true ↔ name ∈ t.indexes.map Index.name := by
  simp [index?]

namespace Distinct

variable {t : Table}

theorem column?_eq_some_iff (h : t.Distinct) {name : String} {x : Column} :
    t.column? name = some x ↔ x ∈ t.columns ∧ x.name = name :=
  find?_key_eq_some_iff h.columns

theorem index?_eq_some_iff (h : t.Distinct) {name : String} {i : Index} :
    t.index? name = some i ↔ i ∈ t.indexes ∧ i.name = name :=
  find?_key_eq_some_iff h.indexes

theorem column_eq (h : t.Distinct) {x y : Column} (hx : x ∈ t.columns) (hy : y ∈ t.columns)
    (hname : x.name = y.name) : x = y := List.inj_on_of_nodup_map h.columns hx hy hname

theorem index_eq (h : t.Distinct) {i j : Index} (hi : i ∈ t.indexes) (hj : j ∈ t.indexes)
    (hname : i.name = j.name) : i = j := List.inj_on_of_nodup_map h.indexes hi hj hname

theorem key_eq (h : t.Distinct) {k l : ForeignKey} (hk : k ∈ t.foreignKeys)
    (hl : l ∈ t.foreignKeys) (hsig : k.signature = l.signature) : k = l :=
  List.inj_on_of_nodup_map h.foreignKeys hk hl hsig

end Distinct

structure OwnsColumns (t : Table) : Prop where
  primaryKey : ∀ name ∈ t.primaryKey, name ∈ t.columnNames
  indexes : ∀ i ∈ t.indexes, ∀ name ∈ i.columns, name ∈ t.columnNames
  foreignKeys : ∀ k ∈ t.foreignKeys, ∀ name ∈ k.columns, name ∈ t.columnNames

instance (t : Table) : Decidable t.OwnsColumns :=
  decidable_of_iff
    ((∀ name ∈ t.primaryKey, name ∈ t.columnNames) ∧
      (∀ i ∈ t.indexes, ∀ name ∈ i.columns, name ∈ t.columnNames) ∧
      ∀ k ∈ t.foreignKeys, ∀ name ∈ k.columns, name ∈ t.columnNames)
    ⟨fun ⟨hp, hi, hk⟩ => ⟨hp, hi, hk⟩, fun h => ⟨h.primaryKey, h.indexes, h.foreignKeys⟩⟩

end Table

namespace Snapshot

structure Distinct (s : Snapshot) : Prop where
  named : ∀ entry ∈ s.tables.entries, entry.2.name = entry.1
  tables : ∀ entry ∈ s.tables.entries, entry.2.Distinct

instance (s : Snapshot) : Decidable s.Distinct :=
  decidable_of_iff
    ((∀ entry ∈ s.tables.entries, entry.2.name = entry.1) ∧
      ∀ entry ∈ s.tables.entries, entry.2.Distinct)
    ⟨fun ⟨hn, ht⟩ => ⟨hn, ht⟩, fun h => ⟨h.named, h.tables⟩⟩

def HasColumn (s : Snapshot) (table column : String) : Prop :=
  ∃ t, s.table? table = some t ∧ column ∈ t.columnNames

instance (s : Snapshot) (table column : String) : Decidable (s.HasColumn table column) :=
  match h : s.table? table with
  | none => isFalse fun ⟨_, ht, _⟩ => by
    rw [h] at ht
    cases ht
  | some t => decidable_of_iff (column ∈ t.columnNames)
    ⟨fun hc => ⟨t, h, hc⟩, fun ⟨u, hu, hc⟩ => by
      rw [h] at hu
      cases hu
      exact hc⟩

/-- Whether a table of a snapshot has a foreign key. -/
def HoldsKey (s : Snapshot) (owner : String) (k : ForeignKey) : Prop :=
  ∃ t, s.table? owner = some t ∧ k ∈ t.foreignKeys

instance (s : Snapshot) (owner : String) (k : ForeignKey) : Decidable (s.HoldsKey owner k) :=
  decidable_of_iff ((s.table? owner).any (fun t => t.foreignKeys.contains k) = true)
    (by simp [HoldsKey, Option.any_eq_true])

/-- A foreign key refers to an existing table, and to columns of it. -/
def Resolves (s : Snapshot) (k : ForeignKey) : Prop :=
  (s.table? k.referencedTable).isSome ∧
    ∀ column ∈ k.referencedColumns, s.HasColumn k.referencedTable column

instance (s : Snapshot) (k : ForeignKey) : Decidable (s.Resolves k) :=
  inferInstanceAs (Decidable (_ ∧ _))

theorem resolves_iff {s : Snapshot} {k : ForeignKey} :
    s.Resolves k ↔ ∃ t, s.table? k.referencedTable = some t ∧
      ∀ name ∈ k.referencedColumns, name ∈ t.columnNames := by
  constructor
  · rintro ⟨hsome, hcolumns⟩
    obtain ⟨t, ht⟩ := Option.isSome_iff_exists.mp hsome
    refine ⟨t, ht, fun name hname => ?_⟩
    obtain ⟨u, hu, hin⟩ := hcolumns name hname
    rw [ht] at hu
    cases hu
    exact hin
  · rintro ⟨t, ht, hcolumns⟩
    exact ⟨by simp [ht], fun name hname => ⟨t, ht, hcolumns name hname⟩⟩

structure Resolved (s : Snapshot) : Prop where
  owned : ∀ entry ∈ s.tables.entries, entry.2.OwnsColumns
  referenced : ∀ entry ∈ s.tables.entries, ∀ k ∈ entry.2.foreignKeys, s.Resolves k

instance (s : Snapshot) : Decidable s.Resolved :=
  decidable_of_iff
    ((∀ entry ∈ s.tables.entries, entry.2.OwnsColumns) ∧
      ∀ entry ∈ s.tables.entries, ∀ k ∈ entry.2.foreignKeys, s.Resolves k)
    ⟨fun ⟨ho, hr⟩ => ⟨ho, hr⟩, fun h => ⟨h.owned, h.referenced⟩⟩

structure WellFormed (s : Snapshot) : Prop extends s.Distinct, s.Resolved

instance (s : Snapshot) : Decidable s.WellFormed :=
  decidable_of_iff (s.Distinct ∧ s.Resolved)
    ⟨fun ⟨hd, hr⟩ => ⟨hd, hr⟩, fun h => ⟨h.toDistinct, h.toResolved⟩⟩

variable {s : Snapshot} {name : String} {t : Table}

theorem table?_eq_some_iff : s.table? name = some t ↔ (name, t) ∈ s.tables.entries :=
  OrderedMap.find?_eq_some_iff

theorem mem_keys_iff : name ∈ s.tables.keys ↔ ∃ t, s.table? name = some t := by
  rw [← OrderedMap.contains_iff, OrderedMap.contains, Option.isSome_iff_exists]
  rfl

theorem Distinct.name_of_table? (h : s.Distinct) (ht : s.table? name = some t) : t.name = name :=
  h.named _ (table?_eq_some_iff.mp ht)

theorem Distinct.of_table? (h : s.Distinct) (ht : s.table? name = some t) : t.Distinct :=
  h.tables _ (table?_eq_some_iff.mp ht)

theorem Resolved.of_table? (h : s.Resolved) (ht : s.table? name = some t) : t.OwnsColumns :=
  h.owned _ (table?_eq_some_iff.mp ht)

theorem Resolved.resolves (h : s.Resolved) (ht : s.table? name = some t) {k : ForeignKey}
    (hk : k ∈ t.foreignKeys) : s.Resolves k :=
  h.referenced _ (table?_eq_some_iff.mp ht) k hk

end Snapshot

end SchemaMigration
