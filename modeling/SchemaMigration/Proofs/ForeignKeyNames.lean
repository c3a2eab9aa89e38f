import SchemaMigration.Proofs.ForeignKeyChanges
import SchemaMigration.Proofs.Validation

/-!
Names of projected foreign keys. A foreign key that was given no name gets one that is made of its
table and its columns. The rules compare neither the given names nor the made ones, and they let
foreign keys without columns pass, so a schema itself has to keep its foreign keys apart.
-/

namespace SchemaMigration

/-! ### Names that are made -/

theorem ForeignKey.generatedName_eq_iff {table : String} {a b : List String} :
    generatedName table a = generatedName table b ↔ "_".intercalate a = "_".intercalate b := by
  simp [generatedName]

/-- Names without the mark that joins them can be told from what is joined. -/
theorem intercalate_inj_of_plain {a b : List String} (ha : a ≠ []) (hb : b ≠ [])
    (plain_a : ∀ n ∈ a, '_' ∉ n.toList) (plain_b : ∀ n ∈ b, '_' ∉ n.toList)
    (h : "_".intercalate a = "_".intercalate b) : a = b := by
  have split : ∀ {names : List String}, names ≠ [] → (∀ n ∈ names, '_' ∉ n.toList) →
      (("_".intercalate names).toList.splitOn '_') = names.map String.toList := by
    intro names hne plain
    rw [String.toList_intercalate]
    exact List.splitOn_intercalate '_' (by simpa using plain) (by simpa using hne)
  have same : a.map String.toList = b.map String.toList := by
    rw [← split ha plain_a, ← split hb plain_b, h]
  exact (List.map_injective_iff.mpr fun s t => String.toList_inj.mp) same

namespace ForeignKeyDef

/-- What a foreign key is called in a projection. -/
def projectedName (table : String) (k : ForeignKeyDef) : String :=
  (Text.nonempty? k.name).getD (ForeignKey.generatedName table k.columns)

inductive Clashes (table : String) (k l : ForeignKeyDef) : Prop where
  | given {name : String} (first : Text.nonempty? k.name = some name)
      (second : Text.nonempty? l.name = some name)
  | taken (first : Text.nonempty? k.name = some (ForeignKey.generatedName table l.columns))
      (second : Text.nonempty? l.name = none)
  | foreseen (first : Text.nonempty? k.name = none)
      (second : Text.nonempty? l.name = some (ForeignKey.generatedName table k.columns))
  | joined (first : Text.nonempty? k.name = none) (second : Text.nonempty? l.name = none)
      (same : "_".intercalate k.columns = "_".intercalate l.columns)

theorem clashes_iff {table : String} {k l : ForeignKeyDef} :
    k.Clashes table l ↔ k.projectedName table = l.projectedName table := by
  unfold projectedName
  constructor
  · intro h
    cases h with
    | given first second =>
      rw [first, second]
      rfl
    | taken first second =>
      rw [first, second]
      rfl
    | foreseen first second =>
      rw [first, second]
      rfl
    | joined first second same =>
      rw [first, second]
      exact ForeignKey.generatedName_eq_iff.mpr same
  · intro h
    cases first : Text.nonempty? k.name with
    | some name =>
      rw [first, Option.getD_some] at h
      cases second : Text.nonempty? l.name with
      | some other =>
        rw [second, Option.getD_some] at h
        exact .given first (h ▸ second)
      | none =>
        rw [second, Option.getD_none] at h
        exact .taken (h ▸ first) second
    | none =>
      rw [first, Option.getD_none] at h
      cases second : Text.nonempty? l.name with
      | some other =>
        rw [second, Option.getD_some] at h
        exact .foreseen first (h ▸ second)
      | none =>
        rw [second, Option.getD_none] at h
        exact .joined first second (ForeignKey.generatedName_eq_iff.mp h)

instance (table : String) (k l : ForeignKeyDef) : Decidable (k.Clashes table l) :=
  decidable_of_iff _ clashes_iff.symm

/-- A foreign key that cannot be taken for another one by its name: the given name does not look
like one that is made, and a made one shows the columns it is made of. -/
structure Plain (k : ForeignKeyDef) : Prop where
  given : ∀ name, Text.nonempty? k.name = some name → ¬ "fk_".toList <+: name.toList
  covering : k.columns ≠ []
  columns : ∀ n ∈ k.columns, '_' ∉ n.toList

theorem prefix_generatedName (table : String) (columns : List String) :
    "fk_".toList <+: (ForeignKey.generatedName table columns).toList := by
  simp [ForeignKey.generatedName]

/-- Plain foreign keys clash only if they were given one name, or none and the same columns. -/
theorem Clashes.of_plain {table : String} {k l : ForeignKeyDef} (h : k.Clashes table l)
    (hk : k.Plain) (hl : l.Plain) :
    Text.nonempty? k.name = Text.nonempty? l.name ∧
      (Text.nonempty? k.name = none → k.columns = l.columns) := by
  cases h with
  | given first second =>
    refine ⟨first.trans second.symm, fun none => ?_⟩
    rw [first] at none
    cases none
  | taken first _ => exact absurd (prefix_generatedName _ _) (hk.given _ first)
  | foreseen _ second => exact absurd (prefix_generatedName _ _) (hl.given _ second)
  | joined first second same =>
    exact ⟨first.trans second.symm, fun _ =>
      intercalate_inj_of_plain hk.covering hl.covering hk.columns hl.columns same⟩

end ForeignKeyDef

/-! ### Names in a projection -/

structure Table.KeysApart (t : Table) : Prop extends t.KeysNamed where
  covering : ∀ k ∈ t.foreignKeys, k.columns ≠ []

structure TableDef.KeysApart (t : TableDef) : Prop where
  covering : ∀ k ∈ t.foreignKeys, k.columns ≠ []
  names : t.foreignKeys.Pairwise fun k l => ¬ k.Clashes t.name l

instance (t : TableDef) : Decidable t.KeysApart :=
  decidable_of_iff
    ((∀ k ∈ t.foreignKeys, k.columns ≠ []) ∧
      t.foreignKeys.Pairwise fun k l => ¬ k.Clashes t.name l)
    ⟨fun ⟨hc, hn⟩ => ⟨hc, hn⟩, fun h => ⟨h.covering, h.names⟩⟩

/-- Plain foreign keys are apart if they were given different names, or none and different
columns. -/
theorem TableDef.KeysApart.of_plain {t : TableDef} (plain : ∀ k ∈ t.foreignKeys, k.Plain)
    (differ : t.foreignKeys.Pairwise fun k l => Text.nonempty? k.name = Text.nonempty? l.name →
      Text.nonempty? k.name = none ∧ k.columns ≠ l.columns) : t.KeysApart where
  covering k hk := (plain k hk).covering
  names := by
    refine differ.imp_of_mem fun hk hl differs clashes => ?_
    obtain ⟨same, joined⟩ := clashes.of_plain (plain _ hk) (plain _ hl)
    obtain ⟨unnamed, columns⟩ := differs same
    exact columns (joined unnamed)

namespace Projection

variable {p : Projection} {schema : Schema} {t : TableDef} {table : Table} {s : Snapshot}

theorem Makes.keyNames (h : p.Makes t table) :
    table.foreignKeys.map ForeignKey.name =
      t.foreignKeys.map fun k => some (k.projectedName t.name) := by
  rw [h.foreignKeys, List.map_map]
  rfl

/-- The foreign keys of a table are apart exactly if those of its definition are. -/
theorem Makes.keysApart_iff (h : p.Makes t table) : table.KeysApart ↔ t.KeysApart := by
  have names : (table.foreignKeys.map ForeignKey.name).Nodup ↔
      t.foreignKeys.Pairwise fun k l => ¬ k.Clashes t.name l := by
    rw [h.keyNames, List.nodup_iff_pairwise_ne, List.pairwise_map]
    simp only [ForeignKeyDef.clashes_iff, Ne, Option.some.injEq]
  have covering : (∀ k ∈ table.foreignKeys, k.columns ≠ []) ↔
      ∀ k ∈ t.foreignKeys, k.columns ≠ [] := by
    rw [h.foreignKeys, List.forall_mem_map]
    rfl
  constructor
  · exact fun apart => ⟨covering.mp apart.covering, names.mp apart.distinct⟩
  · intro apart
    refine ⟨⟨?_, names.mpr apart.names⟩, covering.mpr apart.covering⟩
    rw [h.foreignKeys, List.forall_mem_map]
    exact fun k _ => rfl

/-- Every schema that the rules accept has a projection, and in its tables the foreign keys have
columns and names of their own exactly if the schema keeps its foreign keys apart. -/
theorem keys_apart_iff (valid : p.rules.validate schema = .ok ()) :
    ∃ s, p.snapshot schema = .ok s ∧
      ((∀ entry ∈ s.tables.entries, entry.2.KeysApart) ↔ ∀ t ∈ schema.tables, t.KeysApart) := by
  obtain ⟨s, hs, -⟩ := snapshot_ok valid
  obtain ⟨tables, hmade, -, entries, -⟩ := entries_of_snapshot hs
  obtain ⟨origins, results⟩ := of_mapM_eq_ok hmade
  refine ⟨s, hs, ?_⟩
  rw [entries, List.forall_mem_map]
  constructor
  · intro apart t ht
    obtain ⟨table, htable, hfrom⟩ := results t ht
    exact (makes_of_table hfrom).keysApart_iff.mp (apart table htable)
  · intro apart table htable
    obtain ⟨t, ht, hfrom⟩ := origins table htable
    exact (makes_of_table hfrom).keysApart_iff.mpr (apart t ht)

end Projection

namespace Shop

def ordersWith (keys : List ForeignKeyDef) : TableDef where
  name := "orders"
  columns := [⟨"id", "INT", none, none, false, none, none, none⟩,
    ⟨"user", "INT", none, none, false, none, none, none⟩]
  primaryKey := ["id"]
  indexes := []
  foreignKeys := keys
  charset := none
  collation := none

def ledger (keys : List ForeignKeyDef) : Schema :=
  { Schema.ofName "shop" with tables := [ordersWith keys] }

/-- One foreign key is called by its author, the others by their columns. -/
def toldApart : List ForeignKeyDef := [
  ⟨some "owner", ["user"], "orders", ["id"], .cascade, .noAction⟩,
  ⟨none, ["user"], "orders", ["id"], .noAction, .noAction⟩,
  ⟨none, ["id", "user"], "orders", ["id", "id"], .noAction, .noAction⟩]

theorem keys_told_apart :
    Rules.neutral.validate (ledger toldApart) = .ok () ∧
      ∃ s, (Projection.ofRules .neutral).snapshot (ledger toldApart) = .ok s ∧
        ∀ entry ∈ s.tables.entries, entry.2.KeysApart := by
  have valid : (Projection.ofRules .neutral).rules.validate (ledger toldApart) = .ok () := rfl
  obtain ⟨s, hs, apart⟩ := Projection.keys_apart_iff valid
  exact ⟨valid, s, hs, apart.mpr (by decide)⟩

def mistaken : List ForeignKeyDef := [
  ⟨some "owner", ["user"], "orders", ["id"], .cascade, .noAction⟩,
  ⟨some "owner", ["id"], "orders", ["id"], .noAction, .noAction⟩,
  ⟨none, [], "orders", [], .noAction, .noAction⟩]

/-- The rules accept what no database does. -/
theorem mistaken_keys_are_accepted :
    Rules.neutral.validate (ledger mistaken) = .ok () ∧
      ∃ s t, (Projection.ofRules .neutral).snapshot (ledger mistaken) = .ok s ∧
        s.table? "orders" = some t ∧ ¬ (t.foreignKeys.map ForeignKey.name).Nodup ∧
        ∃ k ∈ t.foreignKeys, k.columns = [] := by
  exact ⟨rfl, _, _, rfl, rfl, by decide, by decide⟩

end Shop

end SchemaMigration
