import Mathlib.Data.List.Permutation
import SchemaMigration.Proofs.Sqlite.RowOrder

/-!
What a snapshot says of the keys and indexes of a database. Their columns stand in the order of
their ranks, every number of a foreign key stands for one foreign key, and each of its columns is
given the column that it refers to. None of this, nor the snapshot as a whole, depends on the order
in which a database answers its rows.
-/

namespace SchemaMigration.Sqlite

variable {c : Catalog} {table : String}

structure InOrder {α : Type} (rank : α → Int) (rs sorted : List α) : Prop where
  perm : sorted.Perm rs
  rising : sorted.Pairwise fun a b => rank a < rank b

/-- The rank that the last row of a column gives it in the primary key. -/
def keyRank? (rs : List ColumnRow) (name : String) : Option Int :=
  (rs.reverse.find? fun row => row.name = name ∧ row.keyRank ≠ 0).map ColumnRow.keyRank

structure IsPrimaryKey (rs : List ColumnRow) (key : List String) : Prop where
  distinct : key.Nodup
  members : ∀ name, name ∈ key ↔ ∃ row ∈ rs, row.name = name ∧ row.keyRank ≠ 0
  rising : key.Pairwise fun a b => ∀ m ∈ keyRank? rs a, ∀ n ∈ keyRank? rs b, m ≤ n

structure IsIndex (c : Catalog) (row : IndexRow) (i : Index) : Prop where
  created : row.origin = "c"
  name : i.name = row.name
  unique : i.unique = row.unique
  columns : ∃ rs sorted, c.indexColumns row.name = .ok rs ∧
    InOrder IndexColumnRow.rank rs sorted ∧ sorted.map IndexColumnRow.name = i.columns.map some

/-- A foreign key over columns in the order of their ranks, each of which refers to a column: to the
given one, or to that of the primary key. -/
structure IsForeignKey (c : Catalog) (rs : List ForeignKeyRow) (key : Int) (k : ForeignKey) :
    Prop where
  nameless : k.name = none
  aligned : k.referencedColumns.length = k.columns.length
  rows : ∃ first rest, InOrder ForeignKeyRow.rank (rs.filter (·.key = key)) (first :: rest) ∧
    k.columns = (first :: rest).map ForeignKeyRow.column ∧
    k.referencedTable = first.table ∧ k.onUpdate = first.onUpdate ∧ k.onDelete = first.onDelete ∧
    ((first :: rest).map ForeignKeyRow.referenced = k.referencedColumns.map some ∨
      none ∈ (first :: rest).map ForeignKeyRow.referenced ∧
        ∃ columns, c.columns first.table = .ok columns ∧ IsPrimaryKey columns k.referencedColumns)

structure Catalog.Describes (c : Catalog) (table : Table) : Prop where
  primaryKey : ∃ rs, c.columns table.name = .ok rs ∧ IsPrimaryKey rs table.primaryKey
  indexes : ∃ rs, c.indexes table.name = .ok rs ∧
    ∀ i, i ∈ table.indexes ↔ ∃ row ∈ rs, IsIndex c row i
  foreignKeys : ∃ rs keys, c.foreignKeys table.name = .ok rs ∧ keys.Pairwise (· < ·) ∧
    (∀ key, key ∈ keys ↔ ∃ row ∈ rs, row.key = key) ∧
    List.Forall₂ (IsForeignKey c rs) keys table.foreignKeys

/-! ### Orders -/

theorem InOrder.eq {α : Type} {rank : α → Int} {rs as bs : List α} (ha : InOrder rank rs as)
    (hb : InOrder rank rs bs) : as = bs := by
  refine List.Perm.eq_of_pairwise ?_ ha.rising hb.rising (ha.perm.trans hb.perm.symm)
  intro a b _ _ hab hba
  omega

/-- A sort by ranks that are all different. -/
theorem inOrder_mergeSort {α : Type} {rank : α → Int} {le : α → α → Bool} {rs : List α}
    (trans : ∀ a b c, le a b = true → le b c = true → le a c = true)
    (total : ∀ a b, (le a b || le b a) = true) (below : ∀ a b, le a b = true → rank a ≤ rank b)
    (distinct : (rs.map rank).Nodup) : InOrder rank rs (rs.mergeSort le) where
  perm := List.mergeSort_perm rs le
  rising := by
    have different := ((List.mergeSort_perm rs le).map rank).nodup_iff.mpr distinct
    have sorted := List.pairwise_mergeSort trans total rs
    refine (sorted.and (List.pairwise_map.mp different)).imp ?_
    rintro a b ⟨hle, hne⟩
    have := below a b hle
    omega

theorem inOrder_keyRows {rs : List ForeignKeyRow}
    (distinct : (rs.map fun row => (row.key, row.rank)).Nodup) (key : Int) :
    InOrder ForeignKeyRow.rank (rs.filter (·.key = key)) (keyRows rs key) := by
  refine inOrder_mergeSort (rank_le_trans ForeignKeyRow.rank) (rank_le_total ForeignKeyRow.rank)
    (fun a b h => of_decide_eq_true h) ?_
  have apart := distinct.sublist ((List.filter_sublist (p := (·.key = key))).map _)
  refine List.Nodup.map_on ?_ apart.of_map
  intro a ha b hb hrank
  have hkey := (of_decide_eq_true (List.mem_filter.mp ha).2).trans
    (of_decide_eq_true (List.mem_filter.mp hb).2).symm
  exact List.inj_on_of_nodup_map apart ha hb (Prod.ext hkey hrank)

theorem rising_keyNumbers (rs : List ForeignKeyRow) : (keyNumbers rs).Pairwise (· < ·) :=
  (inOrder_mergeSort (rank_le_trans id) (rank_le_total id) (fun a b h => of_decide_eq_true h)
    (by simpa using nodup_eraseDups _)).rising

/-! ### Primary keys -/

def keyRanks (rs : List ColumnRow) : OrderedMap String Int :=
  .ofList ((rs.filter fun row => row.keyRank != 0).map fun row => (row.name, row.keyRank))

theorem keyColumns_eq (rs : List ColumnRow) : keyColumns rs =
    ((keyRanks rs).entries.mergeSort fun a b => decide (a.2 ≤ b.2)).map Prod.fst := rfl

theorem find?_keyRanks (rs : List ColumnRow) (name : String) :
    (keyRanks rs).find? name = keyRank? rs name := by
  have same : ∀ row : ColumnRow, decide ((row.keyRank != 0) = true ∧
      decide (row.name = name) = true) = decide (row.name = name ∧ row.keyRank ≠ 0) := by
    intro row
    simp [and_comm]
  rw [keyRanks, OrderedMap.find?_ofList, ← List.map_reverse, ← List.filter_reverse, List.find?_map,
    List.find?_filter, Option.map_map, keyRank?, ← funext same]
  rfl

theorem isPrimaryKey_keyColumns (rs : List ColumnRow) : IsPrimaryKey rs (keyColumns rs) := by
  have perm := List.mergeSort_perm (keyRanks rs).entries fun a b => decide (a.2 ≤ b.2)
  rw [keyColumns_eq]
  refine ⟨(perm.map Prod.fst).nodup_iff.mpr (keyRanks rs).distinct, ?_, ?_⟩
  · intro name
    rw [(perm.map Prod.fst).mem_iff]
    refine OrderedMap.mem_keys_ofList.trans ?_
    simp only [List.map_map, List.mem_map, List.mem_filter, bne_iff_ne, Function.comp_apply]
    constructor
    · rintro ⟨row, ⟨hrow, ranked⟩, rfl⟩
      exact ⟨row, hrow, rfl, ranked⟩
    · rintro ⟨row, hrow, rfl, ranked⟩
      exact ⟨row, ⟨hrow, ranked⟩, rfl⟩
  · have sorted := List.pairwise_mergeSort (rank_le_trans Prod.snd) (rank_le_total Prod.snd)
      (keyRanks rs).entries
    refine List.pairwise_map.mpr (sorted.imp_of_mem ?_)
    intro a b ha hb hle m hm n hn
    have found : ∀ e ∈ (keyRanks rs).entries, keyRank? rs e.1 = some e.2 := by
      intro e he
      rw [← find?_keyRanks]
      exact OrderedMap.find?_eq_some_iff.mpr he
    rw [found a (List.mem_mergeSort.mp ha)] at hm
    rw [found b (List.mem_mergeSort.mp hb)] at hn
    cases hm
    cases hn
    exact of_decide_eq_true hle

/-! ### Indexes -/

theorem map_some_filterMap {α : Type} {as : List (Option α)} (h : none ∉ as) :
    (as.filterMap id).map some = as := by
  induction as with
  | nil => rfl
  | cons a as ih =>
    rw [List.mem_cons, not_or] at h
    cases a with
    | none => exact absurd rfl h.1
    | some a => exact congrArg (some a :: ·) (ih h.2)

theorem indexOf_eq_some_iff {row : IndexRow} {columns : List IndexColumnRow} {i : Index}
    (distinct : (columns.map IndexColumnRow.rank).Nodup) :
    indexOf row columns = some i ↔ i.name = row.name ∧ i.unique = row.unique ∧
      ∃ sorted, InOrder IndexColumnRow.rank columns sorted ∧
        sorted.map IndexColumnRow.name = i.columns.map some := by
  have below : ∀ a b : IndexColumnRow, a.ordered b = true → a.rank ≤ b.rank := by
    intro a b h
    rw [IndexColumnRow.ordered_iff] at h
    omega
  have ordered := inOrder_mergeSort IndexColumnRow.ordered_trans IndexColumnRow.ordered_total
    below distinct
  unfold indexOf
  generalize columns.mergeSort IndexColumnRow.ordered = sorted at ordered
  simp only [List.contains_iff_mem]
  constructor
  · intro h
    split at h
    · cases h
    · next given =>
      cases h
      exact ⟨rfl, rfl, sorted, ordered, (map_some_filterMap given).symm⟩
  · rintro ⟨name, unique, sorted', ordered', columns⟩
    obtain rfl := ordered.eq ordered'
    have given : none ∉ i.columns.map some := by simp
    rw [columns, if_neg given]
    obtain ⟨_, _, _⟩ := i
    cases name
    cases unique
    simp

theorem isIndex_iff (apart : c.TellsApart) {row : IndexRow} {i : Index} :
    IsIndex c row i ↔ row.origin = "c" ∧ readIndex c row = .ok (some i) := by
  rw [readIndex_eq_ok_iff]
  constructor
  · rintro ⟨created, name, unique, columns, sorted, hcolumns, ordered, names⟩
    exact ⟨created, columns, hcolumns, (indexOf_eq_some_iff (apart.indexColumns _ _ hcolumns)).mpr
      ⟨name, unique, sorted, ordered, names⟩⟩
  · rintro ⟨created, columns, hcolumns, hindex⟩
    obtain ⟨name, unique, sorted, ordered, names⟩ :=
      (indexOf_eq_some_iff (apart.indexColumns _ _ hcolumns)).mp hindex
    exact ⟨created, name, unique, columns, sorted, hcolumns, ordered, names⟩

theorem isIndex_of_readIndexes (apart : c.TellsApart) {indexes : List Index}
    (h : readIndexes c table = .ok indexes) :
    ∃ rs, c.indexes table = .ok rs ∧ ∀ i, i ∈ indexes ↔ ∃ row ∈ rs, IsIndex c row i := by
  obtain ⟨rs, hrs, h⟩ := bind_eq_ok_iff.mp h
  obtain ⟨found, hfound, h⟩ := bind_eq_ok_iff.mp h
  cases h
  obtain ⟨origins, results⟩ := of_mapM_eq_ok hfound
  refine ⟨rs, rows_eq_ok_iff.mp hrs, fun i => ?_⟩
  rw [List.mem_mergeSort, List.mem_filterMap]
  constructor
  · rintro ⟨_, hi, rfl⟩
    obtain ⟨row, hrow, hread⟩ := origins _ hi
    obtain ⟨hrow, created⟩ := List.mem_filter.mp hrow
    exact ⟨row, hrow, (isIndex_iff apart).mpr ⟨by simpa using created, hread⟩⟩
  · rintro ⟨row, hrow, hindex⟩
    obtain ⟨created, hread⟩ := (isIndex_iff apart).mp hindex
    obtain ⟨r, hr, hread'⟩ := results row (List.mem_filter.mpr ⟨hrow, by simpa using created⟩)
    rw [hread] at hread'
    cases hread'
    exact ⟨some i, hr, rfl⟩

/-! ### Foreign keys -/

theorem isForeignKey_of_read {rs : List ForeignKeyRow} {key : Int} {first : ForeignKeyRow}
    {rest : List ForeignKeyRow}
    (ordered : InOrder ForeignKeyRow.rank (rs.filter (·.key = key)) (first :: rest))
    {r : Option ForeignKey} (h : readForeignKey c table (first :: rest) = .ok r) :
    ∃ k, r = some k ∧ IsForeignKey c rs key k := by
  unfold readForeignKey at h
  dsimp only at h
  split at h
  · next implicit =>
    obtain ⟨columns, hcolumns, h⟩ := bind_eq_ok_iff.mp h
    split at h
    · next aligned =>
      cases h
      refine ⟨_, rfl, rfl, ?_, first, rest, ordered, rfl, rfl, rfl, rfl, .inr ⟨?_, columns, ?_, ?_⟩⟩
      · simpa using aligned
      · simpa using implicit
      · exact rows_eq_ok_iff.mp hcolumns
      · exact isPrimaryKey_keyColumns columns
    · cases h
  · next given =>
    cases h
    have referenced := map_some_filterMap (mt List.contains_iff_mem.mpr given)
    refine ⟨_, rfl, rfl, ?_, first, rest, ordered, rfl, rfl, rfl, rfl, .inl referenced.symm⟩
    simpa using congrArg List.length referenced

/-- One after the other, what is made of some items stands for them. -/
theorem forall₂_of_mapM {α β ε : Type} {f : α → Except ε (Option β)} {p : α → β → Prop}
    {as : List α} (made : ∀ a ∈ as, ∀ r, f a = .ok r → ∃ b, r = some b ∧ p a b)
    {found : List (Option β)} (h : as.mapM f = .ok found) :
    List.Forall₂ p as (found.filterMap id) := by
  induction as generalizing found with
  | nil =>
    cases h
    exact .nil
  | cons a as ih =>
    obtain ⟨first, others⟩ := List.forall_mem_cons.mp made
    obtain ⟨r, rest, hr, hrest, rfl⟩ := mapM_cons_eq_ok_iff.mp h
    obtain ⟨b, rfl, hb⟩ := first r hr
    exact .cons hb (ih others hrest)

theorem isForeignKey_of_readForeignKeys (apart : c.TellsApart) {keys : List ForeignKey}
    (h : readForeignKeys c table = .ok keys) :
    ∃ rs, c.foreignKeys table = .ok rs ∧
      List.Forall₂ (IsForeignKey c rs) (keyNumbers rs) keys := by
  obtain ⟨rs, hrs, h⟩ := bind_eq_ok_iff.mp h
  obtain ⟨found, hfound, h⟩ := bind_eq_ok_iff.mp h
  cases h
  have answer := rows_eq_ok_iff.mp hrs
  refine ⟨rs, answer, forall₂_of_mapM (fun key hkey r hr => ?_) hfound⟩
  have ordered := inOrder_keyRows (apart.foreignKeys table rs answer) key
  obtain ⟨row, hrow, named⟩ := mem_keyNumbers.mp hkey
  cases members : keyRows rs key with
  | nil =>
    have absent := ordered.perm.mem_iff (a := row)
    simp [members, hrow, named] at absent
  | cons first rest =>
    rw [members] at ordered hr
    exact isForeignKey_of_read ordered hr

/-! ### Tables -/

theorem describes_of_readTable (apart : c.TellsApart) {row : TableRow} {t : Table}
    (h : readTable c row = .ok t) : t.name = row.name ∧ c.Describes t := by
  obtain ⟨rs, hrs, h⟩ := bind_eq_ok_iff.mp h
  obtain ⟨columns, -, h⟩ := bind_eq_ok_iff.mp h
  obtain ⟨indexes, hindexes, h⟩ := bind_eq_ok_iff.mp h
  obtain ⟨keys, hkeys, h⟩ := bind_eq_ok_iff.mp h
  cases h
  obtain ⟨keyRows, answer, members⟩ := isForeignKey_of_readForeignKeys apart hkeys
  refine ⟨rfl, ⟨rs, rows_eq_ok_iff.mp hrs, isPrimaryKey_keyColumns rs⟩,
    isIndex_of_readIndexes apart hindexes, keyRows, keyNumbers keyRows, answer,
    rising_keyNumbers keyRows, fun key => mem_keyNumbers, members⟩

theorem of_table?_ofTables {tables : List Table} {name : String} {t : Table}
    (h : (Snapshot.ofTables tables).table? name = some t) : t ∈ tables ∧ t.name = name := by
  have last := OrderedMap.find?_ofList name (tables.map fun t => (t.name, t))
  rw [Snapshot.table?, Snapshot.ofTables, last, ← List.map_reverse] at h
  obtain ⟨e, he, rfl⟩ := Option.map_eq_some_iff.mp h
  have named : e.1 = name := by simpa using List.find?_some he
  obtain ⟨t, ht, rfl⟩ := List.mem_map.mp (List.mem_of_find?_eq_some he)
  exact ⟨List.mem_reverse.mp ht, named⟩

/-- The snapshot of a database, or the failure to read it, does not depend on the order in which the
rows of indexes and foreign keys are answered; and a snapshot has every table, with its primary key,
its indexes and its foreign keys in the order of their ranks. -/
theorem reading_ignores_row_order (apart : c.TellsApart) :
    (∀ d, c.Reorders d → readSnapshot d = readSnapshot c) ∧
    ∀ s, readSnapshot c = .ok s →
      ∃ rs, c.tables = .ok rs ∧ (∀ row ∈ rs, ∃ t, s.table? row.name = some t) ∧
        ∀ name t, s.table? name = some t → t.name = name ∧ c.Describes t := by
  refine ⟨fun d h => (readSnapshot_of_reorders h apart).symm, fun s hs => ?_⟩
  obtain ⟨rs, hrs, hs⟩ := bind_eq_ok_iff.mp hs
  obtain ⟨tables, htables, hs⟩ := bind_eq_ok_iff.mp hs
  cases hs
  obtain ⟨origins, results⟩ := of_mapM_eq_ok htables
  refine ⟨rs, rows_eq_ok_iff.mp hrs, fun row hrow => ?_, fun name t ht => ?_⟩
  · obtain ⟨t, ht, hread⟩ := results row hrow
    rw [← (describes_of_readTable apart hread).1, ← Snapshot.mem_keys_iff]
    exact OrderedMap.mem_keys_ofList.mpr (by simpa using ⟨t, ht, rfl⟩)
  · obtain ⟨hmem, named⟩ := of_table?_ofTables ht
    obtain ⟨row, -, hread⟩ := origins t hmem
    exact ⟨named, (describes_of_readTable apart hread).2⟩

end SchemaMigration.Sqlite

/-! Visits to places, whose key is a country and a number in it. -/

namespace SchemaMigration.Shop

def answers {α : Type} (name : String) (rs : List α) (asked : String) : Except String (List α) :=
  .ok (if asked = name then rs else [])

def ranked (name : String) (keyRank : Int) : Sqlite.ColumnRow := ⟨name, "INT", true, none, keyRank⟩

def visitKeys : List Sqlite.ForeignKeyRow :=
  [⟨1, 1, "places", "number", none, "NO ACTION", "CASCADE"⟩,
   ⟨0, 0, "guides", "guide", some "id", "NO ACTION", "NO ACTION"⟩,
   ⟨1, 0, "places", "country", none, "NO ACTION", "CASCADE"⟩]

def visitIndexes : List Sqlite.IndexRow :=
  [⟨"by_place", false, "c"⟩, ⟨"sqlite_autoindex_visits_1", true, "pk"⟩]

def placeColumns : List Sqlite.IndexColumnRow := [⟨1, 1, "number"⟩, ⟨0, 2, "country"⟩]

/-- A database that answers the rows of its indexes and keys in the order in which `order` puts
them. -/
def visiting (order : ∀ {α : Type}, List α → List α) : Sqlite.Catalog where
  tables := .ok [⟨"places", none⟩, ⟨"visits", none⟩]
  columns asked :=
    if asked = "places" then .ok [ranked "number" 2, ranked "country" 1]
    else answers "visits" [ranked "guide" 1, ranked "number" 0, ranked "country" 0] asked
  indexes := answers "visits" (order visitIndexes)
  indexColumns := answers "by_place" (order placeColumns)
  foreignKeys := answers "visits" (order visitKeys)

def places : Table :=
  { Table.ofName "places" with
    columns := [number "number", number "country"]
    primaryKey := ["country", "number"] }

def visits : Table :=
  { Table.ofName "visits" with
    columns := [number "guide", number "number", number "country"]
    primaryKey := ["guide"]
    indexes := [⟨"by_place", ["country", "number"], false⟩]
    foreignKeys := [
      ⟨none, ["guide"], "guides", ["id"], "NO ACTION", "NO ACTION"⟩,
      ⟨none, ["country", "number"], "places", ["country", "number"], "CASCADE", "NO ACTION"⟩] }

theorem readTable_places :
    Sqlite.readTable (visiting fun rs => rs) ⟨"places", none⟩ = .ok places := by
  have key : Sqlite.keyColumns [ranked "number" 2, ranked "country" 1] = places.primaryKey := by
    cbv
  have indexes : Sqlite.readIndexes (visiting fun rs => rs) "places" = .ok [] := by cbv
  have keys : Sqlite.readForeignKeys (visiting fun rs => rs) "places" = .ok [] := by cbv
  rw [Sqlite.readTable, indexes, keys]
  exact congrArg (fun key => Except.ok { places with primaryKey := key }) key

theorem readTable_visits :
    Sqlite.readTable (visiting fun rs => rs) ⟨"visits", none⟩ = .ok visits := by
  have key : Sqlite.keyColumns [ranked "guide" 1, ranked "number" 0, ranked "country" 0] =
      visits.primaryKey := by
    cbv
  have indexes : Sqlite.readIndexes (visiting fun rs => rs) "visits" = .ok visits.indexes := by
    cbv
  have keys : Sqlite.readForeignKeys (visiting fun rs => rs) "visits" = .ok visits.foreignKeys := by
    cbv
  rw [Sqlite.readTable, indexes, keys]
  exact congrArg (fun key => Except.ok { visits with primaryKey := key }) key

theorem nodup_of_answers {α κ : Type} {key : α → κ} {name asked : String} {rs found : List α}
    (h : answers name rs asked = .ok found) (distinct : (rs.map key).Nodup) :
    (found.map key).Nodup := by
  unfold answers at h
  split at h <;> cases h
  · exact distinct
  · exact List.nodup_nil

theorem sameRows_answers {α : Type} {rs rs' : List α} (perm : rs.Perm rs') (name asked : String) :
    Sqlite.SameRows (answers name rs asked) (answers name rs' asked) := by
  refine .answer rfl rfl ?_
  split
  · exact perm
  · exact .refl []

/-- The visits are read as they are, whether the rows come in one order or in the other. -/
theorem visits_read_in_any_order :
    (visiting fun rs => rs).TellsApart ∧
      (visiting fun rs => rs).Reorders (visiting List.reverse) ∧
      Sqlite.readSnapshot (visiting List.reverse) = .ok (.ofTables [places, visits]) ∧
      (visiting fun rs => rs).Describes visits := by
  have apart : (visiting fun rs => rs).TellsApart :=
    ⟨fun _ _ h => nodup_of_answers h (by decide), fun _ _ h => nodup_of_answers h (by decide),
      fun _ _ h => nodup_of_answers h (by decide), fun _ _ _ _ _ => ⟨_, rfl⟩⟩
  have reorders : (visiting fun rs => rs).Reorders (visiting List.reverse) :=
    ⟨rfl, rfl, sameRows_answers (List.reverse_perm _).symm _,
      sameRows_answers (List.reverse_perm _).symm _, sameRows_answers (List.reverse_perm _).symm _⟩
  have read : Sqlite.readSnapshot (visiting fun rs => rs) = .ok (.ofTables [places, visits]) := by
    have tables : [⟨"places", none⟩, ⟨"visits", none⟩].mapM
        (Sqlite.readTable (visiting fun rs => rs)) = .ok [places, visits] :=
      mapM_cons_eq_ok_iff.mpr ⟨places, _, readTable_places,
        mapM_cons_eq_ok_iff.mpr ⟨visits, [], readTable_visits, rfl, rfl⟩, rfl⟩
    exact congrArg (Except.map Snapshot.ofTables) tables
  obtain ⟨same, shape⟩ := Sqlite.reading_ignores_row_order apart
  obtain ⟨rs, -, -, described⟩ := shape _ read
  exact ⟨apart, reorders, (same _ reorders).trans read, (described "visits" visits rfl).2⟩

end SchemaMigration.Shop
