import Mathlib.Data.List.Dedup
import SchemaMigration.Proofs.Reading

/-!
The order of the rows that a database answers. Indexes are sorted by name, their columns and those
of foreign keys by rank, and foreign keys by number. As long as these tell the rows apart, a
snapshot, or the failure to read one, does not depend on the order in which the rows come.
-/

namespace SchemaMigration

/-- A sort does not mind the order of its items if it never takes two of them for equal. -/
theorem mergeSort_eq_of_perm {α : Type} {le : α → α → Bool} {as bs : List α}
    (trans : ∀ a b c, le a b = true → le b c = true → le a c = true)
    (total : ∀ a b, (le a b || le b a) = true)
    (apart : ∀ a ∈ as, ∀ b ∈ as, le a b = true → le b a = true → a = b) (perm : as.Perm bs) :
    as.mergeSort le = bs.mergeSort le := by
  refine List.Perm.eq_of_pairwise ?_ (List.pairwise_mergeSort trans total as)
    (List.pairwise_mergeSort trans total bs)
    ((List.mergeSort_perm as le).trans (perm.trans (List.mergeSort_perm bs le).symm))
  intro a b ha hb
  exact apart a (List.mem_mergeSort.mp ha) b (perm.mem_iff.mpr (List.mem_mergeSort.mp hb))

theorem nodup_eraseDups {α : Type} [DecidableEq α] (as : List α) : as.eraseDups.Nodup := by
  induction h : as.length using Nat.strongRecOn generalizing as with
  | _ n ih =>
    cases as with
    | nil => exact List.nodup_nil
    | cons a as =>
      rw [List.eraseDups_cons, List.nodup_cons, List.mem_eraseDups, List.mem_filter]
      refine ⟨by simp, ih _ ?_ _ rfl⟩
      have := List.length_filter_le (fun b => !b == a) as
      rw [← h, List.length_cons]
      omega

namespace Sqlite

variable {c d : Catalog} {table : String}

inductive SameRows {α : Type} (a b : Except String (List α)) : Prop where
  | answer {rs rs' : List α} (left : a = .ok rs) (right : b = .ok rs') (perm : rs.Perm rs')
  | failure (message : String) (left : a = .error message) (right : b = .error message)

structure Catalog.Reorders (c d : Catalog) : Prop where
  tables : c.tables = d.tables
  columns : c.columns = d.columns
  indexes : ∀ table, SameRows (c.indexes table) (d.indexes table)
  indexColumns : ∀ index, SameRows (c.indexColumns index) (d.indexColumns index)
  foreignKeys : ∀ table, SameRows (c.foreignKeys table) (d.foreignKeys table)

/-- The indexes of each table are told apart by their names, the columns of each index by their
ranks, and the rows of each foreign key by theirs; and for every index there is an answer. -/
structure Catalog.TellsApart (c : Catalog) : Prop where
  indexes : ∀ table rs, c.indexes table = .ok rs → (rs.map IndexRow.name).Nodup
  indexColumns : ∀ index rs, c.indexColumns index = .ok rs → (rs.map IndexColumnRow.rank).Nodup
  foreignKeys : ∀ table rs, c.foreignKeys table = .ok rs →
    (rs.map fun row => (row.key, row.rank)).Nodup
  answered : ∀ table rs, c.indexes table = .ok rs →
    ∀ row ∈ rs, ∃ columns, c.indexColumns row.name = .ok columns

/-! ### Sorting by names and ranks -/

theorem rank_le_trans {α : Type} (rank : α → Int) (a b c : α)
    (h : decide (rank a ≤ rank b) = true) (k : decide (rank b ≤ rank c) = true) :
    decide (rank a ≤ rank c) = true := by
  simp only [decide_eq_true_eq] at *
  omega

theorem rank_le_total {α : Type} (rank : α → Int) (a b : α) :
    (decide (rank a ≤ rank b) || decide (rank b ≤ rank a)) = true := by
  simp only [Bool.or_eq_true, decide_eq_true_eq]
  omega

theorem IndexColumnRow.ordered_iff {a b : IndexColumnRow} :
    a.ordered b = true ↔ a.rank < b.rank ∨ a.rank = b.rank ∧ a.columnRank ≤ b.columnRank := by
  simp [ordered]

theorem IndexColumnRow.ordered_trans (a b c : IndexColumnRow) (h : a.ordered b = true)
    (k : b.ordered c = true) : a.ordered c = true := by
  rw [ordered_iff] at *
  omega

theorem IndexColumnRow.ordered_total (a b : IndexColumnRow) :
    (a.ordered b || b.ordered a) = true := by
  rw [Bool.or_eq_true, ordered_iff, ordered_iff]
  omega

theorem name_le_trans (a b c : Index) (h : decide (a.name ≤ b.name) = true)
    (k : decide (b.name ≤ c.name) = true) : decide (a.name ≤ c.name) = true := by
  simp only [decide_eq_true_eq] at *
  exact String.le_trans h k

theorem name_le_total (a b : Index) :
    (decide (a.name ≤ b.name) || decide (b.name ≤ a.name)) = true := by
  simp only [Bool.or_eq_true, decide_eq_true_eq]
  exact String.le_total a.name b.name

/-! ### Indexes -/

def indexOf (row : IndexRow) (columns : List IndexColumnRow) : Option Index :=
  let names := (columns.mergeSort IndexColumnRow.ordered).map IndexColumnRow.name
  if names.contains none then none else some ⟨row.name, names.filterMap id, row.unique⟩

theorem readIndex_eq_ok_iff {row : IndexRow} {found : Option Index} :
    readIndex c row = .ok found ↔
      ∃ columns, c.indexColumns row.name = .ok columns ∧ indexOf row columns = found := by
  unfold readIndex
  rw [bind_eq_ok_iff]
  constructor
  · rintro ⟨columns, hcolumns, h⟩
    exact ⟨columns, rows_eq_ok_iff.mp hcolumns, Except.ok.inj h⟩
  · rintro ⟨columns, hcolumns, rfl⟩
    exact ⟨columns, rows_eq_ok_iff.mpr hcolumns, rfl⟩

theorem indexOf_perm {row : IndexRow} {columns columns' : List IndexColumnRow}
    (distinct : (columns.map IndexColumnRow.rank).Nodup) (perm : columns.Perm columns') :
    indexOf row columns = indexOf row columns' := by
  unfold indexOf
  rw [mergeSort_eq_of_perm IndexColumnRow.ordered_trans IndexColumnRow.ordered_total ?_ perm]
  intro a ha b hb hab hba
  rw [IndexColumnRow.ordered_iff] at hab hba
  exact List.inj_on_of_nodup_map distinct ha hb (by omega)

theorem name_of_indexOf {row : IndexRow} {columns : List IndexColumnRow} {i : Index}
    (h : indexOf row columns = some i) : i.name = row.name := by
  unfold indexOf at h
  dsimp only at h
  split at h
  · cases h
  · cases h
    rfl

theorem readIndex_of_reorders (h : c.Reorders d) (apart : c.TellsApart) (row : IndexRow) :
    readIndex c row = readIndex d row := by
  have same := h.indexColumns row.name
  have distinct := apart.indexColumns row.name
  unfold readIndex
  cases same with
  | failure message hc hd => rw [hc, hd]
  | answer hc hd perm =>
    rw [hc, hd]
    exact congrArg Except.ok (indexOf_perm (distinct _ hc) perm)

/-- Indexes that are read from different rows have different names. -/
theorem eq_of_readIndex {rs : List IndexRow} (distinct : (rs.map IndexRow.name).Nodup)
    {found : List (Option Index)} (hfound : rs.mapM (readIndex c) = .ok found) {i j : Index}
    (hi : some i ∈ found) (hj : some j ∈ found) (name : i.name = j.name) : i = j := by
  obtain ⟨row, hrow, hread⟩ := (of_mapM_eq_ok hfound).1 _ hi
  obtain ⟨row', hrow', hread'⟩ := (of_mapM_eq_ok hfound).1 _ hj
  obtain ⟨columns, -, hindex⟩ := readIndex_eq_ok_iff.mp hread
  obtain ⟨columns', -, hindex'⟩ := readIndex_eq_ok_iff.mp hread'
  have same : row.name = row'.name := by
    rw [← name_of_indexOf hindex, ← name_of_indexOf hindex', name]
  obtain rfl := List.inj_on_of_nodup_map distinct hrow hrow' same
  exact Option.some.inj (Except.ok.inj (hread.symm.trans hread'))

theorem readIndexes_of_reorders (h : c.Reorders d) (apart : c.TellsApart) (table : String) :
    readIndexes c table = readIndexes d table := by
  have same := h.indexes table
  unfold readIndexes
  rw [← funext (readIndex_of_reorders h apart)]
  cases same with
  | failure message hc hd => rw [hc, hd]
  | @answer rs rs' hc hd perm =>
    have distinct := apart.indexes table rs hc
    have read : ∀ row ∈ rs.filter (·.origin == "c"), ∃ index, readIndex c row = .ok index := by
      intro row hrow
      obtain ⟨columns, hcolumns⟩ := apart.answered table rs hc row (List.mem_of_mem_filter hrow)
      exact ⟨_, readIndex_eq_ok_iff.mpr ⟨columns, hcolumns, rfl⟩⟩
    obtain ⟨found, hfound⟩ := exists_mapM read
    obtain ⟨found', hfound', hperm⟩ := mapM_perm (perm.filter (·.origin == "c")) hfound
    rw [hc, hd]
    simp only [rows, bind, Except.bind, hfound, hfound']
    refine congrArg Except.ok (mergeSort_eq_of_perm name_le_trans name_le_total ?_
      (hperm.filterMap id))
    intro i hi j hj hij hji
    have members : ∀ {k}, k ∈ found.filterMap id → some k ∈ found := by simp
    refine eq_of_readIndex (distinct.sublist (List.filter_sublist.map _)) hfound (members hi)
      (members hj) (String.le_antisymm ?_ ?_)
    · simpa using hij
    · simpa using hji

/-! ### Foreign keys -/

variable {rs rs' : List ForeignKeyRow}

theorem mem_keyNumbers {key : Int} : key ∈ keyNumbers rs ↔ ∃ row ∈ rs, row.key = key := by
  rw [keyNumbers, List.mem_mergeSort, List.mem_eraseDups, List.mem_map]

theorem keyNumbers_perm (perm : rs.Perm rs') : keyNumbers rs = keyNumbers rs' := by
  refine mergeSort_eq_of_perm (rank_le_trans id) (rank_le_total id) ?_ ?_
  · intro a _ b _ hab hba
    simp only [decide_eq_true_eq] at hab hba
    omega
  · rw [List.perm_ext_iff_of_nodup (nodup_eraseDups _) (nodup_eraseDups _)]
    intro key
    rw [List.mem_eraseDups, List.mem_eraseDups, (perm.map ForeignKeyRow.key).mem_iff]

theorem keyRows_perm (distinct : (rs.map fun row => (row.key, row.rank)).Nodup)
    (perm : rs.Perm rs') (key : Int) : keyRows rs key = keyRows rs' key := by
  refine mergeSort_eq_of_perm (rank_le_trans ForeignKeyRow.rank)
    (rank_le_total ForeignKeyRow.rank) ?_ (perm.filter _)
  intro a ha b hb hab hba
  obtain ⟨ha, hakey⟩ := List.mem_filter.mp ha
  obtain ⟨hb, hbkey⟩ := List.mem_filter.mp hb
  simp only [decide_eq_true_eq, beq_iff_eq] at hab hba hakey hbkey
  exact List.inj_on_of_nodup_map distinct ha hb (Prod.ext (hakey.trans hbkey.symm) (by omega))

theorem readForeignKey_congr (columns : c.columns = d.columns) (members : List ForeignKeyRow) :
    readForeignKey c table members = readForeignKey d table members := by
  cases members with
  | nil => rfl
  | cons row rest => rw [readForeignKey, readForeignKey, columns]

theorem readForeignKeys_of_reorders (h : c.Reorders d) (apart : c.TellsApart) (table : String) :
    readForeignKeys c table = readForeignKeys d table := by
  unfold readForeignKeys
  cases h.foreignKeys table with
  | failure message hc hd =>
    rw [hc, hd]
    rfl
  | answer hc hd perm =>
    rw [hc, hd]
    simp only [rows, bind, Except.bind, keyNumbers_perm perm,
      keyRows_perm (apart.foreignKeys table _ hc) perm, readForeignKey_congr h.columns]

/-! ### Snapshots -/

theorem readTable_of_reorders (h : c.Reorders d) (apart : c.TellsApart) (row : TableRow) :
    readTable c row = readTable d row := by
  rw [readTable, readTable, h.columns, readIndexes_of_reorders h apart,
    readForeignKeys_of_reorders h apart]

theorem readSnapshot_of_reorders (h : c.Reorders d) (apart : c.TellsApart) :
    readSnapshot c = readSnapshot d := by
  rw [readSnapshot, readSnapshot, h.tables, funext (readTable_of_reorders h apart)]

end Sqlite

end SchemaMigration
