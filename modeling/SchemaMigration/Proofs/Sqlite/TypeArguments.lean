import SchemaMigration.Proofs.Result
import SchemaMigration.Proofs.Spelling
import SchemaMigration.Proofs.Sqlite.TypeName

/-!
Arguments of declared types. The first two are read as integers before it is known whether the type
keeps a length, so a word or a quoted value among them stops the reading of the whole database, also
where the integer would have been dropped. Further arguments are not looked at.
-/

namespace SchemaMigration.Sqlite

open DeclaredType Text

variable {table column definition name text : String} {t : ColumnType} {row : ColumnRow}

def IsInteger (text : String) : Prop := ∃ n, readInteger text = .ok n

/-- The column of a row whose type keeps no length. -/
def unsizedColumn (row : ColumnRow) (type : ColumnType) (values : List String) : Column where
  name := row.name
  type := type
  length := none
  scale := none
  nullable := !row.notNull && row.keyRank == 0
  default := row.default
  enumValues := values
  collation := none

/-! ### One argument -/

theorem integerArgument_eq_error_iff {argument : Option String} {failure : Failure} :
    integerArgument argument = .error failure ↔ ∃ text fault, argument = some text ∧
      readInteger text = .error fault ∧ failure = .invalidInteger fault := by
  unfold integerArgument
  cases argument with
  | none => simp
  | some text =>
    cases h : readInteger text with
    | ok n => simp [h]
    | error fault => simp [h, eq_comm]

theorem exists_integerArgument_iff {argument : Option String} :
    (∃ found, integerArgument argument = .ok found) ↔ ∀ text ∈ argument, IsInteger text := by
  unfold integerArgument IsInteger
  cases argument with
  | none => simp
  | some text => cases h : readInteger text <;> simp [h]

theorem forall_mem_take_two_iff {α : Type} {p : α → Prop} {as : List α} :
    (∀ a ∈ as.take 2, p a) ↔ (∀ a ∈ as[0]?, p a) ∧ ∀ a ∈ as[1]?, p a := by
  match as with
  | [] => simp
  | [a] => simp
  | a :: b :: rest => simp

/-! ### One column -/

theorem declaredType_parenthesized (spelled : ColumnType.ofSpelling? name = some t) :
    declaredType table column (name ++ "(" ++ text ++ ")") = .ok (t, argumentsOf text) := by
  rw [declaredType, if_neg (parenthesized_ne_empty name text),
    split?_parenthesized (ColumnType.not_mem_of_spelled spelled)
      (ColumnType.trim_ne_nil_of_spelled spelled)]
  simp only [ColumnType.ofSpelling?_strip, spelled]

/-- A type is read if its first two arguments are integers. -/
theorem readType_parenthesized_iff (spelled : ColumnType.ofSpelling? name = some t)
    (unsized : ∀ length scale, t.keptLength length scale = (none, none))
    {found : ColumnType × Option Int × Option Int} :
    readType table column (name ++ "(" ++ text ++ ")") = .ok found ↔
      (∀ argument ∈ (argumentsOf text).take 2, IsInteger argument) ∧ found = (t, none, none) := by
  rw [readType_of_declared (declaredType_parenthesized spelled), forall_mem_take_two_iff,
    ← exists_integerArgument_iff, ← exists_integerArgument_iff]
  constructor
  · rintro ⟨length, scale, hlength, hscale, rfl⟩
    exact ⟨⟨⟨length, hlength⟩, scale, hscale⟩, by rw [unsized]⟩
  · rintro ⟨⟨⟨length, hlength⟩, scale, hscale⟩, rfl⟩
    exact ⟨length, scale, hlength, hscale, by rw [unsized]⟩

/-- Where a type is not read, an argument is no integer. -/
theorem invalid_of_readType (spelled : ColumnType.ofSpelling? name = some t) {failure : Failure}
    (h : readType table column (name ++ "(" ++ text ++ ")") = .error failure) :
    ∃ fault, failure = .invalidInteger fault := by
  rcases bind_eq_error_iff.mp h with h | ⟨parts, hparts, h⟩
  · rw [declaredType_parenthesized spelled] at h
    cases h
  · rcases bind_eq_error_iff.mp h with h | ⟨length, -, h⟩
    · obtain ⟨_, fault, -, -, rfl⟩ := integerArgument_eq_error_iff.mp h
      exact ⟨fault, rfl⟩
    · rcases bind_eq_error_iff.mp h with h | ⟨scale, -, h⟩
      · obtain ⟨_, fault, -, -, rfl⟩ := integerArgument_eq_error_iff.mp h
        exact ⟨fault, rfl⟩
      · cases h

theorem readColumn_of_integers (spelled : ColumnType.ofSpelling? name = some t)
    (unsized : ∀ length scale, t.keptLength length scale = (none, none))
    (declared : row.declared = some (name ++ "(" ++ text ++ ")"))
    (integers : ∀ argument ∈ (argumentsOf text).take 2, IsInteger argument) :
    readColumn table definition row =
      (readValues definition row t).map (unsizedColumn row t) := by
  have hread : readType table row.name (name ++ "(" ++ text ++ ")") = .ok (t, none, none) :=
    (readType_parenthesized_iff spelled unsized).mpr ⟨integers, rfl⟩
  rw [readColumn_eq, declared, Option.getD_some, hread]
  rfl

theorem readColumn_of_not_integers (spelled : ColumnType.ofSpelling? name = some t)
    (unsized : ∀ length scale, t.keptLength length scale = (none, none))
    (declared : row.declared = some (name ++ "(" ++ text ++ ")"))
    (words : ∃ argument ∈ (argumentsOf text).take 2, ¬ IsInteger argument) :
    ∃ fault, readColumn table definition row = .error (.invalidInteger fault) := by
  rw [readColumn_eq, declared, Option.getD_some]
  cases hread : readType table row.name (name ++ "(" ++ text ++ ")") with
  | error failure =>
    obtain ⟨fault, rfl⟩ := invalid_of_readType spelled hread
    exact ⟨fault, rfl⟩
  | ok found =>
    obtain ⟨argument, hmem, word⟩ := words
    have integers := ((readType_parenthesized_iff spelled unsized).mp hread).1
    exact absurd (integers argument hmem) word

/-- What keeps the values of a column from being read is its definition, not its type. -/
theorem readValues_ne_invalid (type : ColumnType) (fault : IntegerFault) :
    readValues definition row type ≠ .error (.invalidInteger fault) := by
  unfold readValues
  split
  · cases enumValues definition row.name <;> nofun
  · nofun

/-! ### The whole database -/

/-- A database is read only if all columns of all its tables are. -/
theorem readColumn_of_readSnapshot {c : Catalog} {s : Snapshot} (hs : readSnapshot c = .ok s)
    {tables : List TableRow} (htables : c.tables = .ok tables) {owner : TableRow}
    (howner : owner ∈ tables) {columns : List ColumnRow}
    (hcolumns : c.columns owner.name = .ok columns) (hrow : row ∈ columns) :
    ∃ y, readColumn owner.name (owner.definition.getD "") row = .ok y := by
  obtain ⟨answer, hanswer, hs⟩ := bind_eq_ok_iff.mp hs
  rw [htables] at hanswer
  cases hanswer
  obtain ⟨ts, hts, -⟩ := bind_eq_ok_iff.mp hs
  obtain ⟨t, -, ht⟩ := (of_mapM_eq_ok hts).2 owner howner
  obtain ⟨answer, hanswer, ht⟩ := bind_eq_ok_iff.mp ht
  rw [hcolumns] at hanswer
  cases hanswer
  obtain ⟨ys, hys, -⟩ := bind_eq_ok_iff.mp ht
  obtain ⟨y, -, hy⟩ := (of_mapM_eq_ok hys).2 row hrow
  exact ⟨y, hy⟩

/-- Only arguments that are no integers, among the first two, keep a column from being read whose
type keeps no length; and then its database is not read. Otherwise the column gets its type without
a length and a scale. -/
theorem unsized_type_read_iff (spelled : ColumnType.ofSpelling? name = some t)
    (unsized : ∀ length scale, t.keptLength length scale = (none, none))
    (declared : row.declared = some (name ++ "(" ++ text ++ ")")) :
    (∀ table definition,
      (∃ fault, readColumn table definition row = .error (.invalidInteger fault)) ↔
        ∃ argument ∈ (argumentsOf text).take 2, ¬ IsInteger argument) ∧
    (∀ table definition, (∀ argument ∈ (argumentsOf text).take 2, IsInteger argument) →
      readColumn table definition row =
        (readValues definition row t).map (unsizedColumn row t)) ∧
    ∀ (c : Catalog) tables owner columns, c.tables = .ok tables → owner ∈ tables →
      c.columns owner.name = .ok columns → row ∈ columns →
      (∃ argument ∈ (argumentsOf text).take 2, ¬ IsInteger argument) →
      ∀ s, readSnapshot c ≠ .ok s := by
  refine ⟨fun table definition => ⟨?_, readColumn_of_not_integers spelled unsized declared⟩,
    fun table definition => readColumn_of_integers spelled unsized declared, ?_⟩
  · rintro ⟨fault, hfault⟩
    by_contra none
    have integers : ∀ argument ∈ (argumentsOf text).take 2, IsInteger argument := by
      simpa using none
    rw [readColumn_of_integers spelled unsized declared integers] at hfault
    cases hvalues : readValues definition row t with
    | ok values =>
      rw [hvalues] at hfault
      cases hfault
    | error failure =>
      rw [hvalues] at hfault
      cases hfault
      exact readValues_ne_invalid t fault hvalues
  · intro c tables owner columns htables howner hcolumns hrow words s hs
    obtain ⟨y, hy⟩ := readColumn_of_readSnapshot hs htables howner hcolumns hrow
    obtain ⟨fault, hfault⟩ := readColumn_of_not_integers spelled unsized declared words
    rw [hy] at hfault
    cases hfault

end SchemaMigration.Sqlite

/-! A moment with its digits, and an order whose state is one of two. SQLite keeps any type that
stands in quotes. -/

namespace SchemaMigration.Shop

open Sqlite

def openedRow : ColumnRow := ⟨"opened", some " DateTime (6, 0, 'utc')", true, none, 0⟩

/-- The first two arguments of a time are dropped, and the third is not read. -/
theorem opened_is_read :
    readColumn "orders" "CREATE TABLE orders (opened \" DateTime (6, 0, 'utc')\" NOT NULL)"
      openedRow = .ok ⟨"opened", .dateTime, none, none, false, none, [], none⟩ := by
  have spelled : ColumnType.ofSpelling? " DateTime " = some .dateTime := rfl
  have declared :
      openedRow.declared = some (" DateTime " ++ "(" ++ "6, 0, 'utc'" ++ ")") := rfl
  have arguments : (DeclaredType.argumentsOf "6, 0, 'utc'").take 2 = ["6", "0"] := rfl
  have integers : ∀ argument ∈ ["6", "0"], IsInteger argument := by
    intro argument hmem
    rcases List.mem_pair.mp hmem with rfl | rfl
    · exact ⟨6, rfl⟩
    · exact ⟨0, rfl⟩
  obtain ⟨-, read, -⟩ := unsized_type_read_iff spelled (fun _ _ => rfl) declared
  exact read _ _ (arguments ▸ integers)

def stateRow : ColumnRow := ⟨"state", some "enum('open', 'done')", false, none, 0⟩

def statedOrders : Catalog where
  tables := .ok [⟨"orders", some "CREATE TABLE orders (state \"enum('open', 'done')\")"⟩]
  columns := fun _ => .ok [stateRow]
  indexes := fun _ => .ok []
  indexColumns := fun _ => .ok []
  foreignKeys := fun _ => .ok []

/-- The values of an enumeration keep the database from being read. -/
theorem state_stops_reading : ColumnType.ofSpelling? "enum" = some .enumeration ∧
    (∀ length scale, ColumnType.enumeration.keptLength length scale = (none, none)) ∧
    (∀ table definition, readColumn table definition stateRow =
      .error (.invalidInteger (.malformed "'open'"))) ∧
    readSnapshot statedOrders = .error (.invalidInteger (.malformed "'open'")) :=
  ⟨rfl, fun _ _ => rfl, fun _ _ => rfl, rfl⟩

end SchemaMigration.Shop
