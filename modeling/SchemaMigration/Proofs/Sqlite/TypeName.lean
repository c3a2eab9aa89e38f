import SchemaMigration.Proofs.DeclaredType
import SchemaMigration.Proofs.Validation
import SchemaMigration.Sqlite.CatalogSnapshot

/-!
Declared types of SQLite. A declared type is kept as it is written, and the snapshot of a database
takes it apart again. What comes back is what the column has, unless the column is a decimal with a
precision and no scale: it is written with the scale zero, and from then on the column differs from
its definition.
-/

namespace SchemaMigration.Sqlite

open DeclaredType Text

variable {table column declared definition : String} {t : ColumnType} {y r : Column} {n scale : Int}

/-! ### Reading a type -/

/-- The type, the length and the scale that a declared type is read as. -/
def readType (table column declared : String) :
    Except Failure (ColumnType × Option Int × Option Int) := do
  let (type, arguments) ← declaredType table column declared
  let length ← integerArgument arguments[0]?
  let scale ← integerArgument arguments[1]?
  return (type, type.keptLength length scale)

def readValues (definition : String) (row : ColumnRow) (type : ColumnType) :
    Except Failure (List String) :=
  if type = .enumeration then (enumValues definition row.name).mapError .definition else .ok []

theorem readColumn_eq (table definition : String) (row : ColumnRow) :
    readColumn table definition row =
      (readType table row.name (row.declared.getD "")).bind fun found =>
        (readValues definition row found.1).map fun values => {
          name := row.name
          type := found.1
          length := found.2.1
          scale := found.2.2
          nullable := !row.notNull && row.keyRank == 0
          default := row.default
          enumValues := values
          collation := none } := by
  unfold readColumn readType
  generalize declaredType table row.name (row.declared.getD "") = found
  cases found with
  | error failure => rfl
  | ok found =>
    dsimp only [bind, Except.bind, pure, Except.pure]
    generalize integerArgument found.2[0]? = length
    generalize integerArgument found.2[1]? = scale
    cases length with
    | error failure => rfl
    | ok length =>
      cases scale with
      | error failure => rfl
      | ok scale =>
        dsimp only [readValues]
        split
        · cases enumValues definition row.name <;> rfl
        · rfl

theorem readType_of_readColumn {row : ColumnRow} (h : readColumn table definition row = .ok r) :
    readType table row.name (row.declared.getD "") = .ok (r.type, r.length, r.scale) := by
  rw [readColumn_eq] at h
  obtain ⟨found, hread, h⟩ := bind_eq_ok_iff.mp h
  cases hvalues : readValues definition row found.1 with
  | error failure =>
    rw [hvalues] at h
    cases h
  | ok values =>
    rw [hvalues] at h
    cases h
    exact hread

theorem readType_of_declared {arguments : List String}
    (h : declaredType table column declared = .ok (t, arguments))
    {found : ColumnType × Option Int × Option Int} :
    readType table column declared = .ok found ↔
      ∃ length scale, integerArgument arguments[0]? = .ok length ∧
        integerArgument arguments[1]? = .ok scale ∧ (t, t.keptLength length scale) = found := by
  constructor
  · intro hread
    obtain ⟨_, hdeclared, hread⟩ := bind_eq_ok_iff.mp hread
    obtain rfl := Except.ok.inj (h.symm.trans hdeclared)
    obtain ⟨length, hlength, hread⟩ := bind_eq_ok_iff.mp hread
    obtain ⟨scale, hscale, hread⟩ := bind_eq_ok_iff.mp hread
    exact ⟨length, scale, hlength, hscale, Except.ok.inj hread⟩
  · rintro ⟨length, scale, hlength, hscale, rfl⟩
    exact bind_eq_ok_iff.mpr ⟨_, h,
      bind_eq_ok_iff.mpr ⟨_, hlength, bind_eq_ok_iff.mpr ⟨_, hscale, rfl⟩⟩⟩

theorem integerArgument_toString {found : Option Int} :
    integerArgument (some (toString n)) = .ok found ↔ isWritable n = true ∧ some n = found := by
  rw [integerArgument, readInteger_toString]
  by_cases few : isWritable n = true
  · simp [few]
  · simp [few]

/-! ### Names of types -/

/-- Each type has a name of its own. -/
theorem ofSpelling?_typeName (typed : t ≠ .unset) :
    ColumnType.ofSpelling? (Dialect.sqliteTypeName t) = some t := by
  cases t <;> first | exact absurd rfl typed | rfl

theorem plain_typeName (t : ColumnType) : Plain (Dialect.sqliteTypeName t).toList := by
  apply plain_of_all
  cases t <;> rfl

theorem typeName_ne_empty (typed : t ≠ .unset) : Dialect.sqliteTypeName t ≠ "" := by
  cases t <;> first | exact absurd rfl typed | decide

theorem declaredType_of_split? (typed : t ≠ .unset) (nonempty : declared ≠ "")
    {arguments : List String}
    (parts : split? declared = some ⟨Dialect.sqliteTypeName t, arguments⟩) :
    declaredType table column declared = .ok (t, arguments) := by
  rw [declaredType, if_neg nonempty, parts]
  simp only [ofSpelling?_typeName typed]

theorem parenthesized_ne_empty (name arguments : String) :
    name ++ "(" ++ arguments ++ ")" ≠ "" := by
  simp [String.append_eq_empty_iff]

theorem toString_ne_empty (n : Int) : toString n ≠ "" := by
  intro hnone
  have digits := congrArg String.toList hnone
  cases n with
  | ofNat k =>
    rw [Json.toList_ofNat] at digits
    exact Nat.toDigits_ne_nil digits
  | negSucc k =>
    rw [Json.toList_negSucc] at digits
    cases digits

/-! ### Types with their arguments -/

theorem declaredType_name (typed : t ≠ .unset) :
    declaredType table column (Dialect.sqliteTypeName t) = .ok (t, []) :=
  declaredType_of_split? typed (typeName_ne_empty typed)
    (split?_of_plain (plain_typeName t) (typeName_ne_empty typed))

theorem declaredType_withLength (typed : t ≠ .unset) (n : Int) :
    declaredType table column (Dialect.withLength (Dialect.sqliteTypeName t) n) =
      .ok (t, [toString n]) := by
  refine declaredType_of_split? typed (parenthesized_ne_empty _ _) ?_
  refine (split?_closed (plain_typeName t) (typeName_ne_empty typed) (toString_ne_empty n)).trans ?_
  rw [splitArguments_of_unsplit (plain_toString n).unsplit]
  simp only [List.map_cons, List.map_nil, (plain_toString n).trim_eq, String.ofList_toList]

theorem declaredType_withPrecision (typed : t ≠ .unset) (n scale : Int) :
    declaredType table column (Dialect.withPrecision (Dialect.sqliteTypeName t) n scale) =
      .ok (t, [toString n, toString scale]) := by
  have joined : Dialect.withPrecision (Dialect.sqliteTypeName t) n scale =
      Dialect.sqliteTypeName t ++ "(" ++ (toString n ++ ", " ++ toString scale) ++ ")" := by
    simp only [Dialect.withPrecision, String.append_assoc]
  have text : (toString n ++ ", " ++ toString scale).toList =
      (toString n).toList ++ ',' :: ' ' :: (toString scale).toList := by
    simp [String.toList_append]
  have split : splitArguments false (' ' :: (toString scale).toList) =
      [' ' :: (toString scale).toList] := by
    rw [splitArguments, if_neg (by decide), if_neg (by decide),
      splitArguments_of_unsplit (plain_toString scale).unsplit]
  have trimmed : trim isBlank (' ' :: (toString scale).toList) = (toString scale).toList :=
    (plain_toString scale).trim_eq
  rw [joined]
  refine declaredType_of_split? typed (parenthesized_ne_empty _ _) ?_
  rw [split?_closed (plain_typeName t) (typeName_ne_empty typed), text,
    splitArguments_comma (plain_toString n).unsplit, split]
  · simp only [List.map_cons, List.map_nil, (plain_toString n).trim_eq, trimmed,
      String.ofList_toList]
  · simp [String.append_eq_empty_iff]

variable {found : ColumnType × Option Int × Option Int}

theorem readType_name (typed : t ≠ .unset) :
    readType table column (Dialect.sqliteTypeName t) = .ok found ↔
      (t, t.keptLength none none) = found := by
  rw [readType_of_declared (declaredType_name typed)]
  simp [integerArgument]

theorem readType_withLength (typed : t ≠ .unset) :
    readType table column (Dialect.withLength (Dialect.sqliteTypeName t) n) = .ok found ↔
      isWritable n = true ∧ (t, t.keptLength (some n) none) = found := by
  rw [readType_of_declared (declaredType_withLength typed n)]
  constructor
  · rintro ⟨length, scale, hlength, hscale, rfl⟩
    obtain ⟨few, rfl⟩ := integerArgument_toString.mp hlength
    obtain rfl : none = scale := Except.ok.inj hscale
    exact ⟨few, rfl⟩
  · rintro ⟨few, rfl⟩
    exact ⟨some n, none, integerArgument_toString.mpr ⟨few, rfl⟩, rfl, rfl⟩

theorem readType_withPrecision (typed : t ≠ .unset) :
    readType table column (Dialect.withPrecision (Dialect.sqliteTypeName t) n scale) = .ok found ↔
      isWritable n = true ∧ isWritable scale = true ∧
        (t, t.keptLength (some n) (some scale)) = found := by
  rw [readType_of_declared (declaredType_withPrecision typed n scale)]
  constructor
  · rintro ⟨length, _, hlength, hscale, rfl⟩
    obtain ⟨few, rfl⟩ := integerArgument_toString.mp hlength
    obtain ⟨less, rfl⟩ := integerArgument_toString.mp hscale
    exact ⟨few, less, rfl⟩
  · rintro ⟨few, less, rfl⟩
    exact ⟨some n, some scale, integerArgument_toString.mpr ⟨few, rfl⟩,
      integerArgument_toString.mpr ⟨less, rfl⟩, rfl⟩

/-! ### Columns whose types are read back -/

/-- A column whose declared type tells all of its type. A decimal with a precision needs a scale,
and no number may have too many digits. -/
structure ReadsBack (y : Column) : Prop where
  scaled : y.type = .decimal → y.length ≠ none → y.scale ≠ none
  length : ∀ n, y.length = some n → isWritable n = true
  scale : ∀ n, y.scale = some n → isWritable n = true

theorem typeOf?_eq (y : Column) :
    Dialect.sqlite.typeOf? y =
      some (Dialect.sqlite.sizedType (Dialect.sqliteTypeName y.type) y) := by
  rw [Dialect.typeOf?]
  show some _ = some _
  split
  · rfl
  · rfl

/-- Only a decimal with a precision keeps a scale. -/
theorem decimal_of_scale (kept : y.type.keptLength y.length y.scale = (y.length, y.scale))
    (scaled : y.scale ≠ none) : y.type = .decimal ∧ y.length ≠ none := by
  have hscale := congrArg Prod.snd kept
  unfold ColumnType.keptLength at hscale
  split at hscale
  · exact absurd hscale.symm scaled
  · split at hscale
    · next decimal =>
      refine ⟨decimal, fun hlength => ?_⟩
      rw [hlength] at hscale
      exact scaled hscale.symm
    · exact absurd hscale.symm scaled

theorem readType_iff_readsBack (typed : y.type ≠ .unset)
    (kept : y.type.keptLength y.length y.scale = (y.length, y.scale)) :
    readType table column (Dialect.sqlite.sizedType (Dialect.sqliteTypeName y.type) y) =
      .ok (y.type, y.length, y.scale) ↔ ReadsBack y := by
  have unscaled : y.type ≠ .decimal ∨ y.length = none → y.scale = none := by
    intro h
    by_contra scaled
    obtain ⟨decimal, sized⟩ := decimal_of_scale kept scaled
    exact h.elim (absurd decimal) sized
  unfold Dialect.sizedType
  cases hlength : y.length with
  | none =>
    have hscale := unscaled (.inr hlength)
    rw [hlength, hscale] at kept
    rw [readType_name typed, kept, hscale]
    exact iff_of_true rfl ⟨by simp [hlength], by simp [hlength], by simp [hscale]⟩
  | some n =>
    by_cases decimal : y.type = .decimal
    · -- a scale that is missing is written as zero, and zero is not read as a missing scale
      dsimp only
      rw [if_pos decimal, readType_withPrecision typed, decimal]
      constructor
      · rintro ⟨few, less, heq⟩
        have hscale : some (y.scale.getD 0) = y.scale := congrArg (fun found => found.2.2) heq
        refine ⟨fun _ _ hnone => ?_, fun k hk => ?_, fun k hk => ?_⟩
        · rw [hnone] at hscale
          cases hscale
        · rw [hlength] at hk
          exact Option.some.inj hk ▸ few
        · rw [hk] at less
          exact less
      · intro back
        obtain ⟨k, hk⟩ := Option.ne_none_iff_exists'.mp (back.scaled decimal (by simp [hlength]))
        rw [hk]
        exact ⟨back.length n hlength, back.scale k hk, rfl⟩
    · have hscale := unscaled (.inl decimal)
      rw [hlength, hscale] at kept
      have written : Dialect.sqlite.writesLength y.type = true := rfl
      dsimp only
      rw [if_neg decimal, if_pos written, readType_withLength typed, kept, hscale]
      constructor
      · rintro ⟨few, -⟩
        refine ⟨fun h => absurd h decimal, fun k hk => ?_, by simp [hscale]⟩
        rw [hlength] at hk
        exact Option.some.inj hk ▸ few
      · exact fun back => ⟨back.length n hlength, rfl⟩

/-- The declared type of a column of a projection is read as its type, its length and its scale
exactly if it tells all of them; and only then a column that has been created with this type does
not differ from its definition in its type. -/
theorem declared_type_reads_back_iff {schema : Schema} {s : Snapshot} {name : String}
    {made : Table} (hs : (Dialect.projection .sqlite).snapshot schema = .ok s)
    (hmade : s.table? name = some made) (hy : y ∈ made.columns) :
    ∃ declared, Dialect.sqlite.typeOf? y = some declared ∧
      (∀ table column,
        readType table column declared = .ok (y.type, y.length, y.scale) ↔ ReadsBack y) ∧
      ∀ (c : Comparison) table definition row r, c.rules = Dialect.sqlite.rules →
        row.declared = some declared → readColumn table definition row = .ok r →
        (c.sameType r y = true ↔ ReadsBack y ∧ r.enumValues = y.enumValues) := by
  have hentry := Snapshot.table?_eq_some_iff.mp hmade
  have typed := (((Projection.projects_of_snapshot hs).tables _ hentry).columns y hy).typed
  have kept := Projection.kept_of_snapshot hs _ hentry y hy
  refine ⟨_, typeOf?_eq y, fun table column => readType_iff_readsBack typed kept, ?_⟩
  intro c table definition row r hrules hdeclared hr
  have hread := readType_of_readColumn hr
  rw [hdeclared, Option.getD_some] at hread
  have back : readType table row.name _ = .ok _ ↔ ReadsBack y := readType_iff_readsBack typed kept
  have same : (r.type = y.type ∧ r.length = y.length ∧ r.scale = y.scale) ↔ ReadsBack y := by
    rw [← back, hread]
    simp
  have ignored : c.rules.comparesCollations = false := by rw [hrules]; rfl
  rw [Comparison.sameType_iff, ← same]
  simp [ignored, and_assoc]

end SchemaMigration.Sqlite

/-! Prices without a scale, and taxes with one. -/

namespace SchemaMigration.Shop

def price : Column := ⟨"price", .decimal, some 10, none, false, none, [], none⟩

def tax : Column := ⟨"tax", .decimal, some 4, some 2, false, none, [], none⟩

def prices : Table := { Table.ofName "prices" with columns := [price, tax] }

def priceList : Schema :=
  { Schema.ofName "shop" with
    tables := [
      { name := "prices"
        columns := [
          ⟨"price", "DECIMAL", some 10, none, false, none, none, none⟩,
          ⟨"tax", "DECIMAL", some 4, some 2, false, none, none, none⟩]
        primaryKey := []
        indexes := []
        foreignKeys := []
        charset := none
        collation := none }] }

/-- A tax is read as it was declared. -/
theorem tax_reads_back : Dialect.sqlite.typeOf? tax = some "DECIMAL(4, 2)" ∧
    Sqlite.readType "prices" "tax" "DECIMAL(4, 2)" = .ok (tax.type, tax.length, tax.scale) := by
  have hs : (Dialect.projection .sqlite).snapshot priceList = .ok (.ofTables [prices]) := rfl
  have hprices : (Snapshot.ofTables [prices]).table? "prices" = some prices := rfl
  obtain ⟨declared, hdeclared, back, -⟩ :=
    Sqlite.declared_type_reads_back_iff (y := tax) hs hprices (by decide)
  obtain rfl : "DECIMAL(4, 2)" = declared := Option.some.inj hdeclared
  refine ⟨hdeclared, (back _ _).mpr ⟨by decide, fun n hn => ?_, fun n hn => ?_⟩⟩
  · obtain rfl := Option.some.inj hn
    decide
  · obtain rfl := Option.some.inj hn
    decide

/-- The prices as they are read after they were created, and as they are defined. -/
def repricing : Comparison where
  current := .ofTables [{ prices with columns := [{ price with scale := some 0 }, tax] }]
  target := .ofTables [prices]
  rules := Dialect.sqlite.rules
  skipsConstraints := false

/-- A price without a scale is read with the scale zero, and has to be changed again. -/
theorem price_gets_scale :
    (Dialect.projection .sqlite).snapshot priceList = .ok repricing.target ∧
      Dialect.sqlite.typeOf? price = some "DECIMAL(10, 0)" ∧
      Sqlite.readType "prices" "price" "DECIMAL(10, 0)" = .ok (.decimal, some 10, some 0) ∧
      (price.type, price.length, price.scale) = (.decimal, some 10, none) ∧
      repricing.changes =
        [⟨"prices", .alterColumnType (some { price with scale := some 0 }) price⟩] :=
  ⟨rfl, rfl, rfl, rfl, rfl⟩

end SchemaMigration.Shop
