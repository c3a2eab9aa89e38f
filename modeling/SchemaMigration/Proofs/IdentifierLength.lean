import SchemaMigration.Proofs.ConstraintNames

/-!
Lengths of names. Validation bounds the names that a schema gives, but constraints and foreign keys
that are given none get names that are made of these, and nothing bounds what is made.
-/

namespace SchemaMigration

def Fits (limit : Nat) (name : String) : Prop := 1 ≤ name.length ∧ name.length ≤ limit

instance (limit : Nat) (name : String) : Decidable (Fits limit name) :=
  inferInstanceAs (Decidable (_ ∧ _))

/-! ### Names that are checked -/

namespace Rules

variable {rules : Rules} {schema : Schema} {table name : String} {t : TableDef} {limit : Nat}
  {seen : List String} {part : SchemaPart}

theorem fits_of_checkName (limited : rules.maxIdentifierLength = some limit)
    (h : rules.checkName name part = .ok ()) : Fits limit name := by
  have nonempty := ne_empty_of_checkName h
  unfold checkName at h
  rw [limited, if_neg nonempty] at h
  dsimp only at h
  split at h
  · cases h
  · next short =>
    constructor
    · by_contra none
      have zero : name.length = 0 := by omega
      exact nonempty (String.length_eq_zero_iff.mp zero)
    · omega

theorem fits_of_checkColumns (limited : rules.maxIdentifierLength = some limit)
    {columns : List ColumnDef} (h : rules.checkColumns table seen columns = .ok ()) :
    ∀ c ∈ columns, Fits limit c.name := by
  induction columns generalizing seen with
  | nil => exact List.forall_mem_nil _
  | cons c rest ih =>
    obtain ⟨hname, -, -, hrest⟩ := of_checkColumns_cons h
    exact List.forall_mem_cons.mpr ⟨fits_of_checkName limited hname, ih hrest⟩

theorem fits_of_checkIndexes (limited : rules.maxIdentifierLength = some limit)
    {indexes : List IndexDef} (h : rules.checkIndexes t seen indexes = .ok ()) :
    ∀ i ∈ indexes, Fits limit i.name := by
  induction indexes generalizing seen with
  | nil => exact List.forall_mem_nil _
  | cons i rest ih =>
    obtain ⟨hname, -, -, -, hrest⟩ := of_checkIndexes_cons h
    exact List.forall_mem_cons.mpr ⟨fits_of_checkName limited hname, ih hrest⟩

theorem fits_of_checkForeignKey (limited : rules.maxIdentifierLength = some limit)
    {k : ForeignKeyDef} (given : Text.nonempty? k.name = some name)
    (h : rules.checkForeignKey schema t k = .ok ()) : Fits limit name := by
  unfold checkForeignKey at h
  dsimp only at h
  rw [given] at h
  obtain ⟨_, hname, -⟩ := bind_eq_ok_iff.mp h
  exact fits_of_checkName limited hname

structure Bounds (limit : Nat) (schema : Schema) : Prop where
  tables : ∀ t ∈ schema.tables, Fits limit t.name
  columns : ∀ t ∈ schema.tables, ∀ n ∈ t.columnNames, Fits limit n
  indexes : ∀ t ∈ schema.tables, ∀ i ∈ t.indexes, Fits limit i.name
  keys : ∀ t ∈ schema.tables, ∀ n ∈ t.givenKeyNames, Fits limit n

theorem bounds_of_validate (limited : rules.maxIdentifierLength = some limit)
    (h : rules.validate schema = .ok ()) : Bounds limit schema := by
  have checked : ∀ t ∈ schema.tables, rules.Checked schema t := fun t ht =>
    checked_of_checkTable ((of_validate h).2 t ht)
  constructor
  · intro t ht
    exact fits_of_checkName limited (checked t ht).name
  · intro t ht
    exact List.forall_mem_map.mpr (fits_of_checkColumns limited (checked t ht).columns)
  · intro t ht
    exact fits_of_checkIndexes limited (checked t ht).indexes
  · intro t ht n hn
    obtain ⟨k, hk, given⟩ := List.mem_flatMap.mp hn
    exact fits_of_checkForeignKey limited (Option.mem_toList.mp given)
      ((checked t ht).foreignKeys k hk)

end Rules

/-! ### Properties of all names in a statement -/

namespace Pieces

variable {P : NameKind → String → Prop} {d : Dialect}

/-- All names in some pieces have a property that depends on what they stand for. -/
def All (P : NameKind → String → Prop) (pieces : List Piece) : Prop :=
  ∀ kind name, .name kind name ∈ pieces → P kind name

@[simp] theorem all_nil : All P [] := fun _ _ h => nomatch h

@[simp] theorem all_plain {text : String} {rest : List Piece} :
    All P (.plain text :: rest) ↔ All P rest := by
  simp [All]

@[simp] theorem all_name {kind : NameKind} {name : String} {rest : List Piece} :
    All P (.name kind name :: rest) ↔ P kind name ∧ All P rest := by
  constructor
  · intro h
    exact ⟨h kind name List.mem_cons_self, fun k n hn => h k n (List.mem_cons_of_mem _ hn)⟩
  · rintro ⟨first, others⟩ k n hn
    rcases List.mem_cons.mp hn with heq | hn
    · cases heq
      exact first
    · exact others k n hn

@[simp] theorem all_append {first second : List Piece} :
    All P (first ++ second) ↔ All P first ∧ All P second := by
  induction first with
  | nil => simp
  | cons piece rest ih => cases piece <;> simp [ih, and_assoc]

@[simp] theorem all_joined {separator : String} {blocks : List (List Piece)} :
    All P (joined separator blocks) ↔ ∀ block ∈ blocks, All P block := by
  unfold All
  simp only [name_mem_joined]
  constructor
  · intro h block hblock kind name hname
    exact h kind name ⟨block, hblock, hname⟩
  · rintro h kind name ⟨block, hblock, hname⟩
    exact h block hblock kind name hname

@[simp] theorem all_list {kind : NameKind} {names : List String} :
    All P (list kind names) ↔ ∀ n ∈ names, P kind n := by
  simp [list]

theorem name_constraint_mem {name : String} {pieces : List Piece} :
    .name .constraint name ∈ pieces ↔ name ∈ constraints pieces := by
  induction pieces with
  | nil => simp
  | cons piece rest ih =>
    cases piece with
    | plain text => simp [ih]
    | name kind other =>
      by_cases h : kind = .constraint
      · subst h
        simp [ih]
      · simp [ih, h, Ne.symm h]

section Unconstrained

variable (free : ∀ n, P .constraint n)
include free

theorem all_column {table : String} {clause : ColumnClause}
    (column : P .column clause.column.name) : All P (Pieces.column d table clause) := by
  have collated : ∀ block ∈ (Dialect.collateClause clause.column.collation).map
      (fun text => [Piece.plain text]), All P block := by
    intro block hblock
    obtain ⟨text, -, rfl⟩ := List.mem_map.mp hblock
    simp
  have typed : ∀ block ∈ if clause.type = "" then [] else [[Piece.plain clause.type]],
      All P block := by
    intro block hblock
    split at hblock
    · cases hblock
    · rw [List.mem_singleton.mp hblock]
      simp
  have head : ∀ block ∈ columnHead clause, All P block := by
    simp only [columnHead, List.forall_mem_append]
    refine ⟨⟨⟨?_, typed⟩, collated⟩, ?_⟩
    · simpa using column
    · simp
  have default : ∀ block ∈ defaultClause d table clause.column, All P block := by
    unfold defaultClause
    cases clause.column.default with
    | none => simp
    | some expression =>
      by_cases hd : d = .sqlServer
      · simp [hd, free]
      · simp [hd]
  have values : ∀ block ∈ enumClause d table clause.column, All P block := by
    unfold enumClause
    split
    · simp
    · cases d <;> simp [checkClause, free, column]
  rw [Pieces.column, all_joined]
  intro block hblock
  rcases List.mem_append.mp hblock with hblock | hblock
  · rcases List.mem_append.mp hblock with hblock | hblock
    · exact head block hblock
    · exact default block hblock
  · exact values block hblock

theorem all_primaryKey {table : String} {columns : List String}
    (named : ∀ n ∈ columns, P .column n) : All P (primaryKey d table columns) := by
  by_cases hd : d = .sqlServer
  · simpa [primaryKey, hd, free] using named
  · simpa [primaryKey, hd] using named

/-- The names in the statements that create a table. -/
theorem all_creation {t : Table} (skips : Bool) (table : P .table t.name)
    (columns : ∀ n ∈ t.columnNames, P .column n) (primaryKey : ∀ n ∈ t.primaryKey, P .column n)
    (indexes : ∀ i ∈ t.indexes, P .index i.name ∧ ∀ n ∈ i.columns, P .column n)
    (keys : ∀ k ∈ t.foreignKeys, P .table k.referencedTable ∧
      (∀ n ∈ k.columns, P .column n) ∧ ∀ n ∈ k.referencedColumns, P .column n) :
    ∀ statement ∈ t.creationStatements d skips, All P (Pieces.of d statement) := by
  intro statement h
  rcases List.mem_cons.mp h with rfl | h
  · have lines : ∀ line ∈ tableLines d (t.clause d), All P line := by
      intro line hline
      simp only [tableLines, Table.clause, List.map_nil, List.append_nil, List.mem_append,
        List.map_map, List.mem_map, Function.comp_apply] at hline
      rcases hline with ⟨y, hy, rfl⟩ | hline
      · exact all_column free (columns y.name (List.mem_map_of_mem hy))
      · by_cases keyless : t.primaryKey = []
        · simp [keyless] at hline
        · have hline : line = Pieces.primaryKey d t.name t.primaryKey := by
            simpa [keyless] using hline
          rw [hline]
          exact all_primaryKey free primaryKey
    simpa [Pieces.of, createTable, table, Table.clause] using lines
  · unfold Table.additions at h
    split at h
    · cases h
    · rcases List.mem_append.mp h with h | h
      · obtain ⟨i, hi, rfl⟩ := List.mem_map.mp h
        obtain ⟨named, covered⟩ := indexes i hi
        simpa [Pieces.of, createIndex, table, named] using covered
      · obtain ⟨k, hk, rfl⟩ := List.mem_map.mp h
        obtain ⟨referenced, own, others⟩ := keys k hk
        have clause : (ForeignKeyClause.of t.name k).key = k := rfl
        simp only [Pieces.of, alterTable, namedForeignKey, foreignKey, clause, all_append,
          all_plain, all_name, all_list, all_nil, table, free, referenced, true_and, and_true]
        exact ⟨own, others⟩

end Unconstrained

end Pieces

/-! ### Names that are made -/

namespace TableDef

variable {d : Dialect} {t : TableDef} {n : String}

def madeNames (d : Dialect) (skips : Bool) (t : TableDef) : List String :=
  t.primaryKeyNames d ++ t.defaultNames d ++ t.checkNames d ++
    if skips then [] else t.madeKeyNames

/-- The names of the constraints of a table are given or made. -/
theorem mem_constraints_iff {skips : Bool} :
    (n ∈ t.primaryKeyNames d ++ t.defaultNames d ++ t.checkNames d ++
        if skips then [] else t.givenKeyNames ++ t.madeKeyNames) ↔
      (skips = false ∧ n ∈ t.givenKeyNames) ∨ n ∈ t.madeNames d skips := by
  unfold madeNames
  cases skips with
  | true => simp
  | false =>
    simp only [List.mem_append, Bool.false_eq_true, if_false, true_and]
    constructor
    · rintro (made | given | made)
      · exact .inr (.inl made)
      · exact .inl given
      · exact .inr (.inr made)
    · rintro (given | made | made)
      · exact .inr (.inl given)
      · exact .inl made
      · exact .inr (.inr made)

theorem length_pos_of_mem_madeNames {skips : Bool} (h : n ∈ t.madeNames d skips) :
    1 ≤ n.length := by
  have mark : "_".length = 1 := rfl
  simp only [madeNames, List.mem_append] at h
  rcases h with ((h | h) | h) | h
  · unfold primaryKeyNames at h
    split at h
    · next named =>
      rw [List.mem_singleton.mp h, named.1, Dialect.primaryKeyName, if_pos rfl,
        String.length_append]
      have three : "PK_".length = 3 := rfl
      omega
    · cases h
  · obtain ⟨c, -, -, rfl⟩ := mem_namesOf.mp h
    rw [Dialect.defaultName]
    simp only [String.length_append]
    omega
  · obtain ⟨c, -, -, rfl⟩ := mem_namesOf.mp h
    unfold Dialect.checkName
    split
    · simp only [String.length_append]
      omega
    · simp only [String.length_append]
      omega
  · split at h
    · cases h
    · obtain ⟨k, -, hn⟩ := List.mem_flatMap.mp h
      split at hn
      · rw [List.mem_singleton.mp hn, ForeignKey.generatedName]
        simp only [String.length_append]
        omega
      · cases hn

end TableDef

namespace Projection

variable {p : Projection} {schema : Schema} {t : TableDef} {table : Table} {limit : Nat}

/-- Apart from constraints, a table is created with names that were checked. -/
theorem Makes.all_fit (made : p.Makes t table) (ht : t ∈ schema.tables)
    (hchecked : p.rules.Checked schema t) (bounds : Rules.Bounds limit schema) (d : Dialect)
    (skips : Bool) :
    ∀ statement ∈ table.creationStatements d skips,
      Pieces.All (fun kind n => kind ≠ .constraint → Fits limit n) (Pieces.of d statement) := by
  have columns : ∀ n ∈ t.columnNames, Fits limit n := bounds.columns t ht
  have named : table.columnNames = t.columnNames := made.columnNames
  have owns := (made.complete hchecked).owns
  apply Pieces.all_creation
  · intro n constraint
    exact absurd rfl constraint
  · intro _
    rw [made.name]
    exact bounds.tables t ht
  · intro n hn _
    exact columns n (named ▸ hn)
  · intro n hn _
    exact columns n (named ▸ owns.primaryKey n hn)
  · intro i hi
    constructor
    · intro _
      rw [made.indexes] at hi
      obtain ⟨j, hj, rfl⟩ := List.mem_map.mp hi
      exact bounds.indexes t ht j hj
    · intro n hn _
      exact columns n (named ▸ owns.indexes i hi n hn)
  · intro k hk
    have own := owns.foreignKeys k hk
    rw [made.foreignKeys] at hk
    obtain ⟨l, hl, rfl⟩ := List.mem_map.mp hk
    obtain ⟨-, referenced, hreferenced, -, hexist⟩ :=
      Rules.of_checkForeignKey (hchecked.foreignKeys l hl)
    have hmem : referenced ∈ schema.tables := List.mem_of_find?_eq_some hreferenced
    have hname : referenced.name = l.referencedTable := by
      simpa using List.find?_some hreferenced
    refine ⟨fun _ => ?_, fun n hn _ => ?_, fun n hn _ => ?_⟩
    · show Fits limit l.referencedTable
      rw [← hname]
      exact bounds.tables referenced hmem
    · exact columns n (named ▸ own n hn)
    · exact bounds.columns referenced hmem n (hexist n hn)

end Projection

/-- In the statements that create a whole schema, all names fit into the limit of the dialect
exactly if those do that are made for its constraints. -/
theorem Dialect.names_fit_iff {d : Dialect} {limit : Nat}
    (limited : d.rules.maxIdentifierLength = some limit) (skips : Bool) {schema : Schema}
    (valid : d.rules.validate schema = .ok ()) :
    ∃ target, d.projection.project schema = .ok target ∧
      ∀ difference, (Comparison.mk .empty target d.rules skips).difference = .ok difference →
        ∃ statements,
          (Emission.body ⟨d, .empty, target, difference.changes, skips⟩ .start).2 =
            .of statements ∧
          statements.map d.text = statements.map (fun s => Pieces.render d (Pieces.of d s)) ∧
          ((∀ s ∈ statements, ∀ kind name, .name kind name ∈ Pieces.of d s → Fits limit name) ↔
            ∀ t ∈ schema.tables, ∀ name ∈ t.madeNames d skips, name.length ≤ limit) := by
  have other : d ≠ .sqlite := by
    rintro rfl
    cases limited
  obtain ⟨target, projected, -⟩ := Projection.snapshot_ok (p := d.projection) valid
  refine ⟨target, by rw [Projection.project, projected]; rfl, fun difference h => ?_⟩
  obtain ⟨statements, hbody, hmem, names⟩ := Dialect.constraints_of_creation other projected h
  have bounds := Rules.bounds_of_validate limited valid
  have texts : statements.map d.text =
      statements.map (fun s => Pieces.render d (Pieces.of d s)) :=
    List.map_congr_left fun s _ => (Pieces.render_of d s).symm
  refine ⟨statements, hbody, texts, ?_⟩
  constructor
  · intro fit t ht name hname
    have written : name ∈ statements.flatMap fun s => Pieces.constraints (Pieces.of d s) := by
      rw [names.mem_iff, List.mem_flatMap]
      exact ⟨t, ht, TableDef.mem_constraints_iff.mpr (.inr hname)⟩
    obtain ⟨s, hs, hconstraint⟩ := List.mem_flatMap.mp written
    exact (fit s hs .constraint name (Pieces.name_constraint_mem.mpr hconstraint)).2
  · intro made s hs kind name hname
    by_cases constraint : kind = .constraint
    · subst constraint
      have written : name ∈ statements.flatMap fun s => Pieces.constraints (Pieces.of d s) :=
        List.mem_flatMap.mpr ⟨s, hs, Pieces.name_constraint_mem.mp hname⟩
      rw [names.mem_iff, List.mem_flatMap] at written
      obtain ⟨t, ht, hname⟩ := written
      rcases TableDef.mem_constraints_iff.mp hname with ⟨-, given⟩ | hmade
      · exact bounds.keys t ht name given
      · exact ⟨TableDef.length_pos_of_mem_madeNames hmade, made t ht name hmade⟩
    · obtain ⟨e, he, hs⟩ := (hmem s).mp hs
      obtain ⟨tables, hmade, -, entries, hchecked⟩ := Projection.entries_of_snapshot projected
      rw [entries] at he
      obtain ⟨table, htable, rfl⟩ := List.mem_map.mp he
      obtain ⟨t, ht, hfrom⟩ := (of_mapM_eq_ok hmade).1 table htable
      exact (Projection.makes_of_table hfrom).all_fit ht
        (Rules.checked_of_checkTable (hchecked t ht)) bounds d skips s hs kind name hname constraint

namespace Shop

def followUps (name : String) : Schema :=
  { Schema.ofName "shop" with
    tables := [
      { name
        columns := [⟨"id", "INT", none, none, false, none, none, none⟩,
          ⟨"previous", "INT", none, none, false, none, none, none⟩]
        primaryKey := ["id"]
        indexes := []
        foreignKeys := [⟨none, ["previous"], name, ["id"], .noAction, .noAction⟩]
        charset := none
        collation := none }] }

def followUpsTarget (name : String) : Snapshot :=
  .ofTables [
    { name
      columns := ["id", "previous"].map number
      primaryKey := ["id"]
      indexes := []
      foreignKeys := [⟨some ("fk_" ++ name ++ "_previous"), ["previous"], name, ["id"], "NO ACTION",
        "NO ACTION"⟩]
      charset := some "utf8mb4"
      collation := some "utf8mb4_0900_ai_ci" }]

def followUpsFromScratch (name : String) : Comparison :=
  ⟨.empty, followUpsTarget name, Dialect.mysql.rules, false⟩

theorem orders_fit :
    Dialect.mysql.rules.maxIdentifierLength = some 64 ∧
      Dialect.mysql.rules.validate (followUps "orders") = .ok () ∧
      ∃ difference statements, (followUpsFromScratch "orders").difference = .ok difference ∧
        (Emission.body ⟨.mysql, .empty, followUpsTarget "orders", difference.changes, false⟩
          .start).2 = .of statements ∧
        ∀ s ∈ statements, ∀ kind name, .name kind name ∈ Pieces.of .mysql s → Fits 64 name := by
  have valid : Dialect.mysql.rules.validate (followUps "orders") = .ok () := rfl
  have projected : Dialect.mysql.projection.project (followUps "orders") =
      .ok (followUpsTarget "orders") := rfl
  obtain ⟨g, -, -, -, hd⟩ := Comparison.difference_of_nodup (c := followUpsFromScratch "orders")
    (by decide)
  obtain ⟨target, made, names⟩ := Dialect.names_fit_iff (d := .mysql) rfl false valid
  obtain rfl := Except.ok.inj (projected.symm.trans made)
  obtain ⟨statements, emitted, -, fit⟩ := names _ hd
  exact ⟨rfl, valid, _, statements, hd, emitted, fit.mpr (by decide)⟩

def longName : String := "orders_of_users_who_placed_them_before_they_had_an_account"

/-- The name of the foreign key is longer than that of its table, and too long. -/
theorem made_key_name_is_too_long :
    Fits 64 longName ∧ Dialect.mysql.rules.validate (followUps longName) = .ok () ∧
      Dialect.mysql.projection.project (followUps longName) = .ok (followUpsTarget longName) ∧
      ∃ difference statements, (followUpsFromScratch longName).difference = .ok difference ∧
        (Emission.body ⟨.mysql, .empty, followUpsTarget longName, difference.changes, false⟩
          .start).2 = .of statements ∧
        ∃ s ∈ statements,
          .name .constraint ("fk_" ++ longName ++ "_previous") ∈ Pieces.of .mysql s ∧
          ¬ Fits 64 ("fk_" ++ longName ++ "_previous") := by
  obtain ⟨g, -, -, -, hd⟩ := Comparison.difference_of_nodup (c := followUpsFromScratch longName)
    (by decide)
  have hchanges := Comparison.changes_of_sorted hd (by decide)
  let statements := (followUpsTarget longName).tables.values.flatMap
    (Table.creationStatements .mysql false)
  refine ⟨by decide, rfl, rfl, _, statements, hd, ?_, ?_⟩
  · rw [hchanges]
    rfl
  · decide

end Shop

end SchemaMigration
