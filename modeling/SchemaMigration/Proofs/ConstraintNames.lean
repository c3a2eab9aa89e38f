import Mathlib.Data.List.Pairwise
import Mathlib.Data.List.Perm.Basic
import SchemaMigration.Proofs.Creation

/-!
Names of constraints. Those of primary keys, defaults and enumeration checks are made of the names
of tables and columns with a mark before and underscores between them. Since names may hold
underscores themselves, two columns of different tables can get one name for their constraints.
-/

namespace SchemaMigration

/-! ### Names that run together -/

/-- A table and a column whose names give the same when they are joined as those of another table
and column, which splits at an earlier place. -/
def Overlap (table column otherTable otherColumn : String) : Prop :=
  ∃ part, otherTable = table ++ "_" ++ part ∧ column = part ++ "_" ++ otherColumn

theorem joined_eq_of_overlap {t a u b : String} (h : Overlap t a u b) :
    t ++ "_" ++ a = u ++ "_" ++ b := by
  obtain ⟨part, rfl, rfl⟩ := h
  simp only [String.append_assoc]

/-- Joined names are equal only if they were the same before, or overlap. -/
theorem joined_eq_iff {t a u b : String} :
    t ++ "_" ++ a = u ++ "_" ++ b ↔ (t = u ∧ a = b) ∨ Overlap t a u b ∨ Overlap u b t a := by
  have split : ∀ {t a u b : String} {rest : List Char}, u.toList = t.toList ++ rest →
      '_' :: a.toList = rest ++ '_' :: b.toList → (t = u ∧ a = b) ∨ Overlap t a u b := by
    intro t a u b rest hu ha
    cases rest with
    | nil =>
      rw [List.append_nil] at hu
      exact .inl ⟨String.toList_inj.mp hu.symm, String.toList_inj.mp (List.cons.inj ha).2⟩
    | cons mark rest =>
      have rest_eq : a.toList = rest ++ '_' :: b.toList := (List.cons.inj ha).2
      obtain rfl := (List.cons.inj ha).1
      refine .inr ⟨String.ofList rest, String.toList_inj.mp ?_, String.toList_inj.mp ?_⟩
      · simp [hu]
      · simp [rest_eq]
  constructor
  · intro h
    have chars := congrArg String.toList h
    have mark : "_".toList = ['_'] := rfl
    simp only [String.toList_append, List.append_assoc, mark, List.singleton_append] at chars
    rcases List.append_eq_append_iff.mp chars with ⟨rest, hu, ha⟩ | ⟨rest, ht, hb⟩
    · rcases split hu ha with same | overlap
      · exact .inl same
      · exact .inr (.inl overlap)
    · rcases split ht hb with ⟨rfl, rfl⟩ | overlap
      · exact .inl ⟨rfl, rfl⟩
      · exact .inr (.inr overlap)
  · rintro (⟨rfl, rfl⟩ | overlap | overlap)
    · rfl
    · exact joined_eq_of_overlap overlap
    · exact (joined_eq_of_overlap overlap).symm

theorem not_overlap_self (t a b : String) : ¬ Overlap t a t b := by
  rintro ⟨part, h, -⟩
  have longer := congrArg String.length h
  have mark : "_".length = 1 := rfl
  rw [String.length_append, String.length_append, mark] at longer
  omega

/-! ### The names that a table gives to its constraints -/

def ColumnDef.isEnumeration (c : ColumnDef) : Bool :=
  ColumnType.ofSpelling? c.type == some .enumeration

def Dialect.namesChecks (d : Dialect) : Bool := d == postgres || d == sqlServer

def ColumnDef.constraintNames (d : Dialect) (table : String) (c : ColumnDef) : List String :=
  (if (d == .sqlServer && c.default.isSome) = true then [Dialect.defaultName table c.name]
    else []) ++
  if (d.namesChecks && c.isEnumeration) = true then [d.checkName table c.name] else []

namespace TableDef

def namesOf (chosen : ColumnDef → Bool) (name : String → String → String) (t : TableDef) :
    List String :=
  t.columns.flatMap fun c => if chosen c then [name t.name c.name] else []

def defaultNames (d : Dialect) : TableDef → List String :=
  namesOf (fun c => d == .sqlServer && c.default.isSome) Dialect.defaultName

def checkNames (d : Dialect) : TableDef → List String :=
  namesOf (fun c => d.namesChecks && c.isEnumeration) d.checkName

def primaryKeyNames (d : Dialect) (t : TableDef) : List String :=
  if d = .sqlServer ∧ t.primaryKey ≠ [] then [d.primaryKeyName t.name] else []

def givenKeyNames (t : TableDef) : List String :=
  t.foreignKeys.flatMap fun k => (Text.nonempty? k.name).toList

def madeKeyNames (t : TableDef) : List String :=
  t.foreignKeys.flatMap fun k =>
    if Text.nonempty? k.name = none then [ForeignKey.generatedName t.name k.columns] else []

theorem mem_namesOf {chosen : ColumnDef → Bool} {name : String → String → String} {t : TableDef}
    {n : String} :
    n ∈ t.namesOf chosen name ↔ ∃ c ∈ t.columns, chosen c = true ∧ n = name t.name c.name := by
  unfold namesOf
  rw [List.mem_flatMap]
  constructor
  · rintro ⟨c, hc, hn⟩
    split at hn
    · next h => exact ⟨c, hc, h, List.mem_singleton.mp hn⟩
    · cases hn
  · rintro ⟨c, hc, h, rfl⟩
    refine ⟨c, hc, ?_⟩
    rw [if_pos h]
    exact List.mem_singleton_self _

end TableDef

/-! ### Names that are made the same way all over a schema -/

section Marked

variable {chosen : ColumnDef → Bool} {mark : String} {tables : List TableDef}

def marked (mark table column : String) : String := mark ++ table ++ "_" ++ column

theorem marked_eq_iff {t a u b : String} :
    marked mark t a = marked mark u b ↔ t ++ "_" ++ a = u ++ "_" ++ b := by
  simp only [marked, String.append_assoc, String.append_right_inj]

theorem nodup_namesOf {t : TableDef} (distinct : t.columnNames.Nodup) :
    (t.namesOf chosen (marked mark)).Nodup := by
  unfold TableDef.namesOf
  rw [List.nodup_flatMap]
  constructor
  · intro c _
    split
    · exact List.nodup_singleton _
    · exact List.nodup_nil
  · rw [TableDef.columnNames, List.nodup_iff_pairwise_ne, List.pairwise_map] at distinct
    refine distinct.imp fun {a b} differ n ha hb => ?_
    dsimp only at ha hb
    split at ha
    · split at hb
      · rw [List.mem_singleton] at ha hb
        rcases joined_eq_iff.mp (marked_eq_iff.mp (ha.symm.trans hb)) with
          ⟨-, same⟩ | overlap | overlap
        · exact differ same
        · exact not_overlap_self _ _ _ overlap
        · exact not_overlap_self _ _ _ overlap
      · cases hb
    · cases ha

/-- Made names are distinct exactly if no two of the columns overlap with their tables. -/
theorem nodup_flatMap_namesOf (chosen : ColumnDef → Bool) (mark : String)
    (distinct : (tables.map TableDef.name).Nodup)
    (columns : ∀ t ∈ tables, t.columnNames.Nodup) :
    (tables.flatMap (TableDef.namesOf chosen (marked mark))).Nodup ↔
      ∀ t ∈ tables, ∀ u ∈ tables, ∀ a ∈ t.columns, ∀ b ∈ u.columns,
        chosen a = true → chosen b = true → ¬ Overlap t.name a.name u.name b.name := by
  have apart : ∀ t ∈ tables, ∀ u ∈ tables, t ≠ u → t.name ≠ u.name := fun t ht u hu hne same =>
    hne (List.inj_on_of_nodup_map distinct ht hu same)
  rw [List.nodup_flatMap]
  constructor
  · rintro ⟨-, disjoint⟩ t ht u hu a ha b hb hat hbu overlap
    have differ : t ≠ u := by
      rintro rfl
      exact not_overlap_self _ _ _ overlap
    have symmetric : Std.Symm (Function.onFun List.Disjoint
        (TableDef.namesOf chosen (marked mark))) := ⟨fun _ _ h _ hn hm => h hm hn⟩
    refine disjoint.forall ht hu differ
      (TableDef.mem_namesOf.mpr ⟨a, ha, hat, rfl⟩) (TableDef.mem_namesOf.mpr ⟨b, hb, hbu, ?_⟩)
    exact marked_eq_iff.mpr (joined_eq_of_overlap overlap)
  · intro free
    refine ⟨fun t ht => nodup_namesOf (columns t ht), ?_⟩
    refine distinct.of_map.pairwise_of_forall_ne fun t ht u hu differ n hn hm => ?_
    obtain ⟨a, ha, hat, rfl⟩ := TableDef.mem_namesOf.mp hn
    obtain ⟨b, hb, hbu, same⟩ := TableDef.mem_namesOf.mp hm
    rcases joined_eq_iff.mp (marked_eq_iff.mp same) with ⟨same, -⟩ | overlap | overlap
    · exact apart t ht u hu differ same
    · exact free t ht u hu a ha b hb hat hbu overlap
    · exact free u hu t ht b hb a ha hbu hat overlap

end Marked

/-! ### The names in statements that create a table -/

namespace Pieces

variable (d : Dialect)

@[simp] theorem constraints_list_column (names : List String) :
    constraints (list .column names) = [] := by
  rw [list, constraints_joined, List.flatMap_eq_nil_iff]
  intro block hblock
  obtain ⟨name, -, rfl⟩ := List.mem_map.mp hblock
  rfl

@[simp] theorem constraints_checkClause (c : Column) : constraints (checkClause c) = [] := rfl

theorem constraints_columnHead (clause : ColumnClause) :
    (columnHead clause).flatMap constraints = [] := by
  have collated : ((Dialect.collateClause clause.column.collation).map
      fun text => [Piece.plain text]).flatMap constraints = [] := by
    rw [List.flatMap_eq_nil_iff]
    intro block hblock
    obtain ⟨text, -, rfl⟩ := List.mem_map.mp hblock
    rfl
  by_cases untyped : clause.type = ""
  · simp [columnHead, untyped, collated]
  · simp [columnHead, untyped, collated]

theorem constraints_defaultClause (table : String) (c : Column) :
    (defaultClause d table c).flatMap constraints =
      if (d == .sqlServer && c.default.isSome) = true then [Dialect.defaultName table c.name]
      else [] := by
  unfold defaultClause
  cases c.default with
  | none => simp
  | some expression =>
    by_cases hd : d = .sqlServer
    · simp [hd]
    · simp [hd]

theorem constraints_enumClause (table : String) (c : Column) :
    (enumClause d table c).flatMap constraints =
      if (d.namesChecks && c.HasEnumValues) = true then [d.checkName table c.name] else [] := by
  unfold enumClause
  by_cases limited : c.HasEnumValues = true
  · cases d <;> simp [limited, Dialect.namesChecks]
  · simp [limited]

@[simp] theorem constraints_column (table : String) (clause : ColumnClause) :
    constraints (column d table clause) =
      (if (d == .sqlServer && clause.column.default.isSome) = true then
        [Dialect.defaultName table clause.column.name] else []) ++
      if (d.namesChecks && clause.column.HasEnumValues) = true then
        [d.checkName table clause.column.name] else [] := by
  rw [column, constraints_joined, List.flatMap_append, List.flatMap_append, constraints_columnHead,
    constraints_defaultClause, constraints_enumClause, List.nil_append]

@[simp] theorem constraints_primaryKey (table : String) (columns : List String) :
    constraints (primaryKey d table columns) =
      if d = .sqlServer then [d.primaryKeyName table] else [] := by
  by_cases hd : d = .sqlServer
  · simp [primaryKey, hd]
  · simp [primaryKey, hd]

@[simp] theorem constraints_foreignKey (k : ForeignKey) : constraints (foreignKey k) = [] := by
  simp [foreignKey]

@[simp] theorem constraints_createIndex (table : String) (i : Index) :
    constraints (createIndex table i) = [] := by
  simp [createIndex]

theorem constraints_addForeignKey (table : String) (clause : ForeignKeyClause) :
    constraints (of d (.addForeignKey table clause)) = [clause.name] := by
  simp [of, alterTable, namedForeignKey]

end Pieces

namespace Projection

variable {p : Projection} {d : Dialect} {schema : Schema} {t : TableDef} {c : ColumnDef}
  {column : Column} {table : Table}

theorem isEnumeration_of_column {part : SchemaPart}
    (hchecked : Rules.checkColumnType part c = .ok ()) (h : p.column t c = .ok column) :
    column.HasEnumValues = c.isEnumeration := by
  have complete := (complete_of_column hchecked h).2
  obtain ⟨type, htype, hlength, -⟩ := Rules.of_checkColumnType hchecked
  cases (column_eq htype hlength).symm.trans h
  have spelled : ColumnType.ofSpelling? c.type = some type := by
    unfold Rules.typeOf at htype
    split at htype
    · next hfound =>
      cases htype
      exact hfound
    · cases htype
  rw [Bool.eq_iff_iff, complete.hasEnumValues_iff, ColumnDef.isEnumeration, spelled]
  simp

/-- The names of constraints in the definition of a table. -/
theorem Makes.constraints_createTable (made : p.Makes t table)
    (hchecked : p.rules.Checked schema t) :
    Pieces.constraints (Pieces.of d (.createTable (table.clause d))) =
      t.columns.flatMap (ColumnDef.constraintNames d t.name) ++ t.primaryKeyNames d := by
  have columns : table.columns.flatMap (fun y => Pieces.constraints
      (Pieces.column d table.name (.declared d y))) =
        t.columns.flatMap (ColumnDef.constraintNames d t.name) := by
    rw [List.flatMap_def, List.flatMap_def]
    refine congrArg List.flatten (map_of_mapM_eq_ok (fun c hc y hy => ?_) made.columns)
    have typed := Rules.checkColumnType_of_checkColumns hchecked.columns c hc
    rw [Pieces.constraints_column, ColumnClause.declared, name_of_column hy,
      (clauses_of_column hy).1, isEnumeration_of_column typed hy, made.name]
    rfl
  have keys : (if table.primaryKey = [] then []
      else [Pieces.primaryKey d table.name table.primaryKey]).flatMap Pieces.constraints =
        t.primaryKeyNames d := by
    unfold TableDef.primaryKeyNames
    rw [made.primaryKey, made.name]
    by_cases keyless : t.primaryKey = []
    · simp [keyless]
    · simp [keyless]
  have lines : (Pieces.tableLines d (table.clause d)).flatMap Pieces.constraints =
      (table.columns.flatMap fun y => Pieces.constraints
        (Pieces.column d table.name (.declared d y))) ++
      (if table.primaryKey = [] then []
        else [Pieces.primaryKey d table.name table.primaryKey]).flatMap Pieces.constraints := by
    simp only [Pieces.tableLines, Table.clause, List.map_nil, List.append_nil,
      List.flatMap_append, List.map_map, List.flatMap_map, Function.comp_apply]
    rfl
  rw [← columns, ← keys, ← lines]
  simp [Pieces.of, Pieces.createTable, List.flatMap_map]

theorem name_of_key (table : String) (t : TableDef) (k : ForeignKeyDef) :
    (ForeignKeyClause.of table (foreignKey t k)).name = k.projectedName t.name := by
  have nonempty : k.projectedName t.name ≠ "" := by
    unfold ForeignKeyDef.projectedName
    intro h
    cases given : Text.nonempty? k.name with
    | none =>
      rw [given, Option.getD_none] at h
      have start := ForeignKeyDef.prefix_generatedName t.name k.columns
      rw [h] at start
      exact absurd start (by decide)
    | some name =>
      rw [given, Option.getD_some] at h
      exact (Text.nonempty?_eq_some_iff.mp given).2 h
  show (Text.nonempty? (some (k.projectedName t.name))).getD _ = _
  rw [Text.nonempty?_eq_some_iff.mpr ⟨rfl, nonempty⟩, Option.getD_some]

/-- The names of constraints in all statements that create a table. -/
theorem Makes.constraints_creation (made : p.Makes t table)
    (hchecked : p.rules.Checked schema t) (skips : Bool) :
    ((table.creationStatements d skips).flatMap fun s => Pieces.constraints (Pieces.of d s)).Perm
      (t.primaryKeyNames d ++ t.defaultNames d ++ t.checkNames d ++
        if skips then [] else t.givenKeyNames ++ t.madeKeyNames) := by
  have additions : (table.additions skips).flatMap
      (fun s => Pieces.constraints (Pieces.of d s)) =
        if skips then [] else t.foreignKeys.map fun k => k.projectedName t.name := by
    unfold Table.additions
    cases skips with
    | true => rfl
    | false =>
      have indexes : (table.indexes.map (Statement.createIndex table.name)).flatMap
          (fun s => Pieces.constraints (Pieces.of d s)) = [] := by
        rw [List.flatMap_map, List.flatMap_eq_nil_iff]
        intro i _
        exact Pieces.constraints_createIndex _ _
      simp only [Bool.false_eq_true, if_false, List.flatMap_append, indexes, List.nil_append,
        made.foreignKeys, List.map_map, List.flatMap_map, Function.comp_apply,
        Pieces.constraints_addForeignKey, name_of_key, ← List.map_eq_flatMap]
  have keys : (t.foreignKeys.map fun k => k.projectedName t.name).Perm
      (t.givenKeyNames ++ t.madeKeyNames) := by
    refine .trans (.of_eq ?_) (List.flatMap_append_perm _ _ _).symm
    rw [List.map_eq_flatMap]
    refine List.flatMap_congr fun k _ => ?_
    unfold ForeignKeyDef.projectedName
    cases Text.nonempty? k.name <;> simp
  have columns : (t.columns.flatMap (ColumnDef.constraintNames d t.name)).Perm
      (t.defaultNames d ++ t.checkNames d) := (List.flatMap_append_perm _ _ _).symm
  rw [Table.creationStatements, List.flatMap_cons, made.constraints_createTable hchecked, additions]
  refine List.Perm.append ?_ ?_
  · rw [List.append_assoc]
    exact (columns.append_right _).trans List.perm_append_comm
  · cases skips with
    | true => exact .refl _
    | false => exact keys

end Projection

theorem flatMap_perm_of_mapM_eq_ok {α β ε γ : Type} {f : α → Except ε β} {as : List α}
    {bs : List β} {names : β → List γ} {names' : α → List γ}
    (same : ∀ a ∈ as, ∀ b, f a = .ok b → (names b).Perm (names' a)) (h : as.mapM f = .ok bs) :
    (bs.flatMap names).Perm (as.flatMap names') := by
  induction as generalizing bs with
  | nil =>
    cases h
    exact .refl _
  | cons a as ih =>
    obtain ⟨b, rest, hb, hrest, rfl⟩ := mapM_cons_eq_ok_iff.mp h
    obtain ⟨first, others⟩ := List.forall_mem_cons.mp same
    rw [List.flatMap_cons, List.flatMap_cons]
    exact (first b hb).append (ih others hrest)

/-- The names of constraints in the statements that create a whole schema. -/
theorem Dialect.constraints_of_creation {d : Dialect} (other : d ≠ .sqlite) {schema : Schema}
    {target : Snapshot} (made : d.projection.snapshot schema = .ok target) {skips : Bool}
    {difference : Difference}
    (h : (Comparison.mk .empty target d.rules skips).difference = .ok difference) :
    ∃ statements,
      (Emission.body ⟨d, .empty, target, difference.changes, skips⟩ .start).2 = .of statements ∧
      (∀ statement, statement ∈ statements ↔
        ∃ e ∈ target.tables.entries, statement ∈ e.2.creationStatements d skips) ∧
      (statements.flatMap fun s => Pieces.constraints (Pieces.of d s)).Perm
        (schema.tables.flatMap fun t => t.primaryKeyNames d ++ t.defaultNames d ++
          t.checkNames d ++ if skips then [] else t.givenKeyNames ++ t.madeKeyNames) := by
  have projects := Projection.projects_of_snapshot made
  have typed : target.Typed := fun entry hentry y hy =>
    ((projects.tables entry hentry).columns y hy).typed
  obtain ⟨statements, hbody, hperm⟩ := Comparison.body_from_empty other projects.named typed h
  refine ⟨statements, hbody, fun statement => ?_, (hperm.flatMap_right _).trans ?_⟩
  · rw [hperm.mem_iff, List.mem_flatMap]
  · obtain ⟨tables, hmade, -, entries, hchecked⟩ := Projection.entries_of_snapshot made
    rw [entries, List.flatMap_map, List.flatMap_assoc]
    refine flatMap_perm_of_mapM_eq_ok (fun t ht table htable => ?_) hmade
    exact (Projection.makes_of_table htable).constraints_creation
      (Rules.checked_of_checkTable (hchecked t ht)) skips

/-! ### SQL Server -/

section Marks

/-- Names that start with different marks of one length differ. -/
theorem ne_of_marks {mark other : String} {n m : String} (hn : mark.toList <+: n.toList)
    (hm : other.toList <+: m.toList) (length : mark.toList.length = other.toList.length)
    (differ : mark ≠ other) : n ≠ m := by
  rintro rfl
  have inner := List.prefix_of_prefix_length_le hn hm (Nat.le_of_eq length)
  exact differ (String.toList_inj.mp (inner.eq_of_length length))

theorem prefix_marked (mark table column : String) :
    mark.toList <+: (marked mark table column).toList := by
  simp [marked, List.append_assoc]

end Marks

namespace Schema

def marks : List String := ["PK_", "DF_", "CK_"]

/-- The names of constraints in SQL Server: those that are made for primary keys, defaults and
enumeration checks, and those that foreign keys were given. -/
def constraintNames (schema : Schema) : List String :=
  schema.tables.flatMap (TableDef.primaryKeyNames .sqlServer) ++
    (schema.tables.flatMap (TableDef.defaultNames .sqlServer) ++
      (schema.tables.flatMap (TableDef.checkNames .sqlServer) ++
        schema.tables.flatMap TableDef.givenKeyNames))

/-- Two columns with defaults, or two enumerations, overlap with the names of their tables. -/
def ConstraintsOverlap (schema : Schema) : Prop :=
  ∃ t ∈ schema.tables, ∃ u ∈ schema.tables, ∃ a ∈ t.columns, ∃ b ∈ u.columns,
    Overlap t.name a.name u.name b.name ∧
      ((a.default.isSome = true ∧ b.default.isSome = true) ∨
        (a.isEnumeration = true ∧ b.isEnumeration = true))

variable {schema : Schema}

theorem nodup_primaryKeyNames (distinct : (schema.tables.map TableDef.name).Nodup) :
    (schema.tables.flatMap (TableDef.primaryKeyNames .sqlServer)).Nodup := by
  rw [List.nodup_flatMap]
  constructor
  · intro t _
    unfold TableDef.primaryKeyNames
    split
    · exact List.nodup_singleton _
    · exact List.nodup_nil
  · rw [List.nodup_iff_pairwise_ne, List.pairwise_map] at distinct
    refine distinct.imp fun {t u} differ n ht hu => ?_
    unfold TableDef.primaryKeyNames at ht hu
    split at ht
    · split at hu
      · rw [List.mem_singleton] at ht hu
        have same := ht.symm.trans hu
        simp only [Dialect.primaryKeyName, if_true, String.append_right_inj] at same
        exact differ same
      · cases hu
    · cases ht

theorem prefix_of_mem_primaryKeyNames {n : String}
    (h : n ∈ schema.tables.flatMap (TableDef.primaryKeyNames .sqlServer)) :
    "PK_".toList <+: n.toList := by
  obtain ⟨t, -, hn⟩ := List.mem_flatMap.mp h
  unfold TableDef.primaryKeyNames at hn
  split at hn
  · rw [List.mem_singleton.mp hn]
    simp [Dialect.primaryKeyName]
  · cases hn

theorem prefix_of_mem_namesOf {chosen : ColumnDef → Bool} {mark n : String}
    (h : n ∈ schema.tables.flatMap (TableDef.namesOf chosen (marked mark))) :
    mark.toList <+: n.toList := by
  obtain ⟨t, -, hn⟩ := List.mem_flatMap.mp h
  obtain ⟨c, -, -, rfl⟩ := TableDef.mem_namesOf.mp hn
  exact prefix_marked mark t.name c.name

theorem defaultNames_eq :
    TableDef.defaultNames .sqlServer =
      TableDef.namesOf (fun c => c.default.isSome) (marked "DF_") := rfl

theorem checkNames_eq :
    TableDef.checkNames .sqlServer = TableDef.namesOf ColumnDef.isEnumeration (marked "CK_") := rfl

/-- The names of constraints are distinct exactly if no columns overlap, as long as the given names
are distinct and do not look like those that are made. -/
theorem nodup_constraintNames (distinct : (schema.tables.map TableDef.name).Nodup)
    (columns : ∀ t ∈ schema.tables, t.columnNames.Nodup)
    (given : (schema.tables.flatMap TableDef.givenKeyNames).Nodup)
    (unmarked : ∀ n ∈ schema.tables.flatMap TableDef.givenKeyNames,
      ∀ mark ∈ marks, ¬ mark.toList <+: n.toList) :
    schema.constraintNames.Nodup ↔ ¬ schema.ConstraintsOverlap := by
  have ofGiven {n : String} (hn : n ∈ schema.tables.flatMap TableDef.givenKeyNames)
      {m mark : String} (hmark : mark ∈ marks) (hm : mark.toList <+: m.toList) : m ≠ n := by
    rintro rfl
    exact unmarked _ hn _ hmark hm
  have defaults := nodup_flatMap_namesOf (fun c => c.default.isSome) "DF_" distinct columns
  have checks := nodup_flatMap_namesOf ColumnDef.isEnumeration "CK_" distinct columns
  rw [constraintNames, defaultNames_eq, checkNames_eq, List.nodup_append, List.nodup_append,
    List.nodup_append, defaults, checks]
  constructor
  · rintro ⟨-, ⟨freeDefaults, ⟨freeChecks, -⟩, -⟩, -⟩
    rintro ⟨t, ht, u, hu, a, ha, b, hb, overlap, both | both⟩
    · exact freeDefaults t ht u hu a ha b hb both.1 both.2 overlap
    · exact freeChecks t ht u hu a ha b hb both.1 both.2 overlap
  · intro free
    refine ⟨nodup_primaryKeyNames distinct, ⟨?_, ⟨?_, given, ?_⟩, ?_⟩, ?_⟩
    · intro t ht u hu a ha b hb hat hbu overlap
      exact free ⟨t, ht, u, hu, a, ha, b, hb, overlap, .inl ⟨hat, hbu⟩⟩
    · intro t ht u hu a ha b hb hat hbu overlap
      exact free ⟨t, ht, u, hu, a, ha, b, hb, overlap, .inr ⟨hat, hbu⟩⟩
    · intro n hn m hm
      exact ofGiven hm (by decide : "CK_" ∈ marks) (prefix_of_mem_namesOf hn)
    · intro n hn m hm
      have start := prefix_of_mem_namesOf hn
      rcases List.mem_append.mp hm with hm | hm
      · exact ne_of_marks start (prefix_of_mem_namesOf hm) rfl (by decide)
      · exact ofGiven hm (by decide : "DF_" ∈ marks) start
    · intro n hn m hm
      have start := prefix_of_mem_primaryKeyNames hn
      rcases List.mem_append.mp hm with hm | hm
      · exact ne_of_marks start (prefix_of_mem_namesOf hm) rfl (by decide)
      · rcases List.mem_append.mp hm with hm | hm
        · exact ne_of_marks start (prefix_of_mem_namesOf hm) rfl (by decide)
        · exact ofGiven hm (by decide : "PK_" ∈ marks) start

/-- Creating a whole schema in SQL Server gives its primary keys, defaults, enumeration checks and
named foreign keys distinct names exactly if no columns overlap, as long as the given names are
distinct and do not look like those that are made. -/
theorem constraints_distinct_iff (valid : Dialect.sqlServer.rules.validate schema = .ok ())
    (given : (schema.tables.flatMap TableDef.givenKeyNames).Nodup)
    (unmarked : ∀ n ∈ schema.tables.flatMap TableDef.givenKeyNames,
      ∀ mark ∈ marks, ¬ mark.toList <+: n.toList) :
    ∃ target, Dialect.sqlServer.projection.project schema = .ok target ∧
      ∀ difference,
        (Comparison.mk .empty target Dialect.sqlServer.rules false).difference = .ok difference →
        ∃ statements,
          (Emission.body ⟨.sqlServer, .empty, target, difference.changes, false⟩ .start).2 =
            .of statements ∧
          (statements.flatMap fun s => Pieces.constraints (Pieces.of .sqlServer s)).Perm
            (schema.constraintNames ++ schema.tables.flatMap TableDef.madeKeyNames) ∧
          (schema.constraintNames.Nodup ↔ ¬ schema.ConstraintsOverlap) := by
  obtain ⟨target, projected, -⟩ :=
    Projection.snapshot_ok (p := Dialect.sqlServer.projection) valid
  refine ⟨target, by rw [Projection.project, projected]; rfl, fun difference h => ?_⟩
  obtain ⟨statements, hbody, -, names⟩ := Dialect.constraints_of_creation (by decide) projected h
  obtain ⟨distinct, hchecked⟩ := Rules.of_validate valid
  refine ⟨statements, hbody, names.trans ?_, nodup_constraintNames distinct ?_ given unmarked⟩
  · have parts (t : TableDef) : t.primaryKeyNames .sqlServer ++ t.defaultNames .sqlServer ++
        t.checkNames .sqlServer ++ (t.givenKeyNames ++ t.madeKeyNames) =
          t.primaryKeyNames .sqlServer ++ (t.defaultNames .sqlServer ++
            (t.checkNames .sqlServer ++ t.givenKeyNames)) ++ t.madeKeyNames := by
      simp only [List.append_assoc]
    simp only [Bool.false_eq_true, if_false, parts]
    have split := @List.flatMap_append_perm TableDef String schema.tables
    refine (split _ _).symm.trans (List.Perm.append_right _ ?_)
    refine (split _ _).symm.trans (List.Perm.append_left _ ?_)
    refine (split _ _).symm.trans (List.Perm.append_left _ ?_)
    exact (split _ _).symm
  · intro t ht
    have checked := Rules.checked_of_checkTable (hchecked t ht)
    exact (Rules.of_checkColumns checked.columns).1

end Schema

namespace Shop

def amount (name : String) : ColumnDef := ⟨name, "BIGINT", none, none, false, some "0", none, none⟩

def bills (column : String) : TableDef where
  name := "bill"
  columns := [amount "id", amount column]
  primaryKey := ["id"]
  indexes := []
  foreignKeys := []
  charset := none
  collation := none

def billLines : TableDef where
  name := "bill_line"
  columns := [amount "bill", amount "total"]
  primaryKey := []
  indexes := []
  foreignKeys := [⟨some "billed", ["bill"], "bill", ["id"], .cascade, .noAction⟩]
  charset := none
  collation := none

def billing (column : String) : Schema :=
  { Schema.ofName "shop" with tables := [bills column, billLines] }

def billingTarget (column : String) : Snapshot :=
  .ofTables [
    { Table.ofName "bill" with
      columns := ["id", column].map fun n => ⟨n, .bigInt, none, none, false, some "0", [], none⟩
      primaryKey := ["id"] },
    { Table.ofName "bill_line" with
      columns := ["bill", "total"].map fun n => ⟨n, .bigInt, none, none, false, some "0", [], none⟩
      foreignKeys := [⟨some "billed", ["bill"], "bill", ["id"], "CASCADE", "NO ACTION"⟩] }]

def billingFromScratch (column : String) : Comparison :=
  ⟨.empty, billingTarget column, Dialect.sqlServer.rules, false⟩

theorem bill_constraints_distinct :
    Dialect.sqlServer.rules.validate (billing "sum") = .ok () ∧
      ∃ difference statements, (billingFromScratch "sum").difference = .ok difference ∧
        (Emission.body ⟨.sqlServer, .empty, billingTarget "sum", difference.changes, false⟩
          .start).2 = .of statements ∧
        (statements.flatMap fun s => Pieces.constraints (Pieces.of .sqlServer s)).Perm
          ["PK_bill", "DF_bill_id", "DF_bill_sum", "DF_bill_line_bill", "DF_bill_line_total",
            "billed"] ∧
        (billing "sum").constraintNames.Nodup := by
  have valid : Dialect.sqlServer.rules.validate (billing "sum") = .ok () := rfl
  have projected : Dialect.sqlServer.projection.project (billing "sum") =
      .ok (billingTarget "sum") := rfl
  obtain ⟨g, -, -, -, hd⟩ := Comparison.difference_of_nodup (c := billingFromScratch "sum")
    (by decide)
  obtain ⟨target, made, names⟩ := Schema.constraints_distinct_iff valid (by decide) (by decide)
  obtain rfl := Except.ok.inj (projected.symm.trans made)
  obtain ⟨statements, emitted, written, -⟩ := names _ hd
  exact ⟨valid, _, statements, hd, emitted, written, by decide⟩

/-- A line total of a bill, and the total of a bill line. -/
theorem bill_defaults_share_name :
    Dialect.sqlServer.rules.validate (billing "line_total") = .ok () ∧
      Dialect.sqlServer.projection.project (billing "line_total") =
        .ok (billingTarget "line_total") ∧
      ((billing "line_total").tables.flatMap TableDef.givenKeyNames).Nodup ∧
      (∀ n ∈ (billing "line_total").tables.flatMap TableDef.givenKeyNames,
        ∀ mark ∈ Schema.marks, ¬ mark.toList <+: n.toList) ∧
      ∃ difference statements, (billingFromScratch "line_total").difference = .ok difference ∧
        (Emission.body ⟨.sqlServer, .empty, billingTarget "line_total", difference.changes, false⟩
          .start).2 = .of statements ∧
        (statements.flatMap fun s => Pieces.constraints (Pieces.of .sqlServer s)) =
          ["DF_bill_id", "DF_bill_line_total", "PK_bill", "DF_bill_line_bill",
            "DF_bill_line_total", "billed"] ∧
        ¬ (billing "line_total").constraintNames.Nodup := by
  obtain ⟨g, -, -, -, hd⟩ := Comparison.difference_of_nodup
    (c := billingFromScratch "line_total") (by decide)
  have hchanges := Comparison.changes_of_sorted hd (by decide)
  let statements := (billingTarget "line_total").tables.values.flatMap
    (Table.creationStatements .sqlServer false)
  refine ⟨rfl, rfl, by decide, by decide, _, statements, hd, ?_, by decide, by decide⟩
  rw [hchanges]
  rfl

end Shop

end SchemaMigration
