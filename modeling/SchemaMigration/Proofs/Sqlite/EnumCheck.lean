import SchemaMigration.Emission.Basic
import SchemaMigration.Proofs.Sqlite.TableReading
import SchemaMigration.Proofs.Validation
import SchemaMigration.Sqlite.EnumCheck

/-!
The values of an enumeration in the definition of its table. The comparisons of a definition are the
checks of its columns, one for each enumeration, and so the values that are found for a column are
those it was defined with.
-/

namespace SchemaMigration.Sql.Node

variable {m n : Node} {label : Label} {parts : List Node} {column : String}

theorem mem_beside {α : Type} {a : α} (as bs : List (List α)) :
    a ∈ (beside as bs).flatten ↔ a ∈ as.flatten ∨ a ∈ bs.flatten := by
  induction as generalizing bs with
  | nil => simp [beside]
  | cons first others ih =>
    cases bs with
    | nil => simp [beside]
    | cons second rest =>
      rw [beside, List.flatten_cons, List.mem_append, List.mem_append, ih, List.flatten_cons,
        List.flatten_cons, List.mem_append, List.mem_append]
      exact or_or_or_comm

theorem mem_layersOf (parts : List Node) :
    m ∈ (layersOf parts).flatten ↔ ∃ part ∈ parts, m ∈ part.nodes := by
  induction parts with
  | nil => simp [layersOf]
  | cons part parts ih =>
    rw [layersOf, mem_beside, ih, List.exists_mem_cons_iff]
    rfl

theorem mem_nodes :
    m ∈ (branch label parts).nodes ↔
      m = branch label parts ∨ ∃ part ∈ parts, m ∈ part.nodes := by
  rw [nodes, layers, List.flatten_cons, List.mem_append, List.mem_singleton, mem_layersOf]

/-- A node somewhere in a tree that compares a column with something. -/
def Holds (tree m : Node) : Prop := m ∈ tree.nodes ∧ ∃ column, m.compares column = true

theorem holds_branch (plain : ∀ column, (branch label parts).compares column = false) :
    (branch label parts).Holds m ↔ ∃ part ∈ parts, part.Holds m := by
  constructor
  · rintro ⟨hm, column, compares⟩
    rcases mem_nodes.mp hm with rfl | ⟨part, hpart, inside⟩
    · rw [plain] at compares
      cases compares
    · exact ⟨part, hpart, inside, column, compares⟩
  · rintro ⟨part, hpart, inside, compares⟩
    exact ⟨mem_nodes.mpr (.inr ⟨part, hpart, inside⟩), compares⟩

theorem holds_of : (of parts).Holds m ↔ ∃ part ∈ parts, part.Holds m := holds_branch fun _ => rfl

theorem compares_leaf (label : Label) (column : String) : (leaf label).compares column = false := by
  cases label <;> rfl

theorem not_holds_leaf (label : Label) : ¬ (leaf label).Holds m := by
  intro holds
  obtain ⟨part, hpart, -⟩ := (holds_branch (compares_leaf label)).mp holds
  cases hpart

theorem compares_memberNode (name : String) (values : List String) :
    (memberNode name values).compares column = true ↔ name = column := by
  simp [memberNode, compares, leaf]

theorem values_memberNode (name : String) (values : List String) :
    (memberNode name values).values = values := by
  simp [memberNode, Node.values, leaf, string?, List.filterMap_map, Function.comp_def]

theorem holds_memberNode (name : String) (values : List String) :
    (memberNode name values).Holds m ↔ m = memberNode name values := by
  constructor
  · rintro ⟨hm, compares⟩
    rcases mem_nodes.mp hm with rfl | ⟨part, hpart, inside⟩
    · rfl
    · rcases List.mem_cons.mp hpart with rfl | hpart
      · exact absurd ⟨inside, compares⟩ (not_holds_leaf _)
      · obtain ⟨value, -, rfl⟩ := List.mem_map.mp hpart
        exact absurd ⟨inside, compares⟩ (not_holds_leaf _)
  · rintro rfl
    exact ⟨mem_nodes.mpr (.inl rfl), name, (compares_memberNode name values).mpr rfl⟩

/-! ### Depth -/

theorem nestingOf_le {depth : Nat} (h : ∀ part ∈ parts, part.nesting ≤ depth) :
    nestingOf parts ≤ depth := by
  induction parts with
  | nil => exact Nat.zero_le _
  | cons part parts ih =>
    rw [nestingOf]
    exact max_le (h part List.mem_cons_self) (ih fun p hp => h p (List.mem_cons_of_mem _ hp))

theorem nesting_of_le {depth : Nat} (plain : (leaf label).encloses = false)
    (h : ∀ part ∈ parts, part.nesting ≤ depth) : (branch label parts).nesting ≤ depth := by
  rw [nesting, plain]
  exact nestingOf_le h

theorem nesting_single (n : Node) : (of [n]).nesting = n.nesting := by
  simp [of, nesting, nestingOf, leaf, encloses, Node.label]

end SchemaMigration.Sql.Node

namespace SchemaMigration.Sqlite

open Sql Node

variable {m : Node} {c : Column} {ls : List Line} {name column : String}

theorem not_holds_typeNode (c : Column) : ¬ (typeNode c).Holds m := by
  unfold typeNode
  rw [holds_branch fun _ => rfl]
  rintro ⟨part, hpart, holds⟩
  obtain ⟨n, -, rfl⟩ := List.mem_map.mp hpart
  obtain ⟨size, hsize, holds⟩ := holds_of.mp holds
  rw [List.mem_singleton.mp hsize] at holds
  exact not_holds_leaf _ holds

theorem holds_checkNode (c : Column) :
    (checkNode c).Holds m ↔ m = memberNode c.name c.enumValues := by
  simp [checkNode, holds_of, holds_memberNode]

theorem holds_columnNode (c : Column) :
    (columnNode c).Holds m ↔ c.HasEnumValues = true ∧ m = memberNode c.name c.enumValues := by
  have bare : ¬ (of [of []]).Holds m := by simp [holds_of]
  unfold columnNode
  rw [holds_branch fun _ => rfl]
  split
  next limited =>
    simp [nameLeaf, not_holds_leaf, not_holds_typeNode, bare, holds_checkNode, limited]
  next unlimited =>
    simp [nameLeaf, not_holds_leaf, not_holds_typeNode, bare, unlimited]

theorem not_holds_primaryKeyNode (names : List String) : ¬ (primaryKeyNode names).Holds m := by
  simp [primaryKeyNode, holds_of, nameLeaf, not_holds_leaf]

theorem not_holds_keyNode (k : ForeignKey) : ¬ (keyNode k).Holds m := by
  simp [keyNode, holds_of, nameLeaf, not_holds_leaf]

/-- The comparisons of a table definition are the checks of its enumerations. -/
theorem holds_tableNode :
    (tableNode name ls).Holds m ↔ ∃ clause, Line.column clause ∈ ls ∧
      clause.column.HasEnumValues = true ∧
      m = memberNode clause.column.name clause.column.enumValues := by
  have lines : (tableNode name ls).Holds m ↔ ∃ line ∈ ls, line.node.Holds m := by
    simp [tableNode, holds_of, nameLeaf, not_holds_leaf]
  rw [lines]
  constructor
  · rintro ⟨line, hline, holds⟩
    cases line with
    | column clause => exact ⟨clause, hline, (holds_columnNode _).mp holds⟩
    | primaryKey names => exact absurd holds (not_holds_primaryKeyNode names)
    | foreignKey clause =>
      obtain ⟨part, hpart, holds⟩ := holds_of.mp holds
      rw [List.mem_singleton.mp hpart] at holds
      exact absurd holds (not_holds_keyNode clause.key)
  · rintro ⟨clause, hline, holds⟩
    exact ⟨_, hline, (holds_columnNode _).mpr holds⟩

theorem nesting_memberNode (name : String) (values : List String) :
    (memberNode name values).nesting ≤ 1 := by
  have operands :
      nestingOf (leaf (.column [name]) :: values.map fun v => leaf (.string v)) ≤ 0 := by
    apply nestingOf_le
    intro part hpart
    rcases List.mem_cons.mp hpart with rfl | hpart
    · exact nesting_of_le rfl nofun
    · obtain ⟨value, -, rfl⟩ := List.mem_map.mp hpart
      exact nesting_of_le rfl nofun
  exact Nat.add_le_add_right operands 1

theorem nesting_nameLeaf (name : String) : (nameLeaf name).nesting ≤ 1 := nesting_of_le rfl nofun

theorem nesting_typeNode (c : Column) : (typeNode c).nesting ≤ 1 := by
  apply nesting_of_le rfl
  intro part hpart
  obtain ⟨n, -, rfl⟩ := List.mem_map.mp hpart
  decide

theorem nesting_columnNode (c : Column) : (columnNode c).nesting ≤ 1 := by
  have bare : (of [of []]).nesting ≤ 1 := by decide
  have check : (checkNode c).nesting ≤ 1 := by
    rw [checkNode, nesting_single, nesting_single]
    exact nesting_memberNode c.name c.enumValues
  apply nesting_of_le rfl
  split
  · simp [nesting_nameLeaf, nesting_typeNode, bare, check]
  · simp [nesting_nameLeaf, nesting_typeNode, bare]

theorem nesting_names (names : List String) : ∀ part ∈ names.map nameLeaf, part.nesting ≤ 1 := by
  rw [List.forall_mem_map]
  exact fun name _ => nesting_nameLeaf name

theorem nesting_node (line : Line) : line.node.nesting ≤ 1 := by
  cases line with
  | column clause => exact nesting_columnNode clause.column
  | primaryKey names =>
    apply nesting_of_le rfl
    intro part hpart
    rcases List.mem_append.mp hpart with hpart | hpart
    · exact nesting_names names part hpart
    · rw [List.mem_singleton.mp hpart]
      decide
  | foreignKey clause =>
    have path : (of (nameLeaf clause.key.referencedTable ::
        clause.key.referencedColumns.map nameLeaf)).nesting ≤ 1 :=
      nesting_of_le rfl (nesting_names (_ :: _))
    rw [Line.node, foreignKeyNode, keyNode, nesting_single, nesting_single, nesting_single,
      nesting_single]
    exact path

/-- The checks of a definition do not lie inside of each other. -/
theorem nesting_tableNode (name : String) (ls : List Line) : (tableNode name ls).nesting ≤ 1 := by
  have parts : (of (nameLeaf name :: ls.map Line.node)).nesting ≤ 1 := by
    apply nesting_of_le rfl
    intro part hpart
    rcases List.mem_cons.mp hpart with rfl | hpart
    · exact nesting_nameLeaf name
    · obtain ⟨line, -, rfl⟩ := List.mem_map.mp hpart
      exact nesting_node line
  exact nesting_of_le rfl (List.forall_mem_singleton.mpr parts)

/-! ### The values that are found -/

theorem comparedValues_of_holds {tree : Node} {values : List String}
    (found : ∃ m, tree.Holds m ∧ m.compares column = true)
    (only : ∀ m, tree.Holds m → m.compares column = true → m.values = values) :
    comparedValues tree column = values := by
  obtain ⟨m, ⟨hm, -⟩, compares⟩ := found
  cases hfirst : tree.nodes.find? (Node.compares column) with
  | none => exact absurd compares (by simpa using List.find?_eq_none.mp hfirst m hm)
  | some first =>
    have compares := List.find?_some hfirst
    rw [comparedValues, hfirst]
    exact only first ⟨List.mem_of_find?_eq_some hfirst, column, compares⟩ compares

theorem comparedValues_of_not_holds {tree : Node}
    (none : ∀ m, tree.Holds m → m.compares column = false) :
    comparedValues tree column = [] := by
  have missing : tree.nodes.find? (Node.compares column) = .none := by
    rw [List.find?_eq_none]
    intro m hm compares
    rw [none m ⟨hm, column, compares⟩] at compares
    cases compares
  rw [comparedValues, missing]
  rfl

theorem enumValues_of_parse {text : String} {ts : List Token} {tree : Node}
    (scanned : tokens text = .ok ts) (parsed : parse ts = some tree)
    (shallow : tree.nesting ≤ nestingLimit) :
    enumValues text column = .ok (comparedValues tree column) := by
  have deep : ¬ nestingLimit < tree.nesting := by omega
  simp only [enumValues, scanned, Except.mapError, bind, Except.bind, parsed, if_neg deep]
  rfl

/-- The text of a definition can be taken apart. -/
def Reads (text : String) : Prop := ∃ ts tree, tokens text = .ok ts ∧ parse ts = some tree

/-! ### Definitions of projected tables -/

def typed (y : Column) : ColumnClause :=
  ⟨y, Dialect.sqlite.sizedType (Dialect.sqliteTypeName y.type) y⟩

variable {x : Context} {table : Table} {schema : Schema} {s : Snapshot} {n : String}

theorem createTable_eq (dialect : x.dialect = .sqlite) (table : Table) (name : String) :
    Emission.createTable x table name = .of [.createTable {
      name
      columns := table.columns.map typed
      primaryKey := table.primaryKey
      keyOwner := table.name
      foreignKeys := (x.inlineForeignKeys table).map (ForeignKeyClause.of table.name)
      charset := table.charset
      collation := table.collation }] := by
  have one (y : Column) : ColumnClause.of? .sqlite y = .ok (typed y) := by
    rw [ColumnClause.of?, typeOf?_eq]
    rfl
  have columns : table.columns.mapM (ColumnClause.of? .sqlite) = .ok (table.columns.map typed) := by
    induction table.columns with
    | nil => rfl
    | cons y ys ih =>
      rw [List.mapM_cons, one, ih]
      rfl
  rw [Emission.createTable, Context.tableClause, dialect, columns]
  rfl

/-- The columns of a projected table are plain if its schema gives them no default. -/
theorem plain_of_projection (h : (Dialect.projection .sqlite).snapshot schema = .ok s)
    (undefaulted : ∀ t ∈ schema.tables, ∀ c ∈ t.columns, c.default = none)
    (held : s.table? n = some table) :
    (∀ y ∈ table.columns, PlainColumn (typed y)) ∧ ∀ k ∈ table.foreignKeys, PlainKey k := by
  obtain ⟨t, ht, made⟩ := Projection.made_of_snapshot h held
  constructor
  · intro y hy
    have complete := ((Projection.projects_of_snapshot h).tables _
      (Snapshot.table?_eq_some_iff.mp held)).columns y hy
    obtain ⟨c, hc, hfrom⟩ := (of_mapM_eq_ok made.columns).1 y hy
    obtain ⟨default, collation⟩ := Projection.clauses_of_column hfrom
    exact ⟨complete.typed, typeOf?_eq y, collation, default.trans (undefaulted t ht c hc)⟩
  · rw [made.foreignKeys, List.forall_mem_map]
    exact fun k _ => ⟨⟨k.onDelete, rfl⟩, ⟨k.onUpdate, rfl⟩⟩

theorem column_mem_lines {clause : TableClause} {column : ColumnClause} :
    Line.column column ∈ lines clause ↔ column ∈ clause.columns := by
  unfold lines
  split <;> simp

structure Defines (clause : TableClause) (table : Table) : Prop where
  columns : clause.columns = table.columns.map typed
  plain : ∀ line ∈ lines clause, line.Plain

theorem legible_lines {clause : TableClause} (defines : Defines clause table) :
    (∀ line ∈ lines clause, line.Legible) ↔ ∀ y ∈ table.columns, ∀ size ∈ sizes y, 0 ≤ size := by
  constructor
  · intro legible y hy
    have hline : Line.column (typed y) ∈ lines clause := by
      rw [column_mem_lines, defines.columns]
      exact List.mem_map_of_mem hy
    exact legible _ hline
  · intro nonneg line hline
    cases line with
    | column clause =>
      rw [column_mem_lines, defines.columns] at hline
      obtain ⟨y, hy, rfl⟩ := List.mem_map.mp hline
      exact nonneg y hy
    | primaryKey _ => trivial
    | foreignKey _ => trivial

structure FindsValues (text : String) (table : Table) : Prop where
  values : ∀ y ∈ table.columns, y.type = .enumeration → enumValues text y.name = .ok y.enumValues
  others : ∀ column, (∀ y ∈ table.columns, y.type = .enumeration → y.name ≠ column) →
    enumValues text column = .ok []

variable {clause : TableClause}

theorem holds_definition (complete : table.Complete) (defines : Defines clause table) :
    (tableNode name (lines clause)).Holds m ↔
      ∃ y ∈ table.columns, y.type = .enumeration ∧ m = memberNode y.name y.enumValues := by
  rw [holds_tableNode]
  constructor
  · rintro ⟨column, hline, limited, rfl⟩
    rw [column_mem_lines, defines.columns] at hline
    obtain ⟨y, hy, rfl⟩ := List.mem_map.mp hline
    exact ⟨y, hy, (complete.columns y hy).hasEnumValues_iff.mp limited, rfl⟩
  · rintro ⟨y, hy, enumerated, rfl⟩
    refine ⟨typed y, ?_, (complete.columns y hy).hasEnumValues_iff.mpr enumerated, rfl⟩
    rw [column_mem_lines, defines.columns]
    exact List.mem_map_of_mem hy

theorem reads_iff (defines : Defines clause table) :
    Reads (Dialect.sqlite.text (.createTable clause)) ↔
      Text.upper clause.name ≠ "IF" ∧ ∀ y ∈ table.columns, ∀ size ∈ sizes y, 0 ≤ size := by
  have scanned := tokens_of_plain defines.plain
  rw [← legible_lines defines]
  constructor
  · rintro ⟨ts, tree, found, parsed⟩
    rw [scanned] at found
    cases found
    by_contra unread
    rw [parse_of_illegible defines.plain (by simpa only [not_and_or, not_not, not_forall,
      exists_prop] using unread)] at parsed
    cases parsed
  · rintro ⟨free, legible⟩
    exact ⟨_, _, scanned, parse_of_legible free defines.plain legible⟩

/-- No column has two checks, and so the first comparison with its values is the only one. -/
theorem findsValues_of_reads (complete : table.Complete) (defines : Defines clause table)
    (reads : Reads (Dialect.sqlite.text (.createTable clause))) :
    FindsValues (Dialect.sqlite.text (.createTable clause)) table := by
  obtain ⟨free, sized⟩ := (reads_iff defines).mp reads
  have parsed := parse_of_legible free defines.plain ((legible_lines defines).mpr sized)
  have shallow := (nesting_tableNode clause.name (lines clause)).trans
    (show 1 ≤ nestingLimit by decide)
  have found (column : String) : enumValues _ column = .ok (comparedValues _ column) :=
    enumValues_of_parse (tokens_of_plain defines.plain) parsed shallow
  constructor
  · intro y hy enumerated
    rw [found]
    apply congrArg
    apply comparedValues_of_holds
    · refine ⟨_, (holds_definition complete defines).mpr ⟨y, hy, enumerated, rfl⟩, ?_⟩
      exact (compares_memberNode _ _).mpr rfl
    · intro m hm compares
      obtain ⟨z, hz, -, rfl⟩ := (holds_definition complete defines).mp hm
      have same : z = y := List.inj_on_of_nodup_map complete.named.columns hz hy
        ((compares_memberNode _ _).mp compares)
      rw [same, values_memberNode]
  · intro column free
    rw [found]
    apply congrArg
    apply comparedValues_of_not_holds
    intro m hm
    obtain ⟨z, hz, enumerated, rfl⟩ := (holds_definition complete defines).mp hm
    rw [← Bool.not_eq_true, compares_memberNode]
    exact free z hz enumerated

theorem enumValues_of_not_reads (defines : Defines clause table)
    (unread : ¬ Reads (Dialect.sqlite.text (.createTable clause))) (column : String) :
    enumValues (Dialect.sqlite.text (.createTable clause)) column = .ok [] := by
  have scanned := tokens_of_plain defines.plain
  cases parsed : parse (tableTokens clause.name (lines clause)) with
  | none =>
    simp only [enumValues, scanned, Except.mapError, bind, Except.bind, parsed]
    rfl
  | some tree => exact absurd ⟨_, _, scanned, parsed⟩ unread

/-- A projected table is created by a definition of it. -/
theorem createTable_of_projection (h : (Dialect.projection .sqlite).snapshot schema = .ok s)
    (undefaulted : ∀ t ∈ schema.tables, ∀ c ∈ t.columns, c.default = none)
    (held : s.table? n = some table) (dialect : x.dialect = .sqlite)
    (live : x.skipsConstraints = true → ∀ old, x.current.table? table.name = some old →
      ∀ k ∈ old.foreignKeys, PlainKey k) (name : String) :
    ∃ clause, Emission.createTable x table name = .of [.createTable clause] ∧
      clause.name = name ∧ Defines clause table := by
  obtain ⟨columns, keys⟩ := plain_of_projection h undefaulted held
  have inlined : ∀ k ∈ x.inlineForeignKeys table, PlainKey k := by
    unfold Context.inlineForeignKeys
    rw [dialect, if_neg (by decide)]
    split
    next skips =>
      cases hold : x.current.table? table.name with
      | none => exact List.forall_mem_nil _
      | some old => exact live skips old hold
    next => exact keys
  refine ⟨_, createTable_eq dialect table name, rfl, rfl, ?_⟩
  intro line hline
  unfold lines at hline
  rcases List.mem_append.mp hline with hline | hline
  · rcases List.mem_append.mp hline with hline | hline
    · obtain ⟨_, hcolumn, rfl⟩ := List.mem_map.mp hline
      obtain ⟨y, hy, rfl⟩ := List.mem_map.mp hcolumn
      exact columns y hy
    · split at hline
      next => cases hline
      next keyed =>
        rw [List.mem_singleton.mp hline]
        exact keyed
  · obtain ⟨_, hkey, rfl⟩ := List.mem_map.mp hline
    obtain ⟨k, hk, rfl⟩ := List.mem_map.mp hkey
    exact inlined k hk

/-- The values of each enumeration in a projected table are found in the text that creates the
table, in their order, and none are found for other columns. The text is read exactly if the name of
the table is not taken for the word of a condition, and no size is negative; of any other text
nothing is found. -/
theorem enum_values_read_back (projected : (Dialect.projection .sqlite).snapshot schema = .ok s)
    (undefaulted : ∀ t ∈ schema.tables, ∀ c ∈ t.columns, c.default = none)
    (held : s.table? n = some table) (dialect : x.dialect = .sqlite)
    (live : x.skipsConstraints = true → ∀ old, x.current.table? table.name = some old →
      ∀ k ∈ old.foreignKeys, PlainKey k) (name : String) :
    ∃ statement, Emission.createTable x table name = .of [statement] ∧
      (Reads (Dialect.sqlite.text statement) ↔
        Text.upper name ≠ "IF" ∧ ∀ y ∈ table.columns, ∀ size ∈ sizes y, 0 ≤ size) ∧
      (Reads (Dialect.sqlite.text statement) →
        FindsValues (Dialect.sqlite.text statement) table) ∧
      (¬ Reads (Dialect.sqlite.text statement) →
        ∀ column, enumValues (Dialect.sqlite.text statement) column = .ok []) := by
  obtain ⟨clause, created, rfl, defines⟩ :=
    createTable_of_projection projected undefaulted held dialect live name
  have complete := (Projection.projects_of_snapshot projected).tables _
    (Snapshot.table?_eq_some_iff.mp held)
  refine ⟨.createTable clause, created, reads_iff defines, ?_, ?_⟩
  · exact findsValues_of_reads complete defines
  · exact enumValues_of_not_reads defines

end SchemaMigration.Sqlite

/-! A table whose values look like parts of its definition. -/

namespace SchemaMigration.Shop

def reasons : List String :=
  ["it's", "\"", "a, b", "(open", "close)", "back\\", "", "IN", "CHECK (\"reason\" IN ('no'))"]

def returns : Schema :=
  { Schema.ofName "shop" with
    tables := [{
      name := "returns"
      columns := [
        ⟨"id", "INT", none, none, false, none, none, none⟩,
        ⟨"reason", "ENUM", none, none, false, none, some reasons, none⟩,
        ⟨"IN (", "VARCHAR", some 20, none, true, none, some ["other"], none⟩]
      primaryKey := ["id"]
      indexes := []
      foreignKeys := [⟨none, ["id"], "returns", ["id"], .cascade, .noAction⟩]
      charset := none
      collation := none }] }

def returnsTable : Table :=
  { name := "returns"
    columns := [
      ⟨"id", .int, none, none, false, none, [], none⟩,
      ⟨"reason", .enumeration, none, none, false, none, reasons, none⟩,
      ⟨"IN (", .string, some 20, none, true, none, ["other"], none⟩]
    primaryKey := ["id"]
    indexes := []
    foreignKeys := [⟨some "fk_returns_id", ["id"], "returns", ["id"], "CASCADE", "NO ACTION"⟩]
    charset := none
    collation := none }

theorem reasons_read_back :
    ∃ s statement, (Dialect.projection .sqlite).snapshot returns = .ok s ∧
      s.table? "returns" = some returnsTable ∧
      Emission.createTable ⟨.sqlite, .empty, s, [], false⟩ returnsTable "returns" =
        .of [statement] ∧
      Sqlite.enumValues (Dialect.sqlite.text statement) "reason" = .ok reasons ∧
      Sqlite.enumValues (Dialect.sqlite.text statement) "IN (" = .ok [] := by
  obtain ⟨s, projected, held⟩ : ∃ s, (Dialect.projection .sqlite).snapshot returns = .ok s ∧
      s.table? "returns" = some returnsTable := ⟨_, rfl, rfl⟩
  obtain ⟨statement, created, reads, finds, -⟩ := Sqlite.enum_values_read_back
    (x := ⟨.sqlite, .empty, s, [], false⟩) projected (by decide) held rfl nofun "returns"
  have found := finds (reads.mpr (by decide))
  refine ⟨s, statement, projected, held, created, ?_, ?_⟩
  · exact found.values ⟨"reason", .enumeration, none, none, false, none, reasons, none⟩ (by decide)
      rfl
  · exact found.others "IN (" (by decide)

end SchemaMigration.Shop
