import Mathlib.Data.List.Basic
import SchemaMigration.Statement.Text

/-!
The names in a statement. Its text consists of pieces that stand as they are and of names that are
quoted, and of each name it is known what it stands for.
-/

namespace SchemaMigration

inductive NameKind
  | table
  | column
  | index
  | constraint
  | collation
  deriving DecidableEq, Repr

inductive Piece
  | plain (text : String)
  | name (kind : NameKind) (spelling : String)
  deriving DecidableEq, Repr

def Piece.text (d : Dialect) : Piece → String
  | .plain text => text
  | .name _ spelling => d.quote spelling

def Piece.constraint? : Piece → Option String
  | .name .constraint spelling => some spelling
  | _ => none

namespace Pieces

/-! ### Pieces in a row -/

def render (d : Dialect) : List Piece → String
  | [] => ""
  | p :: rest => p.text d ++ render d rest

@[simp] theorem render_nil (d : Dialect) : render d [] = "" := rfl

@[simp] theorem render_plain (d : Dialect) (text : String) (rest : List Piece) :
    render d (.plain text :: rest) = text ++ render d rest := by
  rw [render, Piece.text]

@[simp] theorem render_name (d : Dialect) (kind : NameKind) (name : String) (rest : List Piece) :
    render d (.name kind name :: rest) = d.quote name ++ render d rest := by
  rw [render, Piece.text]

@[simp] theorem render_append (d : Dialect) (first second : List Piece) :
    render d (first ++ second) = render d first ++ render d second := by
  induction first with
  | nil => simp
  | cons p first ih => simp [render, ih, String.append_assoc, -String.reduceAppend]

def joined (separator : String) (blocks : List (List Piece)) : List Piece :=
  [Piece.plain separator].intercalate blocks

theorem joined_cons_cons (separator : String) (a b : List Piece) (rest : List (List Piece)) :
    joined separator (a :: b :: rest) = a ++ .plain separator :: joined separator (b :: rest) := by
  have split : joined separator (a :: b :: rest) =
      a ++ [.plain separator] ++ joined separator (b :: rest) :=
    List.intercalate_cons_of_ne_nil (List.cons_ne_nil b rest)
  rw [split, List.append_assoc]
  rfl

@[simp] theorem render_joined (d : Dialect) (separator : String) (blocks : List (List Piece)) :
    render d (joined separator blocks) = separator.intercalate (blocks.map (render d)) := by
  induction blocks with
  | nil => simp [joined]
  | cons a rest ih =>
    cases rest with
    | nil => simp [joined]
    | cons b rest =>
      have texts : separator.intercalate ((a :: b :: rest).map (render d)) =
          render d a ++ separator ++ separator.intercalate ((b :: rest).map (render d)) :=
        String.intercalate_cons_of_ne_nil (List.cons_ne_nil _ _)
      rw [joined_cons_cons, render_append, render_plain, ih, texts, String.append_assoc]

@[simp] theorem name_mem_joined {separator : String} {kind : NameKind} {name : String}
    {blocks : List (List Piece)} :
    .name kind name ∈ joined separator blocks ↔ ∃ block ∈ blocks, .name kind name ∈ block := by
  induction blocks with
  | nil => simp [joined]
  | cons a rest ih =>
    cases rest with
    | nil => simp [joined]
    | cons b rest => simp [joined_cons_cons, ih]

def constraints (pieces : List Piece) : List String := pieces.filterMap Piece.constraint?

@[simp] theorem constraints_nil : constraints [] = [] := rfl

@[simp] theorem constraints_plain (text : String) (rest : List Piece) :
    constraints (.plain text :: rest) = constraints rest := rfl

@[simp] theorem constraints_name (kind : NameKind) (name : String) (rest : List Piece) :
    constraints (.name kind name :: rest) =
      if kind = .constraint then name :: constraints rest else constraints rest := by
  cases kind <;> rfl

@[simp] theorem constraints_append (first second : List Piece) :
    constraints (first ++ second) = constraints first ++ constraints second :=
  List.filterMap_append

@[simp] theorem constraints_joined (separator : String) (blocks : List (List Piece)) :
    constraints (joined separator blocks) = blocks.flatMap constraints := by
  induction blocks with
  | nil => rfl
  | cons a rest ih =>
    cases rest with
    | nil => simp [joined]
    | cons b rest => rw [joined_cons_cons, constraints_append, constraints_plain, ih]; rfl

/-! ### The pieces of clauses -/

def list (kind : NameKind) (names : List String) : List Piece :=
  joined ", " (names.map fun name => [.name kind name])

def alterTable (table : String) : List Piece := [.plain "ALTER TABLE ", .name .table table]

def checkClause (c : Column) : List Piece :=
  [.plain "CHECK (", .name .column c.name,
    .plain (" IN (" ++ ", ".intercalate (c.enumValues.map Dialect.literal) ++ "))")]

def columnHead (clause : ColumnClause) : List (List Piece) :=
  let type := if clause.type = "" then [] else [[.plain clause.type]]
  [[.name .column clause.column.name]] ++ type ++
    (Dialect.collateClause clause.column.collation).map (fun text => [.plain text]) ++
    [[.plain (Dialect.nullClause clause.column)]]

def defaultClause (d : Dialect) (table : String) (c : Column) : List (List Piece) :=
  match c.default with
  | none => []
  | some expression =>
    let named := if d = .sqlServer then
        [.plain "CONSTRAINT ", .name .constraint (Dialect.defaultName table c.name), .plain " "]
      else []
    [named ++ [.plain ("DEFAULT " ++ expression)]]

def enumClause (d : Dialect) (table : String) (c : Column) : List (List Piece) :=
  if !c.HasEnumValues then []
  else match d with
    | .mysql => []
    | .sqlite => [checkClause c]
    | .postgres | .sqlServer =>
      [[.plain "CONSTRAINT ", .name .constraint (d.checkName table c.name), .plain " "] ++
        checkClause c]

def column (d : Dialect) (table : String) (clause : ColumnClause) : List Piece :=
  joined " " (columnHead clause ++ defaultClause d table clause.column ++
    enumClause d table clause.column)

def primaryKey (d : Dialect) (table : String) (columns : List String) : List Piece :=
  (if d = .sqlServer then
      [.plain "CONSTRAINT ", .name .constraint (d.primaryKeyName table), .plain " "]
    else []) ++
    [.plain "PRIMARY KEY ("] ++ list .column columns ++ [.plain ")"]

def foreignKey (k : ForeignKey) : List Piece :=
  [.plain "FOREIGN KEY ("] ++ list .column k.columns ++
    [.plain ") REFERENCES ", .name .table k.referencedTable, .plain " ("] ++
    list .column k.referencedColumns ++
    [.plain ")", .plain (Dialect.actionText "DELETE" k.onDelete),
      .plain (Dialect.actionText "UPDATE" k.onUpdate)]

def namedForeignKey (clause : ForeignKeyClause) : List Piece :=
  [.plain "CONSTRAINT ", .name .constraint clause.name, .plain " "] ++ foreignKey clause.key

def tableLines (d : Dialect) (t : TableClause) : List (List Piece) :=
  t.columns.map (column d t.keyOwner) ++
    (if t.primaryKey = [] then [] else [primaryKey d t.keyOwner t.primaryKey]) ++
    t.foreignKeys.map namedForeignKey

def createTable (d : Dialect) (t : TableClause) : List Piece :=
  [.plain "CREATE TABLE ", .name .table t.name, .plain " (", .plain "\n"] ++
    joined ",\n" ((tableLines d t).map (.plain "    " :: ·)) ++
    [.plain "\n", .plain (d.tableClosing t)]

def createIndex (table : String) (i : Index) : List Piece :=
  [.plain "CREATE ", .plain (if i.unique then "UNIQUE " else ""), .plain "INDEX ",
    .name .index i.name, .plain " ON ", .name .table table, .plain " ("] ++
    list .column i.columns ++ [.plain ")"]

def dropIndex (d : Dialect) (table index : String) : List Piece :=
  match d with
  | .postgres => [.plain "DROP INDEX ", .name .index index]
  | .sqlite => [.plain "DROP INDEX IF EXISTS ", .name .index index]
  | .mysql | .sqlServer =>
    [.plain "DROP INDEX ", .name .index index, .plain " ON ", .name .table table]

def dropConstraint (table name : String) : List Piece :=
  alterTable table ++ [.plain " DROP CONSTRAINT ", .name .constraint name]

def quotedCollation (collation : Option String) : List Piece :=
  ((Text.nonempty? collation).map fun c => [.plain " COLLATE ", .name .collation c]).getD []

variable (d : Dialect)

@[simp] theorem render_list (kind : NameKind) (names : List String) :
    render d (list kind names) = d.quotedList names := by
  simp [list, Dialect.quotedList, Function.comp_def]

@[simp] theorem render_alterTable (table : String) :
    render d (alterTable table) = d.alterTable table := by
  simp [alterTable, Dialect.alterTable]

@[simp] theorem render_checkClause (c : Column) : render d (checkClause c) = d.checkClause c := by
  simp [checkClause, Dialect.checkClause, String.append_assoc, -String.reduceAppend]

theorem render_columnHead (clause : ColumnClause) :
    (columnHead clause).map (render d) = d.columnHead clause := by
  simp only [columnHead, Dialect.columnHead]
  split <;> simp [Function.comp_def]

theorem render_defaultClause (table : String) (c : Column) :
    (defaultClause d table c).map (render d) = d.defaultClause table c := by
  unfold defaultClause Dialect.defaultClause
  cases c.default with
  | none => rfl
  | some expression =>
    by_cases hd : d = .sqlServer
    · simp [hd, String.append_assoc, -String.reduceAppend]
    · simp [hd]

theorem render_enumClause (table : String) (c : Column) :
    (enumClause d table c).map (render d) = d.enumClause table c := by
  unfold enumClause Dialect.enumClause
  split
  · rfl
  · cases d <;> simp [String.append_assoc, -String.reduceAppend]

@[simp] theorem render_column (table : String) (clause : ColumnClause) :
    render d (column d table clause) = d.columnText table clause := by
  simp only [column, render_joined, List.map_append, render_columnHead, render_defaultClause,
    render_enumClause, Dialect.columnText]

@[simp] theorem render_primaryKey (table : String) (columns : List String) :
    render d (primaryKey d table columns) = d.primaryKeyText table columns := by
  by_cases hd : d = .sqlServer
  · simp [primaryKey, Dialect.primaryKeyText, hd, String.append_assoc, -String.reduceAppend]
  · simp [primaryKey, Dialect.primaryKeyText, hd, String.append_assoc, -String.reduceAppend]

@[simp] theorem render_foreignKey (k : ForeignKey) :
    render d (foreignKey k) = d.foreignKeyText k := by
  unfold foreignKey Dialect.foreignKeyText
  simp [String.append_assoc, -String.reduceAppend]

@[simp] theorem render_namedForeignKey (clause : ForeignKeyClause) :
    render d (namedForeignKey clause) = d.namedForeignKeyText clause := by
  simp [namedForeignKey, Dialect.namedForeignKeyText, String.append_assoc, -String.reduceAppend]

theorem render_tableLines (t : TableClause) :
    (tableLines d t).map (render d) = d.tableLines t := by
  unfold tableLines Dialect.tableLines
  split <;> simp [Function.comp_def]

@[simp] theorem render_createTable (t : TableClause) :
    render d (createTable d t) =
      d.tableOpening t.name ++ "\n" ++ d.tableBody t ++ "\n" ++ d.tableClosing t := by
  have lines : (tableLines d t).map (fun line => "    " ++ render d line) =
      (d.tableLines t).map ("    " ++ ·) := by
    rw [← render_tableLines, List.map_map]
    rfl
  simp only [createTable, Dialect.tableOpening, Dialect.tableBody, render_append, render_plain,
    render_name, render_nil, render_joined, List.map_map, Function.comp_def, lines,
    String.append_empty, String.append_assoc, -String.reduceAppend]

@[simp] theorem render_createIndex (table : String) (i : Index) :
    render d (createIndex table i) = d.createIndexText table i := by
  unfold createIndex Dialect.createIndexText
  simp [String.append_assoc, -String.reduceAppend]

@[simp] theorem render_dropIndex (table index : String) :
    render d (dropIndex d table index) = d.dropIndexText table index := by
  unfold dropIndex Dialect.dropIndexText
  cases d <;> simp [String.append_assoc, -String.reduceAppend]

@[simp] theorem render_dropConstraint (table name : String) :
    render d (dropConstraint table name) = d.dropConstraintText table name := by
  simp [dropConstraint, Dialect.dropConstraintText, String.append_assoc, -String.reduceAppend]

@[simp] theorem render_quotedCollation (collation : Option String) :
    render d (quotedCollation collation) =
      ((Text.nonempty? collation).map fun c => " COLLATE " ++ d.quote c).getD "" := by
  unfold quotedCollation
  cases Text.nonempty? collation <;> simp

/-! ### The pieces of statements -/

def of : Statement → List Piece
  | .set setting => [.plain (Dialect.settingText setting)]
  | .createTable t => createTable d t
  | .dropTable table => [.plain "DROP TABLE ", .name .table table]
  | .renameTable old new => alterTable old ++ [.plain " RENAME TO ", .name .table new]
  | .copyRows source target columns =>
    [.plain "INSERT INTO ", .name .table target, .plain " ("] ++ list .column columns ++
      [.plain ") SELECT "] ++ list .column columns ++ [.plain " FROM ", .name .table source]
  | .addColumn table clause =>
    alterTable table ++ [.plain (if d = .sqlServer then " ADD " else " ADD COLUMN ")] ++
      column d table clause
  | .dropColumn table column => alterTable table ++ [.plain " DROP COLUMN ", .name .column column]
  | .modifyColumn table clause =>
    if d = .sqlServer then
      alterTable table ++ [.plain " ALTER COLUMN "] ++ joined " " (columnHead clause)
    else alterTable table ++ [.plain " MODIFY COLUMN "] ++ column d table clause
  | .setType table clause converts =>
    alterTable table ++
      [.plain " ALTER COLUMN ", .name .column clause.column.name, .plain " TYPE ",
        .plain clause.type] ++
      quotedCollation clause.column.collation ++
      (if converts then
        [.plain " USING ", .name .column clause.column.name, .plain "::", .plain clause.type]
      else [])
  | .setNullable table column nullable =>
    alterTable table ++
      [.plain " ALTER COLUMN ", .name .column column,
        .plain (if nullable then " DROP" else " SET"), .plain " NOT NULL"]
  | .setDefault table column expression =>
    if d = .sqlServer then
      alterTable table ++
        [.plain " ADD CONSTRAINT ", .name .constraint (Dialect.defaultName table column),
          .plain " DEFAULT ", .plain expression, .plain " FOR ", .name .column column]
    else
      alterTable table ++
        [.plain " ALTER COLUMN ", .name .column column, .plain " SET DEFAULT ", .plain expression]
  | .dropDefault table column =>
    if d = .sqlServer then dropConstraint table (Dialect.defaultName table column)
    else alterTable table ++
      [.plain " ALTER COLUMN ", .name .column column, .plain " DROP DEFAULT"]
  | .addCheck table column =>
    alterTable table ++
      [.plain " ADD CONSTRAINT ", .name .constraint (d.checkName table column.name), .plain " "] ++
      checkClause column
  | .dropCheck table column =>
    if d = .sqlServer then dropConstraint table (d.checkName table column)
    else alterTable table ++
      [.plain " DROP CONSTRAINT IF EXISTS ", .name .constraint (d.checkName table column)]
  | .addPrimaryKey table columns =>
    alterTable table ++ [.plain " ADD "] ++ primaryKey d table columns
  | .dropPrimaryKey table =>
    if d = .mysql then alterTable table ++ [.plain " DROP PRIMARY KEY"]
    else dropConstraint table (d.primaryKeyName table)
  | .convertCharset table charset collation =>
    alterTable table ++
      [.plain " CONVERT TO CHARACTER SET ", .plain charset,
        .plain (((Text.nonempty? collation).map fun c => " COLLATE " ++ c).getD "")]
  | .createIndex table index => createIndex table index
  | .dropIndex table index => dropIndex d table index
  | .addForeignKey table clause => alterTable table ++ [.plain " ADD "] ++ namedForeignKey clause
  | .dropForeignKey table name =>
    if d = .mysql then
      alterTable table ++ [.plain " DROP FOREIGN KEY ", .name .constraint name]
    else dropConstraint table name

/-- The text of a statement is what its pieces spell. -/
theorem render_of (statement : Statement) : render d (of d statement) = d.text statement := by
  unfold of Dialect.text
  cases statement with
  | setType table clause converts =>
    cases converts <;> simp [String.append_assoc, -String.reduceAppend]
  | modifyColumn table clause =>
    dsimp only
    split
    · simp [render_columnHead, Dialect.columnTypeText, String.append_assoc]
    · simp [String.append_assoc]
  | setDefault | dropDefault | dropCheck | dropPrimaryKey | dropForeignKey =>
    dsimp only
    split <;> simp [String.append_assoc, -String.reduceAppend]
  | _ => simp [String.append_assoc, -String.reduceAppend]

end Pieces

end SchemaMigration
