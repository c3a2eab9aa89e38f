import SchemaMigration.Statement

/-!
The text of statements in each dialect, without the separator that ends them.
-/

namespace SchemaMigration

namespace Dialect

def alterTable (d : Dialect) (table : String) : String := "ALTER TABLE " ++ d.quote table

def checkName (d : Dialect) (table column : String) : String :=
  if d = sqlServer then "CK_" ++ table ++ "_" ++ column else table ++ "_" ++ column ++ "_check"

def defaultName (table column : String) : String := "DF_" ++ table ++ "_" ++ column

def primaryKeyName (d : Dialect) (table : String) : String :=
  if d = sqlServer then "PK_" ++ table else table ++ "_pkey"

def checkClause (d : Dialect) (c : Column) : String :=
  "CHECK (" ++ d.quote c.name ++ " IN (" ++ ", ".intercalate (c.enumValues.map literal) ++ "))"

def collateClause (collation : Option String) : List String :=
  match Text.nonempty? collation with
  | some collation => ["COLLATE " ++ collation]
  | none => []

def nullClause (c : Column) : String := if c.nullable then "NULL" else "NOT NULL"

def columnHead (d : Dialect) (clause : ColumnClause) : List String :=
  let type := if clause.type = "" then [] else [clause.type]
  [d.quote clause.column.name] ++ type ++ collateClause clause.column.collation ++
    [nullClause clause.column]

/-- The default of a column, which SQL Server keeps in a constraint with a name. -/
def defaultClause (d : Dialect) (table : String) (c : Column) : List String :=
  match c.default with
  | none => []
  | some expression =>
    let named := if d = sqlServer then
        "CONSTRAINT " ++ d.quote (defaultName table c.name) ++ " " else ""
    [named ++ "DEFAULT " ++ expression]

/-- The check of an enumeration. MySQL needs none, and SQLite gives it no name. -/
def enumClause (d : Dialect) (table : String) (c : Column) : List String :=
  if !c.HasEnumValues then []
  else match d with
    | mysql => []
    | sqlite => [d.checkClause c]
    | postgres | sqlServer =>
      ["CONSTRAINT " ++ d.quote (d.checkName table c.name) ++ " " ++ d.checkClause c]

def columnText (d : Dialect) (table : String) (clause : ColumnClause) : String :=
  " ".intercalate
    (d.columnHead clause ++ d.defaultClause table clause.column ++ d.enumClause table clause.column)

def columnTypeText (d : Dialect) (clause : ColumnClause) : String :=
  " ".intercalate (d.columnHead clause)

def primaryKeyText (d : Dialect) (table : String) (columns : List String) : String :=
  (if d = sqlServer then "CONSTRAINT " ++ d.quote (d.primaryKeyName table) ++ " " else "") ++
    "PRIMARY KEY (" ++ d.quotedList columns ++ ")"

/-- An action on a foreign key; `NO ACTION` is what happens without one. -/
def actionText (event action : String) : String :=
  if action = "NO ACTION" then "" else " ON " ++ event ++ " " ++ action

def foreignKeyText (d : Dialect) (k : ForeignKey) : String :=
  "FOREIGN KEY (" ++ d.quotedList k.columns ++ ") REFERENCES " ++ d.quote k.referencedTable ++
    " (" ++ d.quotedList k.referencedColumns ++ ")" ++ actionText "DELETE" k.onDelete ++
    actionText "UPDATE" k.onUpdate

def namedForeignKeyText (d : Dialect) (clause : ForeignKeyClause) : String :=
  "CONSTRAINT " ++ d.quote clause.name ++ " " ++ d.foreignKeyText clause.key

def tableOptions (d : Dialect) (charset collation : Option String) : String :=
  if d = mysql then
    " ENGINE=InnoDB" ++
      ((Text.nonempty? charset).map fun c => " DEFAULT CHARSET=" ++ c).getD "" ++
      ((Text.nonempty? collation).map fun c => " COLLATE=" ++ c).getD ""
  else ""

def tableLines (d : Dialect) (t : TableClause) : List String :=
  t.columns.map (d.columnText t.keyOwner) ++
    (if t.primaryKey = [] then [] else [d.primaryKeyText t.keyOwner t.primaryKey]) ++
    t.foreignKeys.map d.namedForeignKeyText

def tableOpening (d : Dialect) (name : String) : String := "CREATE TABLE " ++ d.quote name ++ " ("

def tableBody (d : Dialect) (t : TableClause) : String :=
  ",\n".intercalate ((d.tableLines t).map ("    " ++ ·))

def tableClosing (d : Dialect) (t : TableClause) : String :=
  ")" ++ d.tableOptions t.charset t.collation

def createIndexText (d : Dialect) (table : String) (i : Index) : String :=
  "CREATE " ++ (if i.unique then "UNIQUE " else "") ++ "INDEX " ++ d.quote i.name ++ " ON " ++
    d.quote table ++ " (" ++ d.quotedList i.columns ++ ")"

def dropIndexText (d : Dialect) (table index : String) : String :=
  match d with
  | postgres => "DROP INDEX " ++ d.quote index
  | sqlite => "DROP INDEX IF EXISTS " ++ d.quote index
  | mysql | sqlServer => "DROP INDEX " ++ d.quote index ++ " ON " ++ d.quote table

def settingText : Setting → String
  | .names charset => "SET NAMES " ++ charset
  | .utf8Encoding => "SET client_encoding TO 'UTF8'"
  | .ansiNulls => "SET ANSI_NULLS ON"
  | .quotedIdentifiers => "SET QUOTED_IDENTIFIER ON"
  | .foreignKeys enforced => "PRAGMA foreign_keys = " ++ (if enforced then "ON" else "OFF")

def dropConstraintText (d : Dialect) (table name : String) : String :=
  d.alterTable table ++ " DROP CONSTRAINT " ++ d.quote name

def text (d : Dialect) : Statement → String
  | .set setting => settingText setting
  | .createTable t =>
    d.tableOpening t.name ++ "\n" ++ d.tableBody t ++ "\n" ++ d.tableClosing t
  | .dropTable table => "DROP TABLE " ++ d.quote table
  | .renameTable old new => d.alterTable old ++ " RENAME TO " ++ d.quote new
  | .copyRows source target columns =>
    "INSERT INTO " ++ d.quote target ++ " (" ++ d.quotedList columns ++ ") SELECT " ++
      d.quotedList columns ++ " FROM " ++ d.quote source
  | .addColumn table clause =>
    d.alterTable table ++ (if d = sqlServer then " ADD " else " ADD COLUMN ") ++
      d.columnText table clause
  | .dropColumn table column => d.alterTable table ++ " DROP COLUMN " ++ d.quote column
  | .modifyColumn table clause =>
    if d = sqlServer then d.alterTable table ++ " ALTER COLUMN " ++ d.columnTypeText clause
    else d.alterTable table ++ " MODIFY COLUMN " ++ d.columnText table clause
  | .setType table clause converts =>
    let name := d.quote clause.column.name
    d.alterTable table ++ " ALTER COLUMN " ++ name ++ " TYPE " ++ clause.type ++
      ((Text.nonempty? clause.column.collation).map fun c => " COLLATE " ++ d.quote c).getD "" ++
      (if converts then " USING " ++ name ++ "::" ++ clause.type else "")
  | .setNullable table column nullable =>
    d.alterTable table ++ " ALTER COLUMN " ++ d.quote column ++
      (if nullable then " DROP" else " SET") ++ " NOT NULL"
  | .setDefault table column expression =>
    if d = sqlServer then
      d.alterTable table ++ " ADD CONSTRAINT " ++ d.quote (defaultName table column) ++
        " DEFAULT " ++ expression ++ " FOR " ++ d.quote column
    else d.alterTable table ++ " ALTER COLUMN " ++ d.quote column ++ " SET DEFAULT " ++ expression
  | .dropDefault table column =>
    if d = sqlServer then d.dropConstraintText table (defaultName table column)
    else d.alterTable table ++ " ALTER COLUMN " ++ d.quote column ++ " DROP DEFAULT"
  | .addCheck table column =>
    d.alterTable table ++ " ADD CONSTRAINT " ++ d.quote (d.checkName table column.name) ++ " " ++
      d.checkClause column
  | .dropCheck table column =>
    if d = sqlServer then d.dropConstraintText table (d.checkName table column)
    else d.alterTable table ++ " DROP CONSTRAINT IF EXISTS " ++ d.quote (d.checkName table column)
  | .addPrimaryKey table columns =>
    d.alterTable table ++ " ADD " ++ d.primaryKeyText table columns
  | .dropPrimaryKey table =>
    if d = mysql then d.alterTable table ++ " DROP PRIMARY KEY"
    else d.dropConstraintText table (d.primaryKeyName table)
  | .convertCharset table charset collation =>
    d.alterTable table ++ " CONVERT TO CHARACTER SET " ++ charset ++
      ((Text.nonempty? collation).map fun c => " COLLATE " ++ c).getD ""
  | .createIndex table index => d.createIndexText table index
  | .dropIndex table index => d.dropIndexText table index
  | .addForeignKey table clause => d.alterTable table ++ " ADD " ++ d.namedForeignKeyText clause
  | .dropForeignKey table name =>
    if d = mysql then d.alterTable table ++ " DROP FOREIGN KEY " ++ d.quote name
    else d.dropConstraintText table name

def useText (d : Dialect) (database : String) : String :=
  match d with
  | mysql | sqlServer => "USE " ++ d.quote database ++ ";"
  | postgres => "SET search_path TO " ++ d.quote database ++ ";"
  | sqlite => "-- database: main"

end Dialect

/-- A comment in SQL: every line after two hyphens. -/
def commentText (comment : String) : String :=
  match Text.lines comment.toList with
  | [] => "--"
  | lines => "\n".intercalate (lines.map fun line => Text.stripEnd ("-- " ++ String.ofList line))

end SchemaMigration
