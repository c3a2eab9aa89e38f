import SchemaMigration.Dialect.TypeName

/-!
The statements of migration scripts. They say what happens to tables, columns, keys and indexes;
how a dialect writes that down is said in `Statement.Text`.
-/

namespace SchemaMigration

structure ColumnClause where
  column : Column
  type : String
  deriving DecidableEq, Repr

structure ForeignKeyClause where
  name : String
  key : ForeignKey
  deriving DecidableEq, Repr

structure TableClause where
  name : String
  columns : List ColumnClause
  primaryKey : List String
  /-- The name from which the name of the primary key is made. -/
  keyOwner : String
  foreignKeys : List ForeignKeyClause
  charset : Option String
  collation : Option String
  deriving DecidableEq, Repr

inductive Setting
  | names (charset : String)
  | utf8Encoding
  | ansiNulls
  | quotedIdentifiers
  | foreignKeys (enforced : Bool)
  deriving DecidableEq, Repr

inductive Statement
  | set (setting : Setting)
  | createTable (table : TableClause)
  | dropTable (table : String)
  | renameTable (old new : String)
  | copyRows (source target : String) (columns : List String)
  | addColumn (table : String) (column : ColumnClause)
  | dropColumn (table column : String)
  | modifyColumn (table : String) (column : ColumnClause)
  /-- Gives a column a new type; values are converted explicitly if `converts`. -/
  | setType (table : String) (column : ColumnClause) (converts : Bool)
  | setNullable (table column : String) (nullable : Bool)
  | setDefault (table column expression : String)
  | dropDefault (table column : String)
  | addCheck (table : String) (column : Column)
  | dropCheck (table column : String)
  | addPrimaryKey (table : String) (columns : List String)
  | dropPrimaryKey (table : String)
  | convertCharset (table charset : String) (collation : Option String)
  | createIndex (table : String) (index : Index)
  | dropIndex (table index : String)
  | addForeignKey (table : String) (key : ForeignKeyClause)
  | dropForeignKey (table name : String)
  deriving DecidableEq, Repr

end SchemaMigration
