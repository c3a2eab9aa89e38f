import SchemaMigration.Dialect

/-!
What a dialect tells about itself.
-/

namespace SchemaMigration

structure Profile where
  id : String
  name : String
  version : String
  description : String
  documentation : Option String
  hasLiveReader : Bool
  altersColumns : Bool
  comparesCollations : Bool
  hasTransactionalChanges : Bool
  deriving DecidableEq, Repr

namespace Dialect

def version : String := "0.1.0"

def profile : Dialect → Profile
  | mysql =>
    { id := "mysql"
      name := "MySQL"
      version
      description := "MySQL 8 DDL with charset and collation tracking"
      documentation :=
        some "https://dev.mysql.com/doc/refman/8.0/en/sql-data-definition-statements.html"
      hasLiveReader := false
      altersColumns := true
      comparesCollations := true
      hasTransactionalChanges := false }
  | postgres =>
    { id := "postgres"
      name := "PostgreSQL"
      version
      description := "PostgreSQL DDL; enums become CHECK constraints"
      documentation := some "https://www.postgresql.org/docs/current/ddl.html"
      hasLiveReader := false
      altersColumns := true
      comparesCollations := false
      hasTransactionalChanges := true }
  | sqlite =>
    { id := "sqlite"
      name := "SQLite"
      version
      description := "SQLite DDL; column and key changes rebuild the table"
      documentation := some "https://www.sqlite.org/lang_altertable.html"
      hasLiveReader := true
      altersColumns := false
      comparesCollations := false
      hasTransactionalChanges := true }
  | sqlServer =>
    { id := "sqlserver"
      name := "SQL Server"
      version
      description := "T-SQL DDL with named default and key constraints"
      documentation :=
        some "https://learn.microsoft.com/sql/t-sql/statements/alter-table-transact-sql"
      hasLiveReader := false
      altersColumns := true
      comparesCollations := false
      hasTransactionalChanges := true }

end Dialect

structure Registry where
  dialects : OrderedMap String Dialect
  deriving DecidableEq, Repr

namespace Registry

def empty : Registry := ⟨.empty⟩

def find? (r : Registry) (id : String) : Option Dialect := r.dialects.find? id

def has (r : Registry) (id : String) : Bool := r.dialects.contains id

def ids (r : Registry) : List String := r.dialects.keys

def register? (r : Registry) (d : Dialect) : Option Registry :=
  if r.has d.id then none else some ⟨r.dialects.insert d.id d⟩

def unregister (r : Registry) (id : String) : Registry := ⟨r.dialects.erase id⟩

def builtin : Registry := ⟨.ofList (Dialect.all.map fun d => (d.id, d))⟩

end Registry

end SchemaMigration
