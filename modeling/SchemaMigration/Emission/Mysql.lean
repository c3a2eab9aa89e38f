import SchemaMigration.Emission.Basic

/-!
Emission for MySQL. A column is altered by writing its definition again, which needs to be done
only once.
-/

namespace SchemaMigration.Emission.Mysql

def modifyColumn (x : Context) (p : Progress) (table : String) (column : Column) :
    Progress × Emission :=
  let place := (table, column.name)
  if p.restated.contains place then (p, of [])
  else ({ p with restated := place :: p.restated },
    withColumn x.dialect column (.modifyColumn table))

def emit (x : Context) (p : Progress) (c : Change) : Progress × Emission :=
  match c.action with
  | .alterColumnType _ column | .alterColumnNullDefault _ column => modifyColumn x p c.table column
  | _ => (p, plain x c)

end SchemaMigration.Emission.Mysql
