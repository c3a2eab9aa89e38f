import SchemaMigration.Emission.Basic

/-!
Emission for SQL Server. Defaults and checks are constraints that block a change of their column,
so they are dropped before it and created again after it.
-/

namespace SchemaMigration.Emission.SqlServer

def dropBound (table : String) (c : Column) : List Statement :=
  (if c.default.isSome then [Statement.dropDefault table c.name] else []) ++
    if c.HasEnumValues then [Statement.dropCheck table c.name] else []

def addDefault (table : String) (c : Column) : List Statement :=
  match c.default with
  | some expression => [.setDefault table c.name expression]
  | none => []

/-- Writes type and null rule of a column again, once. -/
def alterColumn (x : Context) (p : Progress) (table : String) (old : Option Column)
    (new : Column) : Progress × Emission :=
  let place := (table, new.name)
  if p.restated.contains place then (p, of [])
  else ({ p with restated := place :: p.restated },
    of ((old.map (dropBound table)).getD []) ++
      withColumn x.dialect new (.modifyColumn table) ++
      of ((if new.HasEnumValues then [Statement.addCheck table new] else []) ++
        addDefault table new))

/-- A column that was written again has its null rule and default already. -/
def alterNullDefault (x : Context) (p : Progress) (table : String) (old : Option Column)
    (new : Column) : Progress × Emission :=
  if p.restated.contains (table, new.name) then (p, of [])
  else match old with
    | none => alterColumn x p table none new
    | some old =>
      if old.nullable = new.nullable then
        (p, of ((if old.default.isSome then [Statement.dropDefault table old.name] else []) ++
          addDefault table new))
      else alterColumn x p table (some old) new

def emit (x : Context) (p : Progress) (c : Change) : Progress × Emission :=
  match c.action with
  | .alterColumnType old new => alterColumn x p c.table old new
  | .alterColumnNullDefault old new => alterNullDefault x p c.table old new
  | .dropColumn column =>
    (p, of (dropBound c.table column ++ [.dropColumn c.table column.name]))
  | .incomplete .dropColumn => (p, stop (.absent .default))
  | _ => (p, plain x c)

end SchemaMigration.Emission.SqlServer
