import SchemaMigration.Emission.Basic

/-!
Emission for PostgreSQL. Type, null rule, default and enumeration check of a column are altered one
by one.
-/

namespace SchemaMigration.Emission.Postgres

def checkedValues (c : Column) : List String := if c.HasEnumValues then c.enumValues else []

/-- Statements that give a column a new type, unless the declared type and the collation stay. -/
def setType (d : Dialect) (table : String) (old : Option Column) (new : Column) : Emission :=
  match old with
  | none => withColumn d new (.setType table · false)
  | some old =>
    match ColumnClause.of? d old, ColumnClause.of? d new with
    | .ok oldClause, .ok newClause =>
      if oldClause.type = newClause.type ∧ old.collation = new.collation then of []
      else of [.setType table newClause (old.type ≠ new.type)]
    | .error fault, _ => stop fault
    | .ok _, .error fault => stop fault

/-- The check is dropped before the type changes and added after it. -/
def alterType (d : Dialect) (table : String) (old : Option Column) (new : Column) : Emission :=
  let oldValues := (old.map checkedValues).getD []
  let newValues := checkedValues new
  let dropped :=
    if oldValues ≠ [] ∧ oldValues ≠ newValues then [Statement.dropCheck table new.name] else []
  let added :=
    if newValues ≠ [] ∧ oldValues ≠ newValues then [Statement.addCheck table new] else []
  of dropped ++ setType d table old new ++ of added

def alterNullDefault (table : String) (old : Option Column) (new : Column) : Emission :=
  let nullRule :=
    if old.any fun o => o.nullable == new.nullable then []
    else [Statement.setNullable table new.name new.nullable]
  let default :=
    if old.any fun o => o.default == new.default then []
    else match new.default with
      | none => [Statement.dropDefault table new.name]
      | some expression => [Statement.setDefault table new.name expression]
  of (nullRule ++ default)

def emit (x : Context) (p : Progress) (c : Change) : Progress × Emission :=
  match c.action with
  | .alterColumnType old new => (p, alterType x.dialect c.table old new)
  | .alterColumnNullDefault old new => (p, alterNullDefault c.table old new)
  | _ => (p, plain x c)

end SchemaMigration.Emission.Postgres
