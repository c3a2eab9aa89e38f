import SchemaMigration.Emission
import SchemaMigration.Proofs.ColumnChanges
import SchemaMigration.Proofs.Validation

/-!
PostgreSQL alters the type, the collation, the null rule, the default and the enumeration check of a
column one by one, and passes over what two definitions of the column have in common. The
statements for a column still lead from its old definition to its new one, and they add a check only
where none is.
-/

namespace SchemaMigration.Postgres

open Emission Emission.Postgres

/-! ### Columns in a database -/

/-- A column in a database: its declared type, its collation unless it is the default one, its null
rule, the expression of its default and the values that its enumeration check lists. -/
structure ColumnState where
  type : Option String
  collation : Option String
  nullable : Bool
  default : Option String
  check : Option (List String)
  deriving DecidableEq

def ColumnState.of (y : Column) : ColumnState where
  type := Dialect.postgres.typeOf? y
  collation := Text.nonempty? y.collation
  nullable := y.nullable
  default := y.default
  check := if y.HasEnumValues then some y.enumValues else none

def place? : Statement → Option (String × String)
  | .setType table clause _ => some (table, clause.column.name)
  | .addCheck table column => some (table, column.name)
  | .setNullable table name _ | .setDefault table name _ | .dropDefault table name
  | .dropCheck table name => some (table, name)
  | _ => none

/-- What a statement makes of its column. A type that is set without a collation brings the default
one with it, and a check is added only where none is. -/
def effect? : Statement → ColumnState → Option ColumnState
  | .setType _ clause _, s =>
    some { s with type := some clause.type, collation := Text.nonempty? clause.column.collation }
  | .setNullable _ _ nullable, s => some { s with nullable }
  | .setDefault _ _ expression, s => some { s with default := some expression }
  | .dropDefault _ _, s => some { s with default := none }
  | .dropCheck _ _, s => some { s with check := none }
  | .addCheck _ column, s =>
    if s.check = none then some { s with check := some column.enumValues } else none
  | _, _ => none

def exec? (place : String × String) (s : ColumnState) (statement : Statement) :
    Option ColumnState :=
  if place? statement = some place then effect? statement s else none

def run? (place : String × String) (s : ColumnState) (statements : List Statement) :
    Option ColumnState :=
  statements.foldlM (exec? place) s

variable {table : String} {place : String × String} {s : ColumnState} {y z : Column}

theorem run?_append (first second : List Statement) :
    run? place s (first ++ second) = (run? place s first).bind fun s => run? place s second :=
  List.foldlM_append

theorem run?_singleton (statement : Statement) :
    run? place s [statement] = exec? place s statement := by
  simp [run?]

/-! ### A new type -/

/-- The check is dropped if it lists other values than the new one. -/
def droppedCheck (table : String) (y z : Column) : List Statement :=
  if checkedValues y ≠ [] ∧ checkedValues y ≠ checkedValues z then [.dropCheck table z.name] else []

def addedCheck (table : String) (y z : Column) : List Statement :=
  if checkedValues z ≠ [] ∧ checkedValues y ≠ checkedValues z then [.addCheck table z] else []

def retyped (table : String) (y z : Column) (before after : String) : List Statement :=
  if before = after ∧ y.collation = z.collation then []
  else [.setType table ⟨z, after⟩ (y.type ≠ z.type)]

theorem alterType_eq {before after : String} (hold : Dialect.postgres.typeOf? y = some before)
    (hnew : Dialect.postgres.typeOf? z = some after) :
    alterType .postgres table (some y) z =
      of (droppedCheck table y z ++ retyped table y z before after ++ addedCheck table y z) := by
  have hset : setType .postgres table (some y) z = of (retyped table y z before after) := by
    simp only [setType, ColumnClause.of?, hold, hnew, retyped]
    split <;> rfl
  rw [alterType, hset]
  rfl

theorem check_of (y : Column) :
    (ColumnState.of y).check = if checkedValues y = [] then none else some (checkedValues y) := by
  cases hvalues : y.HasEnumValues with
  | false => simp [ColumnState.of, checkedValues, hvalues]
  | true => simp [ColumnState.of, checkedValues, hvalues, Column.enumValues_ne_nil hvalues]

theorem run?_droppedCheck :
    run? (table, z.name) (.of y) (droppedCheck table y z) = some { ColumnState.of y with
      check := if checkedValues y = checkedValues z then (ColumnState.of y).check else none } := by
  unfold droppedCheck
  by_cases hsame : checkedValues y = checkedValues z
  · rw [if_neg (by simp [hsame]), if_pos hsame]
    rfl
  · rw [if_neg hsame]
    by_cases hnone : checkedValues y = []
    · rw [if_neg (by simp [hnone])]
      have hcheck : (ColumnState.of y).check = none := by rw [check_of, if_pos hnone]
      rw [← hcheck]
      rfl
    · rw [if_pos ⟨hnone, hsame⟩, run?_singleton]
      simp [exec?, place?, effect?]

theorem run?_retyped {before after : String} (htype : s.type = some before)
    (hcollation : s.collation = Text.nonempty? y.collation) :
    run? (table, z.name) s (retyped table y z before after) = some { s with
      type := some after
      collation := Text.nonempty? z.collation } := by
  unfold retyped
  split
  · next hsame =>
    rw [← hsame.1, ← hsame.2, ← htype, ← hcollation]
    rfl
  · rw [run?_singleton]
    simp [exec?, place?, effect?]

theorem run?_addedCheck (hcheck : s.check =
      if checkedValues y = checkedValues z then (ColumnState.of y).check else none) :
    run? (table, z.name) s (addedCheck table y z) =
      some { s with check := (ColumnState.of z).check } := by
  unfold addedCheck
  by_cases hsame : checkedValues y = checkedValues z
  · have hkept : (ColumnState.of z).check = s.check := by
      rw [hcheck, if_pos hsame, check_of, check_of, hsame]
    rw [if_neg (by simp [hsame]), hkept]
    rfl
  · rw [if_neg hsame] at hcheck
    by_cases hnone : checkedValues z = []
    · have hkept : (ColumnState.of z).check = s.check := by rw [hcheck, check_of, if_pos hnone]
      rw [if_neg (by simp [hnone]), hkept]
      rfl
    · have hvalues : checkedValues z = z.enumValues := by
        unfold checkedValues at hnone ⊢
        split at hnone
        · next hhas => rw [if_pos hhas]
        · exact absurd rfl hnone
      rw [if_pos ⟨hnone, hsame⟩, run?_singleton, check_of, if_neg hnone, hvalues]
      simp [exec?, place?, effect?, hcheck]

/-- The statements for a new type bring everything with them that belongs to the type. -/
theorem run?_alterType {before after : String} (hold : Dialect.postgres.typeOf? y = some before)
    (hnew : Dialect.postgres.typeOf? z = some after) :
    run? (table, z.name) (.of y)
        (droppedCheck table y z ++ retyped table y z before after ++ addedCheck table y z) =
      some { ColumnState.of z with nullable := y.nullable, default := y.default } := by
  rw [run?_append, run?_append, run?_droppedCheck, Option.bind_some, run?_retyped hold rfl,
    Option.bind_some, run?_addedCheck rfl, ← hnew]
  rfl

/-! ### A new null rule or default -/

def nullRule (table : String) (y z : Column) : List Statement :=
  if y.nullable = z.nullable then [] else [.setNullable table z.name z.nullable]

def newDefault (table : String) (y z : Column) : List Statement :=
  if y.default = z.default then []
  else match z.default with
    | none => [.dropDefault table z.name]
    | some expression => [.setDefault table z.name expression]

theorem alterNullDefault_eq :
    alterNullDefault table (some y) z = of (nullRule table y z ++ newDefault table y z) := by
  cases hdefault : z.default with
  | none => simp [alterNullDefault, nullRule, newDefault, hdefault]
  | some expression => simp [alterNullDefault, nullRule, newDefault, hdefault]

theorem run?_alterNullDefault (hnullable : s.nullable = y.nullable)
    (hdefault : s.default = y.default) :
    run? (table, z.name) s (nullRule table y z ++ newDefault table y z) =
      some { s with nullable := z.nullable, default := z.default } := by
  have rule : run? (table, z.name) s (nullRule table y z) =
      some { s with nullable := z.nullable } := by
    unfold nullRule
    split
    · next hsame =>
      rw [← hsame, ← hnullable]
      rfl
    · rw [run?_singleton]
      simp [exec?, place?, effect?]
  rw [run?_append, rule, Option.bind_some]
  unfold newDefault
  split
  · next hsame =>
    rw [← hsame, ← hdefault]
    rfl
  · cases z.default with
    | none =>
      rw [run?_singleton]
      simp [exec?, place?, effect?]
    | some expression =>
      rw [run?_singleton]
      simp [exec?, place?, effect?]

/-! ### The changes to a column -/

variable {c : Comparison} {old new : Table} {x : Context} {p : Progress}

def statements (c : Comparison) (table : String) (y z : Column) (before after : String) :
    List Statement :=
  (if c.sameType y z then []
    else droppedCheck table y z ++ retyped table y z before after ++ addedCheck table y z) ++
  if y.SameNullDefault z then [] else nullRule table y z ++ newDefault table y z

theorem emitAll_columnChanges (dialect : x.dialect = .postgres)
    (hold : old.column? z.name = some y) {before after : String}
    (hbefore : Dialect.postgres.typeOf? y = some before)
    (hafter : Dialect.postgres.typeOf? z = some after) :
    emitAll x p (c.columnChanges old new z) = (p, of (statements c new.name y z before after)) := by
  have retypes : Emission.emit x p ⟨new.name, .alterColumnType (some y) z⟩ =
      (p, of (droppedCheck new.name y z ++ retyped new.name y z before after ++
        addedCheck new.name y z)) := by
    simp only [Emission.emit, dialect, Postgres.emit, ← alterType_eq hbefore hafter]
  have redefaults : Emission.emit x p ⟨new.name, .alterColumnNullDefault (some y) z⟩ =
      (p, of (nullRule new.name y z ++ newDefault new.name y z)) := by
    simp only [Emission.emit, dialect, Postgres.emit, ← alterNullDefault_eq]
  simp only [Comparison.columnChanges, hold, statements]
  split <;> split <;>
    simp [emitAll, retypes, redefaults, of, append_of_fault_none]

theorem state_of_sameType (same : c.sameType y z = true) :
    (ColumnState.of y).type = (ColumnState.of z).type ∧
      (ColumnState.of y).check = (ColumnState.of z).check := by
  obtain ⟨-, -, -, hvalues, -⟩ := Comparison.sameType_iff.mp same
  refine ⟨Comparison.typeOf?_of_sameType same .postgres, ?_⟩
  simp only [ColumnState.of, Comparison.hasEnumValues_of_sameType same, hvalues]

/-- A column becomes what its new definition says, but for a collation that is not compared. -/
theorem run?_statements {before after : String}
    (hbefore : Dialect.postgres.typeOf? y = some before)
    (hafter : Dialect.postgres.typeOf? z = some after) :
    run? (table, z.name) (.of y) (statements c table y z before after) =
      some { ColumnState.of z with
        collation := Text.nonempty? (if c.sameType y z then y.collation else z.collation) } := by
  -- a change of the type leaves null rule and default as they are
  have middle : run? (table, z.name) (.of y) (if c.sameType y z then []
      else droppedCheck table y z ++ retyped table y z before after ++ addedCheck table y z) =
      some ⟨(ColumnState.of z).type,
        Text.nonempty? (if c.sameType y z then y.collation else z.collation),
        y.nullable, y.default, (ColumnState.of z).check⟩ := by
    by_cases same : c.sameType y z = true
    · obtain ⟨htype, hcheck⟩ := state_of_sameType same
      rw [if_pos same, if_pos same, ← htype, ← hcheck]
      rfl
    · rw [if_neg same, if_neg same]
      exact run?_alterType hbefore hafter
  rw [statements, run?_append, middle, Option.bind_some]
  by_cases same : y.SameNullDefault z = true
  · obtain ⟨hnullable, hdefault⟩ := Column.sameNullDefault_iff.mp same
    rw [if_pos same, hnullable, hdefault]
    rfl
  · rw [if_neg same]
    exact run?_alterNullDefault rfl rfl

theorem statements_of_other_values {before after : String} (hchecked : y.HasEnumValues = true)
    (differs : (ColumnState.of y).check ≠ (ColumnState.of z).check) :
    ∃ rest, statements c table y z before after = .dropCheck table z.name :: rest := by
  have hvalues : checkedValues y ≠ [] := by
    rw [checkedValues, if_pos hchecked]
    exact Column.enumValues_ne_nil hchecked
  have hother : checkedValues y ≠ checkedValues z := by
    intro hsame
    rw [check_of, check_of, hsame] at differs
    exact differs rfl
  have hretypes : ¬ c.sameType y z = true := by
    intro same
    exact differs (state_of_sameType same).2
  rw [statements, if_neg hretypes, droppedCheck, if_pos ⟨hvalues, hother⟩]
  exact ⟨_, rfl⟩

/-- The statements for the changes to a column can all be executed in their order, and they make of
its old definition what its new one says; the collation counts only if the type changes. A check
that is to list other values is dropped before anything else. -/
theorem column_becomes_new {projection : Projection} {schema : Schema} {d : Difference}
    (dialect : x.dialect = .postgres) (hc : c.current.ColumnsNamed)
    (ht : projection.snapshot schema = .ok c.target) (hd : c.difference = .ok d)
    (hold : c.current.table? table = some old) (hnew : c.target.table? table = some new)
    (hy : old.column? z.name = some y) (hz : z ∈ new.columns) (typed : y.type ≠ .unset) :
    ∃ statements type,
      emitAll x p (d.changes.filter fun x => x.place? = some (table, z.name)) =
        (p, of statements) ∧
      Dialect.postgres.typeOf? z = some type ∧
      run? (table, z.name) (.of y) statements = some {
        type := some type
        collation := Text.nonempty? (if c.sameType y z then y.collation else z.collation)
        nullable := z.nullable
        default := z.default
        check := if z.type = .enumeration then some z.enumValues else none } ∧
      (y.HasEnumValues = true → (ColumnState.of y).check ≠ (ColumnState.of z).check →
        ∃ rest, statements = .dropCheck table z.name :: rest) := by
  have made := Projection.projects_of_snapshot ht
  have hentry := Snapshot.table?_eq_some_iff.mp hnew
  have hname : new.name = table := made.named _ hentry
  have hcomplete := (made.tables _ hentry).columns z hz
  obtain ⟨before, hbefore⟩ := Option.isSome_iff_exists.mp (Dialect.postgres.typeOf?_isSome typed)
  obtain ⟨after, hafter⟩ :=
    Option.isSome_iff_exists.mp (Dialect.postgres.typeOf?_isSome hcomplete.typed)
  have hfound : new.column? z.name = some z :=
    (find?_key_eq_some_iff (made.tables _ hentry).named.columns).mpr ⟨hz, rfl⟩
  have hcourse : c.placeCourse (table, z.name) = c.columnChanges old new z := by
    simp only [Comparison.placeCourse, hold, hnew, Comparison.columnCourse, hfound]
  have hcheck : (ColumnState.of z).check =
      if z.type = .enumeration then some z.enumValues else none := by
    simp only [ColumnState.of, hcomplete.hasEnumValues_iff]
  refine ⟨statements c table y z before after, after, ?_, hafter, ?_, statements_of_other_values⟩
  · rw [Comparison.changes_of_difference hd, Comparison.ordered_at hc made.columnsNamed, hcourse,
      emitAll_columnChanges dialect hy hbefore hafter, hname]
  · rw [run?_statements hbefore hafter, ← hcheck, ← hafter]
    rfl

end SchemaMigration.Postgres

namespace SchemaMigration.Shop

def tickets : Table :=
  { Table.ofName "tickets" with
    columns := [number "id",
      ⟨"state", .enumeration, none, none, true, some "'new'", ["new", "done"], some "C"⟩] }

def ticketBook : Schema :=
  { Schema.ofName "shop" with
    tables := [
      { name := "tickets"
        columns := [
          ⟨"id", "BIGINT", none, none, false, none, none, none⟩,
          ⟨"state", "ENUM", none, none, false, some "'open'", some ["open", "closed"], none⟩]
        primaryKey := []
        indexes := []
        foreignKeys := []
        charset := none
        collation := none }] }

def newState : Column :=
  ⟨"state", .enumeration, none, none, false, some "'open'", ["open", "closed"], none⟩

def newTickets : Table :=
  { tickets with columns := [{ number "id" with type := .bigInt }, newState] }

def retriage : Comparison :=
  ⟨.ofTables [tickets], .ofTables [newTickets], Dialect.postgres.rules, false⟩

/-- Tickets take other states, and lose the collation of their states. -/
theorem state_becomes_new :
    ∃ d statements, retriage.difference = .ok d ∧
      (Emission.emitAll ⟨.postgres, retriage.current, retriage.target, d.changes, false⟩ .start
        (d.changes.filter fun x => x.place? = some ("tickets", "state"))).2 = .of statements ∧
      Postgres.run? ("tickets", "state")
          ⟨some "VARCHAR(4)", some "C", true, some "'new'", some ["new", "done"]⟩ statements =
        some ⟨some "VARCHAR(6)", none, false, some "'open'", some ["open", "closed"]⟩ ∧
      ∃ rest, statements = .dropCheck "tickets" "state" :: rest := by
  obtain ⟨g, -, -, -, hd⟩ := Comparison.difference_of_nodup (c := retriage) (by decide)
  have hprojected : (Dialect.projection .postgres).snapshot ticketBook = .ok retriage.target := rfl
  have hold : retriage.current.table? "tickets" = some tickets := rfl
  have hnew : retriage.target.table? "tickets" = some newTickets := rfl
  have hstate : newState ∈ newTickets.columns := by decide
  obtain ⟨statements, type, hemit, htype, hrun, hdropped⟩ :=
    Postgres.column_becomes_new (p := .start)
      (x := ⟨.postgres, retriage.current, retriage.target, _, false⟩)
      (y := ⟨"state", .enumeration, none, none, true, some "'new'", ["new", "done"], some "C"⟩)
      rfl ⟨by decide, by decide⟩ hprojected hd hold hnew rfl hstate (by decide)
  obtain rfl : "VARCHAR(6)" = type := Option.some.inj htype
  exact ⟨_, statements, hd, congrArg Prod.snd hemit, hrun, hdropped rfl (by decide)⟩

end SchemaMigration.Shop
