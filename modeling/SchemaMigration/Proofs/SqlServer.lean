import Mathlib.Logic.Function.Basic
import SchemaMigration.Emission
import SchemaMigration.Proofs.ColumnChanges
import SchemaMigration.Proofs.Validation

/-!
SQL Server keeps defaults and checks as constraints that are bound to a column and block its change.
The statements for a column find the constraints that they drop, meet none where they add one, and
leave the column as the new definition says. A column is only touched by its own changes, so it is
enough to follow one column.
-/

namespace SchemaMigration.SqlServer

open Emission Emission.SqlServer

/-! ### Columns and their constraints -/

/-- A column in a database: its declared type, its null rule, the expression of the default that is
bound to it and the values that the check lists that is bound to it. -/
structure ColumnState where
  type : Option String
  nullable : Bool
  default : Option String
  check : Option (List String)
  deriving DecidableEq

def ColumnState.of (y : Column) : ColumnState where
  type := Dialect.sqlServer.typeOf? y
  nullable := y.nullable
  default := y.default
  check := if y.HasEnumValues then some y.enumValues else none

abbrev Columns := String × String → Option ColumnState

def columnsOf (s : Snapshot) : Columns := fun place =>
  (s.table? place.1).bind fun t => (t.column? place.2).map .of

def place? : Statement → Option (String × String)
  | .addColumn table clause | .modifyColumn table clause => some (table, clause.column.name)
  | .addCheck table column => some (table, column.name)
  | .dropColumn table name | .setDefault table name _ | .dropDefault table name
  | .dropCheck table name => some (table, name)
  | _ => none

/-- What a statement makes of its column. A constraint is bound where none of its kind is and
dropped where one is, and a column is altered or dropped while none is bound to it. -/
def effect? : Statement → Option ColumnState → Option (Option ColumnState)
  | .addColumn _ clause, none =>
    some (some { ColumnState.of clause.column with type := some clause.type })
  | .modifyColumn _ clause, some ⟨_, _, none, none⟩ =>
    some (some ⟨some clause.type, clause.column.nullable, none, none⟩)
  | .dropColumn _ _, some ⟨_, _, none, none⟩ => some none
  | .setDefault _ _ expression, some ⟨type, nullable, none, check⟩ =>
    some (some ⟨type, nullable, some expression, check⟩)
  | .dropDefault _ _, some ⟨type, nullable, some _, check⟩ =>
    some (some ⟨type, nullable, none, check⟩)
  | .addCheck _ column, some ⟨type, nullable, default, none⟩ =>
    some (some ⟨type, nullable, default, some column.enumValues⟩)
  | .dropCheck _ _, some ⟨type, nullable, default, some _⟩ =>
    some (some ⟨type, nullable, default, none⟩)
  | _, _ => none

def exec? (s : Columns) (statement : Statement) : Option Columns := do
  let place ← place? statement
  let column ← effect? statement (s place)
  return Function.update s place column

def run? (s : Columns) (statements : List Statement) : Option Columns :=
  statements.foldlM exec? s

def effects? (column : Option ColumnState) (statements : List Statement) :
    Option (Option ColumnState) :=
  statements.foldlM (fun column statement => effect? statement column) column

theorem run?_append (s : Columns) (first second : List Statement) :
    run? s (first ++ second) = (run? s first).bind fun s => run? s second :=
  List.foldlM_append

theorem effects?_append (column : Option ColumnState) (first second : List Statement) :
    effects? column (first ++ second) =
      (effects? column first).bind fun column => effects? column second :=
  List.foldlM_append

theorem run?_of_place {s : Columns} {place : String × String} {statements : List Statement}
    (about : ∀ x ∈ statements, place? x = some place) {column : Option ColumnState}
    (h : effects? (s place) statements = some column) :
    run? s statements = some (Function.update s place column) := by
  -- the state of the column goes through `effects?`, all else stays as in `s`
  induction statements generalizing s with
  | nil =>
    cases h
    simp [run?]
  | cons x rest ih =>
    obtain ⟨next, hnext, hrest⟩ := Option.bind_eq_some_iff.mp h
    have hexec : exec? s x = some (Function.update s place next) := by
      simp [exec?, about x List.mem_cons_self, hnext]
    have hfound : effects? (Function.update s place next place) rest = some column := by
      rwa [Function.update_self]
    have htail := ih (fun y hy => about y (List.mem_cons_of_mem _ hy)) hfound
    rw [Function.update_idem] at htail
    rw [run?, List.foldlM_cons, hexec]
    exact htail

/-! ### The statements for one change -/

/-- What a change does to the column of some name; the flags say whether the column has been written
again before and after it. -/
inductive Alters (name : String) :
    Bool → Option ColumnState → Action → Bool → Option ColumnState → Prop where
  | add {y : Column} {written : Bool} (named : y.name = name)
      (typed : (Dialect.sqlServer.typeOf? y).isSome) :
      Alters name written none (.addColumn y) written (some (.of y))
  | drop {y : Column} {written : Bool} (named : y.name = name) :
      Alters name written (some (.of y)) (.dropColumn y) written none
  | retype {y z : Column} (namedOld : y.name = name) (named : z.name = name)
      (typed : (Dialect.sqlServer.typeOf? z).isSome) :
      Alters name false (some (.of y)) (.alterColumnType (some y) z) true (some (.of z))
  | skip {y z : Column} {column : Option ColumnState} (named : z.name = name) :
      Alters name true column (.alterColumnNullDefault (some y) z) true column
  | rewrite {y z : Column} (namedOld : y.name = name) (named : z.name = name)
      (typed : (Dialect.sqlServer.typeOf? z).isSome) (differs : y.nullable ≠ z.nullable) :
      Alters name false (some (.of y)) (.alterColumnNullDefault (some y) z) true (some (.of z))
  | redefault {y z : Column} (namedOld : y.name = name) (named : z.name = name)
      (same : y.nullable = z.nullable)
      (sameType : { ColumnState.of y with default := z.default } = ColumnState.of z) :
      Alters name false (some (.of y)) (.alterColumnNullDefault (some y) z) false (some (.of z))

variable {table : String}

theorem effects?_dropBound (y : Column) :
    effects? (some (.of y)) (dropBound table y) =
      some (some ⟨Dialect.sqlServer.typeOf? y, y.nullable, none, none⟩) := by
  cases hdefault : y.default <;> cases hcheck : y.HasEnumValues <;>
    simp [dropBound, effects?, effect?, ColumnState.of, hdefault, hcheck]

theorem effects?_addDefault (y : Column) (type : Option String) (nullable : Bool)
    (check : Option (List String)) :
    effects? (some ⟨type, nullable, none, check⟩) (addDefault table y) =
      some (some ⟨type, nullable, y.default, check⟩) := by
  cases hdefault : y.default <;> simp [addDefault, effects?, effect?, hdefault]

theorem effects?_addCheck (y : Column) (type : Option String) (nullable : Bool) :
    effects? (some ⟨type, nullable, none, none⟩)
        (if y.HasEnumValues then [Statement.addCheck table y] else []) =
      some (some ⟨type, nullable, none, (ColumnState.of y).check⟩) := by
  cases hcheck : y.HasEnumValues <;> simp [effects?, effect?, ColumnState.of, hcheck]

def rewritten? : Statement → Option (String × String)
  | .modifyColumn table clause => some (table, clause.column.name)
  | _ => none

theorem place?_of_rewritten? {statement : Statement} {place : String × String}
    (h : rewritten? statement = some place) : place? statement = some place := by
  cases statement <;> first | exact h | cases h

def written (table : String) (y z : Column) (type : String) : List Statement :=
  dropBound table y ++ ([.modifyColumn table ⟨z, type⟩] ++
    ((if z.HasEnumValues then [Statement.addCheck table z] else []) ++ addDefault table z))

theorem effects?_written {y z : Column} {type : String}
    (htype : Dialect.sqlServer.typeOf? z = some type) :
    effects? (some (.of y)) (written table y z type) = some (some (.of z)) := by
  have modify : ∀ before nullable,
      effects? (some ⟨before, nullable, none, none⟩) [.modifyColumn table ⟨z, type⟩] =
        some (some ⟨some type, z.nullable, none, none⟩) := fun _ _ => rfl
  rw [written, effects?_append, effects?_dropBound, Option.bind_some, effects?_append, modify,
    Option.bind_some, effects?_append, effects?_addCheck, Option.bind_some, effects?_addDefault,
    ColumnState.of, htype]

theorem rewritten?_dropBound (y : Column) : (dropBound table y).filterMap rewritten? = [] := by
  cases hdefault : y.default <;> cases hcheck : y.HasEnumValues <;>
    simp [dropBound, rewritten?, hdefault, hcheck]

theorem rewritten?_addDefault (y : Column) : (addDefault table y).filterMap rewritten? = [] := by
  cases hdefault : y.default <;> simp [addDefault, rewritten?, hdefault]

theorem rewritten?_written (y z : Column) (type : String) :
    (written table y z type).filterMap rewritten? = [(table, z.name)] := by
  rw [written, List.filterMap_append, List.filterMap_append, List.filterMap_append,
    rewritten?_dropBound, rewritten?_addDefault]
  cases z.HasEnumValues <;> rfl

variable {x : Context} {p : Progress}

theorem place?_of_mem_dropBound {y : Column} {statement : Statement}
    (h : statement ∈ dropBound table y) : place? statement = some (table, y.name) := by
  simp only [dropBound, List.mem_append] at h
  rcases h with h | h <;> split at h <;> simp_all [place?]

theorem place?_of_mem_addDefault {y : Column} {statement : Statement}
    (h : statement ∈ addDefault table y) : place? statement = some (table, y.name) := by
  unfold addDefault at h
  split at h
  · cases List.mem_singleton.mp h
    rfl
  · cases h

theorem place?_of_mem_written {y z : Column} {type : String} {statement : Statement}
    (named : y.name = z.name) (h : statement ∈ written table y z type) :
    place? statement = some (table, z.name) := by
  simp only [written, List.mem_append, List.mem_singleton] at h
  rcases h with h | rfl | h | h
  · rw [place?_of_mem_dropBound h, named]
  · rfl
  · split at h
    · cases List.mem_singleton.mp h
      rfl
    · cases h
  · exact place?_of_mem_addDefault h

theorem withColumn_eq (dialect : x.dialect = .sqlServer) {y : Column} {type : String}
    (htype : Dialect.sqlServer.typeOf? y = some type) (statement : ColumnClause → Statement) :
    withColumn x.dialect y statement = of [statement ⟨y, type⟩] := by
  rw [withColumn, ColumnClause.of?, dialect, htype]

theorem alterColumn_eq (dialect : x.dialect = .sqlServer) {y z : Column} {type : String}
    (htype : Dialect.sqlServer.typeOf? z = some type)
    (fresh : p.restated.contains (table, z.name) = false) :
    alterColumn x p table (some y) z =
      ({ p with restated := (table, z.name) :: p.restated }, of (written table y z type)) := by
  simp only [alterColumn, fresh, withColumn_eq dialect htype, of_append_of, written,
    List.append_assoc, Option.map_some, Option.getD_some, Bool.false_eq_true, if_false]

structure CarriedOut (p : Progress) (place : String × String) (column : Option ColumnState)
    (written : Bool) (after : Option ColumnState) (emitted : Progress × Emission) : Prop where
  faultless : emitted.2.fault = none
  about : ∀ statement ∈ emitted.2.statements, place? statement = some place
  effects : effects? column emitted.2.statements = some after
  here : emitted.1.restated.contains place = written
  restated : emitted.1.restated =
    (emitted.2.statements.filterMap rewritten?).reverse ++ p.restated
  once : p.restated.Nodup → emitted.1.restated.Nodup

theorem carriedOut_written (dialect : x.dialect = .sqlServer) {y z : Column}
    (named : y.name = z.name) (typed : (Dialect.sqlServer.typeOf? z).isSome)
    (fresh : p.restated.contains (table, z.name) = false) :
    CarriedOut p (table, z.name) (some (.of y)) true (some (.of z))
      (alterColumn x p table (some y) z) := by
  obtain ⟨type, htype⟩ := Option.isSome_iff_exists.mp typed
  rw [alterColumn_eq dialect htype fresh]
  refine ⟨rfl, fun _ => place?_of_mem_written named, effects?_written htype, by simp, ?_, ?_⟩
  · show _ = ((written table y z type).filterMap rewritten?).reverse ++ p.restated
    rw [rewritten?_written]
    rfl
  · exact fun distinct => List.nodup_cons.mpr ⟨by simpa using fresh, distinct⟩

theorem carriedOut_added (dialect : x.dialect = .sqlServer) {y : Column}
    (typed : (Dialect.sqlServer.typeOf? y).isSome) :
    CarriedOut p (table, y.name) none (p.restated.contains (table, y.name)) (some (.of y))
      (p, withColumn x.dialect y (.addColumn table)) := by
  obtain ⟨type, htype⟩ := Option.isSome_iff_exists.mp typed
  rw [withColumn_eq dialect htype]
  refine ⟨rfl, by simp [of, place?], ?_, rfl, rfl, id⟩
  simp [of, effects?, effect?, ColumnState.of, htype]

theorem carriedOut_dropped (y : Column) :
    CarriedOut p (table, y.name) (some (.of y)) (p.restated.contains (table, y.name)) none
      (p, of (dropBound table y ++ [.dropColumn table y.name])) := by
  refine ⟨rfl, ?_, ?_, rfl, ?_, id⟩
  · intro statement hmem
    rcases List.mem_append.mp hmem with hmem | hmem
    · exact place?_of_mem_dropBound hmem
    · cases List.mem_singleton.mp hmem
      rfl
  · show effects? (some (.of y)) (dropBound table y ++ [.dropColumn table y.name]) = some none
    rw [effects?_append, effects?_dropBound]
    rfl
  · show _ = (List.filterMap rewritten? (dropBound table y ++ _)).reverse ++ p.restated
    rw [List.filterMap_append, rewritten?_dropBound]
    rfl

/-- If only the default differs, the column itself is not written again. -/
theorem carriedOut_redefaulted {y z : Column} (named : y.name = z.name)
    (sameType : { ColumnState.of y with default := z.default } = ColumnState.of z) :
    CarriedOut p (table, z.name) (some (.of y)) (p.restated.contains (table, z.name))
      (some (.of z)) (p, of ((if y.default.isSome then [.dropDefault table y.name] else []) ++
        addDefault table z)) := by
  refine ⟨rfl, ?_, ?_, rfl, ?_, id⟩
  · intro statement hmem
    rcases List.mem_append.mp hmem with hmem | hmem
    · split at hmem
      · cases List.mem_singleton.mp hmem
        rw [place?, named]
      · cases hmem
    · exact place?_of_mem_addDefault hmem
  · have dropped : effects? (some (.of y))
        (if y.default.isSome then [Statement.dropDefault table y.name] else []) =
          some (some { ColumnState.of y with default := none }) := by
      cases hdefault : y.default <;> simp [effects?, effect?, ColumnState.of, hdefault]
    refine (effects?_append _ _ _).trans ?_
    rw [dropped, Option.bind_some, ← sameType]
    exact effects?_addDefault z _ _ _
  · show _ = (List.filterMap rewritten? (_ ++ addDefault table z)).reverse ++ p.restated
    rw [List.filterMap_append, rewritten?_addDefault]
    split <;> rfl

theorem carriedOut_emit (dialect : x.dialect = .sqlServer) {name : String} {before after : Bool}
    {column changed : Option ColumnState} {a : Action}
    (h : Alters name before column a after changed)
    (hbefore : p.restated.contains (table, name) = before) :
    CarriedOut p (table, name) column after changed (Emission.emit x p ⟨table, a⟩) := by
  rw [Emission.emit, dialect]
  cases h with
  | add named typed =>
    subst named hbefore
    exact carriedOut_added dialect typed
  | drop named =>
    subst named hbefore
    exact carriedOut_dropped _
  | retype namedOld named typed =>
    subst named
    exact carriedOut_written dialect namedOld typed hbefore
  | @skip y z _ named =>
    subst named
    have hemit : alterNullDefault x p table (some y) z = (p, of []) := if_pos hbefore
    dsimp only [Emission.SqlServer.emit]
    rw [hemit]
    exact ⟨rfl, fun _ h => absurd h List.not_mem_nil, rfl, hbefore, rfl, id⟩
  | @rewrite y z namedOld named typed differs =>
    subst named
    have hemit : alterNullDefault x p table (some y) z = alterColumn x p table (some y) z := by
      simp only [alterNullDefault, hbefore, differs, Bool.false_eq_true, if_false]
    dsimp only [Emission.SqlServer.emit]
    rw [hemit]
    exact carriedOut_written dialect namedOld typed hbefore
  | @redefault y z namedOld named same sameType =>
    subst named
    have hemit : alterNullDefault x p table (some y) z =
        (p, of ((if y.default.isSome then [Statement.dropDefault table y.name] else []) ++
          addDefault table z)) := by
      simp only [alterNullDefault, hbefore, same, Bool.false_eq_true, if_false, if_true]
    dsimp only [Emission.SqlServer.emit]
    rw [hemit, ← hbefore]
    exact carriedOut_redefaulted namedOld sameType

/-! ### The statements for all changes -/

inductive AltersAll (name : String) :
    Bool → Option ColumnState → List Action → Option ColumnState → Prop where
  | nil {written : Bool} {column : Option ColumnState} : AltersAll name written column [] column
  | cons {before after : Bool} {column next last : Option ColumnState} {a : Action}
      {rest : List Action} (first : Alters name before column a after next)
      (later : AltersAll name after next rest last) : AltersAll name before column (a :: rest) last

def actionsAt (changes : List Change) (place : String × String) : List Action :=
  (changes.filter fun x => x.place? = some place).map Change.action

theorem actionsAt_cons_self {y : Change} {rest : List Change} {place : String × String}
    (h : y.place? = some place) :
    actionsAt (y :: rest) place = y.action :: actionsAt rest place := by
  simp [actionsAt, h]

theorem actionsAt_cons_of_ne {y : Change} {rest : List Change} {place other : String × String}
    (h : y.place? = some place) (hne : other ≠ place) :
    actionsAt (y :: rest) other = actionsAt rest other := by
  simp [actionsAt, h, Ne.symm hne]

theorem CarriedOut.elsewhere {place other : String × String} {column after : Option ColumnState}
    {written : Bool} {emitted : Progress × Emission}
    (h : CarriedOut p place column written after emitted) (hne : other ≠ place) :
    emitted.1.restated.contains other = p.restated.contains other := by
  have unwritten : other ∉ (emitted.2.statements.filterMap rewritten?).reverse := by
    rw [List.mem_reverse, List.mem_filterMap]
    rintro ⟨statement, hmem, hplace⟩
    have habout := h.about statement hmem
    rw [place?_of_rewritten? hplace] at habout
    exact hne (Option.some.inj habout)
  rw [h.restated]
  simp only [List.contains_eq_mem, List.mem_append, unwritten, false_or]

structure LeadsTo (p : Progress) (s goal : Columns) (emitted : Progress × Emission) : Prop where
  faultless : emitted.2.fault = none
  runs : run? s emitted.2.statements = some goal
  restated : emitted.1.restated =
    (emitted.2.statements.filterMap rewritten?).reverse ++ p.restated
  once : p.restated.Nodup → emitted.1.restated.Nodup

theorem CarriedOut.leadsTo {s : Columns} {place : String × String} {after : Option ColumnState}
    {written : Bool} {emitted : Progress × Emission}
    (h : CarriedOut p place (s place) written after emitted) :
    LeadsTo p s (Function.update s place after) emitted :=
  ⟨h.faultless, run?_of_place h.about h.effects, h.restated, h.once⟩

theorem LeadsTo.append {s middle goal : Columns} {first later : Progress × Emission}
    (hf : LeadsTo p s middle first) (hl : LeadsTo first.1 middle goal later) :
    LeadsTo p s goal (later.1, first.2 ++ later.2) := by
  have happend := append_of_fault_none hf.faultless later.2
  refine ⟨?_, ?_, ?_, fun distinct => hl.once (hf.once distinct)⟩
  · rw [happend]
    exact hl.faultless
  · rw [happend]
    show run? s (first.2.statements ++ later.2.statements) = some goal
    rw [run?_append, hf.runs, Option.bind_some, hl.runs]
  · rw [happend]
    show later.1.restated = _
    rw [hl.restated, hf.restated, List.filterMap_append, List.reverse_append, List.append_assoc]

/-- If the changes to each column lead from what it is to some goal, so do all of them together. -/
theorem leadsTo_emitAll (dialect : x.dialect = .sqlServer) {changes : List Change}
    {s goal : Columns} (placed : ∀ y ∈ changes, y.place?.isSome)
    (leads : ∀ place, AltersAll place.2 (p.restated.contains place) (s place)
      (actionsAt changes place) (goal place)) : LeadsTo p s goal (emitAll x p changes) := by
  induction changes generalizing p s with
  | nil =>
    have hgoal : s = goal := by
      funext place
      have hlead := leads place
      generalize goal place = last at hlead ⊢
      cases hlead
      rfl
    exact ⟨rfl, congrArg some hgoal, rfl, id⟩
  | cons y rest ih =>
    obtain ⟨place, hplace⟩ := Option.isSome_iff_exists.mp (placed y List.mem_cons_self)
    have htable : y.table = place.1 := by
      obtain ⟨_, -, rfl⟩ := Option.map_eq_some_iff.mp hplace
      rfl
    have hlead := leads place
    rw [actionsAt_cons_self hplace] at hlead
    generalize hbefore : p.restated.contains place = before at hlead
    generalize hgoal : goal place = last at hlead
    cases hlead with
    | @cons _ after _ next _ _ _ first later =>
      obtain ⟨table, action⟩ := y
      obtain ⟨t, name⟩ := place
      obtain rfl : table = t := htable
      have done := carriedOut_emit dialect first hbefore
      have hall : emitAll x p (⟨table, action⟩ :: rest) =
          ((emitAll x (Emission.emit x p ⟨table, action⟩).1 rest).1,
            (Emission.emit x p ⟨table, action⟩).2 ++
              (emitAll x (Emission.emit x p ⟨table, action⟩).1 rest).2) := by
        simp only [emitAll, done.faultless]
      rw [hall]
      apply done.leadsTo.append
      apply ih fun z hz => placed z (List.mem_cons_of_mem _ hz)
      -- the rest leads on from where this change has left its column, and all others are as before
      intro other
      by_cases heq : other = (table, name)
      · subst heq
        rw [Function.update_self, done.here, hgoal]
        exact later
      · rw [Function.update_of_ne heq, done.elsewhere heq, ← actionsAt_cons_of_ne hplace heq]
        exact leads other

/-! ### The changes of a difference -/

variable {c : Comparison} {old new : Table}

theorem columnState_of_sameType {y z : Column} (same : c.sameType y z = true) :
    { ColumnState.of y with nullable := z.nullable, default := z.default } = ColumnState.of z := by
  obtain ⟨-, -, -, hvalues, -⟩ := Comparison.sameType_iff.mp same
  simp only [ColumnState.of, Comparison.typeOf?_of_sameType same,
    Comparison.hasEnumValues_of_sameType same, hvalues]

theorem altersAll_columnChanges {y z : Column} (hold : old.column? z.name = some y)
    (named : y.name = z.name) (typed : (Dialect.sqlServer.typeOf? z).isSome) :
    AltersAll z.name false (some (.of y)) ((c.columnChanges old new z).map Change.action)
      (some (.of z)) := by
  have hactions : (c.columnChanges old new z).map Change.action =
      (if c.sameType y z then [] else [.alterColumnType (some y) z]) ++
        if y.SameNullDefault z then [] else [.alterColumnNullDefault (some y) z] := by
    simp only [Comparison.columnChanges, hold]
    split <;> split <;> rfl
  rw [hactions]
  by_cases hsame : c.sameType y z = true
  · have hstate := columnState_of_sameType hsame
    rw [if_pos hsame, List.nil_append]
    split
    · next hnull =>
      have hfields := Column.sameNullDefault_iff.mp hnull
      have heq : ColumnState.of y = ColumnState.of z := by
        rw [← hstate, ← hfields.1, ← hfields.2]
        rfl
      rw [heq]
      exact .nil
    · by_cases hnullable : y.nullable = z.nullable
      · refine .cons (.redefault named rfl hnullable ?_) .nil
        rw [← hstate, ← hnullable]
        rfl
      · exact .cons (.rewrite named rfl typed hnullable) .nil
  · rw [if_neg hsame]
    -- a new type brings null rule and default with it, so a change of these finds nothing to do
    split
    · exact .cons (.retype named rfl typed) .nil
    · exact .cons (.retype named rfl typed) (.cons (.skip rfl) .nil)

/-- The changes to a column lead from its old definition to its new one. -/
theorem altersAll_columnCourse (ho : old.columnNames.Nodup) (hn : new.columnNames.Nodup)
    (typed : ∀ y ∈ new.columns, y.type ≠ .unset) (name : String) :
    AltersAll name false ((old.column? name).map .of)
      ((c.columnCourse old new name).map Change.action) ((new.column? name).map .of) := by
  cases hnew : new.column? name with
  | none =>
    simp only [Comparison.columnCourse, hnew]
    cases hold : old.column? name with
    | none => exact .nil
    | some y =>
      obtain ⟨-, hname⟩ := (find?_key_eq_some_iff ho).mp hold
      exact .cons (.drop hname) .nil
  | some z =>
    obtain ⟨hz, rfl⟩ := (find?_key_eq_some_iff hn).mp hnew
    have htyped := Dialect.sqlServer.typeOf?_isSome (typed z hz)
    simp only [Comparison.columnCourse, hnew]
    cases hold : old.column? z.name with
    | none =>
      simp only [Comparison.columnChanges, hold]
      exact .cons (.add rfl htyped) .nil
    | some y =>
      obtain ⟨-, hname⟩ := (find?_key_eq_some_iff ho).mp hold
      exact altersAll_columnChanges hold hname htyped

def goalOf (c : Comparison) : Columns := fun place =>
  match c.current.table? place.1, c.target.table? place.1 with
  | some _, some new => (new.column? place.2).map .of
  | _, _ => columnsOf c.current place

theorem altersAll_placeCourse (hc : c.current.ColumnsNamed) (ht : c.target.ColumnsNamed)
    (typed : ∀ entry ∈ c.target.tables.entries, ∀ y ∈ entry.2.columns, y.type ≠ .unset)
    (place : String × String) :
    AltersAll place.2 false (columnsOf c.current place)
      ((c.placeCourse place).map Change.action) (goalOf c place) := by
  unfold Comparison.placeCourse goalOf columnsOf
  cases hold : c.current.table? place.1 with
  | none => exact .nil
  | some old =>
    cases hnew : c.target.table? place.1 with
    | none => exact .nil
    | some new =>
      have hmem := Snapshot.table?_eq_some_iff.mp hnew
      exact altersAll_columnCourse (hc.columns _ (Snapshot.table?_eq_some_iff.mp hold))
        (ht.columns _ hmem) (typed _ hmem) place.2

theorem columnState_of_complete {y : Column} (h : y.Complete) :
    (ColumnState.of y).check = if y.type = .enumeration then some y.enumValues else none := by
  simp only [ColumnState.of, h.hasEnumValues_iff]

theorem ordered_leadsTo (dialect : x.dialect = .sqlServer) (hc : c.current.ColumnsNamed)
    (ht : c.target.ColumnsNamed)
    (typed : ∀ entry ∈ c.target.tables.entries, ∀ y ∈ entry.2.columns, y.type ≠ .unset) :
    LeadsTo .start (columnsOf c.current) (goalOf c)
      (emitAll x .start (c.ordered.filter Change.isOfColumn)) := by
  apply leadsTo_emitAll dialect
  · intro y hy
    rw [← Change.isOfColumn_eq]
    exact (List.mem_filter.mp hy).2
  · intro place
    have hactions : actionsAt (c.ordered.filter Change.isOfColumn) place =
        (c.placeCourse place).map Change.action := by
      rw [actionsAt, List.filter_filter, ← Comparison.ordered_at hc ht place]
      congr 2
      funext y
      by_cases hplace : y.place? = some place <;> simp [Change.isOfColumn_eq, hplace]
    rw [hactions]
    exact altersAll_placeCourse hc ht typed place

/-- The statements for the changes to columns drop constraints that are bound and add constraints
that are not, write no column again twice, and leave each column of a table that stays as the new
definition says. -/
theorem constraints_in_step {projection : Projection} {schema : Schema} {d : Difference}
    (dialect : x.dialect = .sqlServer) (hc : c.current.ColumnsNamed)
    (ht : projection.snapshot schema = .ok c.target) (hd : c.difference = .ok d) :
    ∃ statements after,
      (emitAll x .start (d.changes.filter Change.isOfColumn)).2 = of statements ∧
      run? (columnsOf c.current) statements = some after ∧
      (statements.filterMap rewritten?).Nodup ∧
      ∀ table old new, c.current.table? table = some old → c.target.table? table = some new →
        (∀ y ∈ new.columns, ∃ type, Dialect.sqlServer.typeOf? y = some type ∧
          after (table, y.name) = some {
            type := some type
            nullable := y.nullable
            default := y.default
            check := if y.type = .enumeration then some y.enumValues else none }) ∧
        ∀ name, name ∉ new.columnNames → after (table, name) = none := by
  have made := Projection.projects_of_snapshot ht
  have hleads := ordered_leadsTo dialect hc made.columnsNamed
    fun entry hentry y hy => ((made.tables entry hentry).columns y hy).typed
  rw [← Comparison.changes_of_difference hd] at hleads
  rcases hemit : emitAll x .start (d.changes.filter Change.isOfColumn) with ⟨p, statements, fault⟩
  rw [hemit] at hleads
  obtain rfl : fault = none := hleads.faultless
  refine ⟨statements, goalOf c, rfl, hleads.runs, ?_, ?_⟩
  · have honce := hleads.once List.nodup_nil
    rw [hleads.restated] at honce
    exact List.nodup_reverse.mp (List.nodup_append.mp honce).1
  · intro table old new hold hnew
    have hcomplete := made.tables _ (Snapshot.table?_eq_some_iff.mp hnew)
    have hgoal : ∀ name, goalOf c (table, name) = (new.column? name).map .of := by
      intro name
      simp only [goalOf, hold, hnew]
    constructor
    · intro y hy
      have hfound : new.column? y.name = some y :=
        (find?_key_eq_some_iff hcomplete.named.columns).mpr ⟨hy, rfl⟩
      have hy := hcomplete.columns y hy
      obtain ⟨type, htype⟩ :=
        Option.isSome_iff_exists.mp (Dialect.sqlServer.typeOf?_isSome hy.typed)
      refine ⟨type, htype, ?_⟩
      rw [hgoal, hfound, Option.map_some, ← columnState_of_complete hy, ← htype]
      rfl
    · intro name habsent
      rw [hgoal, Table.column?_eq_none_iff.mpr habsent, Option.map_none]

end SchemaMigration.SqlServer

namespace SchemaMigration.Shop

def payments : Table :=
  { Table.ofName "payments" with
    columns := [number "id",
      ⟨"state", .enumeration, none, none, true, some "'new'", ["new", "paid"], none⟩,
      ⟨"method", .enumeration, none, none, false, some "'cash'", ["cash"], none⟩,
      ⟨"note", .text, none, none, true, some "'-'", [], none⟩] }

def paymentBook : Schema :=
  { Schema.ofName "shop" with
    tables := [
      { name := "payments"
        columns := [
          ⟨"id", "BIGINT", none, none, false, none, none, none⟩,
          ⟨"state", "ENUM", none, none, false, some "'open'", some ["open", "failed"], none⟩,
          ⟨"note", "TEXT", none, none, true, none, none, none⟩]
        primaryKey := []
        indexes := []
        foreignKeys := []
        charset := none
        collation := none }] }

def newPayments : Table :=
  { payments with
    columns := [{ number "id" with type := .bigInt },
      ⟨"state", .enumeration, none, none, false, some "'open'", ["open", "failed"], none⟩,
      ⟨"note", .text, none, none, true, none, [], none⟩] }

def repayment : Comparison :=
  ⟨.ofTables [payments], .ofTables [newPayments], Dialect.sqlServer.rules, false⟩

/-- Payments lose their method and take other states. -/
theorem payments_in_step :
    ∃ d statements after, repayment.difference = .ok d ∧
      (Emission.emitAll ⟨.sqlServer, repayment.current, repayment.target, d.changes, false⟩ .start
        (d.changes.filter Change.isOfColumn)).2 = .of statements ∧
      SqlServer.run? (SqlServer.columnsOf repayment.current) statements = some after ∧
      after ("payments", "state") =
        some ⟨some "NVARCHAR(6)", false, some "'open'", some ["open", "failed"]⟩ ∧
      after ("payments", "method") = none := by
  obtain ⟨g, -, -, -, hd⟩ := Comparison.difference_of_nodup (c := repayment) (by decide)
  have hprojected : (Dialect.projection .sqlServer).snapshot paymentBook =
      .ok repayment.target := rfl
  obtain ⟨statements, after, hemit, hrun, -, hafter⟩ :=
    SqlServer.constraints_in_step (x := ⟨.sqlServer, repayment.current, repayment.target, _, false⟩)
      rfl ⟨by decide, by decide⟩ hprojected hd
  obtain ⟨hnew, hgone⟩ := hafter "payments" payments newPayments rfl rfl
  obtain ⟨type, htype, hstate⟩ := hnew
    ⟨"state", .enumeration, none, none, false, some "'open'", ["open", "failed"], none⟩ (by decide)
  obtain rfl : "NVARCHAR(6)" = type := Option.some.inj htype
  exact ⟨_, statements, after, hd, hemit, hrun, hstate, hgone "method" (by decide)⟩

end SchemaMigration.Shop
