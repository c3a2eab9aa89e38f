import SchemaMigration.Proofs.Mysql.Database

/-!
A MySQL database while the changes of a difference are carried out. Each change does something to
its own table only, and all but a few leave of it what conversions are about.
-/

namespace SchemaMigration

namespace Mysql

open Emission Comparison

variable {server : Server} {c : Comparison} {x : Context} {p : Progress} {s : Snapshot}
  {m : Progress × Snapshot} {change : Change} {changes : List Change} {name : String} {t : Table}

/-! ### Changes one after the other -/

def advance (server : Server) (x : Context) (m : Progress × Snapshot) (change : Change) :
    Progress × Snapshot :=
  ((Emission.emit x m.1 change).1, run server m.2 (Emission.emit x m.1 change).2.statements)

def advanceAll (server : Server) (x : Context) (m : Progress × Snapshot) (changes : List Change) :
    Progress × Snapshot :=
  changes.foldl (advance server x) m

theorem advanceAll_append (first second : List Change) :
    advanceAll server x m (first ++ second) =
      advanceAll server x (advanceAll server x m first) second :=
  List.foldl_append

theorem advanceAll_cons (change : Change) (rest : List Change) :
    advanceAll server x m (change :: rest) =
      advanceAll server x (advance server x m change) rest := rfl

/-- What every change keeps, all of them keep. -/
theorem advanceAll_keeps {P : Progress × Snapshot → Prop}
    (step : ∀ change ∈ changes, ∀ m, P m → P (advance server x m change)) (h : P m) :
    P (advanceAll server x m changes) := by
  induction changes generalizing m with
  | nil => exact h
  | cons change rest ih =>
    rw [List.forall_mem_cons] at step
    exact ih step.2 (step.1 m h)

theorem emitAll_of_faultless
    (faultless : ∀ change ∈ changes, ∀ p, (Emission.emit x p change).2.fault = none) :
    ∃ statements, emitAll x p changes = ((emitAll x p changes).1, .of statements) ∧
      ∀ server s, advanceAll server x (p, s) changes =
        ((emitAll x p changes).1, run server s statements) := by
  induction changes generalizing p with
  | nil => exact ⟨[], rfl, fun _ _ => rfl⟩
  | cons change rest ih =>
    rw [List.forall_mem_cons] at faultless
    have first := faultless.1 p
    obtain ⟨statements, hrest, leads⟩ := ih (p := (Emission.emit x p change).1) faultless.2
    refine ⟨(Emission.emit x p change).2.statements ++ statements, ?_, fun server s => ?_⟩
    · rw [emitAll_cons first, hrest, append_of_fault_none first]
      rfl
    · rw [emitAll_cons first, run_append]
      exact leads server _

/-- A script for MySQL has all its statements unless a foreign key without a name is dropped. -/
theorem body_cases (dialect : x.dialect = .mysql) (informs : c.Informs x) :
    (∃ table k, ⟨table, .dropForeignKey k⟩ ∈ x.changes ∧ Text.nonempty? k.name = none) ∧
        (body x .start).2.fault ≠ none ∨
      ∃ statements, (body x .start).2 = .of statements ∧
        ∀ server s, (advanceAll server x (.start, s) x.changes).2 = run server s statements := by
  have faults := fault_body (p := .start) informs fun _ h => nomatch h
  cases stops : x.changes.findSome? (obstacle? x.dialect) with
  | some fault =>
    refine .inl ⟨?_, by rw [faults, stops]; simp⟩
    obtain ⟨⟨table, action⟩, mem, meets⟩ := List.exists_of_findSome?_eq_some stops
    rw [dialect] at meets
    unfold obstacle? at meets
    dsimp only at meets
    split at meets
    · next k =>
      refine ⟨table, k, mem, ?_⟩
      by_contra named
      rw [if_pos (.inr (Option.isSome_iff_ne_none.mpr named))] at meets
      cases meets
    · rw [if_neg (by simp)] at meets
      cases meets
    · cases meets
  | none =>
    have passes := List.findSome?_eq_none_iff.mp stops
    have faultless : ∀ change ∈ x.changes, ∀ p, (Emission.emit x p change).2.fault = none := by
      intro change mem p
      have passed := passes change mem
      rw [dialect] at passed
      unfold Emission.emit
      rw [dialect]
      exact (fault_mysql (informs.sound mem)).trans passed
    obtain ⟨statements, hall, leads⟩ := emitAll_of_faultless (p := .start) faultless
    have rebuilding := (carries_emitAll x .start x.changes).rebuilding
    refine .inr ⟨statements, ?_, fun server s => ?_⟩
    · unfold body
      rw [hall]
      dsimp only
      rw [if_pos (by rw [rebuilding]; rfl)]
      simp [of, append_of_fault_none]
    · rw [leads server s]

/-! ### The statements of one change -/

def keyStatements (old new : Table) : List Statement :=
  if old.primaryKey = new.primaryKey then []
  else (if old.primaryKey = [] then [] else [.dropPrimaryKey old.name]) ++
    if new.primaryKey = [] then [] else [.addPrimaryKey new.name new.primaryKey]

def SameOptions (old new : Table) : Prop :=
  old.charset = new.charset ∧ old.collation = new.collation

instance (old new : Table) : Decidable (SameOptions old new) :=
  inferInstanceAs (Decidable (_ ∧ _))

def optionStatements (old new : Table) : List Statement :=
  if SameOptions old new then []
  else (Text.nonempty? new.charset).toList.map fun charset =>
    .convertCharset new.name charset new.collation

/-- The column that an action gives its whole definition again. -/
def rewritten? : Action → Option Column
  | .alterColumnType _ y | .alterColumnNullDefault _ y => some y
  | _ => none

/-- The statements for a change to a part of a table, some of whose columns were restated. -/
def partStatements (p : Progress) (name : String) : Action → List Statement
  | .addColumn y => [.addColumn name (.declared .mysql y)]
  | .dropColumn y => [.dropColumn name y.name]
  | .alterColumnType _ y | .alterColumnNullDefault _ y =>
    if p.restated.contains (name, y.name) then [] else [.modifyColumn name (.declared .mysql y)]
  | .alterTable old new => keyStatements old new ++ optionStatements old new
  | .addIndex i => [.createIndex name i]
  | .dropIndex i => [.dropIndex name i.name]
  | .addForeignKey k => [.addForeignKey name (.of name k)]
  | .dropForeignKey k => (Text.nonempty? k.name).toList.map (.dropForeignKey name)
  | .createTable _ | .dropTable _ | .incomplete _ => []

theorem alterTable_eq (old new : Table) :
    Emission.alterTable .mysql old new =
      .of (keyStatements old new ++ optionStatements old new) := by
  unfold Emission.alterTable
  dsimp only
  rw [append_of_fault_none (fault_of _)]
  by_cases same : SameOptions old new
  · rw [if_pos (show _ ∧ _ from same), optionStatements, if_pos same]
    rfl
  · rw [if_neg (show ¬ (_ ∧ _) from same), optionStatements, if_neg same]
    unfold convertTable
    cases Text.nonempty? new.charset <;> rfl

theorem withColumn_eq {y : Column} (typed : y.type ≠ .unset)
    (statement : ColumnClause → Statement) :
    withColumn .mysql y statement = .of [statement (.declared .mysql y)] := by
  rw [withColumn, ColumnClause.of?_eq_declared .mysql typed]

theorem modifyColumn_eq (dialect : x.dialect = .mysql) {y : Column} (typed : y.type ≠ .unset) :
    (Emission.Mysql.modifyColumn x p name y).2 =
      .of (if p.restated.contains (name, y.name) then []
        else [.modifyColumn name (.declared .mysql y)]) := by
  unfold Emission.Mysql.modifyColumn
  dsimp only
  by_cases restated : p.restated.contains (name, y.name) = true
  · rw [if_pos restated, if_pos restated]
  · rw [if_neg restated, if_neg restated, dialect, withColumn_eq typed]

theorem statements_of_part (dialect : x.dialect = .mysql) {a : Action} (sound : c.Sound ⟨name, a⟩)
    (part : a.isPart = true) :
    (Emission.emit x p ⟨name, a⟩).2.statements = partStatements p name a := by
  unfold Emission.emit
  rw [dialect]
  dsimp only
  cases a with
  | createTable | dropTable => cases part
  | incomplete => cases sound
  | alterTable old new =>
    show (Emission.alterTable x.dialect old new).statements = _
    rw [dialect, alterTable_eq]
    rfl
  | addColumn y =>
    show (withColumn x.dialect y _).statements = _
    rw [dialect, withColumn_eq sound.1]
    rfl
  | alterColumnType old y =>
    exact congrArg Emission.statements (modifyColumn_eq dialect sound.1)
  | alterColumnNullDefault old y =>
    exact congrArg Emission.statements (modifyColumn_eq dialect sound.1)
  | dropForeignKey k =>
    show (Emission.dropForeignKey name k).statements = (Text.nonempty? k.name).toList.map _
    unfold Emission.dropForeignKey
    cases Text.nonempty? k.name <;> rfl
  | dropColumn | addIndex | dropIndex | addForeignKey => rfl

theorem statements_of_createTable (dialect : x.dialect = .mysql)
    (sound : c.Sound ⟨name, .createTable t⟩) :
    (Emission.emit x p ⟨name, .createTable t⟩).2.statements = [.createTable (t.clause .mysql)] := by
  unfold Emission.emit
  rw [dialect]
  show (Emission.createTable x t t.name).statements = _
  rw [Emission.createTable, Table.tableClause_eq (by rw [dialect]; decide) sound, dialect]
  rfl

def isAlteration : Statement → Bool
  | .createTable _ | .dropTable _ => false
  | _ => true

theorem alters_of_mem_partStatements {a : Action} (titled : Change.Titled ⟨name, a⟩) :
    ∀ st ∈ partStatements p name a, table? st = some name ∧ isAlteration st = true := by
  intro st h
  cases a with
  | alterTable old new =>
    obtain ⟨rfl, hnew⟩ := titled
    dsimp only at hnew
    rcases List.mem_append.mp h with h | h
    · unfold keyStatements at h
      split at h
      · cases h
      · rcases List.mem_append.mp h with h | h
        · split at h
          · cases h
          · rw [List.mem_singleton.mp h]
            exact ⟨rfl, rfl⟩
        · split at h
          · cases h
          · rw [List.mem_singleton.mp h]
            exact ⟨congrArg some hnew, rfl⟩
    · unfold optionStatements at h
      split at h
      · cases h
      · obtain ⟨charset, -, rfl⟩ := List.mem_map.mp h
        exact ⟨congrArg some hnew, rfl⟩
  | alterColumnType | alterColumnNullDefault =>
    dsimp only [partStatements] at h
    split at h
    · cases h
    · rw [List.mem_singleton.mp h]
      exact ⟨rfl, rfl⟩
  | dropForeignKey k =>
    obtain ⟨n, -, rfl⟩ := List.mem_map.mp h
    exact ⟨rfl, rfl⟩
  | createTable | dropTable | incomplete => cases h
  | addColumn | dropColumn | addIndex | dropIndex | addForeignKey =>
    rw [List.mem_singleton.mp h]
    exact ⟨rfl, rfl⟩

theorem table?_of_emit (dialect : x.dialect = .mysql) (sound : c.Sound change)
    (titled : change.Titled) :
    ∀ st ∈ (Emission.emit x p change).2.statements, table? st = some change.table := by
  obtain ⟨name, a⟩ := change
  intro st h
  by_cases part : a.isPart = true
  · rw [statements_of_part dialect sound part] at h
    exact (alters_of_mem_partStatements titled st h).1
  · cases a with
    | createTable t =>
      rw [statements_of_createTable dialect sound, List.mem_singleton] at h
      rw [h]
      exact congrArg some titled
    | dropTable t =>
      unfold Emission.emit at h
      rw [dialect] at h
      rw [List.mem_singleton.mp h]
      rfl
    | _ => exact absurd rfl part

/-- A column is restated if it was, or if the change gives it its whole definition again. -/
theorem mem_restated_emit (dialect : x.dialect = .mysql) {place : String × String} :
    place ∈ (Emission.emit x p change).1.restated ↔
      place ∈ p.restated ∨
        ∃ y, rewritten? change.action = some y ∧ place = (change.table, y.name) := by
  have modified (y : Column) :
      place ∈ (Emission.Mysql.modifyColumn x p change.table y).1.restated ↔
        place ∈ p.restated ∨ place = (change.table, y.name) := by
    unfold Emission.Mysql.modifyColumn
    dsimp only
    split
    · next restated =>
      rw [List.contains_iff_mem] at restated
      constructor
      · exact .inl
      · rintro (h | rfl)
        · exact h
        · exact restated
    · rw [List.mem_cons, or_comm]
  obtain ⟨name, a⟩ := change
  unfold Emission.emit
  rw [dialect]
  cases a with
  | alterColumnType old y =>
    refine (modified y).trans ?_
    simp [rewritten?]
  | alterColumnNullDefault old y =>
    refine (modified y).trans ?_
    simp [rewritten?]
  | _ => simp [Emission.Mysql.emit, rewritten?]

/-! ### What one change does to a table -/

theorem effect_of_isAlteration {st : Statement} (h : isAlteration st = true) (held : Option Table) :
    effect server st held = held.map fun t => alter server t st := by
  cases st with
  | createTable | dropTable => cases h
  | _ => rfl

theorem table?_run_of_alters {statements : List Statement}
    (alters : ∀ st ∈ statements, table? st = some name ∧ isAlteration st = true)
    (held : s.table? name = some t) :
    (run server s statements).table? name = some (statements.foldl (alter server) t) := by
  induction statements generalizing s t with
  | nil => exact held
  | cons st rest ih =>
    rw [List.forall_mem_cons] at alters
    refine ih alters.2 ?_
    rw [table?_exec, if_pos alters.1.1, effect_of_isAlteration alters.1.2, held, Option.map_some]

theorem table?_advance_part (dialect : x.dialect = .mysql) {a : Action}
    (sound : c.Sound ⟨name, a⟩) (titled : Change.Titled ⟨name, a⟩) (part : a.isPart = true)
    (held : m.2.table? name = some t) :
    (advance server x m ⟨name, a⟩).2.table? name =
      some ((partStatements m.1 name a).foldl (alter server) t) := by
  have alters := alters_of_mem_partStatements (p := m.1) titled
  rw [← statements_of_part (x := x) dialect sound part] at alters ⊢
  exact table?_run_of_alters alters held

theorem table?_advance_createTable (dialect : x.dialect = .mysql)
    (sound : c.Sound ⟨name, .createTable t⟩) (titled : t.name = name) :
    (advance server x m ⟨name, .createTable t⟩).2.table? name =
      some (created server (t.clause .mysql)) := by
  have about : table? (.createTable (t.clause .mysql)) = some name := congrArg some titled
  unfold advance
  rw [statements_of_createTable dialect sound, run_cons, run_nil, table?_exec, if_pos about]
  rfl

/-- Changes to other tables leave a table as it is. -/
theorem table?_advance_of_ne (dialect : x.dialect = .mysql) (sound : c.Sound change)
    (titled : change.Titled) (other : change.table ≠ name) :
    (advance server x m change).2.table? name = m.2.table? name := by
  apply table?_run_of_ne
  intro st hst about
  rw [table?_of_emit dialect sound titled st hst] at about
  exact other (Option.some.inj about)

/-- Apart from the alteration of a table itself, a change to a part of it leaves its options, its
primary key and the other columns. -/
theorem leaves_partStatements {a : Action} (own : ∀ old new, a ≠ .alterTable old new)
    (p : Progress) :
    Leaves (fun n => ∃ y, a.column? = some y ∧ n = y.name)
      (fun n => ∃ y, a = .dropColumn y ∧ n = y.name) t
      ((partStatements p name a).foldl (alter server) t) := by
  cases a with
  | alterTable old new => exact absurd rfl (own old new)
  | createTable | dropTable | incomplete => exact .refl _ _ t
  | addColumn y =>
    exact (leaves_addColumn server name (.declared .mysql y)).imp (fun n h => ⟨y, rfl, h⟩) nofun
  | dropColumn y =>
    exact (leaves_dropColumn server name).imp (fun n h => ⟨y, rfl, h⟩) fun n h => ⟨y, rfl, h⟩
  | alterColumnType _ y | alterColumnNullDefault _ y =>
    dsimp only [partStatements]
    split
    · exact .refl _ _ t
    · exact (leaves_modifyColumn server name (.declared .mysql y)).imp (fun n h => ⟨y, rfl, h⟩)
        nofun
  | addIndex | dropIndex | addForeignKey => exact ⟨rfl, rfl, fun _ => rfl, fun _ _ => rfl⟩
  | dropForeignKey k =>
    dsimp only [partStatements]
    cases Text.nonempty? k.name with
    | none => exact .refl _ _ t
    | some n => exact ⟨rfl, rfl, fun _ => rfl, fun _ _ => rfl⟩

def altered (server : Server) (old new t : Table) : Table :=
  let keyed := { t with
    primaryKey := if old.primaryKey = new.primaryKey then t.primaryKey else new.primaryKey }
  if SameOptions old new then keyed
  else match Text.nonempty? new.charset with
    | some charset => alter server keyed (.convertCharset new.name charset new.collation)
    | none => keyed

theorem foldl_keyStatements {old new : Table} :
    (keyStatements old new).foldl (alter server) t = { t with
      primaryKey := if old.primaryKey = new.primaryKey then t.primaryKey else new.primaryKey } := by
  unfold keyStatements
  by_cases same : old.primaryKey = new.primaryKey
  · simp [same]
  · by_cases keyed : old.primaryKey = []
    · by_cases unkeyed : new.primaryKey = []
      · exact absurd (keyed.trans unkeyed.symm) same
      · simp [keyed, unkeyed, alter]
    · by_cases unkeyed : new.primaryKey = []
      · simp [keyed, unkeyed, alter]
      · simp [same, keyed, unkeyed, alter]

theorem foldl_alterTable {old new : Table} (p : Progress) :
    (partStatements p name (.alterTable old new)).foldl (alter server) t =
      altered server old new t := by
  show (keyStatements old new ++ optionStatements old new).foldl (alter server) t = _
  rw [List.foldl_append, foldl_keyStatements]
  unfold altered optionStatements
  by_cases same : SameOptions old new
  · rw [if_pos same, if_pos same]
    rfl
  · rw [if_neg same, if_neg same]
    cases Text.nonempty? new.charset <;> rfl

/-! ### A table that stays -/

section Stays

variable {old new : Table}

/-- What a change leaves of a table that stays, unless it is the alteration of that table. -/
theorem leaves_advance (server : Server) (dialect : x.dialect = .mysql) (informs : c.Informs x)
    (mem : change ∈ x.changes) (hold : c.current.table? name = some old)
    (hnew : c.target.table? name = some new) (own : change ≠ ⟨name, .alterTable old new⟩)
    (held : m.2.table? name = some t) :
    ∃ after, (advance server x m change).2.table? name = some after ∧
      Leaves (fun n => change.place? = some (name, n))
        (fun n => ∃ y, change = ⟨name, .dropColumn y⟩ ∧ n = y.name) t after := by
  have discovered := (informs.changes change).mp mem
  have titled := titled_of_mem_changes informs.currentNamed informs.targetNamed discovered
  have sound := informs.sound mem
  by_cases about : change.table = name
  · obtain ⟨table, a⟩ := change
    obtain rfl : table = name := about
    obtain ⟨part, -⟩ :=
      part_of_mem_changes informs.currentNamed informs.targetNamed hold hnew discovered
    refine ⟨_, table?_advance_part dialect sound titled part held, ?_⟩
    have plain : ∀ first second, a ≠ .alterTable first second := by
      rintro first second rfl
      obtain ⟨hfirst, hsecond, -⟩ := (alterTable_mem_changes_iff informs.targetNamed).mp discovered
      rw [hold] at hfirst
      rw [hnew] at hsecond
      cases hfirst
      cases hsecond
      exact own rfl
    refine (leaves_partStatements plain m.1).imp ?_ ?_
    · rintro n ⟨y, hy, rfl⟩
      show a.column?.map _ = _
      rw [hy]
      rfl
    · rintro n ⟨y, rfl, rfl⟩
      exact ⟨y, rfl, rfl⟩
  · exact ⟨t, (table?_advance_of_ne dialect sound titled about).trans held, .refl _ _ t⟩

theorem table?_advance_alterTable (server : Server) (dialect : x.dialect = .mysql)
    (informs : c.Informs x) (mem : ⟨name, .alterTable old new⟩ ∈ x.changes)
    (held : m.2.table? name = some t) :
    (advance server x m ⟨name, .alterTable old new⟩).2.table? name =
      some (altered server old new t) := by
  have titled := titled_of_mem_changes informs.currentNamed informs.targetNamed
    ((informs.changes _).mp mem)
  rw [table?_advance_part dialect (informs.sound mem) titled rfl held, foldl_alterTable]

end Stays

end Mysql

end SchemaMigration
