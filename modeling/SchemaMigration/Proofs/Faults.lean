import SchemaMigration.Proofs.Script
import SchemaMigration.Proofs.Sqlite.Rebuild
import SchemaMigration.Proofs.TableChanges
import SchemaMigration.Proofs.Validation

/-!
What stops a script. Emission asks much of a change: columns need a type, tables have to be there,
foreign keys need a name. Of all that, discovered changes can miss two things only. A foreign key
that has no name cannot be dropped, unless its table is rebuilt instead, and PostgreSQL looks up the
type that a column had before, which may be unset.
-/

namespace SchemaMigration

def Snapshot.Typed (s : Snapshot) : Prop :=
  ∀ entry ∈ s.tables.entries, ∀ y ∈ entry.2.columns, y.type ≠ .unset

instance (s : Snapshot) : Decidable s.Typed := by
  unfold Snapshot.Typed
  infer_instance

/-! ### What discovered changes ask for -/

namespace Comparison

variable {c : Comparison} {x : Change} {name : String} {old new t : Table}

def Stays (c : Comparison) (name : String) : Prop :=
  (∃ old, c.current.table? name = some old) ∧ ∃ new, c.target.table? name = some new

/-- A change that asks for nothing that is missing: it says what it is about, the columns that it
brings have a type, and it only alters tables that stay. -/
def Sound (c : Comparison) (x : Change) : Prop :=
  match x.action with
  | .createTable t => ∀ y ∈ t.columns, y.type ≠ .unset
  | .addColumn y | .alterColumnType _ y | .alterColumnNullDefault _ y =>
    y.type ≠ .unset ∧ c.Stays x.table
  | .dropColumn _ | .alterTable _ _ => c.Stays x.table
  | .dropTable _ | .addIndex _ | .dropIndex _ | .addForeignKey _ | .dropForeignKey _ => True
  | .incomplete _ => False

theorem sound_of_mem_creation (typed : ∀ y ∈ t.columns, y.type ≠ .unset)
    (h : x ∈ c.creation t) : c.Sound x := by
  rcases List.mem_cons.mp h with rfl | h
  · exact typed
  · split at h
    · cases h
    · rcases List.mem_append.mp h with h | h
      · obtain ⟨i, -, rfl⟩ := List.mem_map.mp h
        trivial
      · obtain ⟨k, -, rfl⟩ := List.mem_map.mp h
        trivial

theorem sound_of_mem_removal (h : x ∈ c.removal t) : c.Sound x := by
  rcases List.mem_append.mp h with h | h
  · split at h
    · cases h
    · obtain ⟨k, -, rfl⟩ := List.mem_map.mp h
      trivial
  · obtain rfl := List.mem_singleton.mp h
    trivial

theorem sound_of_mem_tableChanges (stays : c.Stays new.name)
    (typed : ∀ y ∈ new.columns, y.type ≠ .unset) (h : x ∈ c.tableChanges old new) : c.Sound x := by
  simp only [tableChanges, List.mem_append] at h
  rcases h with ((keys | columns) | dropped) | options
  · split at keys
    · cases keys
    · simp only [foreignKeyChanges, indexChanges, List.mem_append, List.mem_map] at keys
      rcases keys with (⟨_, -, rfl⟩ | ⟨_, -, rfl⟩) | ⟨_, -, rfl⟩ | ⟨_, -, rfl⟩ <;> trivial
  · obtain ⟨y, hy, hx⟩ := List.mem_flatMap.mp columns
    rcases columnChanges_cases hx with rfl | ⟨z, rfl | rfl⟩ <;> exact ⟨typed y hy, stays⟩
  · obtain ⟨y, -, rfl⟩ := List.mem_map.mp dropped
    exact stays
  · split at options
    · cases options
    · obtain rfl := List.mem_singleton.mp options
      exact stays

/-- Every discovered change is sound, if the new snapshot is typed. -/
theorem sound_of_mem_changes (hc : c.current.TablesNamed) (ht : c.target.TablesNamed)
    (typed : c.target.Typed) (h : x ∈ c.changes) : c.Sound x := by
  rw [mem_changes_iff_of_table hc ht, changesOf] at h
  split at h
  · next old new hold hnew =>
    have hname := ht.name_of_table? hnew
    refine sound_of_mem_tableChanges ⟨⟨old, ?_⟩, new, ?_⟩
      (typed _ (Snapshot.table?_eq_some_iff.mp hnew)) h
    · rwa [hname]
    · rwa [hname]
  · next new _ hnew =>
    exact sound_of_mem_creation (typed _ (Snapshot.table?_eq_some_iff.mp hnew)) h
  · exact sound_of_mem_removal h
  · cases h

theorem alterColumnType_mem_columnChanges_iff {w y z : Column} :
    ⟨name, .alterColumnType (some z) y⟩ ∈ c.columnChanges old new w ↔
      name = new.name ∧ y = w ∧ old.column? w.name = some z ∧ c.sameType z w = false := by
  unfold columnChanges
  split
  · next absent => simp [absent]
  · next held hheld =>
    have other : (⟨name, .alterColumnType (some z) y⟩ : Change) ∉
        if held.SameNullDefault w then []
        else [⟨new.name, .alterColumnNullDefault (some held) w⟩] := by
      split <;> simp
    rw [hheld, List.mem_append, or_iff_left other, Option.some.injEq]
    split
    · next same =>
      refine ⟨fun h => (nomatch h), ?_⟩
      rintro ⟨-, -, rfl, differs⟩
      exact absurd (differs.symm.trans same) Bool.false_ne_true
    · next differs =>
      rw [List.mem_singleton]
      constructor
      · rintro ⟨rfl, rfl, rfl⟩
        exact ⟨rfl, rfl, rfl, Bool.eq_false_iff.mpr differs⟩
      · rintro ⟨rfl, rfl, rfl, -⟩
        rfl

theorem alterColumnType_mem_tableChanges_iff {y z : Column} :
    ⟨name, .alterColumnType (some z) y⟩ ∈ c.tableChanges old new ↔
      name = new.name ∧ y ∈ new.columns ∧ old.column? y.name = some z ∧ c.sameType z y = false := by
  have keys : (⟨name, .alterColumnType (some z) y⟩ : Change) ∉
      if c.skipsConstraints then [] else foreignKeyChanges old new ++ indexChanges old new := by
    split <;> simp [foreignKeyChanges, indexChanges]
  have dropped : (⟨name, .alterColumnType (some z) y⟩ : Change) ∉ droppedColumns old new := by
    simp [droppedColumns]
  have options : (⟨name, .alterColumnType (some z) y⟩ : Change) ∉
      if old.primaryKey == new.primaryKey && c.sameOptions old new then []
      else [⟨new.name, .alterTable old new⟩] := by
    split <;> simp
  simp only [tableChanges, List.mem_append, keys, dropped, options, or_false, false_or,
    List.mem_flatMap, alterColumnType_mem_columnChanges_iff]
  constructor
  · rintro ⟨w, hw, hname, rfl, held, differs⟩
    exact ⟨hname, hw, held, differs⟩
  · rintro ⟨hname, hy, held, differs⟩
    exact ⟨y, hy, hname, rfl, held, differs⟩

/-- Every column that a table has before and after had a type. -/
def Remembers (c : Comparison) : Prop :=
  ∀ name old new, c.current.table? name = some old → c.target.table? name = some new →
    ∀ y ∈ new.columns, ∀ z, old.column? y.name = some z → z.type ≠ .unset

/-- The type of a column that had none is altered, if the new snapshot is typed. -/
theorem remembers_iff (hc : c.current.TablesNamed) (ht : c.target.TablesNamed)
    (typed : c.target.Typed) :
    c.Remembers ↔ ∀ name y z, ⟨name, .alterColumnType (some z) y⟩ ∈ c.changes →
      z.type ≠ .unset := by
  constructor
  · intro remembers name y z h
    rw [mem_changes_iff_of_table hc ht, changesOf] at h
    dsimp only at h
    split at h
    · next old new hold hnew =>
      obtain ⟨-, hy, held, -⟩ := alterColumnType_mem_tableChanges_iff.mp h
      exact remembers name old new hold hnew y hy z held
    · simp [creation] at h
    · simp [removal] at h
    · cases h
  · intro altered name old new hold hnew y hy z held unset
    refine altered name y z ?_ unset
    rw [mem_changes_iff_of_table hc ht, changesOf]
    simp only [hold, hnew]
    refine alterColumnType_mem_tableChanges_iff.mpr ⟨(ht.name_of_table? hnew).symm, hy, held, ?_⟩
    rw [Bool.eq_false_iff]
    intro same
    exact typed _ (Snapshot.table?_eq_some_iff.mp hnew) y hy
      ((sameType_iff.mp same).1.symm.trans unset)

structure Informs (c : Comparison) (x : Context) : Prop where
  currentNamed : c.current.TablesNamed
  targetNamed : c.target.TablesNamed
  typed : c.target.Typed
  current : x.current = c.current
  target : x.target = c.target
  changes : ∀ change, change ∈ x.changes ↔ change ∈ c.changes

namespace Informs

variable {x : Context} {change : Change}

theorem sound (h : c.Informs x) (mem : change ∈ x.changes) : c.Sound change :=
  sound_of_mem_changes h.currentNamed h.targetNamed h.typed ((h.changes change).mp mem)

/-- A table stays if it has changes, but is neither created nor dropped. -/
theorem stays (h : c.Informs x) (mem : change ∈ x.changes)
    (part : ∀ y ∈ x.changes, y.table = change.table →
      y.kind ≠ .createTable ∧ y.kind ≠ .dropTable) : c.Stays change.table := by
  have discovered {y : Change} (hy : y ∈ c.changesOf y.table) : y ∈ x.changes :=
    (h.changes y).mpr ((mem_changes_iff_of_table h.currentNamed h.targetNamed).mpr hy)
  have told := (mem_changes_iff_of_table h.currentNamed h.targetNamed).mp ((h.changes _).mp mem)
  cases hold : c.current.table? change.table with
  | none =>
    cases hnew : c.target.table? change.table with
    | none => simp [changesOf, hold, hnew] at told
    | some new =>
      have hname := h.targetNamed.name_of_table? hnew
      have created : (⟨new.name, .createTable new⟩ : Change) ∈ x.changes := discovered <| by
        simp [changesOf, hname, hold, hnew, creation]
      exact absurd rfl (part _ created hname).1
  | some old =>
    cases hnew : c.target.table? change.table with
    | none =>
      have hname := h.currentNamed.name_of_table? hold
      have dropped : (⟨old.name, .dropTable old⟩ : Change) ∈ x.changes := discovered <| by
        simp [changesOf, hname, hold, hnew, removal]
      exact absurd rfl (part _ dropped hname).2
    | some new => exact ⟨⟨old, hold⟩, new, hnew⟩

end Informs

theorem informs_of_difference (hc : c.current.TablesNamed) (ht : c.target.TablesNamed)
    (typed : c.target.Typed) {d : Difference} (hd : c.difference = .ok d) (dialect : Dialect) :
    c.Informs ⟨dialect, c.current, c.target, d.changes, c.skipsConstraints⟩ where
  currentNamed := hc
  targetNamed := ht
  typed := typed
  current := rfl
  target := rfl
  changes change := by
    dsimp only
    rw [changes_of_difference hd, ordered, List.mem_mergeSort]

end Comparison

/-! ### What stops the emission of a change -/

namespace Emission

variable {c : Comparison} {x : Context} {p : Progress} {change : Change}

@[simp] theorem fault_of (statements : List Statement) : (of statements).fault = none := rfl

@[simp] theorem fault_stop (fault : EmissionFault) : (stop fault).fault = some fault := rfl

@[simp] theorem fault_append (first second : Emission) :
    (first ++ second).fault = first.fault.or second.fault := by
  show (first.andThen second).fault = _
  unfold andThen
  cases h : first.fault <;> simp [h]

/-- What stops the emission of a discovered change. -/
def obstacle? (d : Dialect) (change : Change) : Option EmissionFault :=
  match change.action with
  | .dropForeignKey k =>
    if d = .sqlite ∨ (Text.nonempty? k.name).isSome then none
    else some (.unnamedForeignKey change.table k.columns)
  | .alterColumnType (some old) _ =>
    if d = .postgres ∧ old.type = .unset then some .untypedColumn else none
  | _ => none

theorem clause_of_typed (d : Dialect) {y : Column} (typed : y.type ≠ .unset) :
    ∃ clause, ColumnClause.of? d y = .ok clause := by
  obtain ⟨type, htype⟩ := Option.isSome_iff_exists.mp (d.typeOf?_isSome typed)
  exact ⟨⟨y, type⟩, by rw [ColumnClause.of?, htype]⟩

theorem fault_withColumn (d : Dialect) {y : Column} (typed : y.type ≠ .unset)
    (statement : ColumnClause → Statement) : (withColumn d y statement).fault = none := by
  obtain ⟨clause, hclause⟩ := clause_of_typed d typed
  rw [withColumn, hclause]
  rfl

theorem fault_createTable (x : Context) {t : Table} (typed : ∀ y ∈ t.columns, y.type ≠ .unset)
    (name : String) : (createTable x t name).fault = none := by
  obtain ⟨clauses, hclauses, -⟩ : ∃ clauses, t.columns.mapM (ColumnClause.of? x.dialect) =
      .ok clauses ∧ clauses.map (fun _ => ()) = t.columns.map (fun _ => ()) ∧
        ∀ clause ∈ clauses, True := by
    refine mapM_eq_ok fun y hy => ?_
    obtain ⟨clause, hclause⟩ := clause_of_typed x.dialect (typed y hy)
    exact ⟨clause, hclause, rfl, trivial⟩
  rw [createTable, Context.tableClause, hclauses]
  rfl

theorem fault_alterTable (d : Dialect) (old new : Table) : (alterTable d old new).fault = none := by
  unfold alterTable convertTable
  dsimp only
  rw [fault_append, fault_of, Option.none_or]
  split
  · rfl
  · split <;> rfl

theorem fault_dropForeignKey (table : String) (k : ForeignKey) :
    (dropForeignKey table k).fault =
      if (Text.nonempty? k.name).isSome then none
      else some (.unnamedForeignKey table k.columns) := by
  unfold dropForeignKey
  split
  · next name hname => simp [hname]
  · next hname => simp [hname]

/-- Where it is not rebuilt, a table cannot lose a foreign key without a name. -/
theorem fault_plain (sound : c.Sound change) :
    (plain x change).fault =
      match change.action with
      | .dropForeignKey k => (dropForeignKey change.table k).fault
      | _ => none := by
  obtain ⟨table, action⟩ := change
  cases action with
  | createTable t => exact fault_createTable x sound _
  | addColumn y => exact fault_withColumn _ sound.1 _
  | alterTable old new => exact fault_alterTable _ _ _
  | incomplete kind => cases sound
  | _ => rfl

theorem fault_mysql (sound : c.Sound change) :
    (Mysql.emit x p change).2.fault = obstacle? .mysql change := by
  have modifies {y : Column} (typed : y.type ≠ .unset) :
      (Mysql.modifyColumn x p change.table y).2.fault = none := by
    unfold Mysql.modifyColumn
    dsimp only
    split
    · rfl
    · exact fault_withColumn _ typed _
  obtain ⟨table, action⟩ := change
  cases action with
  | alterColumnType old y =>
    refine (modifies sound.1).trans ?_
    cases old <;> simp [obstacle?]
  | alterColumnNullDefault old y => exact modifies sound.1
  | dropForeignKey k => simp [Mysql.emit, fault_plain sound, fault_dropForeignKey, obstacle?]
  | _ => exact fault_plain sound

theorem clause_of_unset {y : Column} (unset : y.type = .unset) :
    ColumnClause.of? .postgres y = .error .untypedColumn := by
  rw [ColumnClause.of?, Dialect.typeOf?, unset]
  rfl

theorem fault_setType (table : String) (old : Option Column) {new : Column}
    (typed : new.type ≠ .unset) :
    (Postgres.setType .postgres table old new).fault =
      if old.any (fun y => y.type = .unset) then some .untypedColumn else none := by
  obtain ⟨clause, hclause⟩ := clause_of_typed .postgres typed
  cases old with
  | none => exact fault_withColumn _ typed _
  | some old =>
    by_cases unset : old.type = .unset
    · simp [Postgres.setType, clause_of_unset unset, unset]
    · obtain ⟨oldClause, hold⟩ := clause_of_typed .postgres unset
      simp only [Postgres.setType, hold, hclause, Option.any_some, unset, decide_false,
        Bool.false_eq_true, if_false]
      split <;> rfl

theorem fault_postgres (sound : c.Sound change) (hd : x.dialect = .postgres) :
    (Postgres.emit x p change).2.fault = obstacle? .postgres change := by
  obtain ⟨table, action⟩ := change
  cases action with
  | alterColumnType old y =>
    have stops := fault_setType table old sound.1
    cases old <;> simp_all [Postgres.emit, Postgres.alterType, obstacle?]
  | alterColumnNullDefault old y => rfl
  | dropForeignKey k => simp [Postgres.emit, fault_plain sound, fault_dropForeignKey, obstacle?]
  | _ => exact fault_plain sound

theorem fault_sqlServer (sound : c.Sound change) :
    (SqlServer.emit x p change).2.fault = obstacle? .sqlServer change := by
  have alters {y : Column} (typed : y.type ≠ .unset) (old : Option Column) :
      (SqlServer.alterColumn x p change.table old y).2.fault = none := by
    unfold SqlServer.alterColumn
    dsimp only
    split
    · rfl
    · simp [fault_withColumn _ typed]
  obtain ⟨table, action⟩ := change
  cases action with
  | alterColumnType old y =>
    refine (alters sound.1 old).trans ?_
    cases old <;> simp [obstacle?]
  | alterColumnNullDefault old y =>
    show (SqlServer.alterNullDefault x p table old y).2.fault = none
    unfold SqlServer.alterNullDefault
    split
    · rfl
    · split
      · exact alters sound.1 none
      · split
        · rfl
        · exact alters sound.1 _
  | dropForeignKey k => simp [SqlServer.emit, fault_plain sound, fault_dropForeignKey, obstacle?]
  | dropColumn y => rfl
  | incomplete kind => cases sound
  | _ => exact fault_plain sound

/-- A table that stays can be rebuilt. -/
theorem fault_rebuild (h : c.Informs x) {name : String} (stays : c.Stays name) :
    (Sqlite.rebuild x p name).2.fault = none := by
  obtain ⟨⟨old, hold⟩, new, hnew⟩ := stays
  have known : Sqlite.hasUnknownIndex x name = false := by
    rw [Sqlite.hasUnknownIndex, List.any_eq_false]
    rintro ⟨table, action⟩ hx unknown
    simp only [Bool.and_eq_true, beq_iff_eq] at unknown
    obtain ⟨-, rfl⟩ := unknown
    exact h.sound hx
  obtain ⟨indexes, hindexes⟩ : ∃ indexes,
      Sqlite.recreatedIndexes x p name (some old) new = .ok indexes := by
    unfold Sqlite.recreatedIndexes
    rw [known]
    split <;> exact ⟨_, rfl⟩
  have created := fault_createTable x (h.typed _ (Snapshot.table?_eq_some_iff.mp hnew))
    (Sqlite.temporaryName name)
  unfold Sqlite.rebuild
  split
  · rfl
  · simp [h.current, h.target, hold, hnew, created, Sqlite.replaceTable, Sqlite.sharedColumns,
      hindexes]

theorem fault_sqlite (h : c.Informs x) (rebuildable : ∀ name ∈ p.rebuilding, c.Stays name)
    (sound : c.Sound change) : (Sqlite.emit x p change).2.fault = obstacle? .sqlite change := by
  have rebuilds (stays : c.Stays change.table) := fault_rebuild (p := p) h stays
  obtain ⟨table, action⟩ := change
  cases action with
  | alterTable old new => exact rebuilds sound
  | alterColumnNullDefault old y => exact rebuilds sound.2
  | alterColumnType old y =>
    refine (rebuilds sound.2).trans ?_
    cases old <;> simp [obstacle?]
  | addColumn y =>
    simp only [Sqlite.emit]
    split
    · exact rebuilds sound.2
    · exact fault_plain sound
  | dropColumn y =>
    simp only [Sqlite.emit]
    split
    · exact rebuilds sound
    · exact fault_plain sound
  | addForeignKey k =>
    simp only [Sqlite.emit]
    split
    · next listed => exact rebuilds (rebuildable _ (List.contains_iff_mem.mp listed))
    · rfl
  | dropForeignKey k =>
    simp only [Sqlite.emit, obstacle?]
    split
    · next listed => simp [rebuilds (rebuildable _ (List.contains_iff_mem.mp listed))]
    · simp
  | incomplete kind => cases sound
  | _ => exact fault_plain sound

/-- What stops the emission of a discovered change, while tables are rebuilt that stay. -/
theorem fault_emit (h : c.Informs x) (rebuildable : ∀ name ∈ p.rebuilding, c.Stays name)
    (sound : c.Sound change) : (emit x p change).2.fault = obstacle? x.dialect change := by
  unfold emit
  cases hd : x.dialect with
  | mysql => exact fault_mysql sound
  | postgres => exact fault_postgres sound hd
  | sqlite => exact fault_sqlite h rebuildable sound
  | sqlServer => exact fault_sqlServer sound

/-- The emission of changes stops at the first one that meets an obstacle. -/
theorem fault_emitAll (h : c.Informs x) (rebuildable : ∀ name ∈ p.rebuilding, c.Stays name)
    {changes : List Change} (sound : ∀ change ∈ changes, c.Sound change) :
    (emitAll x p changes).2.fault = changes.findSome? (obstacle? x.dialect) := by
  induction changes generalizing p with
  | nil => rfl
  | cons change rest ih =>
    rw [List.forall_mem_cons] at sound
    have first := fault_emit h rebuildable sound.1
    have others := ih (p := (emit x p change).1)
      (by rwa [(carries_emit x p change).rebuilding]) sound.2
    unfold emitAll
    dsimp only
    split
    · next fault hfault => rw [hfault, List.findSome?_cons, ← first, hfault]
    · next hfault =>
      rw [fault_append, hfault, Option.none_or, others, List.findSome?_cons, ← first, hfault]

theorem fault_body (h : c.Informs x) (rebuildable : ∀ name ∈ p.rebuilding, c.Stays name) :
    (body x p).2.fault = x.changes.findSome? (obstacle? x.dialect) := by
  rw [← fault_emitAll h rebuildable fun _ => h.sound]
  simp [body]

theorem needsRebuild_of_sound (hcurrent : x.current = c.current) (sound : c.Sound change) :
    ∃ b, Sqlite.needsRebuild x.current change = .ok b := by
  obtain ⟨table, action⟩ := change
  cases action with
  | dropColumn y =>
    obtain ⟨⟨old, hold⟩, -⟩ := sound
    exact ⟨_, by simp only [Sqlite.needsRebuild, hcurrent, hold]; rfl⟩
  | incomplete kind => cases sound
  | _ => exact ⟨_, rfl⟩

/-- Only tables that stay are chosen for a rebuild. -/
theorem stays_of_tablesToRebuild (h : c.Informs x) :
    ∃ names, Sqlite.tablesToRebuild x = .ok names ∧ ∀ name ∈ names, c.Stays name := by
  obtain ⟨names, hnames, hmem⟩ := SchemaMigration.Sqlite.mem_tablesToRebuild (x := x) fun y hy =>
    needsRebuild_of_sound h.current (h.sound hy)
  refine ⟨names, hnames, fun name hname => ?_⟩
  obtain ⟨y, hy, rfl, parts, -⟩ := (hmem name).mp hname
  exact h.stays hy parts

/-- The prolog of a run never fails. -/
theorem prolog_of_informs (h : c.Informs x) (charset : String) :
    ∃ p settings, prolog x charset = .ok (p, settings) ∧ ∀ name ∈ p.rebuilding, c.Stays name := by
  cases hd : x.dialect with
  | mysql | postgres | sqlServer =>
    exact ⟨.start, _, by simp only [prolog, hd]; rfl, fun name hname => nomatch hname⟩
  | sqlite =>
    obtain ⟨names, hnames, stays⟩ := stays_of_tablesToRebuild h
    exact ⟨_, _, by simp only [prolog, hd, hnames]; rfl, stays⟩

/-- What is met first: a foreign key without a name, or on PostgreSQL a column without a type. The
latter only if all foreign keys that are dropped have names, since they are dropped before. -/
theorem obstacle_cases {d : Dialect} {changes : List Change} {fault : EmissionFault}
    (sorted : changes.Pairwise fun a b => a.phase ≤ b.phase)
    (stops : changes.findSome? (obstacle? d) = some fault) :
    (d ≠ .sqlite ∧ ∃ table k, ⟨table, .dropForeignKey k⟩ ∈ changes ∧
      Text.nonempty? k.name = none ∧ fault = .unnamedForeignKey table k.columns) ∨
    (d = .postgres ∧
      (∃ table y z, ⟨table, .alterColumnType (some z) y⟩ ∈ changes ∧ z.type = .unset) ∧
      ∀ table k, ⟨table, .dropForeignKey k⟩ ∈ changes → Text.nonempty? k.name ≠ none) := by
  obtain ⟨before, ⟨table, action⟩, after, rfl, meets, passes⟩ :=
    List.findSome?_eq_some_iff.mp stops
  have mem : ⟨table, action⟩ ∈ before ++ ⟨table, action⟩ :: after :=
    List.mem_append_right before List.mem_cons_self
  simp only [obstacle?] at meets
  split at meets
  · next k =>
    split at meets
    · cases meets
    · next unnamed =>
      rw [not_or, Option.not_isSome_iff_eq_none] at unnamed
      cases meets
      exact .inl ⟨unnamed.1, table, k, mem, unnamed.2, rfl⟩
  · next old y =>
    split at meets
    · next untyped =>
      obtain ⟨rfl, unset⟩ := untyped
      refine .inr ⟨rfl, ⟨table, y, old, mem, unset⟩, fun owner k dropped unnamed => ?_⟩
      rcases List.mem_append.mp dropped with dropped | dropped
      · have stopped := passes _ dropped
        simp [obstacle?, unnamed] at stopped
      · have dropped := (List.mem_cons.mp dropped).resolve_left (by simp)
        have later := List.rel_of_pairwise_cons (List.pairwise_append.mp sorted).2.1 dropped
        exact absurd later (by decide : ¬ (4 ≤ 0))
    · cases meets
  · cases meets

end Emission

def Difference.DropsUnnamed (d : Difference) (table : String) (k : ForeignKey) : Prop :=
  ⟨table, .dropForeignKey k⟩ ∈ d.changes ∧ Text.nonempty? k.name = none

namespace Session

variable {c : Comparison} {x : Context}

/-- Writing ends with what stops the first change that meets an obstacle. -/
theorem failure_applyChanges (s : Session) (generatedAt : String) (h : c.Informs x) :
    ((s.restart.writeHead generatedAt).applyChanges x true).failure =
      (x.changes.findSome? (Emission.obstacle? x.dialect)).map Failure.ofEmission := by
  obtain ⟨p, settings, hprolog, rebuildable⟩ := Emission.prolog_of_informs h s.schema.charset
  have opened := s.writeProlog_eq generatedAt x
  rw [hprolog] at opened
  rw [applyChanges, if_pos rfl, opened]
  dsimp only
  rw [writeBody_eq rfl, ← Emission.fault_body h rebuildable]
  rfl

/-- For a schema that the rules accept, writing fails at most because a foreign key without a name
cannot be dropped, if the dialect is not PostgreSQL. PostgreSQL also fails where a column that stays
had no type before, unless a foreign key without a name comes first. -/
theorem emission_total_iff (s : Session) (generatedAt : String) (skips : Bool) {current : Snapshot}
    (named : current.TablesNamed) (valid : s.dialect.rules.validate s.schema = .ok ()) :
    ∃ target, s.dialect.projection.project s.schema = .ok target ∧
      ∀ d, (Comparison.mk current target s.dialect.rules skips).difference = .ok d →
        ((∀ failure, ((s.restart.writeHead generatedAt).applyChanges
              ⟨s.dialect, current, target, d.changes, skips⟩ true).failure = some failure →
            s.dialect ≠ .sqlite ∧ ∃ table k, d.DropsUnnamed table k ∧
              failure = .ofMigration (.unnamedForeignKey table k.columns)) ↔
          (s.dialect = .postgres → (∃ table k, d.DropsUnnamed table k) ∨
            (Comparison.mk current target s.dialect.rules skips).Remembers)) := by
  obtain ⟨target, projected, -⟩ := Projection.snapshot_ok (p := s.dialect.projection) valid
  have made := Projection.projects_of_snapshot projected
  refine ⟨target, by rw [Projection.project, projected]; rfl, fun d hd => ?_⟩
  have typed : target.Typed := fun entry hentry y hy =>
    ((made.tables entry hentry).columns y hy).typed
  have informs := Comparison.informs_of_difference (c := ⟨current, target, s.dialect.rules, skips⟩)
    named made.named typed hd s.dialect
  have remembers := Comparison.remembers_iff (c := ⟨current, target, s.dialect.rules, skips⟩)
    named made.named typed
  rw [s.failure_applyChanges generatedAt informs]
  constructor
  · intro total postgres
    by_contra neither
    obtain ⟨unnamed, forgets⟩ := not_or.mp neither
    rw [remembers] at forgets
    push Not at forgets
    obtain ⟨name, y, z, mem, unset⟩ := forgets
    have obstacle : Emission.obstacle? s.dialect ⟨name, .alterColumnType (some z) y⟩ =
        some .untypedColumn := if_pos ⟨postgres, unset⟩
    cases stops : d.changes.findSome? (Emission.obstacle? s.dialect) with
    | none =>
      have passes := List.findSome?_eq_none_iff.mp stops _ ((informs.changes _).mpr mem)
      cases obstacle.symm.trans passes
    | some fault =>
      obtain ⟨-, table, k, dropped, -⟩ := total (.ofEmission fault) (by rw [stops]; rfl)
      exact unnamed ⟨table, k, dropped⟩
  · intro condition failure fails
    obtain ⟨fault, stops, rfl⟩ := Option.map_eq_some_iff.mp fails
    have sorted : d.changes.Pairwise fun a b => a.phase ≤ b.phase := by
      rw [Comparison.changes_of_difference hd]
      exact Comparison.sorted_ordered _
    rcases Emission.obstacle_cases sorted stops with
      ⟨other, table, k, dropped, unnamed, rfl⟩ | ⟨postgres, ⟨table, y, z, mem, unset⟩, named⟩
    · exact ⟨other, table, k, ⟨dropped, unnamed⟩, rfl⟩
    · rcases condition postgres with ⟨owner, k, dropped, unnamed⟩ | hremembers
      · exact absurd unnamed (named owner k dropped)
      · exact absurd unset (remembers.mp hremembers table y z ((informs.changes _).mp mem))

end Session

/-! A shop whose items had an identifier without a type. -/

namespace Shop

def untypedItems : Table :=
  { items with columns := [{ number "id" with type := .unset }] }

def namelessKey : ForeignKey := ⟨none, ["user"], "items", ["id"], "CASCADE", "NO ACTION"⟩

def namelessOrders : Table := { orders with foreignKeys := [namelessKey] }

def clearing : Comparison :=
  ⟨.ofTables [untypedItems, namelessOrders], .ofTables [shortItems], Dialect.rules .postgres, false⟩

/-- The items are not reached, since the orders cannot be taken apart. -/
theorem only_nameless_key_stops :
    clearing.current.TablesNamed ∧ Dialect.postgres.rules.validate shortening = .ok () ∧
      Dialect.postgres.projection.project shortening = .ok clearing.target ∧
      ∃ d, clearing.difference = .ok d ∧
        ∀ failure, (((Session.start .postgres shortening).restart.writeHead "today").applyChanges
            ⟨.postgres, clearing.current, clearing.target, d.changes, false⟩ true).failure =
              some failure →
          ∃ table k, d.DropsUnnamed table k ∧
            failure = .ofMigration (.unnamedForeignKey table k.columns) := by
  have projected : Dialect.postgres.projection.project shortening = .ok clearing.target := rfl
  obtain ⟨g, -, -, -, hd⟩ := Comparison.difference_of_nodup (c := clearing) (by decide)
  have named : clearing.current.TablesNamed := by decide
  obtain ⟨target, made, total⟩ :=
    Session.emission_total_iff (.start .postgres shortening) "today" false named rfl
  obtain rfl : clearing.target = target := Except.ok.inj (projected.symm.trans made)
  refine ⟨named, rfl, projected, _, hd, fun failure fails => ?_⟩
  refine ((total _ hd).mpr (fun _ => .inl ⟨"orders", namelessKey, ?_, rfl⟩) failure fails).2
  rw [Comparison.changes_of_difference hd, Comparison.ordered, List.mem_mergeSort]
  decide

def retyping : Comparison :=
  ⟨.ofTables [untypedItems], .ofTables [shortItems], Dialect.rules .postgres, false⟩

/-- No foreign key is dropped, but the type that the items had is not known. -/
theorem untyped_items_stop :
    retyping.current.TablesNamed ∧ Dialect.postgres.rules.validate shortening = .ok () ∧
      Dialect.postgres.projection.project shortening = .ok retyping.target ∧
      ∃ d, retyping.difference = .ok d ∧ (∀ table k, ¬ d.DropsUnnamed table k) ∧
        (((Session.start .postgres shortening).restart.writeHead "today").applyChanges
            ⟨.postgres, retyping.current, retyping.target, d.changes, false⟩ true).failure =
          some .untypedColumn := by
  obtain ⟨g, -, -, -, hd⟩ := Comparison.difference_of_nodup (c := retyping) (by decide)
  have hchanges := Comparison.changes_of_sorted hd (by decide)
  have informs := Comparison.informs_of_difference (by decide) (by decide) (by decide) hd .postgres
  have keeps : ∀ x ∈ retyping.changes, x.kind ≠ .dropForeignKey := by decide
  refine ⟨by decide, rfl, rfl, _, hd, fun table k dropped => ?_, ?_⟩
  · exact keeps _ (hchanges ▸ dropped.1) rfl
  · refine (Session.failure_applyChanges _ "today" informs).trans ?_
    dsimp only
    rw [hchanges]
    rfl

end Shop

end SchemaMigration
