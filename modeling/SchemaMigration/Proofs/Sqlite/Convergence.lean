import SchemaMigration.Proofs.Completeness
import SchemaMigration.Proofs.Sqlite.Mirror

/-!
A script for SQLite can be executed from its first statement to its last one, and the database that
it leaves is that of the new snapshot.
-/

namespace SchemaMigration.Sqlite

open Emission.Sqlite (temporaryName needsRebuild)

structure Scripted (c : Comparison) (changes : List Change) : Prop where
  current : c.current.Storable
  target : c.target.Storable
  keeps : c.skipsConstraints = false
  discovered : ∀ x, x ∈ changes ↔ c.Discovers x

/-- The statements for a change can be executed, and the database goes along with the snapshot after
the change. -/
def Follows (c : Comparison) (changes done : List Change) (x : Change) (after : Snapshot)
    (p : Progress) (db : Database) : Prop :=
  ∃ p' em db', Emission.emit (context c changes) p x = (p', em) ∧ em.fault = none ∧
    db.run? em.statements = some db' ∧ Tracks c (done ++ [x]) p' ∧ Mirrors c p'.rebuilt after db'

section Steps

variable {c : Comparison} {changes done : List Change} {s after : Snapshot} {p : Progress}
  {db : Database} {name : String} {start goal t : Table}

theorem follow_creation (run : Scripted c changes) (tracks : Tracks c done p)
    (mirrors : Mirrors c p.rebuilt s db) {new : Table} (absent : c.current.table? name = none)
    (present : c.target.table? name = some new)
    (hafter : s.after? ⟨name, .createTable new⟩ = some after) :
    Follows c changes done ⟨name, .createTable new⟩ after p db := by
  obtain ⟨hfree, rfl⟩ := Snapshot.after?_createTable hafter
  obtain ⟨clause, hclause, hstored, hcreate⟩ := @createTable_spec c changes run.keeps new new.name
  have hname := run.target.name_of_table? present
  have hexec : db.exec? (.createTable clause) = some (db.putTable name (.ofTable new)) := by
    simp [Database.exec?, hclause, hname, hstored, mirrors.absent name hfree]
  refine ⟨p, .of [.createTable clause], db.putTable name (.ofTable new), ?_, rfl,
    (Database.run?_singleton _).trans hexec, ?_, ?_⟩
  · exact congrArg (Prod.mk p) hcreate
  · exact tracks.unnoted (fun _ => Action.noConfusion) fun hcause => by cases hcause
  · have hkeys : StoredTable.ofTable new =
        ⟨new.bare.columns, new.bare.primaryKey, inlineKeys c name⟩ := by
      simp [inlineKeys, absent, present, StoredTable.ofTable, Table.bare]
    rw [hkeys]
    refine mirrors.redefine (not_rebuilds_of_created absent) fun i => ?_
    simp [hfree, Table.bare]

theorem follow_removal (tracks : Tracks c done p) (mirrors : Mirrors c p.rebuilt s db)
    {old : Table} (absent : c.target.table? name = none)
    (hafter : s.after? ⟨name, .dropTable old⟩ = some after) :
    Follows c changes done ⟨name, .dropTable old⟩ after p db := by
  obtain ⟨⟨t, ht⟩, rfl⟩ := Snapshot.after?_dropTable hafter
  have kept := not_rebuilds_of_dropped absent
  have hexec : db.exec? (.dropTable name) = some (db.removeTable name) :=
    Database.exec?_dropTable (mirrors.kept name t ht kept)
  refine ⟨p, .of [.dropTable name], _, rfl, rfl, (Database.run?_singleton _).trans hexec, ?_,
    mirrors.remove kept⟩
  exact tracks.unnoted (fun _ => Action.noConfusion) fun hcause => by cases hcause

/-- A stored table has the columns of a new index, whether it is rebuilt or not. -/
theorem stored_columns (run : Scripted c changes)
    (midway : c.Midway done s) (tracks : Tracks c done p) (mirrors : Mirrors c p.rebuilt s db)
    (course : c.course? name = some (start, goal)) (ht : s.table? name = some t) {i : Index}
    (hi : i ∈ goal.indexes) (owned : ∀ n ∈ i.columns, n ∈ t.columnNames) :
    ∃ stored, db.table? name = some stored ∧ ∀ n ∈ i.columns, n ∈ stored.columnNames := by
  by_cases rebuilds : Rebuilds c name
  · have hstored := mirrors.replaced name rebuilds
    obtain ⟨old, hold⟩ := rebuilds.old
    obtain ⟨new, hnew⟩ := rebuilds.new
    by_cases renewed : name ∈ p.rebuilt
    · obtain rfl := Comparison.course_of_target hnew course
      refine ⟨.ofTable goal, by rw [hstored, if_pos renewed, hnew]; rfl, ?_⟩
      exact (run.target.toResolved.of_table? hnew).indexes i hi
    · refine ⟨.ofTable old, by rw [hstored, if_neg renewed, hold]; rfl, fun n hn => ?_⟩
      obtain ⟨-, start', goal', course', hat⟩ := midway.of_table? ht
      obtain rfl := Comparison.course_of_current hold course'
      have hname := (Comparison.course_distinct run.current.toDistinct run.target.toDistinct
        course').2.2.2
      rcases hat.mem_columnNames.mp (owned n hn) with ⟨x, -, added, -⟩ | ⟨y, hy, -, rfl⟩
      · rw [hname] at added
        exact absurd ((tracks.rebuilt name).mpr ⟨rebuilds, _, added, rfl⟩) renewed
      · exact List.mem_map_of_mem hy
  · exact ⟨_, mirrors.kept name t ht rebuilds, owned⟩

theorem follow_addIndex (run : Scripted c changes) {i : Index}
    (moment : c.Moment (done ++ [⟨name, .addIndex i⟩])) (midway : c.Midway done s)
    (midway' : c.Midway (done ++ [⟨name, .addIndex i⟩]) after) (tracks : Tracks c done p)
    (mirrors : Mirrors c p.rebuilt s db) (course : c.course? name = some (start, goal))
    (needs : c.Needs start goal (.addIndex i))
    (hafter : s.after? ⟨name, .addIndex i⟩ = some after) :
    Follows c changes done ⟨name, .addIndex i⟩ after p db := by
  obtain ⟨t, changed, ht, halter, rfl⟩ := Snapshot.after?_part rfl hafter
  obtain ⟨hfresh, rfl⟩ := Action.alter?_addIndex halter
  have hi : i ∈ goal.indexes := by
    cases needs with
    | addIndex _ mem _ => exact mem
  have hnow : (s.put name { t with indexes := t.indexes ++ [i] }).table? name =
      some { t with indexes := t.indexes ++ [i] } := by simp
  have hlast : i ∈ t.indexes ++ [i] := List.mem_append_right _ (List.mem_singleton_self i)
  have well := midway'.wellFormed run.current.toWellFormed run.target.toWellFormed run.keeps moment
  obtain ⟨stored, hstored, hcolumns⟩ := stored_columns run midway tracks mirrors course
    ht hi fun n hn => (well.toResolved.of_table? hnow).indexes i hlast n hn
  have hname : i.name ∉ db.indexNames := by
    rw [Database.indexNames, List.mem_map]
    rintro ⟨⟨u, j⟩, hj, hij⟩
    obtain ⟨w, hw, hjw, -⟩ := (mirrors.indexes u j).mp hj
    by_cases hu : u = name
    · subst hu
      rw [ht] at hw
      cases hw
      exact hfresh (hij ▸ List.mem_map_of_mem hjw)
    · have hw' : (s.put name { t with indexes := t.indexes ++ [i] }).table? u = some w := by
        rw [Snapshot.table?_put, if_neg (Ne.symm hu), hw]
      exact hu (midway'.table_eq run.current run.target run.keeps moment hw' hnow hjw hlast hij)
  have hexec : db.exec? (.createIndex name i) =
      some { db with indexes := db.indexes ++ [(name, i)] } := by
    simp only [Database.exec?, hstored, Option.bind_eq_bind, Option.bind_some]
    exact if_pos ⟨hname, hcolumns⟩
  refine ⟨_, .of [.createIndex name i], _, rfl, rfl, (Database.run?_singleton _).trans hexec,
    tracks.index i, mirrors.createIndex ht (fun hin => hname (List.mem_map_of_mem hin)) ?_⟩
  intro renewed
  obtain ⟨new, hnew⟩ := ((tracks.rebuilt name).mp renewed).1.new
  obtain rfl := Comparison.course_of_target hnew course
  exact ⟨goal, hnew, hi⟩

theorem follow_dropIndex (run : Scripted c changes) {i : Index} (moment : c.Moment done)
    (midway : c.Midway done s) (tracks : Tracks c done p) (mirrors : Mirrors c p.rebuilt s db)
    (hafter : s.after? ⟨name, .dropIndex i⟩ = some after) :
    Follows c changes done ⟨name, .dropIndex i⟩ after p db := by
  obtain ⟨t, changed, ht, halter, rfl⟩ := Snapshot.after?_part rfl hafter
  obtain ⟨hin, rfl⟩ := Action.alter?_dropIndex halter
  obtain ⟨j, hj, hji⟩ := List.mem_map.mp hin
  refine ⟨p, .of [.dropIndex name i.name], _, rfl, rfl, Database.run?_singleton _, ?_,
    mirrors.dropIndex ht fun n u hu k hk hki => ?_⟩
  · exact tracks.unnoted (fun _ => Action.noConfusion) fun hcause => by cases hcause
  · exact midway.table_eq run.current run.target run.keeps moment hu ht hk hj (hki.trans hji.symm)

/-- The indexes that a rebuild creates again are those of the new definition that are there. -/
theorem not_pending_iff (run : Scripted c changes) (moment : c.Moment done)
    (tracks : Tracks c done p) (course : c.course? goal.name = some (start, goal))
    (hg : goal.Distinct) (hat : Table.At done start goal t) {i : Index} (hi : i ∈ goal.indexes) :
    ¬ Pending changes p goal.name i.name ↔ i ∈ t.indexes := by
  have added : ∀ j, c.Discovers ⟨goal.name, .addIndex j⟩ → j.name = i.name →
      j = i ∧ i ∉ start.indexes := by
    intro j hj hname
    cases hj.needs course rfl with
    | addIndex _ mem fresh =>
      obtain rfl := hg.index_eq mem hi hname
      exact ⟨rfl, fresh⟩
  rw [hat.indexes i]
  constructor
  · intro settled
    by_cases old : i ∈ start.indexes
    · refine Or.inr ⟨old, fun dropped => ?_⟩
      cases (moment.discovered _ dropped).needs course rfl with
      | dropIndex _ _ gone => exact gone hi
    · have adds : c.Discovers ⟨goal.name, .addIndex i⟩ := .part course (.addIndex run.keeps hi old)
      have created : (goal.name, i.name) ∈ p.createdIndexes := by
        by_contra uncreated
        exact settled ⟨i, (run.discovered _).mpr adds, rfl, uncreated⟩
      obtain ⟨j, hj, hname⟩ := (tracks.created _ _).mp created
      obtain ⟨rfl, -⟩ := added j (moment.discovered _ hj) hname
      exact Or.inl ⟨hi, hj⟩
  · rintro hlive ⟨j, hj, hname, uncreated⟩
    obtain ⟨rfl, fresh⟩ := added j ((run.discovered _).mp hj) hname
    rcases hlive with ⟨-, hadded⟩ | ⟨old, -⟩
    · exact uncreated ((tracks.created _ _).mpr ⟨j, hadded, rfl⟩)
    · exact fresh old

/-- Nothing has the name under which a table is rebuilt. -/
theorem temporary_absent (run : Scripted c changes) (midway : c.Midway done s)
    (rebuilds : Rebuilds c name) : s.table? (temporaryName name) = none := by
  obtain ⟨⟨old, hold⟩, ⟨new, hnew⟩, -⟩ := rebuilds
  have in_keys : ∀ {r : Snapshot} {n : String} {u : Table}, r.table? n = some u →
      n ∈ r.tables.keys := fun hu => Snapshot.mem_keys_iff.mpr ⟨_, hu⟩
  by_contra hsome
  obtain ⟨t, ht⟩ := Option.ne_none_iff_exists'.mp hsome
  obtain ⟨-, start, goal, course, -⟩ := midway.of_table? ht
  cases Comparison.course_cases course with
  | kept held _ => exact run.current.temporary _ (in_keys hold) (in_keys held)
  | created _ wanted => exact run.target.temporary _ (in_keys hnew) (in_keys wanted)
  | dropped held _ => exact run.current.temporary _ (in_keys hold) (in_keys held)

theorem follow_rebuild (run : Scripted c changes) {a : Action}
    (moment : c.Moment (done ++ [⟨name, a⟩])) (midway : c.Midway done s) (tracks : Tracks c done p)
    (mirrors : Mirrors c p.rebuilt s db) (course : c.course? name = some (start, goal))
    (needs : c.Needs start goal a) (rebuilds : Rebuilds c name) (cause : causesRebuild a = true)
    (hafter : s.after? ⟨name, a⟩ = some after) : Follows c changes done ⟨name, a⟩ after p db := by
  obtain ⟨t, changed, ht, halter, rfl⟩ := Snapshot.after?_part needs.isPart hafter
  have not_add : ∀ i, a ≠ .addIndex i := by
    rintro i rfl
    cases cause
  have not_drop : ∀ i, a ≠ .dropIndex i := by
    rintro i rfl
    cases cause
  have same := Action.indexes_alter? halter not_add not_drop
  have hemit := @emit_of_rebuilding c changes p name start goal a needs cause
    ((tracks.rebuilding name).mpr rebuilds)
  by_cases renewed : name ∈ p.rebuilt
  · refine ⟨p, .of [], db, ?_, rfl, rfl, tracks.unnoted not_add fun _ _ => renewed,
      mirrors.restate ht same fun kept => absurd rebuilds kept⟩
    rw [hemit, Emission.Sqlite.rebuild, if_pos (by simpa using renewed)]
  · -- the first change that causes the rebuild brings it, and finds the old table still stored
    obtain ⟨old, hold⟩ := rebuilds.old
    obtain ⟨new, hnew⟩ := rebuilds.new
    obtain ⟨-, start', goal', course', hat⟩ := midway.of_table? ht
    rw [course] at course'
    cases course'
    obtain rfl := Comparison.course_of_target hnew course
    obtain ⟨-, hg, -, rfl⟩ := Comparison.course_distinct run.current.toDistinct
      run.target.toDistinct course
    have pending : ∀ i ∈ goal.indexes, ¬ Pending changes p goal.name i.name ↔ i ∈ t.indexes :=
      fun i hi => not_pending_iff run moment.before tracks course hg hat hi
    have present : db.table? goal.name = some (.ofTable old) := by
      rw [mirrors.replaced _ rebuilds, if_neg renewed, hold, Option.map_some]
    have absent := temporary_absent run midway rebuilds
    have unowned : ∀ e ∈ db.indexes, e.1 ≠ temporaryName goal.name := by
      rintro ⟨u, j⟩ he rfl
      obtain ⟨w, hw, -⟩ := (mirrors.indexes _ j).mp he
      rw [absent] at hw
      cases hw
    have free : ∀ i ∈ goal.indexes, ¬ Pending changes p goal.name i.name →
        ∀ e ∈ db.indexes, e.1 ≠ goal.name → e.2.name ≠ i.name := by
      rintro i hi hsettled ⟨u, j⟩ he hother hname
      obtain ⟨w, hw, hj, -⟩ := (mirrors.indexes u j).mp he
      exact hother (midway.table_eq run.current run.target run.keeps moment.before hw ht hj
        ((pending i hi).mp hsettled) hname)
    have known : ∀ x ∈ changes, x.action ≠ .incomplete .addIndex := by
      rintro ⟨u, b⟩ hx rfl
      cases (run.discovered _).mp hx with
      | part _ needs => cases needs
    obtain ⟨em, db', hrebuild, hfault, hrun, htables, hindexes, hnodup⟩ := rebuild_spec run.keeps
      hold hnew (run.target.toResolved.of_table? hnew) hg known renewed present
      (mirrors.absent _ absent) unowned free
    refine ⟨_, em, db', hemit.trans hrebuild, hfault, hrun, tracks.rebuild rebuilds cause not_add,
      mirrors.replace ht rebuilds hnew same htables (fun n i => ?_) (hnodup mirrors.nodup)⟩
    rw [hindexes n i]
    split
    · exact and_congr_right fun hi => pending i hi
    · rfl

theorem follow_addColumn (run : Scripted c changes) {x : Column} (tracks : Tracks c done p)
    (mirrors : Mirrors c p.rebuilt s db) (course : c.course? name = some (start, goal))
    (needs : c.Needs start goal (.addColumn x)) (kept : ¬ Rebuilds c name)
    (hafter : s.after? ⟨name, .addColumn x⟩ = some after) :
    Follows c changes done ⟨name, .addColumn x⟩ after p db := by
  obtain ⟨t, changed, ht, halter, rfl⟩ := Snapshot.after?_part rfl hafter
  obtain ⟨hfresh, rfl⟩ := Action.alter?_addColumn halter
  obtain ⟨-, hquiet⟩ := needsRebuild_eq_false run.current.toDistinct run.target.toDistinct course
    needs kept rfl rfl
  have hallowed : x.nullable = true ∨ x.default.isSome = true := by
    have hquiet : (!x.nullable && x.default.isNone) = false := Except.ok.inj hquiet
    cases hnull : x.nullable with
    | true => exact Or.inl rfl
    | false => simpa [hnull, ← Option.not_isSome] using hquiet
  obtain ⟨clause, hclause, hemit⟩ : ∃ clause : ColumnClause, clause.column = x ∧
      Emission.withColumn .sqlite x (.addColumn name) = .of [.addColumn name clause] :=
    ⟨_, rfl, rfl⟩
  have hexec : db.exec? (.addColumn name clause) = some (db.putTable name
      ⟨t.columns ++ [x], t.primaryKey, inlineKeys c name⟩) := by
    simp only [Database.exec?, mirrors.kept name t ht kept, Option.bind_eq_bind, Option.bind_some,
      hclause]
    exact if_pos ⟨hfresh, hallowed⟩
  have hcontains : p.rebuilding.contains name = false := by
    simpa [tracks.rebuilding] using kept
  refine ⟨p, .of [.addColumn name clause], _, ?_, rfl, (Database.run?_singleton _).trans hexec,
    ?_, mirrors.redefine kept fun i => ?_⟩
  · simp only [Emission.emit, context, Emission.Sqlite.emit, hcontains, Emission.plain]
    exact congrArg (Prod.mk p) hemit
  · exact tracks.unnoted (fun _ => Action.noConfusion) fun _ rebuilds => absurd rebuilds kept
  · simp [ht]

theorem follow_dropColumn (run : Scripted c changes) {x : Column}
    (moment : c.Moment (done ++ [⟨name, .dropColumn x⟩]))
    (midway' : c.Midway (done ++ [⟨name, .dropColumn x⟩]) after) (tracks : Tracks c done p)
    (mirrors : Mirrors c p.rebuilt s db) (course : c.course? name = some (start, goal))
    (needs : c.Needs start goal (.dropColumn x)) (kept : ¬ Rebuilds c name)
    (hafter : s.after? ⟨name, .dropColumn x⟩ = some after) :
    Follows c changes done ⟨name, .dropColumn x⟩ after p db := by
  obtain ⟨t, changed, ht, halter, rfl⟩ := Snapshot.after?_part rfl hafter
  obtain ⟨hpresent, rfl⟩ := Action.alter?_dropColumn halter
  obtain ⟨⟨old, hold⟩, hquiet⟩ := needsRebuild_eq_false run.current.toDistinct
    run.target.toDistinct course needs kept rfl rfl
  have well := midway'.wellFormed run.current.toWellFormed run.target.toWellFormed run.keeps moment
  have hnow : (s.put name { t with columns := t.columns.filter fun y => y.name ≠ x.name }).table?
      name = some { t with columns := t.columns.filter fun y => y.name ≠ x.name } := by simp
  have owns := well.toResolved.of_table? hnow
  have gone : x.name ∉ (t.columns.filter fun y => y.name ≠ x.name).map Column.name := by
    rw [List.mem_map]
    rintro ⟨y, hy, heq⟩
    exact of_decide_eq_true (List.mem_filter.mp hy).2 heq
  have released : x.name ∉ t.primaryKey ∧ (∀ k ∈ inlineKeys c name, x.name ∉ k.columns) ∧
      ∀ e ∈ db.indexes, e.1 = name → x.name ∉ e.2.columns := by
    refine ⟨fun hkey => gone (owns.primaryKey _ hkey), fun k hk hcolumn => ?_, ?_⟩
    · have hkeys : inlineKeys c name = old.foreignKeys := by simp [inlineKeys, hold]
      have hholds : Emission.Sqlite.holdsColumn old x.name = true := by
        rw [hkeys] at hk
        simp only [Emission.Sqlite.holdsColumn, Bool.or_eq_true, List.any_eq_true]
        exact Or.inr ⟨k, hk, by simpa using hcolumn⟩
      simp only [needsRebuild, hold, hholds] at hquiet
      cases hquiet
    · rintro ⟨u, i⟩ he rfl hcolumn
      obtain ⟨w, hw, hi, -⟩ := (mirrors.indexes u i).mp he
      rw [ht] at hw
      cases hw
      exact gone (owns.indexes i hi _ hcolumn)
  have hexec : db.exec? (.dropColumn name x.name) = some (db.putTable name
      ⟨t.columns.filter fun y => y.name ≠ x.name, t.primaryKey, inlineKeys c name⟩) := by
    simp only [Database.exec?, mirrors.kept name t ht kept, Option.bind_eq_bind, Option.bind_some]
    exact if_pos ⟨hpresent, released⟩
  have hcontains : p.rebuilding.contains name = false := by
    simpa [tracks.rebuilding] using kept
  refine ⟨p, .of [.dropColumn name x.name], _, ?_, rfl, (Database.run?_singleton _).trans hexec,
    ?_, mirrors.redefine kept fun i => ?_⟩
  · simp only [Emission.emit, context, Emission.Sqlite.emit, hcontains, Emission.plain]
    rfl
  · exact tracks.unnoted (fun _ => Action.noConfusion) fun _ rebuilds => absurd rebuilds kept
  · simp [ht]

/-- Foreign keys of tables that are created or dropped come and go with their tables. -/
theorem follow_key {a : Action} {k : ForeignKey} (ha : a = .addForeignKey k ∨ a = .dropForeignKey k)
    (tracks : Tracks c done p) (mirrors : Mirrors c p.rebuilt s db) (kept : ¬ Rebuilds c name)
    (hafter : s.after? ⟨name, a⟩ = some after) : Follows c changes done ⟨name, a⟩ after p db := by
  have part : a.isPart = true := by rcases ha with rfl | rfl <;> rfl
  obtain ⟨t, changed, ht, halter, rfl⟩ := Snapshot.after?_part part hafter
  have not_add : ∀ i, a ≠ .addIndex i := by
    rintro i rfl
    rcases ha with h | h <;> cases h
  have same : changed.columns = t.columns ∧ changed.primaryKey = t.primaryKey ∧
      changed.indexes = t.indexes := by
    rcases ha with rfl | rfl
    · dsimp only [Action.alter?] at halter
      split at halter
      · cases halter
      · obtain rfl := Option.some.inj halter
        exact ⟨rfl, rfl, rfl⟩
    · dsimp only [Action.alter?] at halter
      split at halter
      · obtain rfl := Option.some.inj halter
        exact ⟨rfl, rfl, rfl⟩
      · cases halter
  have hcontains : p.rebuilding.contains name = false := by
    simpa [tracks.rebuilding] using kept
  refine ⟨p, .of [], db, ?_, rfl, rfl,
    tracks.unnoted not_add fun _ rebuilds => absurd rebuilds kept,
    mirrors.restate ht same.2.2 fun _ => ⟨same.1, same.2.1⟩⟩
  rcases ha with rfl | rfl
  · simp [Emission.emit, context, Emission.Sqlite.emit, tracks.rebuilding, kept]
  · simp [Emission.emit, context, Emission.Sqlite.emit, tracks.rebuilding, kept]

/-- The statements for every change can be executed when its turn comes. -/
theorem follow_change (run : Scripted c changes) {x : Change} (moment : c.Moment (done ++ [x]))
    (midway : c.Midway done s) (midway' : c.Midway (done ++ [x]) after) (tracks : Tracks c done p)
    (mirrors : Mirrors c p.rebuilt s db) (hafter : s.after? x = some after) :
    Follows c changes done x after p db := by
  cases moment.discovered x (List.mem_append_right _ (List.mem_singleton_self x)) with
  | creation absent present => exact follow_creation run tracks mirrors absent present hafter
  | removal present absent => exact follow_removal tracks mirrors absent hafter
  | @part name start goal a course needs =>
    by_cases rebuilds : Rebuilds c name ∧ causesRebuild a = true
    · obtain ⟨rebuilds, cause⟩ := rebuilds
      exact follow_rebuild run moment midway tracks mirrors course needs rebuilds cause hafter
    · have kept : causesRebuild a = true → ¬ Rebuilds c name := fun cause h => rebuilds ⟨h, cause⟩
      have loud : needsRebuild c.current ⟨name, a⟩ = .ok true → a.index? = none →
          a.foreignKey? = none → causesRebuild a = true → False := by
        intro hloud index key cause
        have hquiet := (needsRebuild_eq_false run.current.toDistinct run.target.toDistinct course
          needs (kept cause) index key).2
        rw [hloud] at hquiet
        cases hquiet
      cases a with
      | addIndex i =>
        exact follow_addIndex run moment midway midway' tracks mirrors course needs hafter
      | dropIndex i => exact follow_dropIndex run moment.before midway tracks mirrors hafter
      | addColumn y => exact follow_addColumn run tracks mirrors course needs (kept rfl) hafter
      | dropColumn y =>
        exact follow_dropColumn run moment midway' tracks mirrors course needs (kept rfl) hafter
      | addForeignKey k => exact follow_key (Or.inl rfl) tracks mirrors (kept rfl) hafter
      | dropForeignKey k => exact follow_key (Or.inr rfl) tracks mirrors (kept rfl) hafter
      | alterColumnType | alterColumnNullDefault | alterTable =>
        exact (loud rfl rfl rfl rfl).elim
      | createTable | dropTable | incomplete => cases needs

end Steps

section Run

variable {c : Comparison} {changes : List Change}

/-- The statements of the remaining changes can be executed, whatever has been done before. -/
theorem follow_all (run : Scripted c changes) {done rest : List Change} {s : Snapshot}
    {p : Progress} {db : Database} (moment : c.Moment (done ++ rest)) (midway : c.Midway done s)
    (tracks : Tracks c done p) (mirrors : Mirrors c p.rebuilt s db) :
    ∃ p' em s' db', Emission.emitAll (context c changes) p rest = (p', em) ∧ em.fault = none ∧
      db.run? em.statements = some db' ∧ c.Midway (done ++ rest) s' ∧
      Tracks c (done ++ rest) p' ∧ Mirrors c p'.rebuilt s' db' := by
  induction rest generalizing done s p db with
  | nil =>
    rw [List.append_nil]
    exact ⟨p, .of [], s, db, rfl, rfl, rfl, midway, tracks, mirrors⟩
  | cons x rest ih =>
    rw [List.append_cons] at moment ⊢
    have now : c.Moment (done ++ [x]) := moment.of_append
    obtain ⟨after, hafter, midway'⟩ :=
      midway.step run.current.toDistinct run.target.toDistinct now
    obtain ⟨p₁, em₁, db₁, hemit, hfault, hrun, tracks', mirrors'⟩ :=
      follow_change run now midway midway' tracks mirrors hafter
    obtain ⟨p₂, em₂, s₂, db₂, hall, hfault₂, hrun₂, midway₂, tracks₂, mirrors₂⟩ :=
      ih moment midway' tracks' mirrors'
    refine ⟨p₂, em₁ ++ em₂, s₂, db₂, ?_, ?_, ?_, midway₂, tracks₂, mirrors₂⟩
    · rw [Emission.emitAll, hemit]
      simp only [hfault, hall]
    · rw [Emission.append_of_fault_none hfault]
      exact hfault₂
    · rw [Emission.append_of_fault_none hfault, Database.run?_append, hrun, Option.bind_some, hrun₂]

/-- A database is that of the new snapshot, as far as the order of things, the names of foreign keys
that were there before and what the dialect cannot tell go. -/
structure Holds (c : Comparison) (db : Database) : Prop where
  names : db.tables.keys.Perm c.target.tables.keys
  columns : ∀ name stored goal, db.table? name = some stored → c.target.table? name = some goal →
    (stored.columns.map c.seen).Perm (goal.columns.map c.seen)
  primaryKey : ∀ name stored goal, db.table? name = some stored →
    c.target.table? name = some goal → stored.primaryKey = goal.primaryKey
  foreignKeys : ∀ name stored goal, db.table? name = some stored →
    c.target.table? name = some goal →
      (stored.foreignKeys.map (Comparison.seenKey (c.knownSignatures name))).Perm
        (goal.foreignKeys.map (Comparison.seenKey (c.knownSignatures name)))
  indexes : db.indexes.Perm c.target.ownedIndexes

/-- In the end, a stored table has its new definition, or it has followed every change. -/
theorem stored_at_end (run : Scripted c changes) {done : List Change} {s : Snapshot}
    {p : Progress} {db : Database} (moment : c.Moment done)
    (finished : ∀ x, c.Discovers x → x ∈ done) (midway : c.Midway done s) (tracks : Tracks c done p)
    (mirrors : Mirrors c p.rebuilt s db) {name : String} {stored : StoredTable} {goal : Table}
    (hstored : db.table? name = some stored) (hgoal : c.target.table? name = some goal) :
    (stored.columns.map c.seen).Perm (goal.columns.map c.seen) ∧
      stored.primaryKey = goal.primaryKey ∧
      (stored.foreignKeys.map (Comparison.seenKey (c.knownSignatures name))).Perm
        (goal.foreignKeys.map (Comparison.seenKey (c.knownSignatures name))) := by
  by_cases rebuilds : Rebuilds c name
  · obtain ⟨a, discovered, cause⟩ := rebuilds.cause
    have renewed : name ∈ p.rebuilt := (tracks.rebuilt name).mpr
      ⟨rebuilds, a, finished _ discovered, causesRebuild_of_needsRebuild discovered cause⟩
    rw [mirrors.replaced name rebuilds, if_pos renewed, hgoal] at hstored
    obtain rfl := Option.some.inj hstored
    exact ⟨List.Perm.refl _, rfl, List.Perm.refl _⟩
  · obtain ⟨t, ht⟩ : ∃ t, s.table? name = some t := by
      rw [← Option.isSome_iff_exists, Option.isSome_iff_ne_none]
      intro hnone
      rw [mirrors.absent name hnone] at hstored
      cases hstored
    have agrees := (midway.reaches run.current.toDistinct run.target.toDistinct run.keeps moment
      finished).tables name t goal ht hgoal
    rw [mirrors.kept name t ht rebuilds] at hstored
    obtain rfl := Option.some.inj hstored
    obtain ⟨-, start, goal', course, hat⟩ := midway.of_table? ht
    obtain rfl := Comparison.course_of_target hgoal course
    obtain ⟨hs, -, -, hname⟩ := Comparison.course_distinct run.current.toDistinct
      run.target.toDistinct course
    refine ⟨agrees.columns, agrees.primaryKey, ?_⟩
    subst hname
    cases hold : c.current.table? goal'.name with
    | none =>
      have hkeys : inlineKeys c goal'.name = goal'.foreignKeys := by
        simp [inlineKeys, hold, hgoal]
      rw [hkeys]
    | some old =>
      obtain rfl := Comparison.course_of_current hold course
      -- keys are stored with the table, so without a rebuild none of them has changed
      have unchanged : ∀ a, needsRebuild c.current ⟨goal'.name, a⟩ = .ok true →
          ⟨goal'.name, a⟩ ∉ done := fun a cause hmem =>
        rebuilds ⟨⟨start, hold⟩, ⟨goal', hgoal⟩, a, moment.discovered _ hmem, cause⟩
      have hkeys : inlineKeys c goal'.name = start.foreignKeys := by simp [inlineKeys, hold]
      have hperm : start.foreignKeys.Perm t.foreignKeys := by
        refine (List.perm_ext_iff_of_nodup hs.foreignKeys.of_map
          hat.distinct.foreignKeys.of_map).mpr fun k => ?_
        rw [hat.foreignKeys k]
        constructor
        · exact fun hk => Or.inr ⟨hk, unchanged _ rfl⟩
        · rintro (⟨-, added⟩ | ⟨hk, -⟩)
          · exact absurd added (unchanged _ rfl)
          · exact hk
      rw [hkeys]
      exact (hperm.map _).trans agrees.foreignKeys

theorem Mirrors.table?_eq_none_iff {s : Snapshot} {db : Database} {rebuilt : List String}
    (h : Mirrors c rebuilt s db) {name : String} :
    db.table? name = none ↔ s.table? name = none := by
  refine ⟨fun hnone => ?_, h.absent name⟩
  by_contra hsome
  obtain ⟨t, ht⟩ := Option.ne_none_iff_exists'.mp hsome
  by_cases rebuilds : Rebuilds c name
  · obtain ⟨old, hold⟩ := rebuilds.old
    obtain ⟨new, hnew⟩ := rebuilds.new
    rw [h.replaced name rebuilds, hold, hnew] at hnone
    split at hnone <;> cases hnone
  · rw [h.kept name t ht rebuilds] at hnone
    cases hnone

theorem holds_at_end (run : Scripted c changes) {done : List Change} {s : Snapshot} {p : Progress}
    {db : Database} (moment : c.Moment done) (finished : ∀ x, c.Discovers x → x ∈ done)
    (midway : c.Midway done s) (tracks : Tracks c done p) (mirrors : Mirrors c p.rebuilt s db) :
    Holds c db where
  names := by
    have reaches := midway.reaches run.current.toDistinct run.target.toDistinct run.keeps moment
      finished
    refine List.Perm.trans ?_ reaches.names
    refine (List.perm_ext_iff_of_nodup db.tables.nodup_keys s.tables.nodup_keys).mpr fun name => ?_
    rw [← not_iff_not, ← OrderedMap.find?_eq_none_iff, ← OrderedMap.find?_eq_none_iff]
    exact mirrors.table?_eq_none_iff
  columns _ _ _ hstored hgoal :=
    (stored_at_end run moment finished midway tracks mirrors hstored hgoal).1
  primaryKey _ _ _ hstored hgoal :=
    (stored_at_end run moment finished midway tracks mirrors hstored hgoal).2.1
  foreignKeys _ _ _ hstored hgoal :=
    (stored_at_end run moment finished midway tracks mirrors hstored hgoal).2.2
  indexes := by
    have reaches := midway.reaches run.current.toDistinct run.target.toDistinct run.keeps moment
      finished
    refine (List.perm_ext_iff_of_nodup mirrors.nodup run.target.indexNames.of_map).mpr ?_
    rintro ⟨name, i⟩
    rw [mirrors.indexes, Snapshot.mem_ownedIndexes]
    constructor
    · rintro ⟨t, ht, hi, -⟩
      obtain ⟨goal, hgoal⟩ := (Comparison.live_iff_of_finished moment finished name).mp
        (midway.of_table? ht).1
      exact ⟨goal, hgoal, (reaches.tables name t goal ht hgoal).indexes.mem_iff.mp hi⟩
    · rintro ⟨goal, hgoal, hi⟩
      obtain ⟨-, -, t, -, ht, -⟩ := midway.live name
        ((Comparison.live_iff_of_finished moment finished name).mpr ⟨goal, hgoal⟩)
      exact ⟨t, ht, (reaches.tables name t goal ht hgoal).indexes.mem_iff.mpr hi,
        fun _ => ⟨goal, hgoal, hi⟩⟩

/-- The script for a difference is complete, every statement of it can be executed when its turn
comes, and it leaves the database of the new snapshot. -/
theorem script_converges (hc : c.current.Storable) (ht : c.target.Storable)
    (keeps : c.skipsConstraints = false) {d : Difference} (hd : c.difference = .ok d)
    (charset : String) :
    ∃ p settings, Emission.prolog (context c d.changes) charset = .ok (p, settings) ∧
      (Emission.body (context c d.changes) p).2.fault = none ∧
      ∃ db, (Database.ofSnapshot c.current).run? (settings.map .set ++
        (Emission.body (context c d.changes) p).2.statements) = some db ∧ Holds c db := by
  have hchanges := Comparison.changes_of_difference hd
  have moment : c.Moment c.ordered :=
    Comparison.moment_of_prefix hc.toDistinct ht.toDistinct List.prefix_rfl
  have discovered : ∀ x, x ∈ d.changes ↔ c.Discovers x := by
    intro x
    rw [hchanges, Comparison.ordered, List.mem_mergeSort,
      Comparison.mem_changes hc.toDistinct ht.toDistinct]
  have run : Scripted c d.changes := ⟨hc, ht, keeps, discovered⟩
  obtain ⟨p, settings, hprolog, hrebuilt, hcreated, hrebuilding⟩ := prolog_spec discovered charset
  have tracks : Tracks c [] p := .start hrebuilding hrebuilt hcreated
  have mirrors : Mirrors c p.rebuilt c.current (.ofSnapshot c.current) :=
    hrebuilt ▸ mirrors_start hc
  obtain ⟨p', em, s, db, hall, hfault, hrun, midway, tracks', mirrors'⟩ := follow_all run
    (show c.Moment ([] ++ d.changes) from hchanges ▸ moment)
    (Comparison.midway_start hc.toDistinct ht.toDistinct) tracks mirrors
  rw [List.nil_append] at midway tracks'
  have hbody : Emission.body (context c d.changes) p =
      (p', em ++ .of (if p'.rebuilding = [] then [] else [.set (.foreignKeys true)])) := by
    rw [Emission.body, show (context c d.changes).changes = d.changes from rfl, hall]
  have hlast : db.run? (if p'.rebuilding = [] then [] else [.set (.foreignKeys true)]) =
      some db := by
    split <;> rfl
  refine ⟨p, settings, hprolog, ?_, db, ?_, ?_⟩
  · rw [hbody, Emission.append_of_fault_none hfault]
    rfl
  · rw [hbody, Emission.append_of_fault_none hfault, Database.run?_append, Database.run?_settings,
      Option.bind_some, Database.run?_append, hrun, Option.bind_some]
    exact hlast
  · exact holds_at_end run (hchanges ▸ moment) (fun x hx => (discovered x).mpr hx) midway tracks'
      mirrors'

end Run

end SchemaMigration.Sqlite

namespace SchemaMigration

/-- Orders are rebuilt for their new key and column, items are created and users are dropped. -/
theorem Shop.script_converges_to_new_orders :
    ∃ d p settings, comparison.difference = .ok d ∧
      Emission.prolog (Sqlite.context comparison d.changes) "utf8" = .ok (p, settings) ∧
      ∃ db, (Sqlite.Database.ofSnapshot comparison.current).run? (settings.map .set ++
        (Emission.body (Sqlite.context comparison d.changes) p).2.statements) = some db ∧
      Sqlite.Holds comparison db := by
  obtain ⟨g, -, -, -, hd⟩ := Comparison.difference_of_nodup (c := comparison) (by decide)
  obtain ⟨p, settings, hprolog, -, db, hrun, holds⟩ := Sqlite.script_converges
    (c := comparison) (by decide) (by decide) rfl hd "utf8"
  exact ⟨_, p, settings, hd, hprolog, db, hrun, holds⟩

end SchemaMigration
