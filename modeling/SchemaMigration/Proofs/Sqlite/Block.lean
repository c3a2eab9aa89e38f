import SchemaMigration.Proofs.Script
import SchemaMigration.Proofs.Sqlite.Rebuild

/-!
Rebuilds in a script. Several changes of one table may ask for its rebuild, and what is decided
before the first statement has to agree with what is emitted for each of them. Every table that is
to be rebuilt is rebuilt once, in one piece, and nothing else happens to its rows and columns; and
foreign keys are not enforced from before the first of these statements until after the last one.
-/

namespace SchemaMigration

def Statement.reshaped? : Statement → Option String
  | dropTable table | copyRows table _ _ | renameTable _ table | addColumn table _
  | dropColumn table _ => some table
  | _ => none

namespace Sqlite

open Emission.Sqlite (temporaryName needsRebuild)

variable {c : Comparison} {changes rest : List Change} {x : Change} {p p' : Progress}
  {name other : String} {start goal : Table} {a : Action} {statements block : List Statement}

/-! ### One rebuild -/

/-- The statements that rebuild a table. It is created under another name with its new columns and
primary key, the columns that it has before and after are copied, and it takes the place of the old
table. Foreign keys and indexes are those of the new definition, but for the indexes that a change
adds, or stay what they were. -/
inductive RebuildBlock (c : Comparison) (name : String) : List Statement → Prop
  | intro {old new : Table} {clause : TableClause} {shared : List String} {indexes : List Index}
      (held : c.current.table? name = some old) (wanted : c.target.table? name = some new)
      (named : clause.name = temporaryName name)
      (columns : clause.columns.map ColumnClause.column = new.columns)
      (primaryKey : clause.primaryKey = new.primaryKey)
      (foreignKeys : clause.foreignKeys.map ForeignKeyClause.key =
        if c.skipsConstraints then old.foreignKeys else new.foreignKeys)
      (common : ∀ n, n ∈ shared ↔ n ∈ old.columnNames ∧ n ∈ new.columnNames)
      (once : shared.Nodup) (ordered : shared.Sublist new.columnNames)
      (recreated : indexes.Sublist (if c.skipsConstraints then old.indexes else new.indexes))
      (complete : ∀ i ∈ (if c.skipsConstraints then old.indexes else new.indexes),
        (∀ n ∈ i.columns, n ∈ new.columnNames) →
          i ∈ indexes ∨ c.Discovers ⟨name, .addIndex i⟩) :
      RebuildBlock c name (.createTable clause ::
        (if shared = [] then [] else [.copyRows name (temporaryName name) shared]) ++
        [.dropTable name, .renameTable (temporaryName name) name] ++
        indexes.map (.createIndex name))

theorem RebuildBlock.reshapes (h : RebuildBlock c name block) {st : Statement} (hst : st ∈ block)
    (reshaped : st.reshaped? = some other) : other = name := by
  cases h with
  | @intro old new clause shared indexes =>
    have copies : ∀ st ∈ (if shared = [] then [] else
        [Statement.copyRows name (temporaryName name) shared]), st.reshaped? = some name := by
      rcases copies_cases name (temporaryName name) shared with h | h
      · simp [h]
      · simp [h, Statement.reshaped?]
    simp only [List.cons_append, List.mem_cons, List.mem_append, List.mem_map, List.not_mem_nil,
      or_false] at hst
    rcases hst with rfl | (hst | rfl | rfl) | ⟨i, -, rfl⟩
    · cases reshaped
    · exact Option.some.inj (reshaped.symm.trans (copies st hst))
    · exact (Option.some.inj reshaped).symm
    · exact (Option.some.inj reshaped).symm
    · cases reshaped

theorem RebuildBlock.unset (h : RebuildBlock c name block) :
    ∀ st ∈ block, ∀ setting, st ≠ .set setting := by
  cases h with
  | @intro old new clause shared indexes =>
    split <;> simp [or_imp, forall_and]

theorem RebuildBlock.renames (h : RebuildBlock c name block) :
    .renameTable (temporaryName name) name ∈ block := by
  cases h with
  | intro => simp

theorem known_of_discovered (discovered : ∀ x, x ∈ changes ↔ c.Discovers x) :
    ∀ x ∈ changes, x.action ≠ .incomplete .addIndex := by
  rintro ⟨table, b⟩ hx rfl
  cases (discovered _).mp hx with
  | part _ needs => cases needs

theorem inlineForeignKeys_eq {old new : Table} (hold : c.current.table? name = some old)
    (named : new.name = name) :
    (context c changes).inlineForeignKeys new =
      if c.skipsConstraints then old.foreignKeys else new.foreignKeys := by
  have hcurrent : (context c changes).current.table? new.name = some old := by rw [named]; exact hold
  rw [Context.inlineForeignKeys, if_neg (by simp [context]), hcurrent]
  rfl

/-- Indexes are created again among those that the table had, or else among the new ones, and no
index is forgotten. -/
theorem recreatedIndexes_ok (discovered : ∀ x, x ∈ changes ↔ c.Discovers x) (p : Progress)
    {old new : Table} (hold : c.current.table? name = some old)
    (hnew : c.target.table? name = some new) (owns : new.OwnsColumns) (distinct : new.Distinct) :
    ∃ indexes,
      Emission.Sqlite.recreatedIndexes (context c changes) p name (some old) new = .ok indexes ∧
      indexes.Sublist (if c.skipsConstraints then old.indexes else new.indexes) ∧
      ∀ i ∈ (if c.skipsConstraints then old.indexes else new.indexes),
        (∀ n ∈ i.columns, n ∈ new.columnNames) →
          i ∈ indexes ∨ c.Discovers ⟨name, .addIndex i⟩ := by
  cases policy : c.skipsConstraints with
  | false =>
    obtain ⟨indexes, hindexes, hsub, hmem⟩ := recreatedIndexes_spec policy p name (some old) owns
      (known_of_discovered discovered)
    refine ⟨indexes, hindexes, hsub, fun i hi _ => ?_⟩
    by_cases pending : Pending changes p name i.name
    · obtain ⟨j, hj, hname, -⟩ := pending
      have hadded := (discovered _).mp hj
      have hin : j ∈ new.indexes := by
        cases hadded with
        | part course needs =>
          simp only [Comparison.course?, hold, hnew, Option.some.injEq, Prod.mk.injEq] at course
          obtain ⟨rfl, rfl⟩ := course
          cases needs with
          | addIndex _ mem => exact mem
      obtain rfl : j = i := List.inj_on_of_nodup_map distinct.indexes hin hi hname
      exact Or.inr hadded
    · exact Or.inl ((hmem i).mpr ⟨hi, pending⟩)
  | true =>
    have skips : (context c changes).skipsConstraints = true := policy
    refine ⟨_, ?_, List.filter_sublist (p := fun i => i.columns.all new.hasColumn),
      fun i hi within => Or.inl (List.mem_filter.mpr ⟨hi, ?_⟩)⟩
    · unfold Emission.Sqlite.recreatedIndexes
      rw [if_pos skips]
      rfl
    · exact List.all_eq_true.mpr fun n hn => Table.hasColumn_iff.mpr (within n hn)

theorem emit_block (ht : c.target.WellFormed) (discovered : ∀ x, x ∈ changes ↔ c.Discovers x)
    (rebuilds : Rebuilds c name) (first : name ∉ p.rebuilt) :
    ∃ block, Emission.Sqlite.rebuild (context c changes) p name =
        ({ p with rebuilt := name :: p.rebuilt }, .of block) ∧ RebuildBlock c name block := by
  obtain ⟨old, hold⟩ := rebuilds.old
  obtain ⟨new, hnew⟩ := rebuilds.new
  have owns : new.OwnsColumns := ht.toResolved.of_table? hnew
  have distinct : new.Distinct := ht.toDistinct.of_table? hnew
  obtain ⟨clause, hname, hcolumns, hkey, hkeys, create⟩ :=
    @createTable_clause c changes new (temporaryName name)
  rw [inlineForeignKeys_eq hold (ht.toDistinct.name_of_table? hnew)] at hkeys
  obtain ⟨indexes, recreate, hsub, hcomplete⟩ :=
    recreatedIndexes_ok discovered p hold hnew owns distinct
  refine ⟨_, rebuild_eq hold hnew first create recreate, .intro hold hnew hname hcolumns hkey hkeys
    (fun n => ?_) (distinct.columns.filter _) List.filter_sublist hsub hcomplete⟩
  rw [List.mem_filter, Table.hasColumn_iff, and_comm]

/-! ### One change -/

/-- What is done for a part of a table that is not rebuilt for it. A foreign key comes and goes with
its table alone. -/
inductive InPlace (name : String) : Action → List Statement → Prop
  | addColumn {y : Column} {clause : ColumnClause} :
    InPlace name (.addColumn y) [.addColumn name clause]
  | dropColumn {y : Column} : InPlace name (.dropColumn y) [.dropColumn name y.name]
  | addForeignKey {k : ForeignKey} : InPlace name (.addForeignKey k) []
  | dropForeignKey {k : ForeignKey} : InPlace name (.dropForeignKey k) []
  | addIndex {i : Index} : InPlace name (.addIndex i) [.createIndex name i]
  | dropIndex {i : Index} : InPlace name (.dropIndex i) [.dropIndex name i.name]

inductive Emits (c : Comparison) (p : Progress) : Change → Progress → List Statement → Prop
  | creation {name : String} {new : Table} {clause : TableClause} (named : clause.name = name)
      (keys : c.skipsConstraints = false →
        clause.foreignKeys.map ForeignKeyClause.key = new.foreignKeys)
      (absent : c.current.table? name = none) (wanted : c.target.table? name = some new)
      (columns : clause.columns.map ColumnClause.column = new.columns)
      (primaryKey : clause.primaryKey = new.primaryKey)
      (unkeyed : c.skipsConstraints = true → clause.foreignKeys = []) :
      Emits c p ⟨name, .createTable new⟩ p [.createTable clause]
  | removal {name : String} {old : Table} (absent : c.target.table? name = none) :
      Emits c p ⟨name, .dropTable old⟩ p [.dropTable name]
  | rebuild {name : String} {a : Action} {block : List Statement} (part : a.isPart = true)
      (rebuilds : Rebuilds c name) (first : name ∉ p.rebuilt)
      (shape : RebuildBlock c name block) (cause : causesRebuild a = true) :
      Emits c p ⟨name, a⟩ { p with rebuilt := name :: p.rebuilt } block
  | again {name : String} {a : Action} (part : a.isPart = true) (rebuilds : Rebuilds c name)
      (before : name ∈ p.rebuilt) :
      Emits c p ⟨name, a⟩ p []
  | inPlace {name : String} {a : Action} {p' : Progress} {statements : List Statement}
      (kept : causesRebuild a = true → ¬ Rebuilds c name) (rebuilt : p'.rebuilt = p.rebuilt)
      (rebuilding : p'.rebuilding = p.rebuilding) (direct : InPlace name a statements) :
      Emits c p ⟨name, a⟩ p' statements

theorem emit_inPlace (hc : c.current.Distinct) (ht : c.target.Distinct)
    (course : c.course? name = some (start, goal)) (needs : c.Needs start goal a)
    (rebuilding : ∀ n, n ∈ p.rebuilding ↔ Rebuilds c n)
    (kept : causesRebuild a = true → ¬ Rebuilds c name) :
    ∃ p' statements, Emission.emit (context c changes) p ⟨name, a⟩ = (p', .of statements) ∧
      p'.rebuilt = p.rebuilt ∧ p'.rebuilding = p.rebuilding ∧ InPlace name a statements := by
  have unlisted : causesRebuild a = true → p.rebuilding.contains name = false := by
    intro cause
    simpa [rebuilding] using kept cause
  -- a change that nothing but a rebuild can carry out would have its table rebuilt
  have loud : needsRebuild c.current ⟨name, a⟩ = .ok true → causesRebuild a = true →
      a.index? = none → a.foreignKey? = none → False := by
    intro hloud cause index key
    have quiet := (needsRebuild_eq_false hc ht course needs (kept cause) index key).2
    rw [hloud] at quiet
    cases quiet
  cases needs with
  | alterColumnType | alterColumnNullDefault | alterTable => exact (loud rfl rfl rfl rfl).elim
  | addIndex => exact ⟨_, _, rfl, rfl, rfl, .addIndex⟩
  | dropIndex => exact ⟨_, _, rfl, rfl, rfl, .dropIndex⟩
  | addColumn =>
    simp only [Emission.emit, context, Emission.Sqlite.emit, unlisted rfl]
    exact ⟨_, _, rfl, rfl, rfl, .addColumn⟩
  | dropColumn =>
    simp only [Emission.emit, context, Emission.Sqlite.emit, unlisted rfl]
    exact ⟨_, _, rfl, rfl, rfl, .dropColumn⟩
  | addForeignKey =>
    simp only [Emission.emit, context, Emission.Sqlite.emit, unlisted rfl]
    exact ⟨_, _, rfl, rfl, rfl, .addForeignKey⟩
  | dropForeignKey =>
    simp only [Emission.emit, context, Emission.Sqlite.emit, unlisted rfl]
    exact ⟨_, _, rfl, rfl, rfl, .dropForeignKey⟩

/-- A change rebuilds its table, finds it rebuilt, or is carried out in place. -/
theorem emit_emits (hc : c.current.WellFormed) (ht : c.target.WellFormed)
    (discovered : ∀ x, x ∈ changes ↔ c.Discovers x)
    (rebuilding : ∀ n, n ∈ p.rebuilding ↔ Rebuilds c n) (hx : c.Discovers x) :
    ∃ p' statements, Emission.emit (context c changes) p x = (p', .of statements) ∧
      Emits c p x p' statements := by
  cases hx with
  | @creation name new absent present =>
    obtain ⟨clause, hname, hcolumns, hkey, hkeys, hcreate⟩ :=
      @createTable_clause c changes new new.name
    have same : new.name = name := ht.toDistinct.name_of_table? present
    refine ⟨p, _, congrArg (Prod.mk p) hcreate, .creation (hname.trans same) (fun keeps => ?_)
      absent present hcolumns hkey fun skips => ?_⟩
    · simp [hkeys, Context.inlineForeignKeys, context, keeps]
    · rw [← List.map_eq_nil_iff (f := ForeignKeyClause.key), hkeys]
      simp [Context.inlineForeignKeys, context, skips, same, absent]
  | removal present absent => exact ⟨p, _, rfl, .removal absent⟩
  | @part name start goal a course needs =>
    by_cases rebuilds : Rebuilds c name ∧ causesRebuild a = true
    · have hemit : Emission.emit (context c changes) p ⟨name, a⟩ =
          Emission.Sqlite.rebuild (context c changes) p name :=
        emit_of_rebuilding needs rebuilds.2 ((rebuilding name).mpr rebuilds.1)
      by_cases before : name ∈ p.rebuilt
      · refine ⟨p, [], ?_, .again needs.isPart rebuilds.1 before⟩
        rw [hemit, Emission.Sqlite.rebuild, if_pos (by simpa using before)]
      · obtain ⟨block, hblock, hshape⟩ := emit_block ht discovered rebuilds.1 before
        exact ⟨_, block, hemit.trans hblock, .rebuild needs.isPart rebuilds.1 before hshape
          rebuilds.2⟩
    · have kept : causesRebuild a = true → ¬ Rebuilds c name := fun cause h => rebuilds ⟨h, cause⟩
      obtain ⟨p', statements, hemit, hrebuilt, hrebuilding, direct⟩ := emit_inPlace
        hc.toDistinct ht.toDistinct course needs rebuilding kept
      exact ⟨p', statements, hemit, .inPlace kept hrebuilt hrebuilding direct⟩

theorem InPlace.reshapes (h : InPlace name a statements) {st : Statement} (hst : st ∈ statements)
    (reshaped : st.reshaped? = some other) : other = name ∧ causesRebuild a = true := by
  cases h with
  | addColumn | dropColumn =>
    obtain rfl := List.mem_singleton.mp hst
    exact ⟨(Option.some.inj reshaped).symm, rfl⟩
  | addForeignKey | dropForeignKey => cases hst
  | addIndex | dropIndex =>
    obtain rfl := List.mem_singleton.mp hst
    cases reshaped

theorem Emits.rebuilding (h : Emits c p x p' statements) : p'.rebuilding = p.rebuilding := by
  cases h with
  | creation | removal | rebuild | again => rfl
  | inPlace _ _ rebuilding => exact rebuilding

/-- What a change does to a table that is rebuilt: it rebuilds it for the first time, or it leaves
it alone. -/
theorem Emits.of_rebuilds (h : Emits c p x p' statements) (rebuilds : Rebuilds c name) :
    (x.table = name ∧ name ∉ p.rebuilt ∧ name ∈ p'.rebuilt ∧ RebuildBlock c name statements) ∨
      (∀ st ∈ statements, st.reshaped? ≠ some name) ∧ (name ∈ p'.rebuilt ↔ name ∈ p.rebuilt) ∧
        (x.table = name → causesRebuild x.action = true → name ∈ p.rebuilt) := by
  cases h with
  | creation =>
    refine Or.inr ⟨by simp [Statement.reshaped?], Iff.rfl, fun _ cause => by cases cause⟩
  | @removal dropped old absent =>
    refine Or.inr ⟨?_, Iff.rfl, fun _ cause => by cases cause⟩
    rintro st hst reshaped
    obtain rfl := List.mem_singleton.mp hst
    obtain rfl := Option.some.inj reshaped
    exact not_rebuilds_of_dropped absent rebuilds
  | @rebuild other _ _ _ _ first shape =>
    by_cases heq : other = name
    · subst heq
      exact Or.inl ⟨rfl, first, List.mem_cons_self, shape⟩
    · refine Or.inr ⟨fun st hst reshaped => heq (shape.reshapes hst reshaped).symm, ?_, ?_⟩
      · simp [Ne.symm heq]
      · exact fun hname => absurd hname heq
  | again _ _ before =>
    refine Or.inr ⟨by simp, Iff.rfl, ?_⟩
    rintro rfl -
    exact before
  | inPlace kept rebuilt _ direct =>
    refine Or.inr ⟨?_, by rw [rebuilt], ?_⟩
    · intro st hst reshaped
      obtain ⟨rfl, cause⟩ := direct.reshapes hst reshaped
      exact kept cause rebuilds
    · rintro rfl cause
      exact absurd rebuilds (kept cause)

theorem Emits.renames (h : Emits c p x p' statements) {temporary : String}
    (mem : .renameTable temporary name ∈ statements) : Rebuilds c name := by
  cases h with
  | creation | removal | again => simp at mem
  | rebuild _ rebuilds _ shape =>
    obtain rfl := shape.reshapes mem rfl
    exact rebuilds
  | inPlace _ _ _ direct => cases direct <;> simp at mem

/-! ### All changes -/

inductive EmitsAll (c : Comparison) : Progress → List Change → Progress → List Statement → Prop
  | nil {p : Progress} : EmitsAll c p [] p []
  | cons {p p₁ p₂ : Progress} {x : Change} {rest : List Change} {first others : List Statement}
      (head : Emits c p x p₁ first) (tail : EmitsAll c p₁ rest p₂ others) :
      EmitsAll c p (x :: rest) p₂ (first ++ others)

theorem emitAll_emits (hc : c.current.WellFormed) (ht : c.target.WellFormed)
    (discovered : ∀ x, x ∈ changes ↔ c.Discovers x) (hrest : ∀ x ∈ rest, c.Discovers x)
    (rebuilding : ∀ n, n ∈ p.rebuilding ↔ Rebuilds c n) :
    ∃ p' statements, Emission.emitAll (context c changes) p rest = (p', .of statements) ∧
      EmitsAll c p rest p' statements := by
  induction rest generalizing p with
  | nil => exact ⟨p, [], rfl, .nil⟩
  | cons x rest ih =>
    obtain ⟨p₁, first, hemit, head⟩ :=
      emit_emits hc ht discovered rebuilding (hrest x List.mem_cons_self)
    obtain ⟨p₂, others, hall, tail⟩ := ih (fun y hy => hrest y (List.mem_cons_of_mem _ hy))
      (p := p₁) (by rwa [head.rebuilding])
    refine ⟨p₂, first ++ others, ?_, .cons head tail⟩
    rw [Emission.emitAll, hemit]
    simp only [Emission.of, hall, Emission.append_of_fault_none]

theorem EmitsAll.renames (h : EmitsAll c p rest p' statements) {temporary : String}
    (mem : .renameTable temporary name ∈ statements) : Rebuilds c name := by
  induction h with
  | nil => cases mem
  | cons head _ ih =>
    rcases List.mem_append.mp mem with mem | mem
    · exact head.renames mem
    · exact ih mem

/-- A table that has been rebuilt is left alone. -/
theorem EmitsAll.aside (h : EmitsAll c p rest p' statements) (rebuilds : Rebuilds c name)
    (before : name ∈ p.rebuilt) : ∀ st ∈ statements, st.reshaped? ≠ some name := by
  induction h with
  | nil => simp
  | cons head _ ih =>
    obtain ⟨-, first, -⟩ | ⟨alone, same, -⟩ := head.of_rebuilds rebuilds
    · exact absurd before first
    · intro st hst
      rcases List.mem_append.mp hst with hst | hst
      · exact alone st hst
      · exact ih (same.mpr before) st hst

/-- A table that is to be rebuilt is left alone until the first of the changes that ask for it, and
after its rebuild. -/
theorem EmitsAll.one_block (h : EmitsAll c p rest p' statements) (rebuilds : Rebuilds c name)
    (first : name ∉ p.rebuilt) (asked : ∃ a, ⟨name, a⟩ ∈ rest ∧ causesRebuild a = true) :
    ∃ before block after, statements = before ++ block ++ after ∧ RebuildBlock c name block ∧
      ∀ st ∈ before ++ after, st.reshaped? ≠ some name := by
  induction h with
  | nil =>
    obtain ⟨a, mem, -⟩ := asked
    cases mem
  | @cons p p₁ p₂ x rest statements others head tail ih =>
    -- the first change is the one that rebuilds the table, or a later one asks for it
    obtain ⟨-, -, done, shape⟩ | ⟨alone, same, idle⟩ := head.of_rebuilds rebuilds
    · exact ⟨[], statements, others, rfl, shape, tail.aside rebuilds done⟩
    · have later : ∃ a, ⟨name, a⟩ ∈ rest ∧ causesRebuild a = true := by
        obtain ⟨a, mem, cause⟩ := asked
        rcases List.mem_cons.mp mem with rfl | mem
        · exact absurd (idle rfl cause) first
        · exact ⟨a, mem, cause⟩
      obtain ⟨before, block, after, rfl, shape, elsewhere⟩ := ih (same.not.mpr first) later
      refine ⟨statements ++ before, block, after, by simp, shape, fun st hst => ?_⟩
      rw [List.append_assoc] at hst
      rcases List.mem_append.mp hst with hst | hst
      · exact alone st hst
      · exact elsewhere st hst

/-! ### Scripts -/

/-- The statements of changes in a script. Foreign keys are not enforced around rebuilds; a setting
alone is not written. -/
def bracketed (rebuilds touchesKeys : Bool) (emitted : List Statement) : List Statement :=
  if rebuilds then .set (.foreignKeys false) :: emitted ++ [.set (.foreignKeys true)]
  else (if touchesKeys ∧ emitted ≠ [] then [.set (.foreignKeys true)] else []) ++ emitted

theorem mem_bracketed {rebuilds touchesKeys : Bool} {emitted : List Statement} {st : Statement}
    (unset : ∀ setting, st ≠ .set setting) :
    st ∈ bracketed rebuilds touchesKeys emitted ↔ st ∈ emitted := by
  unfold bracketed
  split
  · simp [unset]
  · split
    · simp [unset]
    · simp

theorem bracketed_of_mem {names : List String} (hname : name ∈ names) (touchesKeys : Bool)
    (emitted : List Statement) :
    bracketed (!names.isEmpty) touchesKeys emitted =
      .set (.foreignKeys false) :: emitted ++ [.set (.foreignKeys true)] := by
  have listed : names.isEmpty = false := by simpa using List.ne_nil_of_mem hname
  simp [bracketed, listed]

/-- What a script consists of by its prolog and its body. -/
theorem bracketed_eq (names : List String) (touchesKeys : Bool) (emitted : List Statement) :
    bracketed (!names.isEmpty) touchesKeys emitted =
      if emitted ++ (if names = [] then [] else [.set (.foreignKeys true)]) = [] then []
      else (if names ≠ [] then [Setting.foreignKeys false]
        else if touchesKeys then [.foreignKeys true] else []).map .set ++
          (emitted ++ if names = [] then [] else [.set (.foreignKeys true)]) := by
  cases names with
  | cons name rest => simp [bracketed]
  | nil =>
    cases emitted with
    | nil => simp [bracketed]
    | cons statement rest => cases touchesKeys <;> simp [bracketed]

variable {s : Session} {d : Difference}

structure Script (s : Session) (c : Comparison) (d : Difference) (generatedAt : String)
    (done : Session) (emitted : List Statement) : Prop where
  listed : Emission.Sqlite.tablesToRebuild (context c d.changes) = .ok done.progress.rebuilding
  rebuilding : ∀ name, name ∈ done.progress.rebuilding ↔ Rebuilds c name
  emits : ∃ p p', p.rebuilt = [] ∧ EmitsAll c p d.changes p' emitted
  unset : ∀ st ∈ emitted, ∀ setting, st ≠ .set setting
  wrote : s.Wrote generatedAt (context c d.changes) done
    (bracketed (!done.progress.rebuilding.isEmpty) d.touchesForeignKeys emitted)

theorem exists_script (hc : c.current.WellFormed) (ht : c.target.WellFormed)
    (hd : c.difference = .ok d) (s : Session) (generatedAt : String) :
    ∃ done emitted, Script s c d generatedAt done emitted := by
  have discovered := fun x => Comparison.mem_difference hc.toDistinct ht.toDistinct hd (x := x)
  obtain ⟨names, hnames, rebuilding⟩ := tablesToRebuild_spec discovered
  obtain ⟨p', emitted, hall, emits⟩ := emitAll_emits hc ht discovered
    (fun x hx => (discovered x).mp hx) (p := { Progress.start with rebuilding := names }) rebuilding
  have carries := Emission.carries_emitAll (context c d.changes)
    { Progress.start with rebuilding := names } d.changes
  rw [hall] at carries
  have hsame : p'.rebuilding = names := carries.rebuilding
  have hbody : Emission.body (context c d.changes) { Progress.start with rebuilding := names } =
      (p', .of (emitted ++ if names = [] then [] else [.set (.foreignKeys true)])) := by
    rw [Emission.body, show (context c d.changes).changes = d.changes from rfl, hall]
    simp only [hsame]
    rfl
  obtain ⟨done, hdone, wrote⟩ :=
    Session.wrote_of_body generatedAt (prolog_settings hnames s.schema.charset) hbody
  have hlast : done.progress.rebuilding = names := by rw [hdone, hsame]
  refine ⟨done, emitted, ?_, ?_, ⟨_, p', rfl, emits⟩, carries.unset, ?_⟩
  · rw [hlast, hnames]
  · rw [hlast]
    exact rebuilding
  · rw [hlast, bracketed_eq]
    exact wrote

namespace Script

variable {generatedAt : String} {done : Session} {emitted : List Statement}

theorem one_block (script : Script s c d generatedAt done emitted) (hc : c.current.Distinct)
    (ht : c.target.Distinct) (hd : c.difference = .ok d)
    (hname : name ∈ done.progress.rebuilding) :
    ∃ before block after,
      bracketed (!done.progress.rebuilding.isEmpty) d.touchesForeignKeys emitted =
        before ++ block ++ after ∧ RebuildBlock c name block ∧
      ∀ st ∈ before ++ after, st.reshaped? ≠ some name := by
  obtain ⟨p, p', unrebuilt, emits⟩ := script.emits
  have rebuilds := (script.rebuilding name).mp hname
  have asked : ∃ a, ⟨name, a⟩ ∈ d.changes ∧ causesRebuild a = true := by
    obtain ⟨a, ha, hneeds⟩ := rebuilds.cause
    exact ⟨a, (Comparison.mem_difference hc ht hd).mpr ha,
      causesRebuild_of_needsRebuild ha hneeds⟩
  obtain ⟨before, block, after, heq, shape, alone⟩ :=
    emits.one_block rebuilds (by simp [unrebuilt]) asked
  refine ⟨.set (.foreignKeys false) :: before, block, after ++ [.set (.foreignKeys true)], ?_,
    shape, fun st hst => ?_⟩
  · rw [bracketed_of_mem hname, heq]
    simp
  · simp only [List.cons_append, List.mem_cons, List.mem_append, List.not_mem_nil,
      or_false] at hst alone
    rcases hst with rfl | hst | hst | rfl
    · simp [Statement.reshaped?]
    · exact alone st (.inl hst)
    · exact alone st (.inr hst)
    · simp [Statement.reshaped?]

/-- A script puts a table into the place of another one if that was to be rebuilt, and only then. -/
theorem renames_iff (script : Script s c d generatedAt done emitted) (hc : c.current.Distinct)
    (ht : c.target.Distinct) (hd : c.difference = .ok d) :
    name ∈ done.progress.rebuilding ↔ ∃ temporary, .renameTable temporary name ∈
      bracketed (!done.progress.rebuilding.isEmpty) d.touchesForeignKeys emitted := by
  constructor
  · intro hname
    obtain ⟨before, block, after, heq, shape, -⟩ := script.one_block hc ht hd hname
    refine ⟨temporaryName name, ?_⟩
    rw [heq]
    simp [shape.renames]
  · rintro ⟨temporary, mem⟩
    obtain ⟨p, p', -, emits⟩ := script.emits
    rw [mem_bracketed (by simp)] at mem
    exact (script.rebuilding name).mpr (emits.renames mem)

end Script

/-- Whether a script rebuilds a table was decided before its first statement. The statements that
rebuild a table stand together, and no other statement copies from the table, replaces it or changes
its columns. Tables that come or go are not rebuilt. -/
theorem rebuilt_in_one_block (hc : c.current.WellFormed) (ht : c.target.WellFormed)
    (hd : c.difference = .ok d) (s : Session) (generatedAt : String) :
    ∃ done statements,
      s.Wrote generatedAt (context c d.changes) done statements ∧
      Emission.Sqlite.tablesToRebuild (context c d.changes) = .ok done.progress.rebuilding ∧
      (∀ name, name ∈ done.progress.rebuilding ↔
        ∃ temporary, .renameTable temporary name ∈ statements) ∧
      (∀ name ∈ done.progress.rebuilding, ∃ before block after,
        statements = before ++ block ++ after ∧ RebuildBlock c name block ∧
        ∀ st ∈ before ++ after, st.reshaped? ≠ some name) ∧
      ∀ x ∈ d.changes, x.kind = .createTable ∨ x.kind = .dropTable →
        x.table ∉ done.progress.rebuilding := by
  obtain ⟨done, emitted, script⟩ := exists_script hc ht hd s generatedAt
  refine ⟨done, _, script.wrote, script.listed,
    fun name => script.renames_iff hc.toDistinct ht.toDistinct hd,
    fun name hname => script.one_block hc.toDistinct ht.toDistinct hd hname, ?_⟩
  intro x hx hkind hname
  have rebuilds := (script.rebuilding _).mp hname
  cases (Comparison.mem_difference hc.toDistinct ht.toDistinct hd).mp hx with
  | creation absent => exact not_rebuilds_of_created absent rebuilds
  | removal _ absent => exact not_rebuilds_of_dropped absent rebuilds
  | part _ needs => cases needs <;> simp [Change.kind, Action.kind] at hkind

/-- Foreign keys are not enforced from the first statement to the last one if a table is rebuilt.
Otherwise nothing lifts their enforcement, and it is asked for if foreign keys change. -/
theorem enforcement_bracketed (hc : c.current.WellFormed) (ht : c.target.WellFormed)
    (hd : c.difference = .ok d) (s : Session) (generatedAt : String) :
    ∃ done statements,
      s.Wrote generatedAt (context c d.changes) done statements ∧
      ((∃ temporary name, .renameTable temporary name ∈ statements) →
        ∃ middle, statements =
            .set (.foreignKeys false) :: middle ++ [.set (.foreignKeys true)] ∧
          ∀ st ∈ middle, Dialect.Acts (s.dialect.text st)) ∧
      ((¬ ∃ temporary name, .renameTable temporary name ∈ statements) →
        ∃ others, statements =
            (if d.touchesForeignKeys ∧ others ≠ [] then [.set (.foreignKeys true)] else []) ++
              others ∧
          ∀ st ∈ others, Dialect.Acts (s.dialect.text st)) := by
  obtain ⟨done, emitted, script⟩ := exists_script hc ht hd s generatedAt
  have acts : ∀ st ∈ emitted, Dialect.Acts (s.dialect.text st) := fun st hst =>
    Dialect.acts_text s.dialect (script.unset st hst)
  refine ⟨done, _, script.wrote, ?_, ?_⟩
  · rintro ⟨temporary, name, mem⟩
    have hname := (script.renames_iff hc.toDistinct ht.toDistinct hd).mpr ⟨temporary, mem⟩
    exact ⟨emitted, bracketed_of_mem hname _ _, acts⟩
  · intro none
    have unlisted : done.progress.rebuilding = [] := by
      refine List.eq_nil_iff_forall_not_mem.mpr fun name hname => none ?_
      obtain ⟨temporary, mem⟩ := (script.renames_iff hc.toDistinct ht.toDistinct hd).mp hname
      exact ⟨temporary, name, mem⟩
    exact ⟨emitted, by simp [bracketed, unlisted], acts⟩

end Sqlite

/-! The shop whose items get a shorter number. -/

namespace Shop

theorem shortening_context :
    ∃ d, shorteningComparison.difference = .ok d ∧
      Sqlite.context shorteningComparison d.changes = shorteningContext := by
  obtain ⟨g, -, -, -, hd⟩ :=
    Comparison.difference_of_nodup (c := shorteningComparison) (by decide)
  refine ⟨_, hd, ?_⟩
  rw [Comparison.changes_of_sorted hd (by decide)]
  rfl

theorem items_in_one_block :
    ∃ done statements before block after,
      (Session.start .sqlite shortening).Wrote "today" shorteningContext done statements ∧
      statements = before ++ block ++ after ∧
      Sqlite.RebuildBlock shorteningComparison "items" block ∧
      ∀ st ∈ before ++ after, st.reshaped? ≠ some "items" := by
  obtain ⟨d, hd, hcontext⟩ := shortening_context
  obtain ⟨done, statements, wrote, listed, -, blocks, -⟩ :=
    Sqlite.rebuilt_in_one_block (c := shorteningComparison) (by decide) (by decide) hd
      (.start .sqlite shortening) "today"
  rw [hcontext] at wrote listed
  have hname : Except.ok ["items"] = Except.ok done.progress.rebuilding := listed
  obtain ⟨before, block, after, heq, shape, alone⟩ :=
    blocks "items" (by simp [← Except.ok.inj hname])
  exact ⟨done, statements, before, block, after, wrote, heq, shape, alone⟩

theorem items_bracketed :
    ∃ done statements middle,
      (Session.start .sqlite shortening).Wrote "today" shorteningContext done statements ∧
      statements = .set (.foreignKeys false) :: middle ++ [.set (.foreignKeys true)] ∧
      ∀ st ∈ middle, Dialect.Acts (Dialect.sqlite.text st) := by
  obtain ⟨d, hd, hcontext⟩ := shortening_context
  obtain ⟨done, statements, wrote, brackets, -⟩ :=
    Sqlite.enforcement_bracketed (c := shorteningComparison) (by decide) (by decide) hd
      (.start .sqlite shortening) "today"
  rw [hcontext] at wrote
  obtain ⟨p, settings, body, hprolog, hbody, heq⟩ := wrote.emitted
  obtain ⟨rfl, rfl⟩ := Prod.mk.inj (Except.ok.inj hprolog)
  obtain rfl := (congrArg (fun done => done.2.statements) hbody)
  have mem : .renameTable "items__new" "items" ∈ statements := by
    rw [heq]
    decide
  obtain ⟨middle, hmiddle, acts⟩ := brackets ⟨_, _, mem⟩
  exact ⟨done, statements, middle, wrote, hmiddle, acts⟩

end Shop

end SchemaMigration
