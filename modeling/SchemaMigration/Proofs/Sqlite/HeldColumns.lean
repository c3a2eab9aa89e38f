import SchemaMigration.Proofs.Sqlite.Watch

/-!
Columns that keys and indexes hold on to. A table is created with the columns of its new definition,
and a column that no key needs is dropped in place. While constraints are left as they are, the
foreign keys of a rebuilt table and the indexes of a table that is not rebuilt stay, whatever
becomes of their columns.
-/

namespace SchemaMigration

def Statement.reindexed? : Statement → Option String
  | createIndex table _ | dropIndex table _ | dropTable table => some table
  | _ => none

structure TableClause.OwnsColumns (t : TableClause) : Prop where
  primaryKey : ∀ n ∈ t.primaryKey, n ∈ t.columns.map fun x => x.column.name
  foreignKeys : ∀ k ∈ t.foreignKeys, ∀ n ∈ k.key.columns,
    n ∈ t.columns.map fun x => x.column.name

namespace Sqlite

open Emission.Sqlite (temporaryName needsRebuild holdsColumn)

variable {c : Comparison} {d : Difference} {done rest : List Change} {x : Change}
  {p p' : Progress} {name : String} {old new : Table} {y : Column} {i : Index}
  {statements block : List Statement} {st : Statement} {clause : TableClause}

/-! ### Columns that are dropped -/

theorem discovers_dropColumn (held : c.current.table? name = some old)
    (wanted : c.target.table? name = some new) (mem : y ∈ old.columns)
    (gone : y.name ∉ new.columnNames) : c.Discovers ⟨name, .dropColumn y⟩ :=
  .part (by rw [Comparison.course?, held, wanted]) (.dropColumn mem gone)

theorem of_dropColumn (hc : c.current.Distinct) (ht : c.target.Distinct)
    (discovered : c.Discovers ⟨name, .dropColumn y⟩) :
    ∃ old new, c.current.table? name = some old ∧ c.target.table? name = some new ∧
      y ∈ old.columns ∧ y.name ∉ new.columnNames := by
  cases discovered with
  | part course needs =>
    cases Comparison.course_cases course with
    | kept held wanted =>
      cases needs with
      | dropColumn mem gone => exact ⟨_, _, held, wanted, mem, gone⟩
    | created _ wanted =>
      obtain ⟨-, ⟨i, -, heq⟩ | ⟨k, -, heq⟩⟩ :=
        (Comparison.needs_bare_iff (ht.of_table? wanted)).mp needs
      · cases heq
      · cases heq
    | dropped held _ =>
      obtain ⟨-, k, -, heq⟩ := (Comparison.needs_detached_iff (hc.of_table? held)).mp needs
      cases heq

theorem holdsColumn_iff {t : Table} {n : String} :
    holdsColumn t n = true ↔ n ∈ t.primaryKey ∨ ∃ k ∈ t.foreignKeys, n ∈ k.columns := by
  simp [holdsColumn]

/-- A table that loses a column of one of its keys is rebuilt, and no other table is rebuilt for a
column that it loses. -/
theorem rebuilds_of_held (held : c.current.table? name = some old)
    (wanted : c.target.table? name = some new) (mem : y ∈ old.columns)
    (gone : y.name ∉ new.columnNames) (holds : holdsColumn old y.name = true) :
    Rebuilds c name where
  old := ⟨old, held⟩
  new := ⟨new, wanted⟩
  cause := ⟨_, discovers_dropColumn held wanted mem gone, by simp [needsRebuild, held, holds]⟩

/-! ### Tables that are created -/

theorem EmitsAll.of_mem {statements : List Statement} (h : EmitsAll c p rest p' statements)
    (mem : st ∈ statements) :
    ∃ x ∈ rest, ∃ q q' part, Emits c q x q' part ∧ st ∈ part := by
  induction h with
  | nil => cases mem
  | cons head _ ih =>
    rcases List.mem_append.mp mem with mem | mem
    · exact ⟨_, List.mem_cons_self, _, _, _, head, mem⟩
    · obtain ⟨x, hx, found⟩ := ih mem
      exact ⟨x, List.mem_cons_of_mem _ hx, found⟩

/-- A rebuild creates one table. Its columns and primary key are the new ones. -/
theorem RebuildBlock.creates (h : RebuildBlock c name block) :
    ∃ old new clause, c.current.table? name = some old ∧ c.target.table? name = some new ∧
      clause.name = temporaryName name ∧
      clause.columns.map ColumnClause.column = new.columns ∧
      clause.primaryKey = new.primaryKey ∧
      clause.foreignKeys.map ForeignKeyClause.key =
        (if c.skipsConstraints then old.foreignKeys else new.foreignKeys) ∧
      ∀ other, .createTable other ∈ block ↔ other = clause := by
  cases h with
  | @intro old new clause shared indexes held wanted named columns primaryKey foreignKeys =>
    refine ⟨old, new, clause, held, wanted, named, columns, primaryKey, foreignKeys, fun other => ?_⟩
    split <;> simp

theorem names_of_columns {clause : TableClause} {t : Table}
    (h : clause.columns.map ColumnClause.column = t.columns) :
    (clause.columns.map fun x => x.column.name) = t.columnNames := by
  rw [Table.columnNames, ← h, List.map_map]
  rfl

/-- A table is created with its own columns in its keys if the columns of all its foreign keys are
there. -/
theorem ownsColumns_iff {clause : TableClause} {t : Table} {keys : List ForeignKey}
    (owns : t.OwnsColumns) (columns : clause.columns.map ColumnClause.column = t.columns)
    (primaryKey : clause.primaryKey = t.primaryKey)
    (foreignKeys : clause.foreignKeys.map ForeignKeyClause.key = keys) :
    clause.OwnsColumns ↔ ∀ k ∈ keys, ∀ n ∈ k.columns, n ∈ t.columnNames := by
  subst foreignKeys
  constructor
  · intro h k hk n hn
    obtain ⟨f, hf, rfl⟩ := List.mem_map.mp hk
    rw [← names_of_columns columns]
    exact h.foreignKeys f hf n hn
  · intro h
    refine ⟨?_, fun f hf n hn => ?_⟩
    · rw [names_of_columns columns, primaryKey]
      exact owns.primaryKey
    · rw [names_of_columns columns]
      exact h f.key (List.mem_map_of_mem hf) n hn

/-- While constraints are left as they are, the tables that stay do not lose a column of a foreign
key. -/
def KeepsKeyColumns (c : Comparison) : Prop :=
  c.skipsConstraints = true → ∀ name old new, c.current.table? name = some old →
    c.target.table? name = some new → ∀ k ∈ old.foreignKeys, ∀ n ∈ k.columns, n ∈ new.columnNames

theorem Emits.ownsColumns (ht : c.target.WellFormed) (keeps : KeepsKeyColumns c)
    (h : Emits c p x p' statements) (mem : .createTable clause ∈ statements) :
    clause.OwnsColumns := by
  cases h with
  | @creation name new clause' named keys absent wanted columns primaryKey unkeyed =>
    obtain rfl := Statement.createTable.inj (List.mem_singleton.mp mem)
    have owns : new.OwnsColumns := ht.toResolved.of_table? wanted
    cases policy : c.skipsConstraints with
    | false => exact (ownsColumns_iff owns columns primaryKey (keys policy)).mpr owns.foreignKeys
    | true => exact (ownsColumns_iff owns columns primaryKey rfl).mpr (by simp [unkeyed policy])
  | removal | again => simp at mem
  | rebuild _ _ _ shape =>
    obtain ⟨old, new, clause, held, wanted, -, columns, primaryKey, foreignKeys, only⟩ :=
      shape.creates
    obtain rfl := (only _).mp mem
    have owns : new.OwnsColumns := ht.toResolved.of_table? wanted
    refine (ownsColumns_iff owns columns primaryKey foreignKeys).mpr ?_
    split
    · next policy => exact keeps policy _ old new held wanted
    · exact owns.foreignKeys
  | inPlace _ _ _ direct => cases direct <;> simp at mem

theorem Script.owned_iff (hc : c.current.WellFormed) (ht : c.target.WellFormed)
    (hd : c.difference = .ok d) {s done : Session} {generatedAt : String}
    {emitted : List Statement} (script : Script s c d generatedAt done emitted) :
    (∀ clause, .createTable clause ∈
        bracketed (!done.progress.rebuilding.isEmpty) d.touchesForeignKeys emitted →
      clause.OwnsColumns) ↔ KeepsKeyColumns c := by
  constructor
  · intro owned policy name old new held wanted k hk n hn
    by_contra gone
    -- a table that loses a column of a foreign key is rebuilt, and created with this foreign key
    obtain ⟨y, hy, rfl⟩ := List.mem_map.mp ((hc.toResolved.of_table? held).foreignKeys k hk n hn)
    have rebuilds := rebuilds_of_held held wanted hy gone
      (holdsColumn_iff.mpr (Or.inr ⟨k, hk, hn⟩))
    obtain ⟨before, block, after, heq, shape, -⟩ := script.one_block hc.toDistinct ht.toDistinct hd
      ((script.rebuilding name).mpr rebuilds)
    obtain ⟨old', new', clause, held', wanted', -, columns, primaryKey, foreignKeys, only⟩ :=
      shape.creates
    rw [held] at held'
    rw [wanted] at wanted'
    cases held'
    cases wanted'
    have owns := owned clause (by rw [heq]; simp [only])
    rw [ownsColumns_iff (ht.toResolved.of_table? wanted) columns primaryKey foreignKeys,
      if_pos policy] at owns
    exact gone (owns k hk _ hn)
  · intro keeps clause mem
    obtain ⟨p, p', -, emits⟩ := script.emits
    rw [mem_bracketed (by simp)] at mem
    obtain ⟨x, -, q, q', part, emit, hin⟩ := emits.of_mem mem
    exact emit.ownsColumns ht keeps hin

/-- Every table of a script is created with its own columns in its keys, exactly if no table loses a
column of a foreign key while constraints are left as they are. -/
theorem created_tables_own_columns_iff (hc : c.current.WellFormed) (ht : c.target.WellFormed)
    (hd : c.difference = .ok d) (s : Session) (generatedAt : String) :
    ∃ done statements,
      s.Wrote generatedAt (context c d.changes) done statements ∧
      ((∀ clause, .createTable clause ∈ statements → clause.OwnsColumns) ↔
        KeepsKeyColumns c) := by
  obtain ⟨done, emitted, script⟩ := exists_script hc ht hd s generatedAt
  exact ⟨done, _, script.wrote, script.owned_iff hc ht hd⟩

/-! ### Columns that are dropped in place -/

/-- The indexes of tables after a statement. The indexes of a table go with it. -/
def indexesAfter (live : List (String × Index)) : Statement → List (String × Index)
  | .createIndex table index => live ++ [(table, index)]
  | .dropIndex table index => live.filter fun e => ¬ (e.1 = table ∧ e.2.name = index)
  | .dropTable table => live.filter fun e => e.1 ≠ table
  | _ => live

/-- A column is dropped in place only if no key of its table needs it, and no index that its table
has by then. -/
def Unheld (current : Snapshot) (live : List (String × Index)) : Statement → Prop
  | .dropColumn table n =>
    (∃ old, current.table? table = some old ∧ n ∉ old.primaryKey ∧
      ∀ k ∈ old.foreignKeys, n ∉ k.columns) ∧
    ∀ i, (table, i) ∈ live → n ∉ i.columns
  | _ => True

def indexWatch (current : Snapshot) : Watch (List (String × Index)) where
  after := indexesAfter
  Admits := Unheld current
  after_set _ _ := rfl
  admits_set _ _ := trivial

variable {current : Snapshot} {live : List (String × Index)}

theorem mem_run_elsewhere (elsewhere : ∀ st ∈ statements, st.reindexed? ≠ some name) :
    (name, i) ∈ (indexWatch current).run live statements ↔ (name, i) ∈ live := by
  induction statements generalizing live with
  | nil => rfl
  | cons st rest ih =>
    have first : (name, i) ∈ indexesAfter live st ↔ (name, i) ∈ live := by
      have hst := elsewhere st List.mem_cons_self
      cases st with
      | createIndex table index =>
        have hne : name ≠ table := fun h => hst (by rw [h]; rfl)
        simp [indexesAfter, hne]
      | dropIndex table index =>
        have hne : name ≠ table := fun h => hst (by rw [h]; rfl)
        simp [indexesAfter, hne]
      | dropTable table =>
        have hne : name ≠ table := fun h => hst (by rw [h]; rfl)
        simp [indexesAfter, hne]
      | _ => rfl
    rw [Watch.run_cons, ih fun s hs => elsewhere s (List.mem_cons_of_mem _ hs)]
    exact first

theorem RebuildBlock.reindexes {other : String} (h : RebuildBlock c name block) (hst : st ∈ block)
    (reindexed : st.reindexed? = some other) : other = name := by
  cases h with
  | intro =>
    simp only [List.cons_append, List.mem_cons, List.mem_append, List.mem_map, List.not_mem_nil,
      or_false] at hst
    rcases hst with rfl | (hst | rfl | rfl) | ⟨i, -, rfl⟩
    · cases reindexed
    · split at hst
      · cases hst
      · obtain rfl := List.mem_singleton.mp hst
        cases reindexed
    · exact (Option.some.inj reindexed).symm
    · cases reindexed
    · exact (Option.some.inj reindexed).symm

theorem RebuildBlock.unheld (h : RebuildBlock c name block) : ∀ st ∈ block, Unheld current live st := by
  cases h with
  | intro =>
    intro st hst
    simp only [List.cons_append, List.mem_cons, List.mem_append, List.mem_map, List.not_mem_nil,
      or_false] at hst
    rcases hst with rfl | (hst | rfl | rfl) | ⟨i, -, rfl⟩
    · trivial
    · split at hst
      · cases hst
      · obtain rfl := List.mem_singleton.mp hst
        trivial
    · trivial
    · trivial
    · trivial

def IndexesKnown (c : Comparison) (done : List Change) (_ : Progress)
    (live : List (String × Index)) : Prop :=
  ∀ name old new, c.current.table? name = some old → c.target.table? name = some new →
    ¬ Rebuilds c name → ∀ i, (name, i) ∈ live ↔
      (i ∈ old.indexes ∧ ⟨name, .dropIndex i⟩ ∉ done) ∨ ⟨name, .addIndex i⟩ ∈ done

def DropsUnindexed (c : Comparison) (done : List Change) (x : Change) : Prop :=
  ∀ y, x.action = .dropColumn y → ¬ Rebuilds c x.table →
    ∀ old, c.current.table? x.table = some old → ∀ i ∈ old.indexes,
      ⟨x.table, .dropIndex i⟩ ∉ done → y.name ∉ i.columns

theorem indexesKnown_start (p : Progress) : IndexesKnown c [] p c.current.ownedIndexes := by
  intro name old new held _ _ i
  simp [Snapshot.mem_ownedIndexes, held]

theorem IndexesKnown.frame (known : IndexesKnown c done p live)
    (elsewhere : ∀ name old new, c.current.table? name = some old →
      c.target.table? name = some new → ¬ Rebuilds c name →
        (∀ st ∈ statements, st.reindexed? ≠ some name) ∧ (x.table = name → x.action.index? = none)) :
    IndexesKnown c (done ++ [x]) p' ((indexWatch current).run live statements) := by
  intro name old new held wanted unrebuilt i
  obtain ⟨still, other⟩ := elsewhere name old new held wanted unrebuilt
  have undropped : ⟨name, .dropIndex i⟩ ≠ x := by
    rintro rfl
    cases other rfl
  have unadded : ⟨name, .addIndex i⟩ ≠ x := by
    rintro rfl
    cases other rfl
  rw [mem_run_elsewhere still, known name old new held wanted unrebuilt i]
  simp [undropped, unadded]

theorem IndexesKnown.inPlace (hc : c.current.WellFormed) {a : Action}
    (moment : c.Moment (done ++ [⟨name, a⟩])) (known : IndexesKnown c done p live)
    (direct : InPlace name a statements) :
    IndexesKnown c (done ++ [⟨name, a⟩]) p' ((indexWatch current).run live statements) := by
  cases direct with
  | addColumn | dropColumn | addForeignKey | dropForeignKey =>
    exact known.frame fun _ _ _ _ _ _ => ⟨by simp [Statement.reindexed?], fun _ => rfl⟩
  | @addIndex j =>
    intro table old new held wanted unrebuilt i
    show (table, i) ∈ live ++ [(name, j)] ↔ _
    rw [List.mem_append, known table old new held wanted unrebuilt i]
    simp [or_assoc]
  | @dropIndex j =>
    intro table old new held wanted unrebuilt i
    show (table, i) ∈ live.filter _ ↔ _
    rw [List.mem_filter, known table old new held wanted unrebuilt i]
    have unadded : ∀ i, ⟨table, .addIndex i⟩ ∉ done := fun i hadd =>
      absurd (moment.past hadd) (show ¬ 9 ≤ 1 by decide)
    -- the index that is dropped is told apart from the others of its table by its name
    have told : table = name → i ∈ old.indexes → (i.name = j.name ↔ i = j) := by
      rintro rfl hi
      have discovered := moment.discovered _ (List.mem_append_right _ (List.mem_singleton_self _))
      have course : c.course? table = some (old, new) := by rw [Comparison.course?, held, wanted]
      cases discovered.needs course rfl with
      | dropIndex _ mem _ =>
        exact ⟨(hc.toDistinct.of_table? held).index_eq hi mem, fun h => h ▸ rfl⟩
    simp only [unadded, or_false, decide_eq_true_eq, not_and, List.mem_append, List.mem_singleton,
      Change.mk.injEq, reduceCtorEq, and_false, Action.dropIndex.injEq, not_or, and_assoc]
    refine and_congr_right fun hi => and_congr_right fun _ => ?_
    exact forall_congr' fun same => not_congr (told same hi)

theorem unheld_iff (hc : c.current.Distinct) (ht : c.target.Distinct)
    (moment : c.Moment (done ++ [⟨name, .dropColumn y⟩])) (known : IndexesKnown c done p live)
    (unrebuilt : ¬ Rebuilds c name) :
    (indexWatch c.current).AdmitsAll live [.dropColumn name y.name] ↔
      DropsUnindexed c done ⟨name, .dropColumn y⟩ := by
  obtain ⟨old, new, held, wanted, mem, gone⟩ := of_dropColumn hc ht
    (moment.discovered _ (List.mem_append_right _ (List.mem_singleton_self _)))
  have unneeded : ¬ (y.name ∈ old.primaryKey ∨ ∃ k ∈ old.foreignKeys, y.name ∈ k.columns) := by
    rw [← holdsColumn_iff]
    exact fun holds => unrebuilt (rebuilds_of_held held wanted mem gone holds)
  have unadded : ∀ i, ⟨name, .addIndex i⟩ ∉ done := fun i hadd =>
    absurd (moment.past hadd) (show ¬ 9 ≤ 7 by decide)
  have admits : (indexWatch c.current).AdmitsAll live [.dropColumn name y.name] ↔
      ∀ i, (name, i) ∈ live → y.name ∉ i.columns := by
    rw [Watch.admitsAll_cons, Watch.admitsAll_nil, and_true]
    exact and_iff_right ⟨old, held, fun h => unneeded (.inl h),
      fun k hk h => unneeded (.inr ⟨k, hk, h⟩)⟩
  rw [admits]
  constructor
  · rintro h y' heq - old' held' i hi still
    obtain rfl := Action.dropColumn.inj heq
    rw [held] at held'
    cases held'
    exact h i ((known name old new held wanted unrebuilt i).mpr (Or.inl ⟨hi, still⟩))
  · intro h i hi
    rcases (known name old new held wanted unrebuilt i).mp hi with ⟨hi, still⟩ | added
    · exact h y rfl unrebuilt old held i hi still
    · exact absurd added (unadded i)

theorem indexWatch_keeps (hc : c.current.WellFormed) (ht : c.target.WellFormed) :
    (indexWatch c.current).Keeps c (IndexesKnown c) (DropsUnindexed c) where
  admits_iff := by
    intro done x p p' statements live moment known emits
    cases emits with
    | creation | removal =>
      refine iff_of_true ⟨trivial, trivial⟩ ?_
      rintro y heq
      cases heq
    | rebuild _ rebuilds _ shape =>
      refine iff_of_true (Watch.admitsAll_of_admits fun st hst _ => shape.unheld st hst) ?_
      exact fun _ _ unrebuilt => absurd rebuilds unrebuilt
    | again _ rebuilds => exact iff_of_true trivial fun _ _ unrebuilt => absurd rebuilds unrebuilt
    | inPlace kept _ _ direct =>
      cases direct with
      | @dropColumn y => exact unheld_iff hc.toDistinct ht.toDistinct moment known (kept rfl)
      | _ =>
        refine iff_of_true (by simp [Watch.AdmitsAll, indexWatch, Unheld]) ?_
        rintro y heq
        cases heq
  step := by
    intro done x p p' statements live moment known emits _
    cases emits with
    | creation => exact known.frame fun _ _ _ _ _ _ => ⟨by simp [Statement.reindexed?], fun _ => rfl⟩
    | removal absent =>
      refine known.frame fun _ _ _ _ wanted _ => ⟨?_, fun _ => rfl⟩
      simp only [List.mem_singleton, forall_eq, Statement.reindexed?, ne_eq, Option.some.injEq]
      rintro rfl
      simp [wanted] at absent
    | rebuild _ rebuilds _ shape =>
      refine known.frame fun _ _ _ _ _ unrebuilt => ⟨fun st hst reindexed => ?_, ?_⟩
      · exact unrebuilt (shape.reindexes hst reindexed ▸ rebuilds)
      · rintro rfl
        exact absurd rebuilds unrebuilt
    | again _ rebuilds =>
      refine known.frame fun _ _ _ _ _ unrebuilt => ⟨by simp, ?_⟩
      rintro rfl
      exact absurd rebuilds unrebuilt
    | inPlace _ _ _ direct => exact known.inPlace hc moment direct

/-- While constraints are left as they are, the tables that stay and are not rebuilt do not lose a
column of an index. -/
def KeepsIndexColumns (c : Comparison) : Prop :=
  c.skipsConstraints = true → ∀ name old new, c.current.table? name = some old →
    c.target.table? name = some new → ¬ Rebuilds c name →
      ∀ i ∈ old.indexes, ∀ n ∈ i.columns, n ∈ new.columnNames

theorem dropsUnindexed_iff (hc : c.current.WellFormed) (ht : c.target.WellFormed)
    (hd : c.difference = .ok d) :
    (∀ before x after, d.changes = before ++ x :: after → DropsUnindexed c before x) ↔
      KeepsIndexColumns c := by
  have discovered := fun x => Comparison.mem_difference hc.toDistinct ht.toDistinct hd (x := x)
  constructor
  · intro h policy name old new held wanted unrebuilt i hi n hn
    by_contra gone
    obtain ⟨y, hy, rfl⟩ := List.mem_map.mp ((hc.toResolved.of_table? held).indexes i hi n hn)
    obtain ⟨before, after, heq⟩ := List.append_of_mem
      ((discovered _).mpr (discovers_dropColumn held wanted hy gone))
    refine h before _ after heq y rfl unrebuilt old held i hi (fun dropped => ?_) hn
    have course : c.course? name = some (old, new) := by rw [Comparison.course?, held, wanted]
    cases ((discovered _).mp (heq ▸ List.mem_append_left _ dropped)).needs course rfl with
    | dropIndex keeps => simp [policy] at keeps
  · rintro h before ⟨name, a⟩ after heq y rfl unrebuilt old held i hi still hn
    have moment := Comparison.moment_of_split hc.toDistinct ht.toDistinct hd heq
    obtain ⟨old', new, held', wanted, -, gone⟩ := of_dropColumn hc.toDistinct ht.toDistinct
      (moment.discovered _ (List.mem_append_right _ (List.mem_singleton_self _)))
    rw [held] at held'
    cases held'
    cases policy : c.skipsConstraints with
    | true => exact gone (h policy name old new held wanted unrebuilt i hi y.name hn)
    | false =>
      -- an index that goes away has been dropped by now, and one that stays has its columns
      by_cases stays : i ∈ new.indexes
      · exact gone ((ht.toResolved.of_table? wanted).indexes i stays y.name hn)
      · have course : c.course? name = some (old, new) := by rw [Comparison.course?, held, wanted]
        exact still (moment.reached (.part course (.dropIndex policy hi stays))
          (show 1 < 7 by decide))

theorem Script.unheld_iff (hc : c.current.WellFormed) (ht : c.target.WellFormed)
    (hd : c.difference = .ok d) {s done : Session} {generatedAt : String}
    {emitted : List Statement} (script : Script s c d generatedAt done emitted) :
    (indexWatch c.current).AdmitsAll c.current.ownedIndexes
        (bracketed (!done.progress.rebuilding.isEmpty) d.touchesForeignKeys emitted) ↔
      KeepsIndexColumns c := by
  rw [← dropsUnindexed_iff hc ht hd]
  exact ((indexWatch_keeps hc ht).script hc.toDistinct ht.toDistinct hd script
    fun p _ => indexesKnown_start p).1

/-- A script drops a column in place only when neither a key nor an index of its table holds it,
exactly if no table that is not rebuilt loses a column of an index while constraints are left as
they are. -/
theorem dropped_columns_unheld_iff (hc : c.current.WellFormed) (ht : c.target.WellFormed)
    (hd : c.difference = .ok d) (s : Session) (generatedAt : String) :
    ∃ done statements,
      s.Wrote generatedAt (context c d.changes) done statements ∧
      ((indexWatch c.current).AdmitsAll c.current.ownedIndexes statements ↔
        KeepsIndexColumns c) := by
  obtain ⟨done, emitted, script⟩ := exists_script hc ht hd s generatedAt
  exact ⟨done, _, script.wrote, script.unheld_iff hc ht hd⟩

end Sqlite

namespace Shop

open Sqlite (context)

/-! Orders get a wider number for their user, and keep the foreign key that they have. -/

def keepingConstraints : Comparison := { comparison with skipsConstraints := true }

theorem orders_own_columns :
    ∃ d done statements, keepingConstraints.difference = .ok d ∧
      (Session.start .sqlite (.ofName "shop")).Wrote "today" (context keepingConstraints d.changes) done
        statements ∧
      ∀ clause, .createTable clause ∈ statements → clause.OwnsColumns := by
  obtain ⟨g, -, -, -, hd⟩ := Comparison.difference_of_nodup (c := keepingConstraints) (by decide)
  obtain ⟨done, statements, wrote, owned_iff⟩ := Sqlite.created_tables_own_columns_iff
    (c := keepingConstraints) (by decide) (by decide) hd (.start .sqlite (.ofName "shop")) "today"
  refine ⟨_, done, statements, hd, wrote, owned_iff.mpr ?_⟩
  rintro - name old new held wanted
  have stays : ∀ e ∈ keepingConstraints.current.tables.entries,
      ∀ f ∈ keepingConstraints.target.tables.entries, e.1 = f.1 →
        ∀ k ∈ e.2.foreignKeys, ∀ n ∈ k.columns, n ∈ f.2.columnNames := by decide
  exact stays _ (Snapshot.table?_eq_some_iff.mp held) _ (Snapshot.table?_eq_some_iff.mp wanted) rfl

/-! Orders forget their user while constraints are left as they are. -/

def anonymousOrders : Table :=
  { orders with columns := [number "id"], indexes := [], foreignKeys := [] }

def anonymizing : Comparison :=
  ⟨.ofTables [users, orders], .ofTables [users, anonymousOrders], .neutral, true⟩

theorem forgotten_user_is_referred_from :
    anonymizing.current.WellFormed ∧ anonymizing.target.WellFormed ∧
      ∃ d done statements, anonymizing.difference = .ok d ∧
        (Session.start .sqlite (.ofName "shop")).Wrote "today" (context anonymizing d.changes) done
          statements ∧
        ¬ ∀ clause, .createTable clause ∈ statements → clause.OwnsColumns := by
  obtain ⟨g, -, -, -, hd⟩ := Comparison.difference_of_nodup (c := anonymizing) (by decide)
  obtain ⟨done, emitted, script⟩ := Sqlite.exists_script (c := anonymizing) (by decide) (by decide)
    hd (.start .sqlite (.ofName "shop")) "today"
  refine ⟨by decide, by decide, _, done, _, hd, script.wrote, fun owned => ?_⟩
  have keeps := (script.owned_iff (by decide) (by decide) hd).mp owned rfl "orders" orders
    anonymousOrders rfl rfl
  revert keeps
  decide

/-! Users lose their email, and the index of it. -/

def unreachableUsers : Table := { users with columns := [number "id"], indexes := [] }

def unmailing (skipsConstraints : Bool) : Comparison :=
  ⟨.ofTables [users], .ofTables [unreachableUsers], .neutral, skipsConstraints⟩

theorem email_dropped_after_index :
    ∃ d done statements, (unmailing false).difference = .ok d ∧
      (Session.start .sqlite (.ofName "shop")).Wrote "today" (context (unmailing false) d.changes) done
        statements ∧
      (Sqlite.indexWatch (unmailing false).current).AdmitsAll
        (unmailing false).current.ownedIndexes statements := by
  obtain ⟨g, -, -, -, hd⟩ := Comparison.difference_of_nodup (c := unmailing false) (by decide)
  obtain ⟨done, statements, wrote, unheld_iff⟩ := Sqlite.dropped_columns_unheld_iff
    (c := unmailing false) (by decide) (by decide) hd (.start .sqlite (.ofName "shop")) "today"
  refine ⟨_, done, statements, hd, wrote, unheld_iff.mpr ?_⟩
  rintro ⟨⟩

theorem unmailed_not_rebuilt : ¬ Sqlite.Rebuilds (unmailing true) "users" := by
  rintro ⟨-, -, a, ha, needs⟩
  have only : (unmailing true).changes =
      [⟨"users", .dropColumn ⟨"email", .string, some 255, none, true, none, [], none⟩⟩] := by decide
  rw [← Comparison.mem_changes (by decide) (by decide), only, List.mem_singleton] at ha
  rw [ha] at needs
  revert needs
  decide

/-- The index of a column that is dropped is still there while constraints are left as they are. -/
theorem email_dropped_under_index :
    (unmailing true).current.WellFormed ∧ (unmailing true).target.WellFormed ∧
      ∃ d done statements, (unmailing true).difference = .ok d ∧
        (Session.start .sqlite (.ofName "shop")).Wrote "today" (context (unmailing true) d.changes) done
          statements ∧
        ¬ (Sqlite.indexWatch (unmailing true).current).AdmitsAll
          (unmailing true).current.ownedIndexes statements := by
  obtain ⟨g, -, -, -, hd⟩ := Comparison.difference_of_nodup (c := unmailing true) (by decide)
  obtain ⟨done, emitted, script⟩ := Sqlite.exists_script (c := unmailing true) (by decide)
    (by decide) hd (.start .sqlite (.ofName "shop")) "today"
  refine ⟨by decide, by decide, _, done, _, hd, script.wrote, fun unheld => ?_⟩
  have keeps := (script.unheld_iff (by decide) (by decide) hd).mp unheld rfl "users" users
    unreachableUsers rfl rfl unmailed_not_rebuilt
  revert keeps
  decide

end Shop

end SchemaMigration
