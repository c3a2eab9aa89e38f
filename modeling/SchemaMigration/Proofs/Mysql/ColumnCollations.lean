import SchemaMigration.Proofs.Mysql.TableOptions

/-!
The collations of MySQL columns. Columns are added and modified before their table is converted, and
each of these statements gives a column the collation of its definition. A conversion comes last,
and what it gives to the columns of its table stays.
-/

namespace SchemaMigration.Comparison

variable {c : Comparison} {change : Change} {old new : Table} {y : Column}

/-- A change to a column that the new table has adds it, or gives it its whole definition again. -/
theorem at_column_cases (h : change ∈ c.columnChanges old new y) :
    (old.column? y.name = none ∧ change = ⟨new.name, .addColumn y⟩) ∨
      ((old.column? y.name).isSome ∧ change.table = new.name ∧
        Mysql.rewritten? change.action = some y) := by
  unfold columnChanges at h
  split at h
  · next absent => exact .inl ⟨absent, List.mem_singleton.mp h⟩
  · next z present =>
    refine .inr ⟨by rw [present]; rfl, ?_⟩
    rcases List.mem_append.mp h with h | h
    · split at h
      · cases h
      · rw [List.mem_singleton.mp h]
        exact ⟨rfl, rfl⟩
    · split at h
      · cases h
      · rw [List.mem_singleton.mp h]
        exact ⟨rfl, rfl⟩

theorem phase_of_mem_columnChanges (h : change ∈ c.columnChanges old new y) : change.phase < 6 := by
  rcases columnChanges_cases h with rfl | ⟨z, rfl | rfl⟩
  · exact (by decide : 3 < 6)
  · exact (by decide : 4 < 6)
  · exact (by decide : 5 < 6)

/-- Without a change, a column had its type before. -/
theorem sameType_of_columnChanges_nil (h : c.columnChanges old new y = []) :
    ∃ z, old.column? y.name = some z ∧ c.sameType z y = true := by
  unfold columnChanges at h
  split at h
  · cases h
  · next z found =>
    refine ⟨z, found, ?_⟩
    by_contra differs
    rw [if_neg differs] at h
    cases h

theorem mem_columnChanges_of_place (hc : c.current.ColumnsNamed) (ht : c.target.ColumnsNamed)
    {name : String} (hold : c.current.table? name = some old)
    (hnew : c.target.table? name = some new) (hy : y ∈ new.columns) :
    (change ∈ c.changes ∧ change.place? = some (name, y.name)) ↔
      change ∈ c.columnChanges old new y := by
  have distinct := ht.columns _ (Snapshot.table?_eq_some_iff.mp hnew)
  have found : new.column? y.name = some y := (find?_key_eq_some_iff distinct).mpr ⟨hy, rfl⟩
  have course : c.placeCourse (name, y.name) = c.columnChanges old new y := by
    simp only [placeCourse, hold, hnew, columnCourse, found]
  rw [← course, ← changes_at hc ht, List.mem_filter, decide_eq_true_eq]

end SchemaMigration.Comparison

namespace SchemaMigration.Mysql

open Emission Comparison

variable {server : Server} {c : Comparison} {x : Context} {m : Progress × Snapshot}
  {change : Change} {changes : List Change} {name collation : String} {old new t : Table}
  {y : Column}

structure Collated (y : Column) (collation : String) : Prop where
  text : isText y.type = true
  given : Text.nonempty? y.collation = some collation

/-- A table has a column, with the type of its definition and some collation. -/
def Holds (t : Table) (y : Column) (collation : String) : Prop :=
  ∃ z, t.column? y.name = some z ∧ z.type = y.type ∧ z.collation = some collation

def Has (name : String) (y : Column) (collation : String) (s : Snapshot) : Prop :=
  ∃ t, s.table? name = some t ∧ Holds t y collation

def conversion? (server : Server) (old new : Table) : Option String :=
  if SameOptions old new then none
  else (Text.nonempty? new.charset).map fun charset => server.chosen charset new.collation

theorem Holds.of_column? {after : Table} (h : Holds t y collation)
    (same : after.column? y.name = t.column? y.name) : Holds after y collation := by
  unfold Holds
  rw [same]
  exact h

theorem holds_kept {after : Table} (collated : Collated y collation)
    (found : after.column? y.name = some (kept t y)) : Holds after y collation :=
  ⟨_, found, rfl, collation_kept collated.text collated.given⟩

/-! ### Changes to one column -/

theorem advanceAll_reaches {P G : Progress × Snapshot → Prop}
    (safe : ∀ change ∈ changes, ∀ m, P m → P (advance server x m change))
    (stays : ∀ change ∈ changes, ∀ m, G m → G (advance server x m change))
    (made : ∃ change ∈ changes, ∀ m, P m → G (advance server x m change)) (h : P m) :
    G (advanceAll server x m changes) := by
  obtain ⟨change, mem, made⟩ := made
  obtain ⟨before, after, rfl⟩ := List.append_of_mem mem
  simp only [List.forall_mem_append, List.forall_mem_cons] at safe stays
  rw [advanceAll_append]
  show G (advanceAll server x (advance server x _ change) after)
  exact advanceAll_keeps stays.2.2 (made _ (advanceAll_keeps safe.1 h))

theorem partStatements_of_rewritten {a : Action} (h : rewritten? a = some y) (p : Progress) :
    partStatements p name a =
      if p.restated.contains (name, y.name) then []
      else [.modifyColumn name (.declared .mysql y)] := by
  cases a with
  | alterColumnType | alterColumnNullDefault =>
    cases h
    rfl
  | _ => cases h

def Untouched (name : String) (old : Table) (y : Column) (m : Progress × Snapshot) (t : Table) :
    Prop :=
  t.column? y.name = old.column? y.name ∧ (name, y.name) ∉ m.1.restated

/-- A column is as it was, or has its collation already. -/
def Open (name : String) (old : Table) (y : Column) (collation : String)
    (m : Progress × Snapshot) : Prop :=
  ∃ t, m.2.table? name = some t ∧ (Holds t y collation ∨ Untouched name old y m t)

/-- A change elsewhere leaves a column of a table that stays as it is, if it does not alter that
table. -/
theorem advance_elsewhere (server : Server) (dialect : x.dialect = .mysql) (informs : c.Informs x)
    (mem : change ∈ x.changes) (hold : c.current.table? name = some old)
    (hnew : c.target.table? name = some new) (own : change ≠ ⟨name, .alterTable old new⟩)
    (elsewhere : change.place? ≠ some (name, y.name)) (held : m.2.table? name = some t) :
    ∃ after, (advance server x m change).2.table? name = some after ∧
      after.column? y.name = t.column? y.name ∧
      ((name, y.name) ∈ (advance server x m change).1.restated ↔
        (name, y.name) ∈ m.1.restated) := by
  obtain ⟨after, hafter, leaves⟩ := leaves_advance server dialect informs mem hold hnew own held
  refine ⟨after, hafter, leaves.columns y.name elsewhere, ?_⟩
  refine (mem_restated_emit dialect).trans (or_iff_left ?_)
  rintro ⟨z, rewrites, place⟩
  apply elsewhere
  obtain ⟨table, a⟩ := change
  cases a with
  | alterColumnType | alterColumnNullDefault =>
    cases rewrites
    rw [place]
    rfl
  | _ => cases rewrites

/-- A change to a column gives it the collation of its definition. -/
theorem advance_at_column (server : Server) (dialect : x.dialect = .mysql) (informs : c.Informs x)
    (mem : change ∈ x.changes) (collated : Collated y collation)
    (title : new.name = name) (told : change ∈ c.columnChanges old new y)
    (h : Open name old y collation m) : Has name y collation (advance server x m change).2 := by
  obtain ⟨t, held, start⟩ := h
  have titled := titled_of_mem_changes informs.currentNamed informs.targetNamed
    ((informs.changes _).mp mem)
  have sound := informs.sound mem
  have named : (ColumnClause.declared .mysql y).column.name = y.name := rfl
  rcases at_column_cases told with ⟨absent, rfl⟩ | ⟨present, about, rewrites⟩
  · subst title
    refine ⟨_, table?_advance_part dialect sound titled rfl held, ?_⟩
    have added := column?_addColumn server t new.name (.declared .mysql y) y.name
    rcases start with ⟨z, found, type, own⟩ | ⟨same, -⟩
    · rw [found] at added
      exact ⟨z, added, type, own⟩
    · rw [same, absent, Option.none_or, if_pos named] at added
      exact holds_kept collated added
  · obtain ⟨table, a⟩ := change
    obtain rfl : table = name := about.trans title
    have part : a.isPart = true := by
      cases a with
      | createTable | dropTable => cases rewrites
      | _ => rfl
    refine ⟨_, table?_advance_part dialect sound titled part held, ?_⟩
    rw [partStatements_of_rewritten rewrites]
    have modified := column?_modifyColumn server t table (.declared .mysql y) y.name
    split
    · next restated =>
      rw [List.contains_iff_mem] at restated
      exact start.resolve_right fun untouched => untouched.2 restated
    · obtain ⟨z, found⟩ : ∃ z, t.column? y.name = some z := by
        rcases start with ⟨z, found, -⟩ | ⟨same, -⟩
        · exact ⟨z, found⟩
        · rw [same]
          exact Option.isSome_iff_exists.mp present
      rw [found, Option.map_some, if_pos named.symm] at modified
      exact holds_kept collated modified

/-! ### Conversions -/

theorem column?_altered (server : Server) (old new t : Table) (n : String) :
    (altered server old new t).column? n =
      match conversion? server old new with
      | some collation => (t.column? n).map (converted collation)
      | none => t.column? n := by
  unfold altered conversion?
  dsimp only
  split
  · rfl
  · cases Text.nonempty? new.charset with
    | none => rfl
    | some charset =>
      exact Table.column?_mapColumns t (name_converted (server.chosen charset new.collation)) n

/-- An alteration converts the columns of texts, if it converts at all. -/
theorem holds_altered (server : Server) (old new : Table) (text : isText y.type = true)
    (h : Holds t y collation) :
    Holds (altered server old new t) y ((conversion? server old new).getD collation) := by
  obtain ⟨z, found, type, own⟩ := h
  have after := column?_altered server old new t y.name
  rw [found] at after
  cases chosen : conversion? server old new with
  | none =>
    rw [chosen] at after
    exact ⟨z, after, type, own⟩
  | some collation =>
    rw [chosen] at after
    refine ⟨converted collation z, after, (type_converted collation z).trans type, ?_⟩
    · rw [← type] at text
      rw [converted, if_pos text]
      rfl

theorem conversion?_of_unaltered (compares : c.rules.comparesCollations = true)
    (ht : c.target.TablesNamed) (hold : c.current.table? name = some old)
    (hnew : c.target.table? name = some new)
    (unaltered : ⟨name, .alterTable old new⟩ ∉ c.changes) : conversion? server old new = none := by
  rw [alterTable_mem_changes_iff ht] at unaltered
  have same : SameOptions old new := by
    by_contra differs
    refine unaltered ⟨hold, hnew, fun h => differs ?_⟩
    simpa [Comparison.sameOptions, compares, SameOptions] using h.2
  exact if_pos same

/-! ### A column of a table that stays -/

section Stays

variable (server) (dialect : x.dialect = .mysql) (informs : c.Informs x)
  (hc : c.current.ColumnsNamed) (ht : c.target.ColumnsNamed)
  (hold : c.current.table? name = some old) (hnew : c.target.table? name = some new)
  (hy : y ∈ new.columns) (collated : Collated y collation)

include dialect informs hc ht hold hnew hy collated

theorem has_advance_at_column (listed : change ∈ x.changes)
    (here : change.place? = some (name, y.name)) (h : Open name old y collation m) :
    Has name y collation (advance server x m change).2 := by
  have title : new.name = name := informs.targetNamed.name_of_table? hnew
  have told := (mem_columnChanges_of_place hc ht hold hnew hy).mp
    ⟨(informs.changes change).mp listed, here⟩
  exact advance_at_column server dialect informs listed collated title told h

/-- What holds of a column is kept elsewhere, and holds again after each change here. -/
theorem has_advance (listed : change ∈ x.changes) (own : change ≠ ⟨name, .alterTable old new⟩)
    (h : Has name y collation m.2) : Has name y collation (advance server x m change).2 := by
  obtain ⟨t, held, holds⟩ := h
  by_cases here : change.place? = some (name, y.name)
  · exact has_advance_at_column server dialect informs hc ht hold hnew hy collated listed here
      ⟨t, held, .inl holds⟩
  · obtain ⟨after, hafter, same, -⟩ :=
      advance_elsewhere server dialect informs listed hold hnew own here held
    exact ⟨after, hafter, holds.of_column? same⟩

theorem open_advance (listed : change ∈ x.changes) (own : change ≠ ⟨name, .alterTable old new⟩)
    (h : Open name old y collation m) :
    Open name old y collation (advance server x m change) := by
  by_cases here : change.place? = some (name, y.name)
  · obtain ⟨after, hafter, holds⟩ :=
      has_advance_at_column server dialect informs hc ht hold hnew hy collated listed here h
    exact ⟨after, hafter, .inl holds⟩
  · obtain ⟨t, held, start⟩ := h
    obtain ⟨after, hafter, same, restated⟩ :=
      advance_elsewhere server dialect informs listed hold hnew own here held
    refine ⟨after, hafter, start.imp (·.of_column? same) fun untouched => ?_⟩
    exact ⟨same.trans untouched.1, fun h => untouched.2 (restated.mp h)⟩

/-- Changes that do not alter the table, but are all that there are to the column, give it its
collation. -/
theorem has_of_column_changes (compares : c.rules.comparesCollations = true)
    (listed : ∀ change ∈ changes, change ∈ x.changes)
    (own : ⟨name, .alterTable old new⟩ ∉ changes)
    (all : ∀ change ∈ c.columnChanges old new y, change ∈ changes) :
    Has name y collation (advanceAll server x (.start, c.current) changes).2 := by
  have other : ∀ change ∈ changes, change ≠ ⟨name, .alterTable old new⟩ :=
    fun change mem same => own (same ▸ mem)
  have stays : ∀ change ∈ changes, ∀ m, Has name y collation m.2 →
      Has name y collation (advance server x m change).2 := fun change mem m =>
    has_advance server dialect informs hc ht hold hnew hy collated (listed change mem)
      (other change mem)
  cases told : c.columnChanges old new y with
  | nil =>
    -- the two definitions of the column are the same, so it had its collation before
    refine advanceAll_keeps (P := fun m => Has name y collation m.2) stays ⟨old, hold, ?_⟩
    obtain ⟨z, found, same⟩ := sameType_of_columnChanges_nil told
    obtain ⟨type, -, -, -, collations⟩ := sameType_iff.mp same
    refine ⟨z, found, type, ?_⟩
    rw [collations compares]
    exact (Text.nonempty?_eq_some_iff.mp collated.given).1
  | cons change rest =>
    have first : change ∈ c.columnChanges old new y := told ▸ List.mem_cons_self
    obtain ⟨-, here⟩ := (mem_columnChanges_of_place hc ht hold hnew hy).mpr first
    refine advanceAll_reaches (P := Open name old y collation)
      (G := fun m => Has name y collation m.2) ?_ stays ⟨change, all change first, ?_⟩
      ⟨old, hold, .inr ⟨rfl, List.not_mem_nil⟩⟩
    · intro change mem m
      exact open_advance server dialect informs hc ht hold hnew hy collated (listed change mem)
        (other change mem)
    · intro m
      exact has_advance_at_column server dialect informs hc ht hold hnew hy collated
        (listed change (all change first)) here

/-- After a conversion, columns keep what it gave to them. -/
theorem has_after_alteration {chosen : String} (listed : ∀ change ∈ changes, change ∈ x.changes)
    (late : ∀ change ∈ changes, 6 ≤ change.phase)
    (settled : (conversion? server old new).getD chosen = chosen)
    (h : Has name y chosen m.2) : Has name y chosen (advanceAll server x m changes).2 := by
  refine advanceAll_keeps (P := fun m => Has name y chosen m.2) ?_ h
  rintro change mem m ⟨t, held, holds⟩
  by_cases own : change = ⟨name, .alterTable old new⟩
  · subst own
    have once_more := table?_advance_alterTable server dialect informs (listed _ mem) held
    have converted_again := holds_altered server old new collated.text holds
    rw [settled] at converted_again
    exact ⟨_, once_more, converted_again⟩
  · have elsewhere : change.place? ≠ some (name, y.name) := by
      intro here
      have told := (mem_columnChanges_of_place hc ht hold hnew hy).mp
        ⟨(informs.changes change).mp (listed change mem), here⟩
      exact absurd (phase_of_mem_columnChanges told) (Nat.not_lt.mpr (late change mem))
    obtain ⟨next, hnext, same, -⟩ :=
      advance_elsewhere server dialect informs (listed change mem) hold hnew own elsewhere held
    exact ⟨next, hnext, holds.of_column? same⟩

/-- After all changes a column has the collation of its definition, unless its table was
converted. -/
theorem has_of_stays (compares : c.rules.comparesCollations = true)
    (sorted : x.changes.Pairwise fun a b => a.phase ≤ b.phase) :
    Has name y ((conversion? server old new).getD collation)
      (advanceAll server x (.start, c.current) x.changes).2 := by
  have discovered : ∀ change ∈ c.columnChanges old new y, change ∈ x.changes := by
    intro change h
    obtain ⟨mem, -⟩ := (mem_columnChanges_of_place hc ht hold hnew hy).mpr h
    exact (informs.changes change).mpr mem
  by_cases mem : ⟨name, .alterTable old new⟩ ∈ x.changes
  · obtain ⟨before, after, hsplit, fresh, -, late⟩ := Change.exists_split sorted mem
    have listed : ∀ y ∈ before ++ ⟨name, .alterTable old new⟩ :: after, y ∈ x.changes :=
      fun y hy => hsplit ▸ hy
    rw [List.forall_mem_append, List.forall_mem_cons] at listed
    have all : ∀ change ∈ c.columnChanges old new y, change ∈ before := by
      intro change h
      have early := phase_of_mem_columnChanges h
      have hmem := discovered change h
      rw [hsplit] at hmem
      refine (List.mem_append.mp hmem).resolve_right fun tail => ?_
      rcases List.mem_cons.mp tail with rfl | tail
      · exact absurd early (by decide : ¬ (6 < 6))
      · exact absurd early (Nat.not_lt.mpr (late change tail))
    obtain ⟨t, held, holds⟩ := has_of_column_changes server dialect informs hc ht hold hnew hy
      collated compares listed.1 fresh all
    have at_turn := table?_advance_alterTable server dialect informs mem held
    rw [hsplit, advanceAll_append, advanceAll_cons]
    apply has_after_alteration server dialect informs hc ht hold hnew hy collated listed.2.2 late
    · cases conversion? server old new <;> rfl
    · exact ⟨_, at_turn, holds_altered server old new collated.text holds⟩
  · rw [conversion?_of_unaltered compares informs.targetNamed hold hnew
      fun h => mem ((informs.changes _).mpr h)]
    exact has_of_column_changes server dialect informs hc ht hold hnew hy collated compares
      (fun _ h => h) mem discovered

end Stays

/-! ### A column of a new table -/

theorem column?_created (server : Server) (t : Table) :
    ∃ bare, ∀ n, (created server (t.clause .mysql)).column? n = (t.column? n).map (kept bare) := by
  refine ⟨created server { t.clause .mysql with columns := [] }, fun n => ?_⟩
  rw [← Table.column?_mapColumns t (name_kept _)]
  show ((t.columns.map (ColumnClause.declared .mysql)).map _).find? _ = _
  rw [List.map_map]
  rfl

theorem holds_created (server : Server) (distinct : new.columnNames.Nodup) (hy : y ∈ new.columns)
    (collated : Collated y collation) : Holds (created server (new.clause .mysql)) y collation := by
  obtain ⟨bare, columns⟩ := column?_created server new
  have found : new.column? y.name = some y := (find?_key_eq_some_iff distinct).mpr ⟨hy, rfl⟩
  refine holds_kept (t := bare) collated ?_
  rw [columns, found]
  rfl

/-- A column of a new table has the collation of its definition after all changes. -/
theorem has_of_created (server : Server) (dialect : x.dialect = .mysql) (informs : c.Informs x)
    (ht : c.target.ColumnsNamed) (hnone : c.current.table? name = none)
    (hnew : c.target.table? name = some new) (hy : y ∈ new.columns)
    (collated : Collated y collation) :
    Has name y collation (advanceAll server x (.start, c.current) x.changes).2 := by
  have title : new.name = name := informs.targetNamed.name_of_table? hnew
  have creates : ⟨name, .createTable new⟩ ∈ x.changes := (informs.changes _).mpr
    ((createTable_mem_changes_iff informs.currentNamed informs.targetNamed).mpr ⟨hnone, hnew⟩)
  have makes (m : Progress × Snapshot) :
      Has name y collation (advance server x m ⟨name, .createTable new⟩).2 :=
    ⟨_, table?_advance_createTable dialect (informs.sound creates) title,
      holds_created server (ht.columns _ (Snapshot.table?_eq_some_iff.mp hnew)) hy collated⟩
  refine advanceAll_reaches (P := fun _ => True) (G := fun m => Has name y collation m.2)
    (fun _ _ _ _ => trivial) ?_ ⟨_, creates, fun m _ => makes m⟩ trivial
  rintro change mem m ⟨t, held, holds⟩
  have discovered := (informs.changes change).mp mem
  have titled := titled_of_mem_changes informs.currentNamed informs.targetNamed discovered
  have sound := informs.sound mem
  by_cases about : change.table = name
  · rw [mem_changes_iff_of_table informs.currentNamed informs.targetNamed, about, changesOf, hnone,
      hnew] at discovered
    rcases List.mem_cons.mp discovered with rfl | additions
    · rw [title]
      exact makes m
    · -- what comes with a new table, indexes and foreign keys, is about no column
      have plain : change.action.isPart = true ∧ change.action.column? = none ∧
          ∀ first second, change.action ≠ .alterTable first second := by
        split at additions
        · cases additions
        · simp only [List.mem_append, List.mem_map] at additions
          rcases additions with ⟨_, -, rfl⟩ | ⟨_, -, rfl⟩ <;>
            exact ⟨rfl, rfl, fun _ _ h => by cases h⟩
      obtain ⟨table, a⟩ := change
      obtain rfl : table = name := about
      obtain ⟨part, unplaced, own⟩ := plain
      refine ⟨_, table?_advance_part dialect sound titled part held, holds.of_column? ?_⟩
      apply (leaves_partStatements own m.1).columns
      rintro ⟨z, hz, -⟩
      rw [unplaced] at hz
      cases hz
  · exact ⟨t, (table?_advance_of_ne dialect sound titled about).trans held, holds⟩

/-! ### All columns -/

/-- The columns of texts whose definitions name a collation have it. -/
def Collates (target s : Snapshot) : Prop :=
  ∀ name new, target.table? name = some new → ∀ y ∈ new.columns, ∀ collation,
    Collated y collation → Has name y collation s

theorem Has.collation_unique {s : Snapshot} {first second : String} (h : Has name y first s)
    (k : Has name y second s) : first = second := by
  obtain ⟨t, held, z, found, -, own⟩ := h
  obtain ⟨t', held', z', found', -, own'⟩ := k
  cases held.symm.trans held'
  cases found.symm.trans found'
  exact Option.some.inj (own.symm.trans own')

/-- The columns of texts have the collations that their definitions name after all changes exactly
if the tables that are converted are converted to them. -/
theorem collates_iff (server : Server) (dialect : x.dialect = .mysql) (informs : c.Informs x)
    (hc : c.current.ColumnsNamed) (ht : c.target.ColumnsNamed)
    (compares : c.rules.comparesCollations = true)
    (sorted : x.changes.Pairwise fun a b => a.phase ≤ b.phase) :
    Collates c.target (advanceAll server x (.start, c.current) x.changes).2 ↔
      ∀ name old new, c.current.table? name = some old → c.target.table? name = some new →
        ∀ chosen ∈ conversion? server old new, ∀ y ∈ new.columns, ∀ collation,
          Collated y collation → collation = chosen := by
  have stays {name : String} {old new : Table} {y : Column} {collation : String}
      (hold : c.current.table? name = some old) (hnew : c.target.table? name = some new)
      (hy : y ∈ new.columns) (collated : Collated y collation) :
      Has name y ((conversion? server old new).getD collation)
        (advanceAll server x (.start, c.current) x.changes).2 :=
    has_of_stays server dialect informs hc ht hold hnew hy collated compares sorted
  constructor
  · intro collates name old new hold hnew chosen hchosen y hy collation collated
    have after := stays hold hnew hy collated
    rw [Option.mem_def.mp hchosen] at after
    exact (collates name new hnew y hy collation collated).collation_unique after
  · intro agrees name new hnew y hy collation collated
    cases hold : c.current.table? name with
    | none => exact has_of_created server dialect informs ht hold hnew hy collated
    | some old =>
      have after := stays hold hnew hy collated
      cases chosen : conversion? server old new with
      | none =>
        rw [chosen] at after
        exact after
      | some other =>
        rw [chosen] at after
        rw [agrees name old new hold hnew other chosen y hy collation collated]
        exact after

/-- After the statements of a difference, the columns of texts have the collations that their
definitions name exactly if no table is converted to another collation than theirs. -/
theorem collations_survive_iff (server : Server) (skips : Bool) {schema : Schema}
    {current : Snapshot} (named : current.ColumnsNamed)
    (valid : Dialect.mysql.rules.validate schema = .ok ()) :
    ∃ target, Dialect.mysql.projection.project schema = .ok target ∧
      ∀ d, (Comparison.mk current target Dialect.mysql.rules skips).difference = .ok d →
        (∃ table k, d.DropsUnnamed table k) ∨
          ∃ statements,
            (Emission.body ⟨.mysql, current, target, d.changes, skips⟩ .start).2 =
              .of statements ∧
            (Collates target (run server current statements) ↔
              ∀ name old new, current.table? name = some old → target.table? name = some new →
                ∀ chosen ∈ conversion? server old new, ∀ y ∈ new.columns, ∀ collation,
                  Collated y collation → collation = chosen) := by
  obtain ⟨target, projected, -⟩ := Projection.snapshot_ok (p := Dialect.mysql.projection) valid
  have complete := Projection.projects_of_snapshot projected
  refine ⟨target, by rw [Projection.project, projected]; rfl, fun d hd => ?_⟩
  have typed : target.Typed := fun entry hentry y hy =>
    ((complete.tables entry hentry).columns y hy).typed
  have informs := informs_of_difference (c := ⟨current, target, Dialect.mysql.rules, skips⟩)
    named.named complete.named typed hd .mysql
  rcases body_cases rfl informs with ⟨dropped, -⟩ | ⟨statements, written, leads⟩
  · exact .inl dropped
  · refine .inr ⟨statements, written, ?_⟩
    have sorted : d.changes.Pairwise fun a b => a.phase ≤ b.phase := by
      rw [changes_of_difference hd]
      exact sorted_ordered _
    rw [← leads server current]
    exact collates_iff server rfl informs named complete.columnsNamed rfl sorted

end SchemaMigration.Mysql

/-! A shop that changes the character set of its notes. -/

namespace SchemaMigration.Shop

def collatedNotebook (collation : String) : Schema :=
  { Schema.ofName "shop" with
    tables := [
      { name := "notes"
        columns := [⟨"body", "VARCHAR", some 255, none, true, none, none, some collation⟩]
        primaryKey := []
        indexes := []
        foreignKeys := []
        charset := some "latin1"
        collation := none }] }

def noteBody (collation : String) : Column :=
  ⟨"body", .string, some 255, none, true, none, [], some collation⟩

def collatedNotes (collation : String) : Table :=
  { latinNotes with columns := [noteBody collation] }

def collating (collation : String) : Comparison :=
  ⟨.ofTables [unicodeNotes], .ofTables [collatedNotes collation], Dialect.mysql.rules, false⟩

/-- The collation of the bodies is that of the notes. -/
theorem bodies_keep_collation_of_notes :
    Dialect.mysql.rules.validate (collatedNotebook "latin1_swedish_ci") = .ok () ∧
      (collating "latin1_swedish_ci").current.ColumnsNamed ∧
      ∃ d statements, (collating "latin1_swedish_ci").difference = .ok d ∧
        (Emission.body ⟨.mysql, (collating "latin1_swedish_ci").current,
          (collating "latin1_swedish_ci").target, d.changes, false⟩ .start).2 = .of statements ∧
        Mysql.Collates (collating "latin1_swedish_ci").target
          (Mysql.run server (collating "latin1_swedish_ci").current statements) := by
  have valid : Dialect.mysql.rules.validate (collatedNotebook "latin1_swedish_ci") = .ok () := rfl
  have named : (collating "latin1_swedish_ci").current.ColumnsNamed := ⟨by decide, by decide⟩
  have projected : Dialect.mysql.projection.project (collatedNotebook "latin1_swedish_ci") =
      .ok (collating "latin1_swedish_ci").target := rfl
  obtain ⟨g, -, -, -, hd⟩ :=
    Comparison.difference_of_nodup (c := collating "latin1_swedish_ci") (by decide)
  have hchanges := Comparison.changes_of_sorted hd (by decide)
  have keeps : ∀ x ∈ (collating "latin1_swedish_ci").changes, x.kind ≠ .dropForeignKey := by decide
  obtain ⟨target, made, survive⟩ := Mysql.collations_survive_iff server false named valid
  obtain rfl := Except.ok.inj (projected.symm.trans made)
  rcases survive _ hd with ⟨table, k, dropped, -⟩ | ⟨statements, written, collates⟩
  · rw [hchanges] at dropped
    exact absurd rfl (keeps _ dropped)
  · refine ⟨valid, named, _, statements, hd, written, collates.mpr ?_⟩
    intro name old new hold hnew chosen hchosen y hy collation collated
    have entries : (name, new) ∈ [("notes", collatedNotes "latin1_swedish_ci")] :=
      Snapshot.table?_eq_some_iff.mp hnew
    cases List.mem_singleton.mp entries
    cases hold
    cases hchosen
    cases List.mem_singleton.mp hy
    exact (Option.some.inj collated.given).symm

/-- The bodies get their collation first, and then lose it to the conversion of the notes. -/
theorem conversion_overrides_collation :
    Dialect.mysql.rules.validate (collatedNotebook "latin1_bin") = .ok () ∧
      Dialect.mysql.projection.project (collatedNotebook "latin1_bin") =
        .ok (collating "latin1_bin").target ∧
      (collating "latin1_bin").current.ColumnsNamed ∧
      ∃ d statements, (collating "latin1_bin").difference = .ok d ∧
        (Emission.body ⟨.mysql, (collating "latin1_bin").current, (collating "latin1_bin").target,
          d.changes, false⟩ .start).2 = .of statements ∧
        ¬ Mysql.Collates (collating "latin1_bin").target
          (Mysql.run server (collating "latin1_bin").current statements) := by
  obtain ⟨g, -, -, -, hd⟩ := Comparison.difference_of_nodup (c := collating "latin1_bin")
    (by decide)
  have hchanges := Comparison.changes_of_sorted hd (by decide)
  let statements : List Statement := [
    .modifyColumn "notes" ⟨noteBody "latin1_bin", "VARCHAR(255)"⟩,
    .convertCharset "notes" "latin1" (some "latin1_swedish_ci")]
  refine ⟨rfl, rfl, ⟨by decide, by decide⟩, _, statements, hd, ?_, ?_⟩
  · rw [hchanges]
    rfl
  · intro collates
    obtain ⟨t, held, z, found, -, own⟩ := collates "notes" (collatedNotes "latin1_bin") rfl
      (noteBody "latin1_bin") List.mem_cons_self "latin1_bin" ⟨rfl, rfl⟩
    cases held
    cases found
    exact absurd own (by decide)

end SchemaMigration.Shop
