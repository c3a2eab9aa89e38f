import SchemaMigration.Proofs.Midway

/-!
Keys and indexes never outlive what they mention. A key or an index that goes away is dropped before
any column or table is, and one that is new is added after all columns and tables are there, so
every snapshot between two changes is well-formed.
-/

namespace SchemaMigration

namespace Comparison

variable {c : Comparison} {done : List Change} {name : String} {start goal t : Table}

theorem course_of_current {old : Table} (h : c.current.table? name = some old)
    (course : c.course? name = some (start, goal)) : start = old := by
  cases course_cases course with
  | kept held _ => exact Option.some.inj (held.symm.trans h)
  | created absent _ =>
    rw [h] at absent
    cases absent
  | dropped held _ => exact Option.some.inj (held.symm.trans h)

theorem course_of_target {new : Table} (h : c.target.table? name = some new)
    (course : c.course? name = some (start, goal)) : goal = new := by
  cases course_cases course with
  | kept _ wanted => exact Option.some.inj (wanted.symm.trans h)
  | created _ wanted => exact Option.some.inj (wanted.symm.trans h)
  | dropped _ unwanted =>
    rw [h] at unwanted
    cases unwanted

theorem course_owns (hc : c.current.Resolved) (ht : c.target.Resolved)
    (course : c.course? name = some (start, goal)) : start.OwnsColumns ∧ goal.OwnsColumns := by
  cases course_cases course with
  | kept held wanted => exact ⟨hc.of_table? held, ht.of_table? wanted⟩
  | created _ wanted =>
    have owns := ht.of_table? wanted
    exact ⟨⟨owns.primaryKey, fun _ h => absurd h List.not_mem_nil,
      fun _ h => absurd h List.not_mem_nil⟩, owns⟩
  | dropped held _ =>
    have owns := hc.of_table? held
    exact ⟨owns, owns.primaryKey, owns.indexes, fun _ h => absurd h List.not_mem_nil⟩

theorem course_resolves (hc : c.current.Resolved) (ht : c.target.Resolved)
    (course : c.course? name = some (start, goal)) :
    (∀ k ∈ start.foreignKeys, c.current.Resolves k) ∧
      ∀ k ∈ goal.foreignKeys, c.target.Resolves k := by
  cases course_cases course with
  | kept held wanted => exact ⟨fun _ => hc.resolves held, fun _ => ht.resolves wanted⟩
  | created _ wanted =>
    exact ⟨fun _ h => absurd h List.not_mem_nil, fun _ => ht.resolves wanted⟩
  | dropped held _ =>
    exact ⟨fun _ => hc.resolves held, fun _ h => absurd h List.not_mem_nil⟩

/-! ### Columns that are there -/

theorem Moment.phase_le_of_pending (moment : c.Moment done) {a : Change} (ha : c.Discovers a)
    (pending : a ∉ done) {b : Change} (hb : b ∈ done) : b.phase ≤ a.phase := by
  by_contra hlt
  exact pending (moment.earlier b hb a ha (by omega))

/-- Why the columns that a key or an index mentions are there: they belong to both definitions, or
something is still to be done before the first column is dropped, or something has been done after
the last column was added. -/
inductive Secured (c : Comparison) (done : List Change) (start goal : Table)
    (names : List String) : Prop where
  | shared (old : ∀ n ∈ names, n ∈ start.columnNames) (new : ∀ n ∈ names, n ∈ goal.columnNames)
  | pending (old : ∀ n ∈ names, n ∈ start.columnNames) {a : Change} (discovered : c.Discovers a)
      (pending : a ∉ done) (early : a.phase < 7)
  | settled (new : ∀ n ∈ names, n ∈ goal.columnNames) {a : Change} (mem : a ∈ done)
      (late : 3 < a.phase)

theorem Secured.present {names : List String} (h : Secured c done start goal names)
    (moment : c.Moment done) (course : c.course? goal.name = some (start, goal))
    (hat : Table.At done start goal t) : ∀ n ∈ names, n ∈ t.columnNames := by
  have shared : ∀ n, n ∈ start.columnNames → n ∈ goal.columnNames → n ∈ t.columnNames := by
    intro n hs hg
    obtain ⟨x, hx, hxn⟩ := List.mem_map.mp hs
    obtain ⟨y, hy, hyn⟩ := List.mem_map.mp hg
    have kept := (moment.shared_column course hx hy (hxn.trans hyn.symm)).1
    exact hat.mem_columnNames.mpr (Or.inr ⟨x, hx, kept, hxn⟩)
  intro n hn
  cases h with
  | shared old new => exact shared n (old n hn) (new n hn)
  | pending old discovered pending early =>
    obtain ⟨x, hx, hxn⟩ := List.mem_map.mp (old n hn)
    refine hat.mem_columnNames.mpr (Or.inr ⟨x, hx, fun hdrop => ?_, hxn⟩)
    have hle : 7 ≤ _ := moment.phase_le_of_pending discovered pending hdrop
    omega
  | settled new mem late =>
    obtain ⟨y, hy, hyn⟩ := List.mem_map.mp (new n hn)
    by_cases hs : n ∈ start.columnNames
    · exact shared n hs (new n hn)
    · have hadd : c.Discovers ⟨goal.name, .addColumn y⟩ := .part course (.addColumn hy (hyn ▸ hs))
      have added := moment.earlier _ mem _ hadd late
      exact hat.mem_columnNames.mpr (Or.inl ⟨y, hy, added, hyn⟩)

/-! ### Keys and indexes of a table -/

theorem secured_primaryKey (hs : start.OwnsColumns) (hg : goal.OwnsColumns)
    (course : c.course? goal.name = some (start, goal)) (hat : Table.At done start goal t) :
    Secured c done start goal t.primaryKey := by
  rw [hat.primaryKey]
  split
  · next altered => exact .settled hg.primaryKey altered (show 3 < 6 by decide)
  · next unaltered =>
    by_cases same : start.primaryKey = goal.primaryKey
    · exact .shared hs.primaryKey (same ▸ hg.primaryKey)
    · have alters : c.Discovers ⟨goal.name, .alterTable start goal⟩ :=
        .part course (.alterTable fun e => absurd e same)
      exact .pending hs.primaryKey alters unaltered (show 6 < 7 by decide)

theorem secured_index (keeps : c.skipsConstraints = false) (hs : start.OwnsColumns)
    (hg : goal.OwnsColumns) (course : c.course? goal.name = some (start, goal))
    (hat : Table.At done start goal t) {i : Index} (hi : i ∈ t.indexes) :
    Secured c done start goal i.columns := by
  rcases (hat.indexes i).mp hi with ⟨new, added⟩ | ⟨old, undropped⟩
  · exact .settled (hg.indexes i new) added (show 3 < 9 by decide)
  · by_cases stays : i ∈ goal.indexes
    · exact .shared (hs.indexes i old) (hg.indexes i stays)
    · exact .pending (hs.indexes i old) (.part course (.dropIndex keeps old stays)) undropped
        (show 1 < 7 by decide)

/-- Why a foreign key is there: a key that does the same stays, or it is still to be dropped, or it
has been added. -/
theorem key_cases (keeps : c.skipsConstraints = false)
    (course : c.course? goal.name = some (start, goal)) (hat : Table.At done start goal t)
    {k : ForeignKey} (hk : k ∈ t.foreignKeys) :
    (k ∈ start.foreignKeys ∧ ∃ l ∈ goal.foreignKeys, l.signature = k.signature) ∨
      (k ∈ start.foreignKeys ∧ c.Discovers ⟨goal.name, .dropForeignKey k⟩ ∧
        ⟨goal.name, .dropForeignKey k⟩ ∉ done) ∨
      (k ∈ goal.foreignKeys ∧ ⟨goal.name, .addForeignKey k⟩ ∈ done) := by
  rcases (hat.foreignKeys k).mp hk with ⟨new, added⟩ | ⟨old, undropped⟩
  · exact Or.inr (Or.inr ⟨new, added⟩)
  · by_cases stays : k.signature ∈ goal.signatures
    · exact Or.inl ⟨old, List.mem_map.mp stays⟩
    · exact Or.inr (Or.inl ⟨old, .part course (.dropForeignKey keeps old stays), undropped⟩)

theorem secured_key (keeps : c.skipsConstraints = false) (hs : start.OwnsColumns)
    (hg : goal.OwnsColumns) (course : c.course? goal.name = some (start, goal))
    (hat : Table.At done start goal t) {k : ForeignKey} (hk : k ∈ t.foreignKeys) :
    Secured c done start goal k.columns := by
  rcases key_cases keeps course hat hk with ⟨old, l, hl, same⟩ | ⟨old, drops, undropped⟩ |
    ⟨new, added⟩
  · have columns : l.columns = k.columns := congrArg ForeignKey.Signature.columns same
    exact .shared (hs.foreignKeys k old) (columns ▸ hg.foreignKeys l hl)
  · exact .pending (hs.foreignKeys k old) drops undropped (show 0 < 7 by decide)
  · exact .settled (hg.foreignKeys k new) added (show 3 < 10 by decide)

/-! ### Keys to other tables -/

/-- The table that a foreign key refers to is there with all of the columns. -/
theorem secured_reference (hc : c.current.Resolved) (ht : c.target.Resolved)
    (keeps : c.skipsConstraints = false) (moment : c.Moment done)
    (course : c.course? goal.name = some (start, goal)) (hat : Table.At done start goal t)
    {k : ForeignKey} (hk : k ∈ t.foreignKeys) :
    c.Live done k.referencedTable ∧
      ∀ origin goal', c.course? k.referencedTable = some (origin, goal') →
        Secured c done origin goal' k.referencedColumns := by
  obtain ⟨old_resolves, new_resolves⟩ := course_resolves hc ht course
  rcases key_cases keeps course hat hk with ⟨old, l, hl, same⟩ | ⟨old, drops, undropped⟩ |
    ⟨new, added⟩
  · obtain ⟨u, hu, hcolumns⟩ := Snapshot.resolves_iff.mp (old_resolves k old)
    obtain ⟨v, hv, hcolumns'⟩ := Snapshot.resolves_iff.mp (new_resolves l hl)
    rw [show l.referencedTable = k.referencedTable from
      congrArg ForeignKey.Signature.referencedTable same] at hv
    rw [show l.referencedColumns = k.referencedColumns from
      congrArg ForeignKey.Signature.referencedColumns same] at hcolumns'
    refine ⟨live_of_both moment hu hv, fun origin goal' course' => ?_⟩
    obtain rfl := course_of_current hu course'
    obtain rfl := course_of_target hv course'
    exact .shared hcolumns hcolumns'
  · obtain ⟨u, hu, hcolumns⟩ := Snapshot.resolves_iff.mp (old_resolves k old)
    refine ⟨⟨Or.inl (by simp [hu]), fun t hdrop => ?_⟩, fun origin goal' course' => ?_⟩
    · exact absurd (moment.phase_le_of_pending drops undropped hdrop) (show ¬ 8 ≤ 0 by decide)
    · obtain rfl := course_of_current hu course'
      exact .pending hcolumns drops undropped (show 0 < 7 by decide)
  · obtain ⟨v, hv, hcolumns⟩ := Snapshot.resolves_iff.mp (new_resolves k new)
    refine ⟨?_, fun origin goal' course' => ?_⟩
    · cases hu : c.current.table? k.referencedTable with
      | some u => exact live_of_both moment hu hv
      | none =>
        exact live_of_created moment
          (moment.earlier _ added _ (.creation hu hv) (show 2 < 10 by decide))
    · obtain rfl := course_of_target hv course'
      exact .settled hcolumns added (show 3 < 10 by decide)

/-- Between two changes, nothing mentions what is not there. -/
theorem Midway.wellFormed (hc : c.current.WellFormed) (ht : c.target.WellFormed)
    (keeps : c.skipsConstraints = false) (moment : c.Moment done) {s : Snapshot}
    (h : c.Midway done s) : s.WellFormed := by
  have of_entry : ∀ entry ∈ s.tables.entries, ∃ start goal, goal.name = entry.1 ∧
      c.course? goal.name = some (start, goal) ∧ Table.At done start goal entry.2 := by
    intro entry hentry
    obtain ⟨-, start, goal, course, hat⟩ := h.of_table? (Snapshot.table?_eq_some_iff.mpr hentry)
    have hname := (course_distinct hc.toDistinct ht.toDistinct course).2.2.2
    exact ⟨start, goal, hname, hname.symm ▸ course, hat⟩
  refine ⟨⟨?_, ?_⟩, ⟨?_, ?_⟩⟩
  · intro entry hentry
    obtain ⟨start, goal, hname, -, hat⟩ := of_entry entry hentry
    exact hat.name.trans hname
  · intro entry hentry
    obtain ⟨start, goal, -, -, hat⟩ := of_entry entry hentry
    exact hat.distinct
  · intro entry hentry
    obtain ⟨start, goal, -, course, hat⟩ := of_entry entry hentry
    obtain ⟨hs, hg⟩ := course_owns hc.toResolved ht.toResolved course
    exact
      { primaryKey := (secured_primaryKey hs hg course hat).present moment course hat
        indexes := fun i hi => (secured_index keeps hs hg course hat hi).present moment course hat
        foreignKeys := fun k hk =>
          (secured_key keeps hs hg course hat hk).present moment course hat }
  · intro entry hentry k hk
    obtain ⟨start, goal, -, course, hat⟩ := of_entry entry hentry
    obtain ⟨alive, secured⟩ :=
      secured_reference hc.toResolved ht.toResolved keeps moment course hat hk
    obtain ⟨origin, goal', u, course', hu, hat'⟩ := h.live _ alive
    have hname := (course_distinct hc.toDistinct ht.toDistinct course').2.2.2
    rw [Snapshot.resolves_iff]
    refine ⟨u, hu, ?_⟩
    exact (secured origin goal' course').present moment (hname ▸ course') hat'

/-- Every change of a difference can be made when its turn comes, and the snapshot after any number
of them is well-formed: no foreign key refers to a missing table or column, and no key or index
holds a missing column. -/
theorem replay_wellFormed (hc : c.current.WellFormed) (ht : c.target.WellFormed)
    (keeps : c.skipsConstraints = false) {d : Difference} (hd : c.difference = .ok d)
    {done : List Change} (hdone : done <+: d.changes) :
    ∃ s, c.current.replay? done = some s ∧ s.WellFormed := by
  rw [changes_of_difference hd] at hdone
  have moment := moment_of_prefix hc.toDistinct ht.toDistinct hdone
  obtain ⟨s, hs, hmid⟩ := replay_midway hc.toDistinct ht.toDistinct moment
  exact ⟨s, hs, hmid.wellFormed hc ht keeps moment⟩

end Comparison

/-- Half of the way between the old orders and the new ones. -/
theorem Shop.replay_halfway :
    ∃ d s, comparison.difference = .ok d ∧
      comparison.current.replay? (d.changes.take 5) = some s ∧ s.WellFormed := by
  obtain ⟨g, -, -, -, hd⟩ := Comparison.difference_of_nodup (c := comparison) (by decide)
  obtain ⟨s, hs, hwell⟩ := Comparison.replay_wellFormed (c := comparison) (by decide) (by decide)
    rfl hd (List.take_prefix 5 _)
  exact ⟨_, s, hd, hs, hwell⟩

end SchemaMigration
