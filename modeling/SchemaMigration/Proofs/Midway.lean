import Mathlib.Data.List.Induction
import SchemaMigration.Proofs.PhaseOrder
import SchemaMigration.Proofs.Replay

/-!
The snapshots between the changes of a difference. After any number of its changes, a table is there
if it was there or has been created and has not been dropped, and what it consists of is known.
-/

namespace SchemaMigration

namespace Comparison

variable {c : Comparison}

def ordered (c : Comparison) : List Change :=
  c.changes.mergeSort fun a b => decide (a.phase ≤ b.phase)

theorem changes_numbered (seen : List String) (changes : List Change) :
    (numbered seen changes).map Step.change = changes := by
  induction changes generalizing seen with
  | nil => rfl
  | cons x rest ih => simp [numbered, ih]

theorem changes_of_difference {d : Difference} (h : c.difference = .ok d) :
    d.changes = c.ordered := by
  obtain ⟨-, -, -, hsteps⟩ := difference_ok h
  have hchanges : c.steps.map Step.change = c.changes := changes_numbered [] c.changes
  rw [Difference.changes, hsteps, ordered, ← hchanges]
  exact List.map_mergeSort fun a _ b _ => rfl

theorem mem_difference (hc : c.current.Distinct) (ht : c.target.Distinct) {d : Difference}
    (hd : c.difference = .ok d) {x : Change} : x ∈ d.changes ↔ c.Discovers x := by
  rw [changes_of_difference hd, ordered, List.mem_mergeSort, mem_changes hc ht]

theorem changes_of_sorted {d : Difference} (hd : c.difference = .ok d)
    (sorted : c.changes.Pairwise fun a b => a.phase ≤ b.phase) : d.changes = c.changes := by
  rw [changes_of_difference hd, ordered]
  exact List.mergeSort_of_pairwise (sorted.imp fun h => by simpa using h)

/-- What has been done at some moment of a difference. -/
structure Moment (c : Comparison) (done : List Change) : Prop where
  discovered : ∀ x ∈ done, c.Discovers x
  nodup : done.Nodup
  sorted : done.Pairwise fun a b => a.phase ≤ b.phase
  earlier : ∀ x ∈ done, ∀ a, c.Discovers a → a.phase < x.phase → a ∈ done

theorem phase_le_trans (a b d : Change) (h : decide (a.phase ≤ b.phase) = true)
    (k : decide (b.phase ≤ d.phase) = true) : decide (a.phase ≤ d.phase) = true := by
  simp only [decide_eq_true_eq] at *
  omega

theorem phase_le_total (a b : Change) :
    (decide (a.phase ≤ b.phase) || decide (b.phase ≤ a.phase)) = true := by
  simp only [Bool.or_eq_true, decide_eq_true_eq]
  omega

theorem sorted_ordered (c : Comparison) : c.ordered.Pairwise fun a b => a.phase ≤ b.phase :=
  (List.pairwise_mergeSort phase_le_trans phase_le_total c.changes).imp of_decide_eq_true

theorem moment_of_prefix (hc : c.current.Distinct) (ht : c.target.Distinct) {done : List Change}
    (h : done <+: c.ordered) : c.Moment done := by
  obtain ⟨rest, hrest⟩ := h
  have hmem : ∀ x, x ∈ done ++ rest ↔ c.Discovers x := by
    intro x
    rw [hrest, ordered, List.mem_mergeSort, mem_changes hc ht]
  have hnodup : (done ++ rest).Nodup := by
    rw [hrest]
    exact (List.mergeSort_perm _ _).nodup_iff.mpr (nodup_changes hc ht)
  have hsorted : (done ++ rest).Pairwise fun a b => a.phase ≤ b.phase := by
    rw [hrest]
    exact c.sorted_ordered
  obtain ⟨hdone, -, hbetween⟩ := List.pairwise_append.mp hsorted
  refine ⟨fun x hx => (hmem x).mp (List.mem_append_left _ hx),
    (List.nodup_append.mp hnodup).1, hdone, ?_⟩
  intro x hx a ha hlt
  rcases List.mem_append.mp ((hmem a).mpr ha) with hin | hin
  · exact hin
  · have := hbetween x hx a hin
    omega

theorem moment_of_split (hc : c.current.Distinct) (ht : c.target.Distinct) {d : Difference}
    (hd : c.difference = .ok d) {done rest : List Change} {x : Change}
    (hx : d.changes = done ++ x :: rest) : c.Moment (done ++ [x]) := by
  refine moment_of_prefix hc ht ⟨rest, ?_⟩
  rw [← changes_of_difference hd, hx, List.append_assoc, List.singleton_append]

namespace Moment

variable {done : List Change} {x : Change}

theorem fresh (h : c.Moment (done ++ [x])) : x ∉ done := fun hx =>
  (List.nodup_append.mp h.nodup).2.2 x hx x (List.mem_singleton_self x) rfl

theorem past (h : c.Moment (done ++ [x])) {b : Change} (hb : b ∈ done) : b.phase ≤ x.phase :=
  (List.pairwise_append.mp h.sorted).2.2 b hb x (List.mem_singleton_self x)

theorem reached (h : c.Moment (done ++ [x])) {a : Change} (ha : c.Discovers a)
    (hlt : a.phase < x.phase) : a ∈ done := by
  have hin := h.earlier x (List.mem_append_right _ (List.mem_singleton_self x)) a ha hlt
  rcases List.mem_append.mp hin with hin | hin
  · exact hin
  · rw [List.mem_singleton.mp hin] at hlt
    omega

/-- Whatever has been done before was done at some moment, too. -/
theorem of_append {rest : List Change} (h : c.Moment (done ++ rest)) : c.Moment done where
  discovered y hy := h.discovered y (List.mem_append_left _ hy)
  nodup := (List.nodup_append.mp h.nodup).1
  sorted := (List.pairwise_append.mp h.sorted).1
  earlier y hy a ha hlt := by
    rcases List.mem_append.mp (h.earlier y (List.mem_append_left _ hy) a ha hlt) with hin | hin
    · exact hin
    · have := (List.pairwise_append.mp h.sorted).2.2 y hy a hin
      omega

theorem before (h : c.Moment (done ++ [x])) : c.Moment done := h.of_append

end Moment

theorem Needs.isPart {start goal : Table} {a : Action} (h : c.Needs start goal a) :
    a.isPart = true := by
  cases h <;> rfl

theorem Discovers.needs {name : String} {a : Action} (h : c.Discovers ⟨name, a⟩)
    {start goal : Table} (course : c.course? name = some (start, goal)) (part : a.isPart = true) :
    c.Needs start goal a := by
  cases h with
  | creation => cases part
  | removal => cases part
  | part course' needs =>
    rw [course] at course'
    cases course'
    exact needs

theorem Discovers.of_createTable {name : String} {t : Table}
    (h : c.Discovers ⟨name, .createTable t⟩) :
    c.current.table? name = none ∧ c.target.table? name = some t := by
  cases h with
  | creation absent present => exact ⟨absent, present⟩
  | part _ needs => cases needs

theorem Discovers.of_dropTable {name : String} {t : Table} (h : c.Discovers ⟨name, .dropTable t⟩) :
    c.current.table? name = some t ∧ c.target.table? name = none := by
  cases h with
  | removal present absent => exact ⟨present, absent⟩
  | part _ needs => cases needs

section Part

variable {done : List Change} {name : String} {start goal t : Table} {a : Action}

/-- A column of both definitions is neither dropped nor added. -/
theorem Moment.shared_column (moment : c.Moment done)
    (course : c.course? goal.name = some (start, goal)) {x y : Column} (hx : x ∈ start.columns)
    (hy : y ∈ goal.columns) (hname : x.name = y.name) :
    ⟨goal.name, .dropColumn x⟩ ∉ done ∧ ⟨goal.name, .addColumn y⟩ ∉ done := by
  constructor
  · intro hdrop
    cases (moment.discovered _ hdrop).needs course rfl with
    | dropColumn _ gone => exact gone (hname ▸ List.mem_map_of_mem hy)
  · intro hadd
    cases (moment.discovered _ hadd).needs course rfl with
    | addColumn _ fresh => exact fresh (hname ▸ List.mem_map_of_mem hx)

/-- The next change to a part of a table finds the table as it needs it. -/
theorem part_step (hs : start.Distinct) (hg : goal.Distinct)
    (course : c.course? goal.name = some (start, goal))
    (moment : c.Moment (done ++ [⟨goal.name, a⟩])) (needs : c.Needs start goal a)
    (h : Table.At done start goal t) :
    ∃ changed, a.alter? t = some changed ∧
      Table.At (done ++ [⟨goal.name, a⟩]) start goal changed := by
  cases needs with
  | @addColumn x mem fresh =>
    have absent : x.name ∉ t.columnNames := by
      rw [h.mem_columnNames]
      rintro (⟨y, hy, hadd, heq⟩ | ⟨y, hy, -, heq⟩)
      · exact moment.fresh (hg.column_eq hy mem heq ▸ hadd)
      · exact fresh (heq ▸ List.mem_map_of_mem hy)
    refine ⟨_, ?_, h.addColumn mem absent⟩
    rw [Action.alter?, if_neg (by rwa [Table.hasColumn_iff])]
  | @dropColumn x mem gone =>
    have present : x.name ∈ t.columnNames :=
      h.mem_columnNames.mpr (Or.inr ⟨x, mem, moment.fresh, rfl⟩)
    refine ⟨_, ?_, h.dropColumn hs mem gone⟩
    rw [Action.alter?, if_pos (by rwa [Table.hasColumn_iff])]
  | @alterColumnType x y memOld mem name _ =>
    obtain ⟨kept, old⟩ := moment.before.shared_column course memOld mem name
    have present : y.name ∈ t.columnNames :=
      h.mem_columnNames.mpr (Or.inr ⟨x, memOld, kept, name⟩)
    refine ⟨_, ?_, h.alterColumnType hs hg memOld mem name old⟩
    rw [Action.alter?, if_pos (by rwa [Table.hasColumn_iff])]
  | @alterColumnNullDefault x y memOld mem name _ =>
    obtain ⟨kept, old⟩ := moment.before.shared_column course memOld mem name
    have present : y.name ∈ t.columnNames :=
      h.mem_columnNames.mpr (Or.inr ⟨x, memOld, kept, name⟩)
    refine ⟨_, ?_, h.alterColumnNullDefault hs hg memOld mem name old⟩
    rw [Action.alter?, if_pos (by rwa [Table.hasColumn_iff])]
  | alterTable _ => exact ⟨_, rfl, h.alterTable⟩
  | @addIndex i keeps mem fresh =>
    have absent : i.name ∉ t.indexes.map Index.name := by
      rw [List.mem_map]
      rintro ⟨j, hj, heq⟩
      rcases (h.indexes j).mp hj with ⟨hjg, hadd⟩ | ⟨hjs, hkept⟩
      · exact moment.fresh (hg.index_eq hjg mem heq ▸ hadd)
      · -- an old index of the same name is another one, and has been dropped by now
        have gone : j ∉ goal.indexes := fun hjg => fresh (hg.index_eq hjg mem heq ▸ hjs)
        exact hkept (moment.reached (.part course (.dropIndex keeps hjs gone))
          (show 1 < 9 by decide))
    refine ⟨_, ?_, h.addIndex mem absent⟩
    rw [Action.alter?, if_neg (by rwa [Table.index?_isSome_iff])]
  | @dropIndex i keeps mem gone =>
    have present : i.name ∈ t.indexes.map Index.name :=
      List.mem_map_of_mem ((h.indexes i).mpr (Or.inr ⟨mem, moment.fresh⟩))
    have none_added : ∀ j ∈ goal.indexes, ⟨goal.name, .addIndex j⟩ ∈ done → j.name ≠ i.name :=
      fun j _ hadd => absurd (moment.past hadd) (show ¬ 9 ≤ 1 by decide)
    refine ⟨_, ?_, h.dropIndex hs mem none_added⟩
    rw [Action.alter?, if_pos (by rwa [Table.index?_isSome_iff])]
  | @addForeignKey k keeps mem fresh =>
    have absent : k.signature ∉ t.signatures := by
      rw [Table.signatures, List.mem_map]
      rintro ⟨l, hl, heq⟩
      rcases (h.foreignKeys l).mp hl with ⟨hlg, hadd⟩ | ⟨hls, -⟩
      · exact moment.fresh (hg.key_eq hlg mem heq ▸ hadd)
      · exact fresh (heq ▸ List.mem_map_of_mem hls)
    refine ⟨_, ?_, h.addForeignKey mem absent⟩
    rw [Action.alter?, if_neg absent]
  | @dropForeignKey k keeps mem gone =>
    have present : k.signature ∈ t.signatures :=
      List.mem_map_of_mem ((h.foreignKeys k).mpr (Or.inr ⟨mem, moment.fresh⟩))
    have others_added : ∀ l ∈ goal.foreignKeys,
        ⟨goal.name, .addForeignKey l⟩ ∈ done → l.signature ≠ k.signature := by
      intro l _ hadd heq
      cases (moment.before.discovered _ hadd).needs course rfl with
      | addForeignKey _ _ fresh => exact fresh (heq ▸ List.mem_map_of_mem mem)
    refine ⟨_, ?_, h.dropForeignKey hs mem others_added⟩
    rw [Action.alter?, if_pos present]

end Part

def Live (c : Comparison) (done : List Change) (name : String) : Prop :=
  ((c.current.table? name).isSome ∨ ∃ t, ⟨name, .createTable t⟩ ∈ done) ∧
    ∀ t, ⟨name, .dropTable t⟩ ∉ done

theorem live_of_both {done : List Change} {name : String} {old new : Table} (moment : c.Moment done)
    (hold : c.current.table? name = some old) (hnew : c.target.table? name = some new) :
    c.Live done name := by
  refine ⟨Or.inl (by simp [hold]), fun t hdrop => ?_⟩
  have gone := (moment.discovered _ hdrop).of_dropTable.2
  rw [hnew] at gone
  cases gone

theorem live_of_created {done : List Change} {name : String} {new : Table} (moment : c.Moment done)
    (created : ⟨name, .createTable new⟩ ∈ done) : c.Live done name := by
  refine ⟨Or.inr ⟨new, created⟩, fun t hdrop => ?_⟩
  have absent := (moment.discovered _ created).of_createTable.1
  rw [(moment.discovered _ hdrop).of_dropTable.1] at absent
  cases absent

structure Midway (c : Comparison) (done : List Change) (s : Snapshot) : Prop where
  gone : ∀ name, ¬ c.Live done name → s.table? name = none
  live : ∀ name, c.Live done name → ∃ start goal t,
    c.course? name = some (start, goal) ∧ s.table? name = some t ∧ Table.At done start goal t

theorem Midway.of_table? {done : List Change} {s : Snapshot} (h : c.Midway done s) {name : String}
    {t : Table} (ht : s.table? name = some t) :
    c.Live done name ∧ ∃ start goal,
      c.course? name = some (start, goal) ∧ Table.At done start goal t := by
  have alive : c.Live done name := by
    by_contra hdead
    rw [h.gone name hdead] at ht
    cases ht
  obtain ⟨start, goal, u, course, hu, hat⟩ := h.live name alive
  rw [ht] at hu
  cases hu
  exact ⟨alive, start, goal, course, hat⟩

theorem live_of_table? {name : String} (h : (c.current.table? name).isSome) :
    c.Live [] name := ⟨Or.inl h, fun _ => List.not_mem_nil⟩

theorem midway_start (hc : c.current.Distinct) (ht : c.target.Distinct) :
    c.Midway [] c.current where
  gone name h := by
    rw [← Option.not_isSome_iff_eq_none]
    exact fun hsome => h (live_of_table? hsome)
  live name h := by
    obtain ⟨old, hold⟩ : ∃ old, c.current.table? name = some old := by
      rcases h.1 with hsome | ⟨t, hmem⟩
      · exact Option.isSome_iff_exists.mp hsome
      · cases hmem
    have hname := hc.name_of_table? hold
    have hdistinct := hc.of_table? hold
    cases hnew : c.target.table? name with
    | none =>
      exact ⟨old, old.detached, old, by simp [course?, hold, hnew], hold,
        .unchanged hdistinct rfl fun _ hmem => absurd hmem List.not_mem_nil⟩
    | some new =>
      have hsame : old.name = new.name := hname.trans (ht.name_of_table? hnew).symm
      exact ⟨old, new, old, by simp [course?, hold, hnew], hold,
        .unchanged hdistinct hsame fun _ hmem => absurd hmem List.not_mem_nil⟩

section Step

variable {done : List Change} {s : Snapshot} {x : Change}

theorem live_concat_of_ne {name : String} (h : x.table ≠ name) :
    c.Live (done ++ [x]) name ↔ c.Live done name := by
  obtain ⟨table, action⟩ := x
  have hne : ¬ name = table := fun e => h e.symm
  simp [Live, hne]

theorem live_concat_of_part {name : String} (h : x.action.isPart = true) :
    c.Live (done ++ [x]) name ↔ c.Live done name := by
  obtain ⟨table, action⟩ := x
  have hcreate : ∀ t, action ≠ .createTable t := by
    rintro t rfl
    cases h
  have hdrop : ∀ t, action ≠ .dropTable t := by
    rintro t rfl
    cases h
  simp [Live, hcreate _ |>.symm, hdrop _ |>.symm]

/-- A change leaves all tables but its own as they are. -/
theorem Midway.elsewhere (h : c.Midway done s) (hd : c.current.Distinct) (ht : c.target.Distinct)
    {after : Snapshot} (same : ∀ name, name ≠ x.table → after.table? name = s.table? name)
    (gone : ¬ c.Live (done ++ [x]) x.table → after.table? x.table = none)
    (live : c.Live (done ++ [x]) x.table → ∃ start goal t,
      c.course? x.table = some (start, goal) ∧ after.table? x.table = some t ∧
        Table.At (done ++ [x]) start goal t) : c.Midway (done ++ [x]) after where
  gone name hname := by
    by_cases heq : name = x.table
    · subst heq
      exact gone hname
    · rw [live_concat_of_ne (Ne.symm heq)] at hname
      rw [same name heq]
      exact h.gone name hname
  live name hname := by
    by_cases heq : name = x.table
    · subst heq
      exact live hname
    · rw [live_concat_of_ne (Ne.symm heq)] at hname
      obtain ⟨start, goal, t, hcourse, hs, hat⟩ := h.live name hname
      refine ⟨start, goal, t, hcourse, by rw [same name heq, hs], hat.frame fun a => ?_⟩
      have hgoal := (course_distinct hd ht hcourse).2.2.2
      obtain ⟨table, action⟩ := x
      have hne : ¬ goal.name = table := fun e => heq (hgoal.symm.trans e)
      simp [hne]

/-- A table whose parts change has been created by then, and has not been dropped. -/
theorem live_of_part (hc : c.current.Distinct) (ht : c.target.Distinct) {name : String}
    {start goal : Table} {a : Action} (moment : c.Moment (done ++ [⟨name, a⟩]))
    (course : c.course? name = some (start, goal)) (needs : c.Needs start goal a) :
    c.Live done name := by
  cases course_cases course with
  | kept held wanted => exact live_of_both moment.before held wanted
  | created absent wanted =>
    have late : (Action.createTable goal).kind.phase < a.kind.phase := by
      obtain ⟨-, ⟨i, -, rfl⟩ | ⟨k, -, rfl⟩⟩ := (needs_bare_iff (ht.of_table? wanted)).mp needs
      · exact (by decide : 2 < 9)
      · exact (by decide : 2 < 10)
    exact live_of_created moment.before (moment.reached (.creation absent wanted) late)
  | dropped held _ =>
    refine ⟨Or.inl (by simp [held]), fun t hdrop => ?_⟩
    obtain ⟨-, k, -, rfl⟩ := (needs_detached_iff (hc.of_table? held)).mp needs
    exact absurd (moment.past hdrop) (show ¬ 8 ≤ 0 by decide)

theorem Midway.step_creation (hc : c.current.Distinct) (ht : c.target.Distinct)
    (h : c.Midway done s) {name : String} {new : Table}
    (moment : c.Moment (done ++ [⟨name, .createTable new⟩]))
    (absent : c.current.table? name = none) (present : c.target.table? name = some new) :
    ∃ after, s.after? ⟨name, .createTable new⟩ = some after ∧
      c.Midway (done ++ [⟨name, .createTable new⟩]) after := by
  have hname := ht.name_of_table? present
  have hdistinct := ht.of_table? present
  have unborn : ¬ c.Live done name := by
    rintro ⟨hsome | ⟨t, hcreate⟩, -⟩
    · simp [absent] at hsome
    · have := (moment.before.discovered _ hcreate).of_createTable.2
      rw [present] at this
      cases this
      exact moment.fresh hcreate
  have alone : ∀ a, ⟨name, a⟩ ∈ done ++ [⟨name, .createTable new⟩] → ∃ d, a = .createTable d := by
    intro a ha
    rcases List.mem_append.mp ha with ha | ha
    · cases moment.before.discovered _ ha with
      | creation => exact ⟨_, rfl⟩
      | removal present' _ =>
        rw [absent] at present'
        cases present'
      | part course needs =>
        simp only [course?, absent, present, Option.some.injEq, Prod.mk.injEq] at course
        obtain ⟨rfl, rfl⟩ := course
        obtain ⟨-, ⟨i, -, rfl⟩ | ⟨k, -, rfl⟩⟩ := (needs_bare_iff hdistinct).mp needs
        · exact absurd (moment.past ha) (show ¬ 9 ≤ 2 by decide)
        · exact absurd (moment.past ha) (show ¬ 10 ≤ 2 by decide)
    · exact ⟨new, by simpa using ha⟩
  refine ⟨s.put name new.bare, by simp [Snapshot.after?, h.gone name unborn], ?_⟩
  refine h.elsewhere hc ht (fun other hne => ?_) (fun hgone => ?_) fun _ => ?_
  · rw [Snapshot.table?_put, if_neg (Ne.symm hne)]
  · refine absurd ⟨Or.inr ⟨new, List.mem_append_right _ (List.mem_singleton_self _)⟩, ?_⟩ hgone
    intro t hdrop
    obtain ⟨d, hd⟩ := alone _ hdrop
    cases hd
  · exact ⟨new.bare, new, new.bare, by simp [course?, absent, present], by simp,
      .unchanged hdistinct.bare rfl (hname ▸ alone)⟩

theorem Midway.step_removal (hc : c.current.Distinct) (ht : c.target.Distinct)
    (h : c.Midway done s) {name : String} {old : Table}
    (moment : c.Moment (done ++ [⟨name, .dropTable old⟩]))
    (present : c.current.table? name = some old) :
    ∃ after, s.after? ⟨name, .dropTable old⟩ = some after ∧
      c.Midway (done ++ [⟨name, .dropTable old⟩]) after := by
  have alive : c.Live done name := by
    refine ⟨Or.inl (by simp [present]), fun t hdrop => ?_⟩
    have := (moment.before.discovered _ hdrop).of_dropTable.1
    rw [present] at this
    cases this
    exact moment.fresh hdrop
  obtain ⟨-, -, t, -, hsome, -⟩ := h.live name alive
  refine ⟨s.remove name, by simp [Snapshot.after?, hsome], ?_⟩
  refine h.elsewhere hc ht (fun other hne => ?_) (fun _ => by simp) fun hlive => ?_
  · rw [Snapshot.table?_remove, if_neg (Ne.symm hne)]
  · exact absurd (List.mem_append_right _ (List.mem_singleton_self _)) (hlive.2 old)

theorem Midway.step_part (hc : c.current.Distinct) (ht : c.target.Distinct) (h : c.Midway done s)
    {name : String} {start goal : Table} {a : Action} (moment : c.Moment (done ++ [⟨name, a⟩]))
    (course : c.course? name = some (start, goal)) (needs : c.Needs start goal a) :
    ∃ after, s.after? ⟨name, a⟩ = some after ∧ c.Midway (done ++ [⟨name, a⟩]) after := by
  obtain ⟨hs, hg, -, hname⟩ := course_distinct hc ht course
  have alive := live_of_part hc ht moment course needs
  obtain ⟨start', goal', t, course', hsome, hat⟩ := h.live name alive
  rw [course] at course'
  cases course'
  subst hname
  obtain ⟨changed, halter, hat'⟩ := part_step hs hg course moment needs hat
  refine ⟨s.put goal.name changed, Snapshot.after?_of_alter? hsome halter, ?_⟩
  refine h.elsewhere hc ht (fun other hne => ?_) (fun hgone => ?_) fun _ => ?_
  · rw [Snapshot.table?_put, if_neg (Ne.symm hne)]
  · exact absurd ((live_concat_of_part needs.isPart).mpr alive) hgone
  · exact ⟨start, goal, changed, course, by simp, hat'⟩

/-- Every change finds what it needs when its turn comes. -/
theorem Midway.step (hc : c.current.Distinct) (ht : c.target.Distinct) (h : c.Midway done s)
    (moment : c.Moment (done ++ [x])) :
    ∃ after, s.after? x = some after ∧ c.Midway (done ++ [x]) after := by
  cases moment.discovered x (List.mem_append_right _ (List.mem_singleton_self x)) with
  | creation absent present => exact h.step_creation hc ht moment absent present
  | removal present _ => exact h.step_removal hc ht moment present
  | part course needs => exact h.step_part hc ht moment course needs

end Step

/-- All changes can be made in their order, and the tables are what they should be in between. -/
theorem replay_midway (hc : c.current.Distinct) (ht : c.target.Distinct) {done : List Change}
    (moment : c.Moment done) : ∃ s, c.current.replay? done = some s ∧ c.Midway done s := by
  induction done using List.reverseRecOn with
  | nil => exact ⟨c.current, rfl, midway_start hc ht⟩
  | append_singleton done x ih =>
    obtain ⟨s, hs, hmid⟩ := ih moment.before
    obtain ⟨after, hafter, hmid'⟩ := hmid.step hc ht moment
    exact ⟨after, by rw [Snapshot.replay?_concat, hs, Option.bind_some, hafter], hmid'⟩

end Comparison

end SchemaMigration
