import SchemaMigration.Proofs.Sqlite.HeldColumns

/-!
Temporary names. While a table is rebuilt, its new definition stands under another name beside it.
Nothing keeps a table of the user from having this name. Where no such table is there at that
moment, every table that is created finds its name free, and in the end every table of the new
snapshot is the one that was kept, created or rebuilt for it.
-/

namespace SchemaMigration

namespace Sqlite

open Emission.Sqlite (temporaryName)

inductive Origin
  | held (name : String)
  | created (clause : TableClause)
  deriving DecidableEq, Repr

def tablesAfter (tables : String → Option Origin) : Statement → String → Option Origin
  | .createTable clause => Function.update tables clause.name (some (.created clause))
  | .dropTable name => Function.update tables name none
  | .renameTable old new => Function.update (Function.update tables old none) new (tables old)
  | _ => tables

/-- A table is created under a name that no other table has. -/
def FindsFree (tables : String → Option Origin) : Statement → Prop
  | .createTable clause => tables clause.name = none
  | _ => True

def tableWatch : Watch (String → Option Origin) where
  after := tablesAfter
  Admits := FindsFree
  after_set _ _ := rfl
  admits_set _ _ := trivial

def originsOf (s : Snapshot) (name : String) : Option Origin :=
  (s.table? name).map fun _ => .held name

inductive StandsFor (c : Comparison) (rebuilt : String → Prop) (name : String) : Origin → Prop
  | held {old : Table} (held : c.current.table? name = some old) (unrebuilt : ¬ rebuilt name) :
    StandsFor c rebuilt name (.held name)
  | created {new : Table} {clause : TableClause} (absent : c.current.table? name = none)
      (wanted : c.target.table? name = some new) (named : clause.name = name)
      (columns : clause.columns.map ColumnClause.column = new.columns) :
    StandsFor c rebuilt name (.created clause)
  | rebuilt {new : Table} {clause : TableClause} (rebuilds : rebuilt name)
      (wanted : c.target.table? name = some new) (named : clause.name = temporaryName name)
      (columns : clause.columns.map ColumnClause.column = new.columns) :
    StandsFor c rebuilt name (.created clause)

variable {c : Comparison} {d : Difference} {done : List Change} {x : Change} {p p' : Progress}
  {name other : String} {statements block : List Statement} {st : Statement}
  {tables : String → Option Origin}

/-! ### What statements do to tables -/

theorem run_copies (source target : String) (shared : List String) :
    tableWatch.run tables
      (if shared = [] then [] else [.copyRows source target shared]) = tables := by
  split <;> rfl

theorem run_createIndexes (indexes : List Index) :
    tableWatch.run tables (indexes.map (.createIndex name)) = tables := by
  induction indexes with
  | nil => rfl
  | cons i rest ih => exact ih

theorem temporaryName_ne (name : String) : temporaryName name ≠ name := by
  intro h
  have := congrArg String.length h
  simp [temporaryName] at this

/-- A rebuild asks for its temporary name, and puts a table with the new columns into the place of
the old one. -/
theorem RebuildBlock.replaces (h : RebuildBlock c name block) :
    (tableWatch.AdmitsAll tables block ↔ tables (temporaryName name) = none) ∧
      ∃ new clause, c.target.table? name = some new ∧ clause.name = temporaryName name ∧
        clause.columns.map ColumnClause.column = new.columns ∧
        (tables (temporaryName name) = none → tableWatch.run tables block =
          Function.update tables name (some (.created clause))) := by
  cases h with
  | @intro old new clause shared indexes _ wanted named columns =>
    have rest : ∀ st ∈ (if shared = [] then [] else
        [Statement.copyRows name (temporaryName name) shared]) ++
          [.dropTable name, .renameTable (temporaryName name) name] ++
          indexes.map (.createIndex name), ∀ g, tableWatch.Admits g st := by
      intro st hst g
      simp only [List.mem_append, List.mem_cons, List.mem_map, List.not_mem_nil, or_false] at hst
      rcases hst with (hst | rfl | rfl) | ⟨i, -, rfl⟩
      · split at hst
        · cases hst
        · obtain rfl := List.mem_singleton.mp hst
          trivial
      · trivial
      · trivial
      · trivial
    refine ⟨?_, new, clause, wanted, named, columns, fun free => ?_⟩
    · rw [List.cons_append, List.cons_append, Watch.admitsAll_cons]
      refine (and_iff_left (Watch.admitsAll_of_admits rest)).trans ?_
      rw [← named]
      rfl
    · have hne := temporaryName_ne name
      rw [List.cons_append, List.cons_append, Watch.run_cons, Watch.run_append, Watch.run_append,
        run_copies, run_createIndexes]
      funext m
      show Function.update (Function.update (Function.update (Function.update tables clause.name
        _) name none) _ none) name (Function.update (Function.update tables clause.name _) name none
          (temporaryName name)) m = _
      rw [named, Function.update_of_ne hne, Function.update_self]
      by_cases hm : m = name
      · rw [hm, Function.update_self, Function.update_self]
      · rw [Function.update_of_ne hm, Function.update_of_ne hm]
        by_cases ht : m = temporaryName name
        · rw [ht, Function.update_self, free]
        · rw [Function.update_of_ne ht, Function.update_of_ne hm, Function.update_of_ne ht]

theorem InPlace.aside {a : Action} (h : InPlace name a statements) :
    tableWatch.AdmitsAll tables statements ∧ tableWatch.run tables statements = tables := by
  cases h <;> exact ⟨by simp [Watch.AdmitsAll, tableWatch, FindsFree], rfl⟩

/-! ### The tables at some moment -/

structure TablesKnown (c : Comparison) (done : List Change) (p : Progress)
    (tables : String → Option Origin) : Prop where
  rebuilt : ∀ name, name ∈ p.rebuilt ↔
    Rebuilds c name ∧ ∃ a, ⟨name, a⟩ ∈ done ∧ causesRebuild a = true
  gone : ∀ name, ¬ c.Live done name → tables name = none
  live : ∀ name, c.Live done name →
    ∃ origin, tables name = some origin ∧ StandsFor c (· ∈ p.rebuilt) name origin

/-- The first change that rebuilds a table finds its temporary name free. -/
def RebuildsFreely (c : Comparison) (done : List Change) (x : Change) : Prop :=
  Rebuilds c x.table → causesRebuild x.action = true →
    (∀ a, ⟨x.table, a⟩ ∈ done → causesRebuild a = false) → ¬ c.Live done (temporaryName x.table)

theorem tablesKnown_start (unrebuilt : p.rebuilt = []) : TablesKnown c [] p (originsOf c.current) where
  rebuilt name := by simp [unrebuilt]
  gone name dead := by
    rw [originsOf, Option.map_eq_none_iff, ← Option.not_isSome_iff_eq_none]
    exact fun held => dead (Comparison.live_of_table? held)
  live name alive := by
    obtain ⟨old, held⟩ : ∃ old, c.current.table? name = some old := by
      rcases alive.1 with held | ⟨t, created⟩
      · exact Option.isSome_iff_exists.mp held
      · cases created
    exact ⟨.held name, by simp [originsOf, held], .held held (by simp [unrebuilt])⟩

theorem not_live_of_creation {new : Table} (moment : c.Moment (done ++ [⟨name, .createTable new⟩])) :
    ¬ c.Live done name := by
  have discovered := moment.discovered _ (List.mem_append_right _ (List.mem_singleton_self _))
  obtain ⟨absent, wanted⟩ := discovered.of_createTable
  rintro ⟨held | ⟨t, created⟩, -⟩
  · simp [absent] at held
  · obtain ⟨-, wanted'⟩ := (moment.before.discovered _ created).of_createTable
    rw [wanted] at wanted'
    cases wanted'
    exact moment.fresh created

theorem StandsFor.congr {before after : String → Prop} {origin : Origin}
    (h : StandsFor c before name origin) (same : before name ↔ after name) :
    StandsFor c after name origin := by
  cases h with
  | held held unrebuilt => exact .held held (same.not.mp unrebuilt)
  | created absent wanted named columns => exact .created absent wanted named columns
  | rebuilt rebuilds wanted named columns => exact .rebuilt (same.mp rebuilds) wanted named columns

theorem rebuilt_concat {P : Prop} {a : Action} (known : P ↔ Rebuilds c other ∧
      ∃ b, ⟨other, b⟩ ∈ done ∧ causesRebuild b = true)
    (nothing : other = name → causesRebuild a = true → Rebuilds c other → P) :
    P ↔ Rebuilds c other ∧ ∃ b, ⟨other, b⟩ ∈ done ++ [⟨name, a⟩] ∧ causesRebuild b = true := by
  constructor
  · intro h
    obtain ⟨rebuilds, b, hb, cause⟩ := known.mp h
    exact ⟨rebuilds, b, List.mem_append_left _ hb, cause⟩
  · rintro ⟨rebuilds, b, hb, cause⟩
    rcases List.mem_append.mp hb with hb | hb
    · exact known.mpr ⟨rebuilds, b, hb, cause⟩
    · cases List.mem_singleton.mp hb
      exact nothing rfl cause rebuilds

namespace TablesKnown

theorem creation {new : Table} {clause : TableClause} (known : TablesKnown c done p tables)
    (moment : c.Moment (done ++ [⟨name, .createTable new⟩])) (named : clause.name = name)
    (columns : clause.columns.map ColumnClause.column = new.columns) :
    TablesKnown c (done ++ [⟨name, .createTable new⟩]) p
      (Function.update tables name (some (.created clause))) := by
  have mem := List.mem_append_right done (List.mem_singleton_self ⟨name, .createTable new⟩)
  have alive := Comparison.live_of_created moment mem
  obtain ⟨absent, wanted⟩ := (moment.discovered _ mem).of_createTable
  refine ⟨fun other => rebuilt_concat (known.rebuilt other) (fun _ cause => ?_),
    fun other dead => ?_, fun other alive' => ?_⟩
  · cases cause
  · have hne : other ≠ name := fun h => dead (h ▸ alive)
    rw [Function.update_of_ne hne]
    exact known.gone other ((Comparison.live_concat_of_ne hne.symm).not.mp dead)
  · by_cases same : other = name
    · subst same
      exact ⟨_, Function.update_self .., .created absent wanted named columns⟩
    · rw [Function.update_of_ne same]
      exact known.live other ((Comparison.live_concat_of_ne (Ne.symm same)).mp alive')

theorem removal {old : Table} (known : TablesKnown c done p tables) :
    TablesKnown c (done ++ [⟨name, .dropTable old⟩]) p (Function.update tables name none) := by
  refine ⟨fun other => rebuilt_concat (known.rebuilt other) (fun _ cause => ?_),
    fun other dead => ?_, fun other alive => ?_⟩
  · cases cause
  · by_cases same : other = name
    · rw [same, Function.update_self]
    · rw [Function.update_of_ne same]
      exact known.gone other ((Comparison.live_concat_of_ne (Ne.symm same)).not.mp dead)
  · by_cases same : other = name
    · subst same
      exact absurd (List.mem_append_right _ (List.mem_singleton_self _)) (alive.2 old)
    · rw [Function.update_of_ne same]
      exact known.live other ((Comparison.live_concat_of_ne (Ne.symm same)).mp alive)

theorem rebuild {a : Action} {new : Table} {clause : TableClause}
    (known : TablesKnown c done p tables) (moment : c.Moment (done ++ [⟨name, a⟩]))
    (part : a.isPart = true) (cause : causesRebuild a = true) (rebuilds : Rebuilds c name)
    (wanted : c.target.table? name = some new) (named : clause.name = temporaryName name)
    (columns : clause.columns.map ColumnClause.column = new.columns) :
    TablesKnown c (done ++ [⟨name, a⟩]) { p with rebuilt := name :: p.rebuilt }
      (Function.update tables name (some (.created clause))) := by
  obtain ⟨old, held⟩ := rebuilds.old
  have alive := Comparison.live_of_both moment held wanted
  refine ⟨fun other => ?_, fun other dead => ?_, fun other alive' => ?_⟩
  · by_cases same : other = name
    · subst same
      exact iff_of_true List.mem_cons_self ⟨rebuilds, a, by simp, cause⟩
    · rw [List.mem_cons, or_iff_right same]
      exact rebuilt_concat (known.rebuilt other) fun h => absurd h same
  · have hne : other ≠ name := fun h => dead (h ▸ alive)
    rw [Function.update_of_ne hne]
    exact known.gone other ((Comparison.live_concat_of_part part).not.mp dead)
  · by_cases same : other = name
    · subst same
      exact ⟨_, Function.update_self .., .rebuilt List.mem_cons_self wanted named columns⟩
    · rw [Function.update_of_ne same]
      obtain ⟨origin, horigin, stands⟩ :=
        known.live other ((Comparison.live_concat_of_part part).mp alive')
      exact ⟨origin, horigin, stands.congr (by simp [same])⟩

/-- A change that rebuilds no table brings none and removes none, but for whole tables. -/
theorem still {a : Action} (known : TablesKnown c done p tables) (part : a.isPart = true)
    (rebuilt : p'.rebuilt = p.rebuilt)
    (nothing : causesRebuild a = true → Rebuilds c name → name ∈ p.rebuilt) :
    TablesKnown c (done ++ [⟨name, a⟩]) p' tables := by
  refine ⟨fun other => ?_, fun other dead => ?_, fun other alive => ?_⟩
  · rw [rebuilt]
    refine rebuilt_concat (known.rebuilt other) ?_
    rintro rfl cause rebuilds
    exact nothing cause rebuilds
  · exact known.gone other ((Comparison.live_concat_of_part part).not.mp dead)
  · rw [rebuilt]
    exact known.live other ((Comparison.live_concat_of_part part).mp alive)

theorem free_iff (known : TablesKnown c done p tables) (name : String) :
    tables name = none ↔ ¬ c.Live done name := by
  constructor
  · intro free alive
    obtain ⟨origin, horigin, -⟩ := known.live name alive
    rw [free] at horigin
    cases horigin
  · exact known.gone name

end TablesKnown

theorem tableWatch_keeps : tableWatch.Keeps c (TablesKnown c) (RebuildsFreely c) where
  admits_iff := by
    intro done x p p' statements tables moment known emits
    cases emits with
    | creation named =>
      subst named
      refine iff_of_true ⟨known.gone _ (not_live_of_creation moment), trivial⟩ fun _ cause => ?_
      cases cause
    | removal =>
      refine iff_of_true ⟨trivial, trivial⟩ fun _ cause => ?_
      cases cause
    | @rebuild name a _ _ rebuilds first shape cause =>
      rw [shape.replaces.1, known.free_iff]
      refine ⟨fun free _ _ _ => free, fun free => free rebuilds cause fun b hb => ?_⟩
      by_contra causes
      exact first ((known.rebuilt name).mpr ⟨rebuilds, b, hb, by simpa using causes⟩)
    | @again name _ _ rebuilds before =>
      refine iff_of_true trivial fun _ _ first => ?_
      obtain ⟨-, b, hb, cause⟩ := (known.rebuilt name).mp before
      simp [first b hb] at cause
    | inPlace kept _ _ direct =>
      exact iff_of_true direct.aside.1 fun rebuilds cause => absurd rebuilds (kept cause)
  step := by
    intro done x p p' statements tables moment known emits admitted
    cases emits with
    | creation named _ _ _ columns =>
      have created := known.creation moment named columns
      subst named
      exact created
    | removal => exact known.removal
    | rebuild part rebuilds _ shape cause =>
      obtain ⟨admits_iff, new, clause, wanted, named, columns, replaced⟩ := shape.replaces
      rw [replaced (admits_iff.mp admitted)]
      exact known.rebuild moment part cause rebuilds wanted named columns
    | again part _ before => exact known.still part rfl fun _ _ => before
    | inPlace kept rebuilt _ direct =>
      rw [direct.aside.2]
      refine known.still ?_ rebuilt fun cause rebuilds => absurd rebuilds (kept cause)
      cases direct <;> rfl

/-! ### Names that are taken -/

/-- A table is rebuilt while another one has its temporary name: one that stays, one that goes away
only after the rebuild, or one that has come before it. -/
inductive TemporaryTaken (c : Comparison) (name : String) : Prop
  | stays {old new : Table} (rebuilds : Rebuilds c name)
      (held : c.current.table? (temporaryName name) = some old)
      (wanted : c.target.table? (temporaryName name) = some new)
  | goes {old : Table} {a : Action} (rebuilds : Rebuilds c name)
      (held : c.current.table? (temporaryName name) = some old)
      (unwanted : c.target.table? (temporaryName name) = none)
      (asked : c.Discovers ⟨name, a⟩) (cause : causesRebuild a = true)
      (early : ∀ k, a ≠ .addForeignKey k)
  | came {new : Table} (rebuilds : Rebuilds c name)
      (absent : c.current.table? (temporaryName name) = none)
      (wanted : c.target.table? (temporaryName name) = some new)
      (late : ∀ k, ¬ c.Discovers ⟨name, .dropForeignKey k⟩)

theorem phase_lt_dropTable {a : Action} (discovered : c.Discovers ⟨name, a⟩)
    (cause : causesRebuild a = true) (early : ∀ k, a ≠ .addForeignKey k) : a.kind.phase < 8 := by
  cases discovered with
  | creation | removal => cases cause
  | part _ needs =>
    cases needs with
    | addForeignKey => exact absurd rfl (early _)
    | addIndex | dropIndex => cases cause
    | _ => exact of_decide_eq_true rfl

theorem createTable_lt_phase {a : Action} (discovered : c.Discovers ⟨name, a⟩)
    (cause : causesRebuild a = true) (late : ∀ k, a ≠ .dropForeignKey k) : 2 < a.kind.phase := by
  cases discovered with
  | creation | removal => cases cause
  | part _ needs =>
    cases needs with
    | dropForeignKey => exact absurd rfl (late _)
    | addIndex | dropIndex => cases cause
    | _ => exact of_decide_eq_true rfl

/-- When a table is rebuilt, at the first of its changes that ask for it, its temporary name is that
of a table exactly if it is taken. -/
theorem live_temporary_iff {a : Action} (moment : c.Moment (done ++ [⟨name, a⟩]))
    (rebuilds : Rebuilds c name) (cause : causesRebuild a = true)
    (first : ∀ b, ⟨name, b⟩ ∈ done → causesRebuild b = false) :
    c.Live done (temporaryName name) ↔ TemporaryTaken c name := by
  have discovered := moment.discovered _ (List.mem_append_right _ (List.mem_singleton_self _))
  -- no change that asks for the rebuild comes before this one
  have least : ∀ b, c.Discovers ⟨name, b⟩ → causesRebuild b = true →
      a.kind.phase ≤ b.kind.phase := by
    intro b hb causes
    by_contra lt
    have before := moment.reached hb (Nat.lt_of_not_le lt)
    rw [first b before] at causes
    cases causes
  constructor
  · rintro ⟨there, undropped⟩
    cases hcurrent : c.current.table? (temporaryName name) with
    | some old =>
      cases htarget : c.target.table? (temporaryName name) with
      | some new => exact .stays rebuilds hcurrent htarget
      | none =>
        refine .goes rebuilds hcurrent htarget discovered cause ?_
        rintro k rfl
        exact undropped old (moment.reached (.removal hcurrent htarget) (show 8 < 10 by decide))
    | none =>
      obtain ⟨new, created⟩ : ∃ t, ⟨temporaryName name, .createTable t⟩ ∈ done := by
        simpa [hcurrent] using there
      obtain ⟨-, wanted⟩ := (moment.before.discovered _ created).of_createTable
      refine .came rebuilds hcurrent wanted fun k dropped => ?_
      have early : a.kind.phase ≤ 0 := least _ dropped rfl
      have late : 2 ≤ a.kind.phase := moment.past created
      omega
  · intro taken
    cases taken with
    | stays _ held wanted => exact Comparison.live_of_both moment.before held wanted
    | @goes old b _ held unwanted asked causes early =>
      refine ⟨Or.inl (by simp [held]), fun t dropped => ?_⟩
      have hb := phase_lt_dropTable asked causes early
      have ha := least b asked causes
      have late : 8 ≤ a.kind.phase := moment.past dropped
      omega
    | came _ absent wanted late =>
      have after : 2 < a.kind.phase := createTable_lt_phase discovered cause fun k heq =>
        late k (heq ▸ discovered)
      exact Comparison.live_of_created moment.before
        (moment.reached (.creation absent wanted) after)

theorem TemporaryTaken.rebuilds (h : TemporaryTaken c name) : Rebuilds c name := by
  cases h with
  | stays rebuilds | goes rebuilds | came rebuilds => exact rebuilds

theorem first_cause (hc : c.current.Distinct) (ht : c.target.Distinct) (hd : c.difference = .ok d)
    (rebuilds : Rebuilds c name) :
    ∃ before a after, d.changes = before ++ ⟨name, a⟩ :: after ∧ causesRebuild a = true ∧
      ∀ b, ⟨name, b⟩ ∈ before → causesRebuild b = false := by
  obtain ⟨a, discovered, needs⟩ := rebuilds.cause
  have causes := causesRebuild_of_needsRebuild discovered needs
  let asks (x : Change) : Bool := x.table = name ∧ causesRebuild x.action
  obtain ⟨x, hx⟩ : ∃ x, d.changes.find? asks = some x := by
    rw [← Option.isSome_iff_exists, List.find?_isSome]
    exact ⟨_, (Comparison.mem_difference hc ht hd).mpr discovered, by simp [asks, causes]⟩
  obtain ⟨hasks, before, after, heq, others⟩ := List.find?_eq_some_iff_append.mp hx
  obtain ⟨table, b⟩ := x
  obtain ⟨rfl, cause⟩ : table = name ∧ causesRebuild b = true := by simpa [asks] using hasks
  refine ⟨before, b, after, heq, cause, fun b hb => ?_⟩
  simpa [asks] using others _ hb

theorem rebuildsFreely_iff (hc : c.current.Distinct) (ht : c.target.Distinct)
    (hd : c.difference = .ok d) :
    (∀ before x after, d.changes = before ++ x :: after → RebuildsFreely c before x) ↔
      ∀ name, ¬ TemporaryTaken c name := by
  constructor
  · intro freely name taken
    obtain ⟨before, a, after, heq, cause, first⟩ := first_cause hc ht hd taken.rebuilds
    have moment := Comparison.moment_of_split hc ht hd heq
    exact freely before _ after heq taken.rebuilds cause first
      ((live_temporary_iff moment taken.rebuilds cause first).mpr taken)
  · rintro untaken before ⟨name, a⟩ after heq rebuilds cause first alive
    have moment := Comparison.moment_of_split hc ht hd heq
    exact untaken name ((live_temporary_iff moment rebuilds cause first).mp alive)

/-- In the end, every table of the new snapshot is the one that was kept, created or rebuilt for
it. -/
def Preserves (c : Comparison) (tables : String → Option Origin) : Prop :=
  ∀ name new, c.target.table? name = some new →
    ∃ origin, tables name = some origin ∧ StandsFor c (Rebuilds c) name origin

theorem TablesKnown.preserves (hc : c.current.Distinct) (ht : c.target.Distinct)
    (hd : c.difference = .ok d) (known : TablesKnown c d.changes p tables) :
    Preserves c tables := by
  have discovered := fun x => Comparison.mem_difference hc ht hd (x := x)
  intro name new wanted
  have undropped : ∀ t, ⟨name, .dropTable t⟩ ∉ d.changes := by
    intro t dropped
    have unwanted := ((discovered _).mp dropped).of_dropTable.2
    rw [wanted] at unwanted
    cases unwanted
  have alive : c.Live d.changes name := by
    cases held : c.current.table? name with
    | some old => exact ⟨Or.inl (by simp [held]), undropped⟩
    | none => exact ⟨Or.inr ⟨new, (discovered _).mpr (.creation held wanted)⟩, undropped⟩
  obtain ⟨origin, horigin, stands⟩ := known.live name alive
  refine ⟨origin, horigin, stands.congr ?_⟩
  rw [known.rebuilt]
  refine and_iff_left_of_imp fun rebuilds => ?_
  obtain ⟨a, ha, needs⟩ := rebuilds.cause
  exact ⟨a, (discovered _).mpr ha, causesRebuild_of_needsRebuild ha needs⟩

theorem Script.free_iff (hc : c.current.Distinct) (ht : c.target.Distinct)
    (hd : c.difference = .ok d) {s done : Session} {generatedAt : String}
    {emitted : List Statement} (script : Script s c d generatedAt done emitted) :
    tableWatch.AdmitsAll (originsOf c.current)
        (bracketed (!done.progress.rebuilding.isEmpty) d.touchesForeignKeys emitted) ↔
      ∀ name, ¬ TemporaryTaken c name := by
  rw [← rebuildsFreely_iff hc ht hd]
  exact (tableWatch_keeps.script hc ht hd script fun p => tablesKnown_start).1

theorem Script.preserves (hc : c.current.Distinct) (ht : c.target.Distinct)
    (hd : c.difference = .ok d) {s done : Session} {generatedAt : String}
    {emitted : List Statement} (script : Script s c d generatedAt done emitted)
    (free : tableWatch.AdmitsAll (originsOf c.current)
      (bracketed (!done.progress.rebuilding.isEmpty) d.touchesForeignKeys emitted)) :
    Preserves c (tableWatch.run (originsOf c.current)
      (bracketed (!done.progress.rebuilding.isEmpty) d.touchesForeignKeys emitted)) := by
  obtain ⟨p, known⟩ :=
    (tableWatch_keeps.script hc ht hd script fun p => tablesKnown_start).2 free
  exact known.preserves hc ht hd

/-- Every table that a script creates finds its name free, and in the end every table of the new
snapshot is the one that was kept, created or rebuilt for it, exactly if no table is rebuilt while
another one has its temporary name. -/
theorem temporary_names_free_iff (hc : c.current.WellFormed) (ht : c.target.WellFormed)
    (hd : c.difference = .ok d) (s : Session) (generatedAt : String) :
    ∃ done statements,
      s.Wrote generatedAt (context c d.changes) done statements ∧
      ((tableWatch.AdmitsAll (originsOf c.current) statements ∧
          Preserves c (tableWatch.run (originsOf c.current) statements)) ↔
        ∀ name, ¬ TemporaryTaken c name) := by
  obtain ⟨done, emitted, script⟩ := exists_script hc ht hd s generatedAt
  refine ⟨done, _, script.wrote, ?_⟩
  rw [← script.free_iff hc.toDistinct ht.toDistinct hd]
  exact and_iff_left_of_imp (script.preserves hc.toDistinct ht.toDistinct hd)

/-- A name can only be taken by a table of one of the snapshots. -/
theorem TemporaryTaken.listed (h : TemporaryTaken c name) :
    name ∈ c.current.tables.keys ∧
      temporaryName name ∈ c.current.tables.keys ++ c.target.tables.keys := by
  obtain ⟨old, held⟩ := h.rebuilds.old
  refine ⟨Snapshot.mem_keys_iff.mpr ⟨_, held⟩, List.mem_append.mpr ?_⟩
  cases h with
  | stays _ held | goes _ held => exact Or.inl (Snapshot.mem_keys_iff.mpr ⟨_, held⟩)
  | came _ _ wanted => exact Or.inr (Snapshot.mem_keys_iff.mpr ⟨_, wanted⟩)

end Sqlite

/-! Items get a shorter number, and stand beside another table. -/

namespace Shop

open Sqlite (context)

def shorteningBeside (name : String) : Comparison :=
  ⟨.ofTables [longItems, { shortItems with name }], .ofTables [shortItems, { shortItems with name }],
    .neutral, false⟩

theorem items_rebuilt_beside_users :
    ∃ d done statements, (shorteningBeside "users__new").difference = .ok d ∧
      (Session.start .sqlite shortening).Wrote "today"
        (context (shorteningBeside "users__new") d.changes) done statements ∧
      Sqlite.tableWatch.AdmitsAll (Sqlite.originsOf (shorteningBeside "users__new").current)
        statements ∧
      Sqlite.Preserves (shorteningBeside "users__new")
        (Sqlite.tableWatch.run (Sqlite.originsOf (shorteningBeside "users__new").current)
          statements) := by
  obtain ⟨g, -, -, -, hd⟩ :=
    Comparison.difference_of_nodup (c := shorteningBeside "users__new") (by decide)
  obtain ⟨done, statements, wrote, free_iff⟩ := Sqlite.temporary_names_free_iff
    (c := shorteningBeside "users__new") (by decide) (by decide) hd (.start .sqlite shortening)
    "today"
  refine ⟨_, done, statements, hd, wrote, free_iff.mpr fun name taken => ?_⟩
  have unlisted : ∀ n ∈ (shorteningBeside "users__new").current.tables.keys,
      Emission.Sqlite.temporaryName n ∉ (shorteningBeside "users__new").current.tables.keys ++
        (shorteningBeside "users__new").target.tables.keys := by decide
  obtain ⟨listed, temporary⟩ := taken.listed
  exact unlisted name listed temporary

/-- A table that is named like the rebuilt items is there when they are rebuilt. -/
theorem items_rebuilt_over_other :
    (shorteningBeside "items__new").current.WellFormed ∧
      (shorteningBeside "items__new").target.WellFormed ∧
      ∃ d done statements, (shorteningBeside "items__new").difference = .ok d ∧
        (Session.start .sqlite shortening).Wrote "today"
          (context (shorteningBeside "items__new") d.changes) done statements ∧
        ¬ Sqlite.tableWatch.AdmitsAll
          (Sqlite.originsOf (shorteningBeside "items__new").current) statements := by
  obtain ⟨g, -, -, -, hd⟩ :=
    Comparison.difference_of_nodup (c := shorteningBeside "items__new") (by decide)
  obtain ⟨done, emitted, script⟩ := Sqlite.exists_script (c := shorteningBeside "items__new")
    (by decide) (by decide) hd (.start .sqlite shortening) "today"
  refine ⟨by decide, by decide, _, done, _, hd, script.wrote, fun free => ?_⟩
  have retyped : (shorteningBeside "items__new").Discovers
      ⟨"items", .alterColumnType (some { number "id" with type := .bigInt }) (number "id")⟩ := by
    rw [← Comparison.mem_changes (by decide) (by decide)]
    decide
  have rebuilds : Sqlite.Rebuilds (shorteningBeside "items__new") "items" :=
    ⟨⟨longItems, rfl⟩, ⟨shortItems, rfl⟩, _, retyped, rfl⟩
  have held : (shorteningBeside "items__new").current.table? "items__new" =
      some { shortItems with name := "items__new" } := rfl
  have wanted : (shorteningBeside "items__new").target.table? "items__new" =
      some { shortItems with name := "items__new" } := rfl
  exact (script.free_iff (Snapshot.WellFormed.toDistinct (by decide))
    (Snapshot.WellFormed.toDistinct (by decide)) hd).mp free "items" (.stays rebuilds held wanted)

end Shop

end SchemaMigration
