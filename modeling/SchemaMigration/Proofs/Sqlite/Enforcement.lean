import Mathlib.Data.List.Flatten
import SchemaMigration.Proofs.Sqlite.Block

/-!
Tables that go away while foreign keys are enforced. A foreign key of SQLite belongs to the
definition of its table and goes away with it alone. While tables are rebuilt, foreign keys are not
enforced; otherwise no table may be dropped before those that refer to it, but tables are dropped
in the order in which the old snapshot has them.
-/

namespace SchemaMigration

def Statement.movesKeys : Statement → Bool
  | set _ | createTable _ | dropTable _ | renameTable _ _ => true
  | _ => false

namespace Sqlite

open Emission.Sqlite (temporaryName needsRebuild)

/-! ### The foreign keys in force -/

structure KeyState where
  enforced : Bool
  keys : List (String × ForeignKey)

namespace KeyState

def ofSnapshot (s : Snapshot) : KeyState := ⟨true, s.ownedKeys⟩

/-- What is left after a statement. Foreign keys follow a table that gets another name. -/
def after (g : KeyState) : Statement → KeyState
  | .set (.foreignKeys enforced) => { g with enforced }
  | .createTable t => { g with keys := g.keys ++ t.foreignKeys.map fun k => (t.name, k.key) }
  | .dropTable name => { g with keys := g.keys.filter fun e => e.1 ≠ name }
  | .renameTable old new =>
    let renamed (name : String) := if name = old then new else name
    { g with keys := g.keys.map fun e =>
        (renamed e.1, { e.2 with referencedTable := renamed e.2.referencedTable }) }
  | _ => g

def run (g : KeyState) (statements : List Statement) : KeyState := statements.foldl after g

/-- A table that goes for good is dropped while foreign keys are not enforced, or when no other
table refers to it. -/
def Admits (target : Snapshot) (g : KeyState) : Statement → Prop
  | .dropTable name => target.table? name = none →
      g.enforced = false ∨ ∀ e ∈ g.keys, e.1 ≠ name → e.2.referencedTable ≠ name
  | _ => True

def AdmitsAll (target : Snapshot) (g : KeyState) : List Statement → Prop
  | [] => True
  | statement :: rest => g.Admits target statement ∧ (g.after statement).AdmitsAll target rest

variable {target : Snapshot} {g : KeyState} {statements : List Statement}

theorem admitsAll_append {first second : List Statement} :
    g.AdmitsAll target (first ++ second) ↔
      g.AdmitsAll target first ∧ (g.run first).AdmitsAll target second := by
  induction first generalizing g with
  | nil => simp [AdmitsAll, run]
  | cons statement rest ih =>
    rw [List.cons_append, AdmitsAll, AdmitsAll, ih, and_assoc]
    rfl

theorem run_of_still (still : ∀ st ∈ statements, st.movesKeys = false) :
    g.run statements = g := by
  induction statements with
  | nil => rfl
  | cons st rest ih =>
    have first : g.after st = g := by
      have hst := still st List.mem_cons_self
      cases st <;> first | rfl | cases hst
    show (g.after st).run rest = g
    rw [first]
    exact ih fun s hs => still s (List.mem_cons_of_mem _ hs)

theorem admitsAll_of_still (still : ∀ st ∈ statements, st.movesKeys = false) :
    g.AdmitsAll target statements := by
  induction statements generalizing g with
  | nil => trivial
  | cons st rest ih =>
    refine ⟨?_, ih fun s hs => still s (List.mem_cons_of_mem _ hs)⟩
    have hst := still st List.mem_cons_self
    cases st <;> trivial

theorem enforced_after {st : Statement} (unset : ∀ setting, st ≠ .set setting) :
    (g.after st).enforced = g.enforced := by
  cases st with
  | set setting => exact absurd rfl (unset setting)
  | _ => rfl

/-- While foreign keys are not enforced, every table can be dropped. -/
theorem admitsAll_of_unenforced (off : g.enforced = false)
    (unset : ∀ st ∈ statements, ∀ setting, st ≠ .set setting) : g.AdmitsAll target statements := by
  induction statements generalizing g with
  | nil => trivial
  | cons st rest ih =>
    have hst := unset st List.mem_cons_self
    refine ⟨?_, ih ((enforced_after hst).trans off) fun s hs => unset s (List.mem_cons_of_mem _ hs)⟩
    cases st with
    | dropTable name => exact fun _ => Or.inl off
    | _ => trivial

theorem admitsAll_settings (settings : List Setting) :
    g.AdmitsAll target (settings.map .set) := by
  induction settings generalizing g with
  | nil => trivial
  | cons setting rest ih => exact ⟨trivial, ih⟩

end KeyState

/-! ### The statements for a change -/

inductive CarriedOut (c : Comparison) : Change → List Statement → Prop where
  | creation {name : String} {new : Table} {clause : TableClause} (named : clause.name = name)
      (keys : clause.foreignKeys.map ForeignKeyClause.key = new.foreignKeys) :
      CarriedOut c ⟨name, .createTable new⟩ [.createTable clause]
  | removal {name : String} {old : Table} :
      CarriedOut c ⟨name, .dropTable old⟩ [.dropTable name]
  | direct {name : String} {a : Action} {statements : List Statement} (part : a.isPart = true)
      (still : ∀ st ∈ statements, st.movesKeys = false) : CarriedOut c ⟨name, a⟩ statements
  | rebuild {name : String} {a : Action} {statements : List Statement} (part : a.isPart = true)
      (rebuilds : Rebuilds c name) (unset : ∀ st ∈ statements, ∀ setting, st ≠ .set setting) :
      CarriedOut c ⟨name, a⟩ statements

variable {c : Comparison} {changes done : List Change} {x : Change} {p : Progress}
  {name owner : String} {start goal : Table} {statements : List Statement} {k : ForeignKey}

theorem CarriedOut.unset (h : CarriedOut c x statements) :
    ∀ st ∈ statements, ∀ setting, st ≠ .set setting := by
  cases h with
  | creation | removal => simp
  | direct _ still =>
    rintro st hst setting rfl
    cases still _ hst
  | rebuild _ _ unset => exact unset

theorem InPlace.still {a : Action} (h : InPlace name a statements) :
    ∀ st ∈ statements, st.movesKeys = false := by
  cases h <;> simp [Statement.movesKeys]

theorem InPlace.isPart {a : Action} (h : InPlace name a statements) : a.isPart = true := by
  cases h <;> rfl

theorem emit_carriedOut (hc : c.current.WellFormed) (ht : c.target.WellFormed)
    (keeps : c.skipsConstraints = false) (discovered : ∀ x, x ∈ changes ↔ c.Discovers x)
    (rebuilding : ∀ n, n ∈ p.rebuilding ↔ Rebuilds c n) (hx : c.Discovers x) :
    ∃ p' statements, Emission.emit (context c changes) p x = (p', .of statements) ∧
      p'.rebuilding = p.rebuilding ∧ CarriedOut c x statements := by
  obtain ⟨p', statements, hemit, emits⟩ := emit_emits hc ht discovered rebuilding hx
  refine ⟨p', statements, hemit, emits.rebuilding, ?_⟩
  cases emits with
  | creation named keys => exact .creation named (keys keeps)
  | removal => exact .removal
  | rebuild part rebuilds _ shape => exact .rebuild part rebuilds shape.unset
  | again part rebuilds => exact .rebuild part rebuilds (by simp)
  | inPlace _ _ _ direct => exact .direct direct.isPart direct.still

/-! ### Scripts -/

theorem emitAll_carriedOut (hc : c.current.WellFormed) (ht : c.target.WellFormed)
    (keeps : c.skipsConstraints = false) (discovered : ∀ x, x ∈ changes ↔ c.Discovers x)
    {rest : List Change} (hrest : ∀ x ∈ rest, c.Discovers x)
    (rebuilding : ∀ n, n ∈ p.rebuilding ↔ Rebuilds c n) :
    ∃ p' parts, Emission.emitAll (context c changes) p rest = (p', .of parts.flatten) ∧
      p'.rebuilding = p.rebuilding ∧ List.Forall₂ (CarriedOut c) rest parts := by
  induction rest generalizing p with
  | nil => exact ⟨p, [], rfl, rfl, .nil⟩
  | cons x rest ih =>
    obtain ⟨p₁, statements, hemit, hsame, carried⟩ := emit_carriedOut hc ht keeps discovered
      rebuilding (hrest x List.mem_cons_self)
    obtain ⟨p₂, parts, hall, hsame', others⟩ := ih
      (fun y hy => hrest y (List.mem_cons_of_mem _ hy)) (p := p₁) (by rwa [hsame])
    refine ⟨p₂, statements :: parts, ?_, hsame'.trans hsame, .cons carried others⟩
    rw [Emission.emitAll, hemit]
    simp only [Emission.of, hall, Emission.append_of_fault_none, List.flatten_cons]

theorem unset_of_carriedOut {rest : List Change} {parts : List (List Statement)}
    (h : List.Forall₂ (CarriedOut c) rest parts) :
    ∀ st ∈ parts.flatten, ∀ setting, st ≠ .set setting := by
  induction h with
  | nil => simp
  | cons carried _ ih =>
    intro st hst
    rw [List.flatten_cons, List.mem_append] at hst
    rcases hst with hst | hst
    · exact carried.unset st hst
    · exact ih st hst

theorem script_parts (hc : c.current.WellFormed) (ht : c.target.WellFormed)
    (keeps : c.skipsConstraints = false) (discovered : ∀ x, x ∈ changes ↔ c.Discovers x)
    (charset : String) :
    ∃ p settings parts closing,
      Emission.prolog (context c changes) charset = .ok (p, settings) ∧
      (Emission.body (context c changes) p).2 = .of (parts.flatten ++ closing) ∧
      List.Forall₂ (CarriedOut c) changes parts ∧
      ((∃ name, Rebuilds c name) ∧ settings = [.foreignKeys false] ∧
          closing = [.set (.foreignKeys true)] ∨
        (¬ ∃ name, Rebuilds c name) ∧ (∀ s ∈ settings, s = .foreignKeys true) ∧
          closing = []) := by
  obtain ⟨names, hnames, rebuilding⟩ := tablesToRebuild_spec discovered
  obtain ⟨settings, hprolog, hsettings⟩ := prolog_eq hnames charset
  obtain ⟨p', parts, hall, hsame, hparts⟩ := emitAll_carriedOut hc ht keeps discovered
    (fun x hx => (discovered x).mp hx) (p := { Progress.start with rebuilding := names }) rebuilding
  have hbody : (Emission.body (context c changes) { Progress.start with rebuilding := names }).2 =
      .of (parts.flatten ++ if names = [] then [] else [.set (.foreignKeys true)]) := by
    rw [Emission.body, show (context c changes).changes = changes from rfl, hall]
    simp only [hsame]
    rfl
  refine ⟨_, settings, parts, _, hprolog, hbody, hparts, ?_⟩
  by_cases none : names = []
  · rw [if_pos none] at hsettings ⊢
    refine Or.inr ⟨?_, hsettings, rfl⟩
    rintro ⟨name, rebuilds⟩
    rw [← rebuilding, none] at rebuilds
    cases rebuilds
  · rw [if_neg none] at hsettings ⊢
    obtain ⟨name, hname⟩ := List.exists_mem_of_ne_nil names none
    exact Or.inl ⟨⟨name, (rebuilding name).mp hname⟩, hsettings, rfl⟩

/-! ### Scripts that rebuild no table -/

/-- The foreign keys in force after some changes, if no table is rebuilt: those of the old tables
that are not dropped yet, and those of the tables that have been created. -/
structure InForce (c : Comparison) (done : List Change) (g : KeyState) : Prop where
  enforced : g.enforced = true
  keys : ∀ owner k, (owner, k) ∈ g.keys ↔
    (c.current.HoldsKey owner k ∧ ∀ t, ⟨owner, .dropTable t⟩ ∉ done) ∨
      ∃ new, ⟨owner, .createTable new⟩ ∈ done ∧ k ∈ new.foreignKeys

theorem inForce_start {settings : List Setting} (on : ∀ s ∈ settings, s = .foreignKeys true) :
    InForce c [] ((KeyState.ofSnapshot c.current).run (settings.map .set)) := by
  have same : (KeyState.ofSnapshot c.current).run (settings.map .set) = .ofSnapshot c.current := by
    induction settings with
    | nil => rfl
    | cons s rest ih =>
      obtain rfl := on s List.mem_cons_self
      exact ih fun r hr => on r (List.mem_cons_of_mem _ hr)
  rw [same]
  exact ⟨rfl, fun owner k => by simp [KeyState.ofSnapshot, Snapshot.mem_ownedKeys]⟩

theorem InForce.step {g : KeyState} (h : InForce c done g) (carried : CarriedOut c x statements)
    (unrebuilt : ¬ ∃ name, Rebuilds c name) (discovered : ∀ y ∈ done ++ [x], c.Discovers y) :
    InForce c (done ++ [x]) (g.run statements) := by
  cases carried with
  | @creation name new clause named keys =>
    refine ⟨h.enforced, fun owner k => ?_⟩
    have created : (owner, k) ∈ clause.foreignKeys.map (fun f => (clause.name, f.key)) ↔
        owner = name ∧ k ∈ new.foreignKeys := by
      rw [← keys, named]
      simp only [List.mem_map, Prod.mk.injEq]
      constructor
      · rintro ⟨f, hf, rfl, rfl⟩
        exact ⟨rfl, f, hf, rfl⟩
      · rintro ⟨rfl, f, hf, rfl⟩
        exact ⟨f, hf, rfl, rfl⟩
    show (owner, k) ∈ g.keys ++ _ ↔ _
    rw [List.mem_append, h.keys, created, or_assoc]
    simp only [List.mem_append, List.mem_singleton, Change.mk.injEq, reduceCtorEq, and_false,
      or_false, Action.createTable.injEq]
    refine or_congr_right ?_
    constructor
    · rintro (⟨new', hnew', hk⟩ | ⟨rfl, hk⟩)
      · exact ⟨new', Or.inl hnew', hk⟩
      · exact ⟨new, Or.inr ⟨rfl, rfl⟩, hk⟩
    · rintro ⟨new', hnew' | ⟨rfl, rfl⟩, hk⟩
      · exact Or.inl ⟨new', hnew', hk⟩
      · exact Or.inr ⟨rfl, hk⟩
  | @removal name old =>
    refine ⟨h.enforced, fun owner k => ?_⟩
    show (owner, k) ∈ g.keys.filter _ ↔ _
    rw [List.mem_filter, h.keys]
    simp only [decide_eq_true_eq, List.mem_append, List.mem_singleton, Change.mk.injEq,
      reduceCtorEq, and_false, or_false, Action.dropTable.injEq, not_or, not_and]
    have present : c.current.table? name = some old :=
      (discovered ⟨name, .dropTable old⟩ (by simp)).of_dropTable.1
    constructor
    · rintro ⟨⟨hheld, hkept⟩ | hnew, hne⟩
      · exact Or.inl ⟨hheld, fun t => ⟨hkept t, fun heq => absurd heq hne⟩⟩
      · exact Or.inr hnew
    · rintro (⟨hheld, hkept⟩ | ⟨new, hnew, hk⟩)
      · exact ⟨Or.inl ⟨hheld, fun t => (hkept t).1⟩, fun heq => (hkept old).2 heq rfl⟩
      · refine ⟨Or.inr ⟨new, hnew, hk⟩, ?_⟩
        rintro rfl
        have absent := (discovered _ (List.mem_append_left _ hnew)).of_createTable.1
        rw [present] at absent
        cases absent
  | @direct name a statements part still =>
    rw [KeyState.run_of_still still]
    refine ⟨h.enforced, fun owner k => ?_⟩
    have not_created : ∀ new, a ≠ .createTable new := by
      rintro new rfl
      cases part
    have not_dropped : ∀ t, a ≠ .dropTable t := by
      rintro t rfl
      cases part
    simp [h.keys, (not_created _).symm, (not_dropped _).symm]
  | rebuild _ rebuilds _ => exact absurd ⟨_, rebuilds⟩ unrebuilt

def Released (c : Comparison) (done : List Change) (name : String) : Prop :=
  ∀ owner k, c.current.HoldsKey owner k → k.referencedTable = name → owner ≠ name →
    ∃ t, ⟨owner, .dropTable t⟩ ∈ done

theorem InForce.admits_iff {g : KeyState} (h : InForce c done g) (ht : c.target.WellFormed)
    (carried : CarriedOut c x statements) (unrebuilt : ¬ ∃ name, Rebuilds c name)
    (discovered : ∀ y ∈ done ++ [x], c.Discovers y) :
    g.AdmitsAll c.target statements ↔ ∀ old, x.action = .dropTable old → Released c done x.table := by
  cases carried with
  | creation =>
    constructor
    · intro _ old hdrop
      cases hdrop
    · exact fun _ => ⟨trivial, trivial⟩
  | @removal name old =>
    have gone : c.target.table? name = none :=
      (discovered ⟨name, .dropTable old⟩ (by simp)).of_dropTable.2
    constructor
    · rintro ⟨admits, -⟩ - - owner k hheld href hne
      have unreferenced := (admits gone).resolve_left (by simp [h.enforced])
      by_contra kept
      have inForce : (owner, k) ∈ g.keys :=
        (h.keys owner k).mpr (Or.inl ⟨hheld, fun t ht => kept ⟨t, ht⟩⟩)
      exact unreferenced _ inForce hne href
    · intro released
      refine ⟨fun _ => Or.inr ?_, trivial⟩
      rintro ⟨owner, k⟩ hk hne href
      rcases (h.keys owner k).mp hk with ⟨hheld, kept⟩ | ⟨new, hnew, hk⟩
      · obtain ⟨t, hdropped⟩ := released old rfl owner k hheld href hne
        exact kept t hdropped
      · -- what a new table refers to stays
        have present := (discovered _ (List.mem_append_left _ hnew)).of_createTable.2
        obtain ⟨u, hu, -⟩ := Snapshot.resolves_iff.mp (ht.toResolved.resolves present hk)
        rw [show k.referencedTable = name from href, gone] at hu
        cases hu
  | direct part still =>
    constructor
    · rintro - old rfl
      cases part
    · exact fun _ => KeyState.admitsAll_of_still still
  | rebuild _ rebuilds _ => exact absurd ⟨_, rebuilds⟩ unrebuilt

/-- A script that rebuilds no table is admitted if every table that it drops is released by then. -/
theorem admitsAll_iff_released (ht : c.target.WellFormed)
    (unrebuilt : ¬ ∃ name, Rebuilds c name) {rest : List Change} {parts : List (List Statement)}
    (hparts : List.Forall₂ (CarriedOut c) rest parts) {g : KeyState} (h : InForce c done g)
    (discovered : ∀ y ∈ done ++ rest, c.Discovers y) :
    g.AdmitsAll c.target parts.flatten ↔ ∀ before name old after,
      rest = before ++ ⟨name, .dropTable old⟩ :: after → Released c (done ++ before) name := by
  -- along the changes: a drop is admitted where it stands, and what is in force moves on
  induction hparts generalizing done g with
  | nil => simp [KeyState.AdmitsAll]
  | @cons x statements rest parts carried _ ih =>
    have discovered' : ∀ y ∈ done ++ [x], c.Discovers y := fun y hy =>
      discovered y (List.append_subset.mpr ⟨by simp, by simp⟩ hy)
    have others := ih (h.step carried unrebuilt discovered') (by simpa using discovered)
    rw [List.flatten_cons, KeyState.admitsAll_append, h.admits_iff ht carried unrebuilt discovered',
      others]
    constructor
    · rintro ⟨first, later⟩ before name old after heq
      cases before with
      | nil =>
        obtain ⟨rfl, rfl⟩ := List.cons.inj heq
        simpa using first old rfl
      | cons y before =>
        obtain ⟨rfl, hrest⟩ := List.cons.inj heq
        simpa using later before name old after hrest
    · intro released
      refine ⟨fun old hdrop => ?_, fun before name old after heq => ?_⟩
      · obtain ⟨name, action⟩ := x
        obtain rfl : action = .dropTable old := hdrop
        simpa using released [] name old rest rfl
      · simpa using released (x :: before) name old after (by rw [heq, List.cons_append])

/-! ### The order in which tables are dropped -/

theorem mem_of_pair_sublist {α : Type} {before after : List α} {a b : α}
    (nodup : (before ++ b :: after).Nodup) (h : [a, b].Sublist (before ++ b :: after)) :
    a ∈ before := by
  induction before with
  | nil =>
    have fresh := (List.nodup_cons.mp nodup).1
    cases h with
    | cons _ h => exact absurd (h.subset (by simp)) fresh
    | cons_cons _ h => exact absurd (List.singleton_sublist.mp h) fresh
  | cons d before ih =>
    cases h with
    | cons _ h => exact List.mem_cons_of_mem _ (ih (List.nodup_cons.mp nodup).2 h)
    | cons_cons _ _ => exact List.mem_cons_self

theorem not_mem_of_pair_sublist {α : Type} {before after : List α} {a b : α}
    (nodup : (before ++ b :: after).Nodup) (h : [b, a].Sublist (before ++ b :: after)) :
    a ∉ before := by
  intro ha
  obtain ⟨first, second, rfl⟩ := List.append_of_mem ha
  rw [List.append_assoc, List.cons_append] at nodup h
  have hb := mem_of_pair_sublist nodup h
  exact (List.nodup_append.mp nodup).2.2 b hb b (by simp) rfl

theorem pair_sublist_or {α : Type} {l : List α} {a b : α} (ha : a ∈ l) (hb : b ∈ l) (hne : a ≠ b) :
    [a, b].Sublist l ∨ [b, a].Sublist l := by
  obtain ⟨before, after, rfl⟩ := List.append_of_mem hb
  rcases List.mem_append.mp ha with hin | hin
  · exact Or.inl ((List.singleton_sublist.mpr hin).append
      (List.singleton_sublist.mpr List.mem_cons_self))
  · have hafter := (List.mem_cons.mp hin).resolve_left hne
    exact Or.inr ((List.nil_sublist before).append
      ((List.singleton_sublist.mpr hafter).cons_cons b))

/-- Tables are dropped in the order of the old snapshot. -/
theorem dropped_in_order (hc : c.current.Distinct) {u v : String} {t w : Table}
    (hu : c.current.table? u = some t) (hv : c.current.table? v = some w)
    (goneU : c.target.table? u = none) (goneV : c.target.table? v = none)
    (h : [u, v].Sublist c.current.tables.keys) :
    [⟨u, .dropTable t⟩, ⟨v, .dropTable w⟩].Sublist c.ordered := by
  have entries : [(u, t), (v, w)].Sublist c.current.tables.entries := by
    obtain ⟨l, hl, heq⟩ := List.sublist_map_iff.mp h
    obtain ⟨⟨u', t'⟩, ⟨v', w'⟩, rfl⟩ := List.length_eq_two.mp
      (show l.length = 2 by simpa using (congrArg List.length heq).symm)
    obtain ⟨rfl, rfl⟩ : u = u' ∧ v = v' := by simpa using heq
    have ht' := Snapshot.table?_eq_some_iff.mpr (hl.subset List.mem_cons_self)
    have hw' := Snapshot.table?_eq_some_iff.mpr
      (hl.subset (List.mem_cons_of_mem _ List.mem_cons_self))
    rw [hu] at ht'
    rw [hv] at hw'
    cases ht'
    cases hw'
    exact hl
  have removed : [(u, t), (v, w)].Sublist
      (c.current.tables.entries.filter fun e => (c.target.table? e.1).isNone) := by
    have := entries.filter fun e => (c.target.table? e.1).isNone
    simpa [goneU, goneV] using this
  have last : ∀ (name : String) (old : Table), c.current.table? name = some old →
      [⟨name, .dropTable old⟩].Sublist (c.removal old) := by
    intro name old hold
    rw [← hc.name_of_table? hold]
    exact List.sublist_append_right _ _
  have discovered : [⟨u, .dropTable t⟩, ⟨v, .dropTable w⟩].Sublist c.changes := by
    refine List.Sublist.trans ?_ (List.sublist_append_right _ _)
    refine List.Sublist.trans ?_ (removed.flatMap fun e => c.removal e.2)
    simpa using (last u t hu).append (last v w hv)
  refine List.pair_sublist_mergeSort ?_ ?_ ?_ discovered
  · intro a b d
    simp only [decide_eq_true_eq]
    omega
  · intro a b
    simp only [Bool.or_eq_true, decide_eq_true_eq]
    omega
  · exact decide_eq_true (Nat.le_refl 8)

/-- A table that loses what it refers to is rebuilt, unless it goes away as well. -/
theorem rebuilds_of_lost_reference (ht : c.target.WellFormed) (keeps : c.skipsConstraints = false)
    (held : c.current.HoldsKey owner k) {new : Table} (stays : c.target.table? owner = some new)
    (lost : c.target.table? k.referencedTable = none) : Rebuilds c owner := by
  obtain ⟨old, hold, hk⟩ := held
  have gone : k.signature ∉ new.signatures := by
    intro same
    obtain ⟨l, hl, hsame⟩ := List.mem_map.mp same
    obtain ⟨u, hu, -⟩ := Snapshot.resolves_iff.mp (ht.toResolved.resolves stays hl)
    rw [show l.referencedTable = k.referencedTable from
      congrArg ForeignKey.Signature.referencedTable hsame, lost] at hu
    cases hu
  have course : c.course? owner = some (old, new) := by simp [Comparison.course?, hold, stays]
  exact ⟨⟨old, hold⟩, ⟨new, stays⟩, _, .part course (.dropForeignKey keeps hk gone), rfl⟩

/-- Every table that refers to one that goes away comes before it. -/
def ReferrersFirst (c : Comparison) : Prop :=
  ∀ owner k, c.current.HoldsKey owner k → c.target.table? k.referencedTable = none →
    owner ≠ k.referencedTable → [owner, k.referencedTable].Sublist c.current.tables.keys

theorem released_iff_referrersFirst (hc : c.current.WellFormed) (ht : c.target.WellFormed)
    (keeps : c.skipsConstraints = false) (unrebuilt : ¬ ∃ name, Rebuilds c name) :
    (∀ before name old after, c.ordered = before ++ ⟨name, .dropTable old⟩ :: after →
      Released c before name) ↔ ReferrersFirst c := by
  have moment : c.Moment c.ordered :=
    Comparison.moment_of_prefix hc.toDistinct ht.toDistinct List.prefix_rfl
  have gone : ∀ {owner k}, c.current.HoldsKey owner k →
      c.target.table? k.referencedTable = none → c.target.table? owner = none := by
    intro owner k hheld lost
    rw [← Option.not_isSome_iff_eq_none, Option.isSome_iff_exists]
    rintro ⟨new, hnew⟩
    exact unrebuilt ⟨owner, rebuilds_of_lost_reference ht keeps hheld hnew lost⟩
  constructor
  · intro released owner k hheld lost hne
    obtain ⟨t, howner, hk⟩ := hheld
    have gone_owner := gone ⟨t, howner, hk⟩ lost
    obtain ⟨w, href, -⟩ := Snapshot.resolves_iff.mp (hc.toResolved.resolves howner hk)
    -- otherwise the table referred to comes first, and is dropped first, too
    by_contra unordered
    have reversed := (pair_sublist_or (Snapshot.mem_keys_iff.mpr ⟨t, howner⟩)
      (Snapshot.mem_keys_iff.mpr ⟨w, href⟩) hne).resolve_left unordered
    have drops := dropped_in_order hc.toDistinct href howner lost gone_owner reversed
    obtain ⟨before, after, hsplit⟩ := List.append_of_mem (drops.subset List.mem_cons_self)
    obtain ⟨t', hdropped⟩ := released _ _ _ _ hsplit owner k ⟨t, howner, hk⟩ rfl hne
    have known : ⟨owner, .dropTable t'⟩ ∈ c.ordered :=
      hsplit ▸ List.mem_append_left _ hdropped
    have same := (moment.discovered _ known).of_dropTable.1
    rw [howner] at same
    cases same
    rw [hsplit] at drops
    exact not_mem_of_pair_sublist (hsplit ▸ moment.nodup) drops hdropped
  · intro first before name old after hsplit owner k hheld href hne
    subst href
    have hdrop : ⟨k.referencedTable, .dropTable old⟩ ∈ c.ordered := by simp [hsplit]
    obtain ⟨hold, lost⟩ := (moment.discovered _ hdrop).of_dropTable
    have gone_owner := gone hheld lost
    have order := first owner k hheld lost hne
    obtain ⟨t, howner, -⟩ := hheld
    have drops := dropped_in_order hc.toDistinct howner hold gone_owner lost order
    rw [hsplit] at drops
    exact ⟨t, mem_of_pair_sublist (hsplit ▸ moment.nodup) drops⟩

/-! ### Both kinds of scripts -/

section Scripts

variable {d : Difference}

theorem admitted_of_rebuilds (hc : c.current.WellFormed) (ht : c.target.WellFormed)
    (keeps : c.skipsConstraints = false) (hd : c.difference = .ok d)
    (rebuilds : ∃ name, Rebuilds c name) (charset : String) :
    ∃ p settings, Emission.prolog (context c d.changes) charset = .ok (p, settings) ∧
      (Emission.body (context c d.changes) p).2.fault = none ∧
      (KeyState.ofSnapshot c.current).AdmitsAll c.target
        (settings.map .set ++ (Emission.body (context c d.changes) p).2.statements) := by
  obtain ⟨p, settings, parts, closing, hprolog, hbody, hparts, ⟨-, rfl, rfl⟩ | ⟨unrebuilt, -⟩⟩ :=
    script_parts hc ht keeps
      (fun _ => Comparison.mem_difference hc.toDistinct ht.toDistinct hd) charset
  · refine ⟨p, _, hprolog, by rw [hbody]; rfl, ?_⟩
    rw [hbody, Emission.of, KeyState.admitsAll_append, KeyState.admitsAll_append]
    exact ⟨KeyState.admitsAll_settings _,
      KeyState.admitsAll_of_unenforced rfl (unset_of_carriedOut hparts), trivial, trivial⟩
  · exact absurd rebuilds unrebuilt

theorem admitted_iff_referrersFirst (hc : c.current.WellFormed) (ht : c.target.WellFormed)
    (keeps : c.skipsConstraints = false) (hd : c.difference = .ok d)
    (unrebuilt : ¬ ∃ name, Rebuilds c name) (charset : String) :
    ∃ p settings, Emission.prolog (context c d.changes) charset = .ok (p, settings) ∧
      (Emission.body (context c d.changes) p).2.fault = none ∧
      ((KeyState.ofSnapshot c.current).AdmitsAll c.target
        (settings.map .set ++ (Emission.body (context c d.changes) p).2.statements) ↔
        ReferrersFirst c) := by
  have discovered : ∀ x, x ∈ d.changes ↔ c.Discovers x :=
    fun _ => Comparison.mem_difference hc.toDistinct ht.toDistinct hd
  obtain ⟨p, settings, parts, closing, hprolog, hbody, hparts, ⟨rebuilds, -⟩ | ⟨-, on, rfl⟩⟩ :=
    script_parts hc ht keeps discovered charset
  · exact absurd rebuilds unrebuilt
  · refine ⟨p, settings, hprolog, by rw [hbody]; rfl, ?_⟩
    rw [hbody, Emission.of, List.append_nil, KeyState.admitsAll_append,
      admitsAll_iff_released ht unrebuilt hparts (inForce_start on) (by simp [discovered]),
      and_iff_right (KeyState.admitsAll_settings settings),
      Comparison.changes_of_difference hd]
    exact released_iff_referrersFirst hc ht keeps unrebuilt

/-- A script never drops a table for good that is still referred to while foreign keys are enforced,
exactly if it rebuilds a table, and so does not enforce them, or if the old snapshot has every table
that refers to one that goes away before that one. -/
theorem drops_admitted_iff (hc : c.current.WellFormed) (ht : c.target.WellFormed)
    (keeps : c.skipsConstraints = false) (hd : c.difference = .ok d) (charset : String) :
    ∃ p settings, Emission.prolog (context c d.changes) charset = .ok (p, settings) ∧
      (Emission.body (context c d.changes) p).2.fault = none ∧
      ((KeyState.ofSnapshot c.current).AdmitsAll c.target
        (settings.map .set ++ (Emission.body (context c d.changes) p).2.statements) ↔
        (∃ name, Rebuilds c name) ∨ ReferrersFirst c) := by
  by_cases rebuilds : ∃ name, Rebuilds c name
  · obtain ⟨p, settings, hprolog, hfault, admitted⟩ :=
      admitted_of_rebuilds hc ht keeps hd rebuilds charset
    exact ⟨p, settings, hprolog, hfault, fun _ => Or.inl rebuilds, fun _ => admitted⟩
  · obtain ⟨p, settings, hprolog, hfault, admitted_iff⟩ :=
      admitted_iff_referrersFirst hc ht keeps hd rebuilds charset
    exact ⟨p, settings, hprolog, hfault, by rw [admitted_iff, or_iff_right rebuilds]⟩

end Scripts

end Sqlite

namespace Shop

open Sqlite (KeyState context)

def closing (tables : List Table) : Comparison where
  current := .ofTables tables
  target := .ofTables []
  rules := .neutral
  skipsConstraints := false

/-- Orders go away before the users that they refer to. -/
theorem orders_dropped_first :
    ∃ d p settings, (closing [orders, users]).difference = .ok d ∧
      Emission.prolog (context (closing [orders, users]) d.changes) "utf8" = .ok (p, settings) ∧
      (KeyState.ofSnapshot (closing [orders, users]).current).AdmitsAll
        (closing [orders, users]).target (settings.map .set ++
          (Emission.body (context (closing [orders, users]) d.changes) p).2.statements) := by
  obtain ⟨g, -, -, -, hd⟩ := Comparison.difference_of_nodup (c := closing [orders, users])
    (by decide)
  obtain ⟨p, settings, hprolog, -, admitted_iff⟩ := Sqlite.drops_admitted_iff
    (c := closing [orders, users]) (by decide) (by decide) rfl hd "utf8"
  have first : ∀ e ∈ (closing [orders, users]).current.tables.entries, ∀ k ∈ e.2.foreignKeys,
      [e.1, k.referencedTable].Sublist (closing [orders, users]).current.tables.keys := by decide
  refine ⟨_, p, settings, hd, hprolog, admitted_iff.mpr (Or.inr ?_)⟩
  rintro owner k ⟨t, ht, hk⟩ - -
  exact first _ (Snapshot.table?_eq_some_iff.mp ht) k hk

/-- Users are dropped while foreign keys are enforced and orders still refer to them. -/
theorem users_dropped_first :
    (closing [users, orders]).current.WellFormed ∧ (closing [users, orders]).target.WellFormed ∧
      (closing [users, orders]).skipsConstraints = false ∧
      ∃ d p settings, (closing [users, orders]).difference = .ok d ∧
        Emission.prolog (context (closing [users, orders]) d.changes) "utf8" = .ok (p, settings) ∧
        ¬ (KeyState.ofSnapshot (closing [users, orders]).current).AdmitsAll
          (closing [users, orders]).target (settings.map .set ++
            (Emission.body (context (closing [users, orders]) d.changes) p).2.statements) := by
  obtain ⟨g, -, -, -, hd⟩ := Comparison.difference_of_nodup (c := closing [users, orders])
    (by decide)
  have unrebuilt : ¬ ∃ name, Sqlite.Rebuilds (closing [users, orders]) name := by
    rintro ⟨name, -, ⟨new, hnew⟩, -⟩
    cases hnew
  obtain ⟨p, settings, hprolog, -, admitted_iff⟩ := Sqlite.admitted_iff_referrersFirst
    (c := closing [users, orders]) (by decide) (by decide) rfl hd unrebuilt "utf8"
  refine ⟨by decide, by decide, rfl, _, p, settings, hd, hprolog, fun admitted => ?_⟩
  have key : ⟨some "owner", ["user"], "users", ["id"], "CASCADE", "NO ACTION"⟩ ∈
      orders.foreignKeys := by decide
  have first := admitted_iff.mp admitted "orders" _ ⟨orders, rfl, key⟩ rfl (by decide)
  revert first
  decide

end Shop

end SchemaMigration
