import SchemaMigration.Difference
import SchemaMigration.Proofs.DependencyGraph

/-!
The order of a difference. Whatever a change waits for belongs to an earlier phase, so the changes
never wait for each other in a circle, and their order is the order of the phases, in which those of
one phase stay as they were discovered.
-/

namespace SchemaMigration

namespace Change

def phase (c : Change) : Nat := c.kind.phase

theorem phase_of_settles {c : Change} {wanted : String → Bool} (h : c.settles wanted = true) :
    c.phase ≤ 4 := by
  obtain ⟨table, action⟩ := c
  cases action with
  | addColumn => exact (by decide : 3 ≤ 4)
  | alterColumnType => exact Nat.le_refl 4
  | _ => simp [settles, settledColumn?] at h

theorem phase_of_addedForeignKeyWaits? {table : String} {key : ForeignKey} {other : Change}
    {reason : Reason} (h : addedForeignKeyWaits? table key other = some reason) :
    other.phase ≤ 6 := by
  unfold addedForeignKeyWaits? at h
  dsimp only at h
  split at h
  · cases h
  · split at h
    · next hsettles => exact Nat.le_trans (phase_of_settles hsettles) (by decide)
    · split at h <;> next haction => simp_all [phase, kind, Action.kind, ChangeKind.phase]

theorem phase_of_addedIndexWaits? {table : String} {index : Index} {other : Change}
    {reason : Reason} (h : addedIndexWaits? table index other = some reason) :
    other.phase ≤ 4 := by
  unfold addedIndexWaits? at h
  split at h
  · cases h
  · split at h
    · next hsettles => exact phase_of_settles hsettles
    · split at h <;> next haction => simp_all [phase, kind, Action.kind, ChangeKind.phase]

theorem phase_of_releaseWaits? {table : String} {column : Option String} {other : Change}
    {reason : Reason} (h : releaseWaits? table column other = some reason) :
    other.phase ≤ 1 := by
  unfold releaseWaits? at h
  split at h <;> next haction => simp_all [phase, kind, Action.kind, ChangeKind.phase]

theorem phase_of_alteredTableWaits? {table : String} {new : Table} {other : Change}
    {reason : Reason} (h : alteredTableWaits? table new other = some reason) :
    other.phase ≤ 4 := by
  unfold alteredTableWaits? at h
  split at h
  · split at h
    · next hsettles => exact phase_of_settles hsettles
    · cases h
  · split at h <;> next haction => simp_all [phase, kind, Action.kind, ChangeKind.phase]

/-- A change only waits for changes of earlier phases. -/
theorem phase_lt_of_waitsFor? {change other : Change} {reason : Reason}
    (h : change.waitsFor? other = some reason) : other.phase < change.phase := by
  obtain ⟨table, action⟩ := change
  unfold waitsFor? at h
  cases action with
  | addForeignKey key =>
    have := phase_of_addedForeignKeyWaits? h
    exact Nat.lt_of_le_of_lt this (show 6 < 10 by decide)
  | addIndex index =>
    have := phase_of_addedIndexWaits? h
    exact Nat.lt_of_le_of_lt this (show 4 < 9 by decide)
  | dropTable definition =>
    have := phase_of_releaseWaits? h
    exact Nat.lt_of_le_of_lt this (show 1 < 8 by decide)
  | alterColumnType old new =>
    have := phase_of_releaseWaits? h
    exact Nat.lt_of_le_of_lt this (show 1 < 4 by decide)
  | alterTable old new =>
    have := phase_of_alteredTableWaits? h
    exact Nat.lt_of_le_of_lt this (show 4 < 6 by decide)
  | dropColumn column =>
    dsimp only at h
    split at h
    · next haction => simp_all [phase, kind, Action.kind, ChangeKind.phase]
    · have := phase_of_releaseWaits? h
      exact Nat.lt_of_le_of_lt this (show 1 < 7 by decide)
  | alterColumnNullDefault old new =>
    dsimp only at h
    split at h <;> next haction => simp_all [phase, kind, Action.kind, ChangeKind.phase]
  | createTable | addColumn | dropIndex | dropForeignKey | incomplete => cases h

end Change

namespace Comparison

open DependencyGraph

def nodesFrom (count : Nat) : List Step → List (Node Change)
  | [] => []
  | s :: rest => ⟨s.id, s.change, s.change.phase, count⟩ :: nodesFrom (count + 1) rest

theorem ids_nodesFrom (count : Nat) (steps : List Step) :
    (nodesFrom count steps).map Node.id = steps.map Step.id := by
  induction steps generalizing count with
  | nil => rfl
  | cons s rest ih => simp [nodesFrom, ih]

theorem steps_nodesFrom (count : Nat) (steps : List Step) :
    (nodesFrom count steps).map (fun n => (⟨n.id, n.payload⟩ : Step)) = steps := by
  induction steps generalizing count with
  | nil => rfl
  | cons s rest ih => simp [nodesFrom, ih]

theorem mem_nodesFrom {count : Nat} {steps : List Step} {n : Node Change}
    (h : n ∈ nodesFrom count steps) :
    (⟨n.id, n.payload⟩ : Step) ∈ steps ∧ n.phase = n.payload.phase ∧ count ≤ n.sequence := by
  induction steps generalizing count with
  | nil => cases h
  | cons s rest ih =>
    rcases List.mem_cons.mp h with rfl | h
    · exact ⟨List.mem_cons_self, rfl, Int.le_refl _⟩
    · obtain ⟨hmem, hphase, hseq⟩ := ih h
      exact ⟨List.mem_cons_of_mem _ hmem, hphase, by omega⟩

theorem discovered_nodesFrom (count : Nat) (steps : List Step) :
    Discovered (nodesFrom count steps) := by
  induction steps generalizing count with
  | nil => exact .nil
  | cons s rest ih =>
    refine List.pairwise_cons.mpr ⟨?_, ih (count + 1)⟩
    intro n hn
    have hseq := (mem_nodesFrom hn).2.2
    dsimp only
    omega

def discoverAll (g : DependencyGraph Change) (steps : List Step) :
    Except Refusal (DependencyGraph Change) :=
  steps.foldlM (fun g s => g.discover s.id s.change s.change.kind.phase) g

theorem discoverAll_of_nodup (g : DependencyGraph Change) (steps : List Step)
    (h : (g.nodes.map Node.id ++ steps.map Step.id).Nodup) :
    discoverAll g steps = .ok ⟨g.nodes ++ nodesFrom g.nodes.length steps, g.edges⟩ := by
  induction steps generalizing g with
  | nil => simp [discoverAll, nodesFrom, pure, Except.pure]
  | cons s rest ih =>
    have hfresh : g.hasNode s.id = false := by
      rw [Bool.eq_false_iff, Ne, hasNode_iff]
      intro hmem
      exact (List.nodup_append.mp h).2.2 _ hmem _ List.mem_cons_self rfl
    have hstep : g.discover s.id s.change s.change.kind.phase =
        .ok { g with nodes := g.nodes ++ [⟨s.id, s.change, s.change.phase, g.nodes.length⟩] } := by
      simp [discover, addNode, hfresh, Change.phase]
    simp only [discoverAll, List.foldlM_cons, hstep]
    exact (ih _ (by simpa using h)).trans (by simp [nodesFrom])

theorem discoverAll_error (g : DependencyGraph Change) (steps : List Step)
    (hg : (g.nodes.map Node.id).Nodup) (h : ¬ (g.nodes.map Node.id ++ steps.map Step.id).Nodup) :
    ∃ refusal, discoverAll g steps = .error refusal := by
  induction steps generalizing g with
  | nil => exact absurd (by simpa using hg) h
  | cons s rest ih =>
    by_cases hseen : g.hasNode s.id = true
    · refine ⟨.duplicateNode s.id, ?_⟩
      simp [discoverAll, List.foldlM_cons, discover, addNode, hseen, bind, Except.bind]
    · have hstep : g.discover s.id s.change s.change.kind.phase = .ok
          { g with nodes := g.nodes ++ [⟨s.id, s.change, s.change.phase, g.nodes.length⟩] } := by
        simp [discover, addNode, hseen, Change.phase]
      simp only [discoverAll, List.foldlM_cons, hstep]
      refine ih _ ?_ (by simpa using h)
      rw [hasNode_iff] at hseen
      simpa [List.nodup_append, hg] using hseen

theorem addEdge_of_known {α : Type} {g : DependencyGraph α} {e : Edge}
    (hs : e.source ∈ g.nodes.map Node.id) (ht : e.target ∈ g.nodes.map Node.id) :
    ∃ g', g.addEdge e = .ok g' ∧ g'.nodes = g.nodes ∧ ∀ d ∈ g'.edges, d = e ∨ d ∈ g.edges := by
  rw [← hasNode_iff] at hs ht
  by_cases hself : e.source = e.target
  · exact ⟨g, by simp [addEdge, ht, hself], rfl, fun _ => Or.inr⟩
  · exact ⟨{ g with edges := placeEdge e g.edges }, by simp [addEdge, hs, ht, hself], rfl,
      fun _ => mem_placeEdge⟩

theorem addEdges_of_known {α : Type} (g : DependencyGraph α) (edges : List Edge)
    (h : ∀ e ∈ edges, e.source ∈ g.nodes.map Node.id ∧ e.target ∈ g.nodes.map Node.id) :
    ∃ g', edges.foldlM addEdge g = .ok g' ∧ g'.nodes = g.nodes ∧
      ∀ d ∈ g'.edges, d ∈ edges ∨ d ∈ g.edges := by
  induction edges generalizing g with
  | nil => exact ⟨g, rfl, rfl, fun _ => Or.inr⟩
  | cons e rest ih =>
    obtain ⟨hs, ht⟩ := h e List.mem_cons_self
    obtain ⟨g₁, hg₁, hnodes₁, hedges₁⟩ := addEdge_of_known hs ht
    obtain ⟨g₂, hg₂, hnodes₂, hedges₂⟩ := ih g₁ (by
      rw [hnodes₁]
      exact fun d hd => h d (List.mem_cons_of_mem _ hd))
    refine ⟨g₂, ?_, hnodes₂.trans hnodes₁, ?_⟩
    · simpa [List.foldlM_cons, hg₁, bind, Except.bind] using hg₂
    · intro d hd
      rcases hedges₂ d hd with hd | hd
      · exact Or.inl (List.mem_cons_of_mem _ hd)
      · rcases hedges₁ d hd with rfl | hd
        · exact Or.inl List.mem_cons_self
        · exact Or.inr hd

theorem mem_edges {steps : List Step} {e : Edge} (h : e ∈ steps.flatMap (edgesTo steps)) :
    ∃ step ∈ steps, ∃ other ∈ steps,
      step.change.waitsFor? other.change = some e.reason ∧ e.source = other.id ∧
        e.target = step.id := by
  obtain ⟨step, hstep, he⟩ := List.mem_flatMap.mp h
  obtain ⟨other, hother, he⟩ := List.mem_filterMap.mp he
  obtain ⟨reason, hreason, rfl⟩ := Option.map_eq_some_iff.mp he
  exact ⟨step, hstep, other, hother, hreason, rfl, rfl⟩

theorem graphOf_eq (steps : List Step) :
    graphOf steps =
      discoverAll .empty steps >>= (steps.flatMap (edgesTo steps)).foldlM addEdge := rfl

theorem graphOf_of_nodup {steps : List Step} (h : (steps.map Step.id).Nodup) :
    ∃ g, graphOf steps = .ok g ∧ g.nodes = nodesFrom 0 steps ∧
      ∀ e ∈ g.edges, e ∈ steps.flatMap (edgesTo steps) := by
  have hnodes := discoverAll_of_nodup .empty steps (by simpa [empty] using h)
  have hids := ids_nodesFrom 0 steps
  obtain ⟨g, hg, hgn, hge⟩ := addEdges_of_known ⟨nodesFrom 0 steps, []⟩
    (steps.flatMap (edgesTo steps)) (by
      intro e he
      obtain ⟨step, hstep, other, hother, -, hsource, htarget⟩ := mem_edges he
      rw [hids, hsource, htarget]
      exact ⟨List.mem_map_of_mem hother, List.mem_map_of_mem hstep⟩)
  refine ⟨g, ?_, hgn, fun e he => (hge e he).resolve_right (by simp)⟩
  rw [graphOf_eq, hnodes]
  exact hg

theorem graphOf_error {steps : List Step} (h : ¬ (steps.map Step.id).Nodup) :
    ∃ refusal, graphOf steps = .error refusal := by
  obtain ⟨refusal, hr⟩ := discoverAll_error .empty steps (by simp [empty])
    (by simpa [empty] using h)
  exact ⟨refusal, by rw [graphOf_eq, hr]; rfl⟩

/-- Every edge of the graph of steps leads to a later phase. -/
theorem graphOf_rising {steps : List Step} (h : (steps.map Step.id).Nodup)
    {g : DependencyGraph Change} (hn : g.nodes = nodesFrom 0 steps)
    (he : ∀ e ∈ g.edges, e ∈ steps.flatMap (edgesTo steps)) : Rising g.nodes g.edges where
  discovered := hn ▸ discovered_nodesFrom 0 steps
  distinct := by rwa [hn, ids_nodesFrom]
  rises e hmem := by
    obtain ⟨step, hstep, other, hother, hwait, hsource, htarget⟩ := mem_edges (he e hmem)
    have hids : (g.nodes.map fun n => (⟨n.id, n.payload⟩ : Step)) = steps := by
      rw [hn, steps_nodesFrom]
    obtain ⟨a, ha, hao⟩ := List.mem_map.mp (hids ▸ hother)
    refine ⟨a, ha, by rw [hsource, ← hao], ?_⟩
    intro b hb hid
    obtain ⟨hbs, hbp, -⟩ := mem_nodesFrom (hn ▸ hb)
    obtain ⟨-, hap, -⟩ := mem_nodesFrom (hn ▸ ha)
    have hbstep : (⟨b.id, b.payload⟩ : Step) = step :=
      List.inj_on_of_nodup_map h hbs hstep (hid.trans htarget)
    have hlt : a.payload.phase < b.payload.phase := by
      have := Change.phase_lt_of_waitsFor? hwait
      rwa [← hbstep, ← hao] at this
    omega

/-- Whether a step may stand before another one that was discovered later. -/
def inPhaseOrder (a b : Step) : Bool := decide (a.change.phase ≤ b.change.phase)

theorem sort_graphOf {steps : List Step} {g : DependencyGraph Change}
    (hn : g.nodes = nodesFrom 0 steps) (h : Rising g.nodes g.edges) :
    ∃ nodes, g.sort = .ok nodes ∧ nodes.Pairwise Node.Precedes ∧ nodes.Perm g.nodes ∧
      nodes.map (fun n => (⟨n.id, n.payload⟩ : Step)) = steps.mergeSort inPhaseOrder := by
  refine ⟨_, sort_of_rising h, h.discovered.mergeSort_precedes, List.mergeSort_perm _ _, ?_⟩
  rw [List.map_mergeSort (s := inPhaseOrder), hn, steps_nodesFrom]
  intro a ha b hb
  rw [hn] at ha hb
  obtain ⟨-, hap, -⟩ := mem_nodesFrom ha
  obtain ⟨-, hbp, -⟩ := mem_nodesFrom hb
  simp [DependencyGraph.inPhaseOrder, inPhaseOrder, hap, hbp]

/-- The difference of two snapshots, unless two discovered changes share an identifier. -/
theorem difference_of_nodup {c : Comparison} (h : (c.steps.map Step.id).Nodup) :
    ∃ g, graphOf c.steps = .ok g ∧ g.nodes = nodesFrom 0 c.steps ∧
      (∀ e ∈ g.edges, e ∈ c.steps.flatMap (edgesTo c.steps)) ∧
      c.difference = .ok ⟨c.current, c.target, c.steps.mergeSort inPhaseOrder⟩ := by
  obtain ⟨g, hg, hn, he⟩ := graphOf_of_nodup h
  obtain ⟨nodes, hsort, -, -, hmap⟩ := sort_graphOf hn (graphOf_rising h hn he)
  refine ⟨g, hg, hn, he, ?_⟩
  rw [difference, hg]
  simp only [hsort, hmap]

theorem difference_refused {c : Comparison} (h : ¬ (c.steps.map Step.id).Nodup) :
    ∃ refusal, c.difference = .error (.refused refusal) := by
  obtain ⟨refusal, hr⟩ := graphOf_error h
  exact ⟨refusal, by rw [difference, hr]⟩

theorem difference_ok {c : Comparison} {d : Difference} (h : c.difference = .ok d) :
    (c.steps.map Step.id).Nodup ∧ d.current = c.current ∧ d.target = c.target ∧
      d.steps = c.steps.mergeSort inPhaseOrder := by
  by_cases hids : (c.steps.map Step.id).Nodup
  · obtain ⟨g, -, -, -, hd⟩ := difference_of_nodup hids
    rw [h] at hd
    cases hd
    exact ⟨hids, rfl, rfl, rfl⟩
  · obtain ⟨refusal, hr⟩ := difference_refused hids
    rw [h] at hr
    cases hr

theorem inPhaseOrder_trans (a b c : Step) (h : inPhaseOrder a b) (k : inPhaseOrder b c) :
    inPhaseOrder a c := by
  simp only [inPhaseOrder, decide_eq_true_eq] at *
  omega

theorem inPhaseOrder_total (a b : Step) : inPhaseOrder a b || inPhaseOrder b a := by
  simp only [inPhaseOrder, Bool.or_eq_true, decide_eq_true_eq]
  omega

theorem pair_sublist_of_phase {steps : List Step}
    (h : steps.Pairwise fun a b => inPhaseOrder a b) {a b : Step} (ha : a ∈ steps) (hb : b ∈ steps)
    (hlt : a.change.phase < b.change.phase) : [a, b].Sublist steps := by
  induction steps with
  | nil => cases ha
  | cons s rest ih =>
    rw [List.pairwise_cons] at h
    rcases List.mem_cons.mp ha with rfl | ha'
    · have hb' := (List.mem_cons.mp hb).resolve_left fun eq => by
        rw [eq] at hlt
        omega
      exact (List.singleton_sublist.mpr hb').cons_cons a
    · rcases List.mem_cons.mp hb with rfl | hb'
      · have hle := h.1 a ha'
        simp only [inPhaseOrder, decide_eq_true_eq] at hle
        omega
      · exact (ih h.2 ha' hb').cons s

/-- Changes never wait for each other in a circle. There is a difference exactly if no two
discovered changes share an identifier. It then holds the discovered changes in the stable order of
their phases, so nothing is lost or repeated, and every change comes after those it waits for. -/
theorem difference_is_phase_sort (c : Comparison) :
    (∀ cycles, c.difference ≠ .error (.circular cycles)) ∧
    ((∃ d, c.difference = .ok d) ↔ (c.steps.map Step.id).Nodup) ∧
    ∀ d, c.difference = .ok d →
      d.steps = c.steps.mergeSort inPhaseOrder ∧ d.steps.Perm c.steps ∧
      ∃ g, graphOf c.steps = .ok g ∧
        ∀ e ∈ g.edges, [e.source, e.target].Sublist (d.steps.map Step.id) := by
  refine ⟨?_, ⟨?_, ?_⟩, ?_⟩
  · intro cycles h
    by_cases hids : (c.steps.map Step.id).Nodup
    · obtain ⟨g, -, -, -, hd⟩ := difference_of_nodup hids
      rw [hd] at h
      cases h
    · obtain ⟨refusal, hr⟩ := difference_refused hids
      rw [hr] at h
      cases h
  · rintro ⟨d, hd⟩
    exact (difference_ok hd).1
  · intro hids
    obtain ⟨g, -, -, -, hd⟩ := difference_of_nodup hids
    exact ⟨_, hd⟩
  · intro d hd
    obtain ⟨hids, -, -, hsteps⟩ := difference_ok hd
    obtain ⟨g, hg, -, he, -⟩ := difference_of_nodup hids
    rw [hsteps]
    refine ⟨rfl, List.mergeSort_perm _ _, g, hg, ?_⟩
    intro e hmem
    obtain ⟨step, hstep, other, hother, hwait, hsource, htarget⟩ := mem_edges (he e hmem)
    have hpair := pair_sublist_of_phase
      (List.pairwise_mergeSort inPhaseOrder_trans inPhaseOrder_total c.steps)
      (List.mem_mergeSort.mpr hother) (List.mem_mergeSort.mpr hstep)
      (Change.phase_lt_of_waitsFor? hwait)
    rw [hsource, htarget]
    exact hpair.map Step.id

end Comparison

/-! A shop whose orders get a new key, a new column and a new index, while the users go away. -/

namespace Shop

def number (name : String) : Column := ⟨name, .int, none, none, false, none, [], none⟩

def users : Table :=
  { name := "users"
    columns := [number "id", ⟨"email", .string, some 255, none, true, none, [], none⟩]
    primaryKey := ["id"]
    indexes := [⟨"by_email", ["email"], true⟩]
    foreignKeys := []
    charset := none
    collation := none }

def orders : Table :=
  { name := "orders"
    columns := [number "id", number "user", ⟨"note", .text, none, none, true, none, [], none⟩]
    primaryKey := ["id"]
    indexes := [⟨"by_note", ["note"], false⟩]
    foreignKeys := [⟨some "owner", ["user"], "users", ["id"], "CASCADE", "NO ACTION"⟩]
    charset := none
    collation := none }

def items : Table := { users with name := "items", indexes := [] }

def newOrders : Table :=
  { orders with
    columns := [number "id", { number "user" with type := .bigInt }, number "item"]
    indexes := [⟨"by_note", ["item"], false⟩]
    foreignKeys := [⟨some "stock", ["item"], "items", ["id"], "NO ACTION", "NO ACTION"⟩] }

def comparison : Comparison :=
  ⟨.ofTables [users, orders], .ofTables [newOrders, items], .neutral, false⟩

theorem difference_is_sorted :
    ∃ d, comparison.difference = .ok d ∧
      d.steps = comparison.steps.mergeSort Comparison.inPhaseOrder ∧
        d.steps ≠ comparison.steps := by
  have h := Comparison.difference_is_phase_sort comparison
  obtain ⟨d, hd⟩ := h.2.1.mpr (by decide)
  refine ⟨d, hd, (h.2.2 d hd).1, ?_⟩
  rw [(h.2.2 d hd).1]
  intro heq
  have hsorted := List.pairwise_mergeSort Comparison.inPhaseOrder_trans
    Comparison.inPhaseOrder_total comparison.steps
  rw [heq] at hsorted
  revert hsorted
  decide

end Shop

end SchemaMigration
