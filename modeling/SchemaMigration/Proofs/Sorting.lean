import SchemaMigration.Proofs.Cycle
import SchemaMigration.Proofs.DependencyGraph

/-!
Sorting any graph that can be built. What is placed never lies on a cycle, and what is stuck waits
for something else that is stuck, so that sorting fails exactly where there is a cycle; and the node
that is placed is always the first of those that wait for nothing more.
-/

namespace SchemaMigration.DependencyGraph

variable {α : Type} {g : DependencyGraph α} {edges : List Edge}
variable {nodes placed stuck : List (Node α)} {n m : Node α}

/-! ### Building a graph -/

inductive Operation (α : Type)
  | discover (id : String) (payload : α) (phase : Int)
  | addNode (node : Node α)
  | addEdge (edge : Edge)

def perform (g : DependencyGraph α) : Operation α → Except Refusal (DependencyGraph α)
  | .discover id payload phase => g.discover id payload phase
  | .addNode node => g.addNode node
  | .addEdge edge => g.addEdge edge

def after (g : DependencyGraph α) (op : Operation α) : DependencyGraph α :=
  match g.perform op with
  | .ok g' => g'
  | .error _ => g

def afterAll (ops : List (Operation α)) : DependencyGraph α := ops.foldl after empty

def Known (g : DependencyGraph α) (id : String) : Prop := id ∈ g.nodes.map Node.id

/-- Whether an operation adds a node a second time, or an edge to or from an unknown one. -/
def Refused (g : DependencyGraph α) : Operation α → Prop
  | .discover id _ _ => g.Known id
  | .addNode node => g.Known node.id
  | .addEdge edge => ¬ (g.Known edge.source ∧ g.Known edge.target)

def added? (g : DependencyGraph α) : Operation α → Option (Node α)
  | .discover id payload phase => some ⟨id, payload, phase, g.nodes.length⟩
  | .addNode node => some node
  | .addEdge _ => none

structure Sound (g : DependencyGraph α) : Prop where
  distinct : (g.nodes.map Node.id).Nodup
  ends : EndsDistinct g.edges
  joins : ∀ e ∈ g.edges, e.source ≠ e.target ∧ g.Known e.source ∧ g.Known e.target

theorem ends_placeEdge (e : Edge) (edges : List Edge) :
    (placeEdge e edges).map Edge.ends =
      if e.ends ∈ edges.map Edge.ends then edges.map Edge.ends
      else edges.map Edge.ends ++ [e.ends] := by
  induction edges with
  | nil => rfl
  | cons d rest ih =>
    by_cases h : d.source = e.source ∧ d.target = e.target
    · have hends : d.ends = e.ends := Prod.ext h.1 h.2
      simp [placeEdge, h, hends]
    · have hends : e.ends ≠ d.ends := fun eq =>
        h ⟨(congrArg Prod.fst eq).symm, (congrArg Prod.snd eq).symm⟩
      rw [placeEdge, if_neg h, List.map_cons, ih]
      by_cases hmem : e.ends ∈ rest.map Edge.ends
      · simp only [hmem, List.map_cons, List.mem_cons, or_true, if_true]
      · simp only [hmem, hends, List.map_cons, List.mem_cons, or_self, if_false, List.cons_append]

theorem leads_placeEdge {e : Edge} {a b : String} :
    Leads (placeEdge e edges) a b ↔ Leads edges a b ∨ a = e.source ∧ b = e.target := by
  have hends : (a, b) = e.ends ↔ a = e.source ∧ b = e.target := Prod.mk_inj
  rw [leads_iff, leads_iff, ends_placeEdge]
  split
  · next hmem =>
    constructor
    · exact Or.inl
    · rintro (h | h)
      · exact h
      · rwa [hends.mpr h]
  · rw [List.mem_append, List.mem_singleton, hends]

theorem addNode_cases (g : DependencyGraph α) (n : Node α) :
    (g.Known n.id ∧ ∃ refusal, g.addNode n = .error refusal) ∨
      (¬ g.Known n.id ∧ g.addNode n = .ok { g with nodes := g.nodes ++ [n] }) := by
  by_cases h : g.Known n.id
  · exact Or.inl ⟨h, _, if_pos (hasNode_iff.mpr h)⟩
  · exact Or.inr ⟨h, if_neg (mt hasNode_iff.mp h)⟩

theorem addEdge_cases (g : DependencyGraph α) (e : Edge) :
    (¬ (g.Known e.source ∧ g.Known e.target) ∧ ∃ refusal, g.addEdge e = .error refusal) ∨
      ((g.Known e.source ∧ g.Known e.target) ∧ g.addEdge e =
        .ok (if e.source = e.target then g else { g with edges := placeEdge e g.edges })) := by
  have known : ∀ {id : String}, g.hasNode id = false ↔ ¬ g.Known id := by
    intro id
    rw [Bool.eq_false_iff, Ne, hasNode_iff, Known]
  unfold addEdge
  by_cases hs : g.Known e.source
  · rw [if_neg (by rwa [known, not_not])]
    by_cases ht : g.Known e.target
    · rw [if_neg (by rwa [known, not_not])]
      exact Or.inr ⟨⟨hs, ht⟩, (apply_ite Except.ok _ _ _).symm⟩
    · exact Or.inl ⟨fun h => ht h.2, _, if_pos (known.mpr ht)⟩
  · exact Or.inl ⟨fun h => hs h.1, _, if_pos (known.mpr hs)⟩

theorem perform_cases (g : DependencyGraph α) (op : Operation α) :
    (g.Refused op ∧ ∃ refusal, g.perform op = .error refusal) ∨
      (¬ g.Refused op ∧ ∃ n, g.added? op = some n ∧ ¬ g.Known n.id ∧
        g.perform op = .ok { g with nodes := g.nodes ++ [n] }) ∨
      (¬ g.Refused op ∧ ∃ e, op = .addEdge e ∧ g.Known e.source ∧ g.Known e.target ∧ g.perform op =
        .ok (if e.source = e.target then g else { g with edges := placeEdge e g.edges })) := by
  cases op with
  | discover id payload phase =>
    rcases addNode_cases g ⟨id, payload, phase, g.nodes.length⟩ with h | ⟨hfresh, heq⟩
    · exact Or.inl h
    · exact Or.inr (Or.inl ⟨hfresh, _, rfl, hfresh, heq⟩)
  | addNode n =>
    rcases addNode_cases g n with h | ⟨hfresh, heq⟩
    · exact Or.inl h
    · exact Or.inr (Or.inl ⟨hfresh, n, rfl, hfresh, heq⟩)
  | addEdge e =>
    rcases addEdge_cases g e with h | ⟨hknown, heq⟩
    · exact Or.inl h
    · exact Or.inr (Or.inr ⟨not_not.mpr hknown, e, rfl, hknown.1, hknown.2, heq⟩)

theorem after_of_ok {op : Operation α} {g' : DependencyGraph α} (h : g.perform op = .ok g') :
    g.after op = g' := by
  rw [after, h]

theorem after_of_error {op : Operation α} {refusal : Refusal} (h : g.perform op = .error refusal) :
    g.after op = g := by
  rw [after, h]

theorem sound_empty : Sound (empty : DependencyGraph α) :=
  ⟨List.nodup_nil, List.nodup_nil, fun _ h => absurd h List.not_mem_nil⟩

theorem Sound.addNode (h : Sound g) (fresh : ¬ g.Known n.id) :
    Sound { g with nodes := g.nodes ++ [n] } where
  distinct := by
    rw [List.map_append, List.map_singleton, ← List.concat_eq_append]
    exact h.distinct.concat fresh
  ends := h.ends
  joins e he := by
    obtain ⟨hself, hsource, htarget⟩ := h.joins e he
    simp only [Known, List.map_append]
    exact ⟨hself, List.mem_append_left _ hsource, List.mem_append_left _ htarget⟩

theorem Sound.addEdge (h : Sound g) {e : Edge} (known : g.Known e.source ∧ g.Known e.target)
    (other : e.source ≠ e.target) : Sound { g with edges := placeEdge e g.edges } where
  distinct := h.distinct
  ends := by
    rw [EndsDistinct, ends_placeEdge, ← List.concat_eq_append]
    split
    · exact h.ends
    · next hnew => exact h.ends.concat hnew
  joins d hd := by
    rcases mem_placeEdge hd with rfl | hd
    · exact ⟨other, known⟩
    · exact h.joins d hd

theorem Sound.after (h : Sound g) (op : Operation α) : Sound (g.after op) := by
  rcases perform_cases g op with ⟨-, refusal, heq⟩ | ⟨-, n, -, hfresh, heq⟩ |
    ⟨-, e, -, hsource, htarget, heq⟩
  · rwa [after_of_error heq]
  · rw [after_of_ok heq]
    exact h.addNode hfresh
  · rw [after_of_ok heq]
    split
    · exact h
    · next hother => exact h.addEdge ⟨hsource, htarget⟩ hother

theorem sound_afterAll (ops : List (Operation α)) : Sound (afterAll ops) := by
  suffices ∀ g : DependencyGraph α, Sound g → Sound (ops.foldl after g) from this _ sound_empty
  induction ops with
  | nil => exact fun _ h => h
  | cons op rest ih => exact fun g h => ih (g.after op) (h.after op)

/-! ### The node that is placed next -/

def Ready (edges : List Edge) (placed : List String) (n : Node α) : Prop :=
  ∀ e ∈ edges, e.target = n.id → e.source ∈ placed

/-- A node is placed before another ready one: by phase and sequence, and if these are the same as
the one that was added earlier. -/
def GoesFirst (nodes : List (Node α)) (n m : Node α) : Prop :=
  n.Precedes m ∨ n.phase = m.phase ∧ n.sequence = m.sequence ∧ [n, m].Sublist nodes

theorem GoesFirst.of_sublist {few : List (Node α)} (h : GoesFirst few n m)
    (sub : few.Sublist nodes) : GoesFirst nodes n m :=
  h.imp_right fun ⟨hphase, hsequence, hpair⟩ => ⟨hphase, hsequence, hpair.trans sub⟩

theorem first?_ahead (h : first? nodes = some n) (hm : m ∈ nodes) :
    m = n ∨ n.Precedes m ∨ [n, m].Sublist nodes := by
  induction nodes generalizing n with
  | nil => cases hm
  | cons head rest ih =>
    have head_first : head = n → m = n ∨ n.Precedes m ∨ [n, m].Sublist (head :: rest) := by
      rintro rfl
      rcases List.mem_cons.mp hm with rfl | hm
      · exact Or.inl rfl
      · exact Or.inr (Or.inr ((List.singleton_sublist.mpr hm).cons_cons head))
    rw [first?] at h
    split at h
    · next least hleast =>
      split at h
      · next hless =>
        cases h
        rcases List.mem_cons.mp hm with rfl | hm
        · exact Or.inr (Or.inl hless)
        · exact (ih hleast hm).imp_right fun h => h.imp_right fun h => h.cons head
      · exact head_first (Option.some.inj h)
    · exact head_first (Option.some.inj h)

theorem first?_goesFirst (h : first? nodes = some n) (hm : m ∈ nodes) :
    m = n ∨ GoesFirst nodes n m := by
  have hnot := first?_minimal h m hm
  rcases first?_ahead h hm with rfl | hprecedes | hpair
  · exact Or.inl rfl
  · exact Or.inr (Or.inl hprecedes)
  · right
    by_cases hprecedes : n.Precedes m
    · exact Or.inl hprecedes
    · unfold Node.Precedes at *
      exact Or.inr ⟨by omega, by omega, hpair⟩

theorem isReady_iff : isReady edges n = true ↔ Ready edges [] n := by
  simp [isReady, Ready]

/-- Taking away what leaves a node is to hold it as placed. -/
theorem ready_cons {id : String} {ids : List String} :
    Ready edges (id :: ids) n ↔ Ready (edges.filter fun e => e.source != id) ids n := by
  constructor
  · intro h e he htarget
    obtain ⟨he, hsource⟩ := List.mem_filter.mp he
    exact (List.mem_cons.mp (h e he htarget)).resolve_left (by simpa using hsource)
  · intro h e he htarget
    by_cases hsource : e.source = id
    · exact List.mem_cons.mpr (Or.inl hsource)
    · exact List.mem_cons_of_mem _ (h e (List.mem_filter.mpr ⟨he, by simpa using hsource⟩) htarget)

/-! ### Placing nodes -/

structure Arrangement (nodes : List (Node α)) (edges : List Edge) (placed stuck : List (Node α)) :
    Prop where
  perm : (placed ++ stuck).Perm nodes
  ready : ∀ before n after, placed = before ++ n :: after → Ready edges (before.map Node.id) n
  least : ∀ before n after, placed = before ++ n :: after → ∀ m ∈ after ++ stuck,
    Ready edges (before.map Node.id) m → GoesFirst nodes n m
  waits : ∀ m ∈ stuck, ¬ Ready edges (placed.map Node.id) m

theorem Arrangement.of_none_ready (h : nodes.filter (isReady edges) = []) :
    Arrangement nodes edges [] nodes where
  perm := .refl _
  ready before n after h := absurd h (by simp)
  least before n after h := absurd h (by simp)
  waits m hm hready := by
    have hnot := List.filter_eq_nil_iff.mp h m hm
    exact hnot (isReady_iff.mpr hready)

theorem Arrangement.cons (distinct : (nodes.map Node.id).Nodup)
    (hn : first? (nodes.filter (isReady edges)) = some n)
    (h : Arrangement (nodes.filter fun m => m.id != n.id) (edges.filter fun e => e.source != n.id)
      placed stuck) : Arrangement nodes edges (n :: placed) stuck := by
  obtain ⟨hmem, hready⟩ := List.mem_filter.mp (first?_mem hn)
  have hperm : (n :: (placed ++ stuck)).Perm nodes :=
    (h.perm.cons n).trans (perm_cons_filter distinct hmem)
  refine ⟨hperm, ?_, ?_, ?_⟩
  · intro before m after hsplit
    cases before with
    | nil =>
      obtain ⟨rfl, rfl⟩ := List.cons.inj hsplit
      exact isReady_iff.mp hready
    | cons k before =>
      obtain ⟨rfl, htail⟩ := List.cons.inj hsplit
      exact ready_cons.mpr (h.ready before m after htail)
  · intro before k after hsplit m hm hready
    cases before with
    | nil =>
      obtain ⟨rfl, rfl⟩ := List.cons.inj hsplit
      have hother : m ∈ nodes.filter fun m => m.id != n.id := h.perm.mem_iff.mp hm
      obtain ⟨hm, hid⟩ := List.mem_filter.mp hother
      have hne : m ≠ n := fun eq => by simp [eq] at hid
      have hcandidate : m ∈ nodes.filter (isReady edges) :=
        List.mem_filter.mpr ⟨hm, isReady_iff.mpr hready⟩
      exact ((first?_goesFirst hn hcandidate).resolve_left hne).of_sublist List.filter_sublist
    | cons k' before =>
      obtain ⟨rfl, htail⟩ := List.cons.inj hsplit
      have hleast := h.least before k after htail m hm (ready_cons.mp hready)
      exact hleast.of_sublist List.filter_sublist
  · exact fun m hm hready => h.waits m hm (ready_cons.mp hready)

theorem arrangement_of_arrange (distinct : (nodes.map Node.id).Nodup) {count : Nat}
    (enough : nodes.length ≤ count) :
    Arrangement nodes edges (arrange count nodes edges).1 (arrange count nodes edges).2 := by
  -- one node is placed at a time, and its edges are taken away with it
  induction count generalizing nodes edges with
  | zero =>
    obtain rfl : nodes = [] := List.length_eq_zero_iff.mp (Nat.le_zero.mp enough)
    exact Arrangement.of_none_ready rfl
  | succ count ih =>
    cases hn : first? (nodes.filter (isReady edges)) with
    | none =>
      rw [arrange, hn]
      exact Arrangement.of_none_ready (first?_eq_none.mp hn)
    | some n =>
      rw [arrange, hn]
      have hlength := (perm_cons_filter distinct (List.mem_of_mem_filter (first?_mem hn))).length_eq
      rw [List.length_cons] at hlength
      apply Arrangement.cons distinct hn
      exact ih (distinct.sublist (List.filter_sublist.map Node.id)) (by omega)

namespace Arrangement

/-- Nothing on a cycle is placed: the first of its nodes to be placed would come after one. -/
theorem avoids_cycles (h : Arrangement nodes edges placed stuck) {cycle : List String}
    (hcycle : IsSimpleCycle edges cycle) : ∀ n ∈ placed, n.id ∉ cycle := by
  intro n hn hmem
  have hsome : (placed.find? fun m => cycle.contains m.id).isSome = true := by
    rw [List.find?_isSome]
    exact ⟨n, hn, List.contains_iff_mem.mpr hmem⟩
  obtain ⟨m, hm⟩ := Option.isSome_iff_exists.mp hsome
  obtain ⟨hin, before, after, hsplit, hbefore⟩ := List.find?_eq_some_iff_append.mp hm
  obtain ⟨a, ha, e, he, hsource, htarget⟩ := hcycle.leads_to (List.contains_iff_mem.mp hin)
  obtain ⟨k, hk, hid⟩ := List.mem_map.mp (h.ready before m after hsplit e he htarget)
  have hnot := hbefore k hk
  rw [hid, hsource] at hnot
  simp [ha] at hnot

theorem cycle_subset (h : Arrangement nodes edges placed stuck)
    (known : ∀ e ∈ edges, e.target ∈ nodes.map Node.id) {cycle : List String}
    (hcycle : IsSimpleCycle edges cycle) : cycle ⊆ stuck.map Node.id := by
  intro b hb
  obtain ⟨a, -, e, he, -, rfl⟩ := hcycle.leads_to hb
  obtain ⟨n, hn, hid⟩ := List.mem_map.mp (known e he)
  rcases List.mem_append.mp (h.perm.mem_iff.mpr hn) with hn | hn
  · exact absurd (hid ▸ hb) (h.avoids_cycles hcycle n hn)
  · exact List.mem_map.mpr ⟨n, hn, hid⟩

theorem exists_cycle (h : Arrangement nodes edges placed stuck)
    (known : ∀ e ∈ edges, e.source ∈ nodes.map Node.id) (some_stuck : stuck ≠ []) :
    ∃ cycle, IsSimpleCycle edges cycle := by
  have hsome : stuck.map Node.id ≠ [] := fun h => some_stuck (List.map_eq_nil_iff.mp h)
  apply exists_simpleCycle_of_preceded hsome
  intro b hb
  obtain ⟨m, hm, rfl⟩ := List.mem_map.mp hb
  have hwaits := h.waits m hm
  simp only [Ready, not_forall] at hwaits
  obtain ⟨e, he, htarget, hsource⟩ := hwaits
  obtain ⟨n, hn, hid⟩ := List.mem_map.mp (known e he)
  refine ⟨e.source, ?_, e, he, rfl, htarget⟩
  rcases List.mem_append.mp (h.perm.mem_iff.mpr hn) with hn | hn
  · exact absurd (List.mem_map.mpr ⟨n, hn, hid⟩) hsource
  · exact List.mem_map.mpr ⟨n, hn, hid⟩

theorem stuck_eq_nil_iff (h : Arrangement nodes edges placed stuck)
    (known : ∀ e ∈ edges, e.source ∈ nodes.map Node.id ∧ e.target ∈ nodes.map Node.id) :
    stuck = [] ↔ ¬ ∃ cycle, IsSimpleCycle edges cycle := by
  constructor
  · rintro rfl ⟨cycle, hcycle⟩
    obtain ⟨a, ha⟩ := List.exists_mem_of_ne_nil _ hcycle.nonempty
    cases h.cycle_subset (fun e he => (known e he).2) hcycle ha
  · intro hnone
    by_contra hstuck
    exact hnone (h.exists_cycle (fun e he => (known e he).1) hstuck)

theorem sources_first (h : Arrangement nodes edges placed []) {e : Edge} (he : e ∈ edges)
    (known : e.target ∈ nodes.map Node.id) : [e.source, e.target].Sublist (placed.map Node.id) := by
  obtain ⟨n, hn, hid⟩ := List.mem_map.mp known
  have hperm := h.perm
  rw [List.append_nil] at hperm
  obtain ⟨before, after, rfl⟩ := List.append_of_mem (hperm.mem_iff.mpr hn)
  have hsource := h.ready before n after rfl e he hid.symm
  rw [List.map_append, List.map_cons, hid]
  have hfirst : [e.source].Sublist (before.map Node.id) := List.singleton_sublist.mpr hsource
  exact hfirst.append ((List.nil_sublist _).cons_cons _)

end Arrangement

/-! ### Every graph -/

theorem sort_eq_ok_iff : g.sort = .ok nodes ↔ g.arranged = (nodes, []) := by
  rcases harranged : g.arranged with ⟨placed, stuck⟩
  cases stuck <;> simp [sort, harranged]

theorem sort_eq_error_iff {cycles : List (List String)} :
    g.sort = .error cycles ↔ g.arranged.2 ≠ [] ∧ cycles = g.cycles := by
  rcases harranged : g.arranged with ⟨placed, stuck⟩
  cases stuck <;> simp [sort, harranged, eq_comm]

namespace Sound

theorem arrangement (h : Sound g) : Arrangement g.nodes g.edges g.arranged.1 g.arranged.2 :=
  arrangement_of_arrange h.distinct (Nat.le_refl _)

theorem refused_iff (h : Sound g) :
    (∃ cycles, g.sort = .error cycles) ↔ ∃ a, Relation.TransGen (Leads g.edges) a a := by
  have hstuck := h.arrangement.stuck_eq_nil_iff fun e he => (h.joins e he).2
  rw [exists_comes_back_iff, ← not_iff_not, ← hstuck]
  simp [sort_eq_error_iff]

theorem arrangement_of_sort (h : Sound g) (hsort : g.sort = .ok nodes) :
    Arrangement g.nodes g.edges nodes [] := by
  have harrangement := h.arrangement
  rwa [sort_eq_ok_iff.mp hsort] at harrangement

theorem nodup_stuck (h : Sound g) : (g.arranged.2.map Node.id).Nodup := by
  have hnodup := (h.arrangement.perm.map Node.id).nodup_iff.mpr h.distinct
  rw [List.map_append] at hnodup
  exact (List.nodup_append.mp hnodup).2.1

theorem mem_cycles (h : Sound g) {cycle : List String} (hcycle : cycle ∈ g.cycles) :
    IsSimpleCycle g.edges cycle := by
  obtain ⟨before, root, after, rest, -, -, -, hsimple⟩ := (mem_cyclesAmong h.nodup_stuck).mp hcycle
  exact hsimple

theorem exists_reported (h : Sound g) {cycle : List String} (hcycle : IsSimpleCycle g.edges cycle) :
    ∃ found ∈ g.cycles, found ~r cycle := by
  apply exists_found h.nodup_stuck hcycle
  exact h.arrangement.cycle_subset (fun e he => (h.joins e he).2.2) hcycle

theorem pairwise_cycles (h : Sound g) : g.cycles.Pairwise fun a b => ¬ a ~r b :=
  pairwise_cyclesAmong h.ends h.nodup_stuck

end Sound

structure SortsCorrectly (g : DependencyGraph α) : Prop where
  joins : ∀ e ∈ g.edges, e.source ≠ e.target ∧ g.Known e.source ∧ g.Known e.target
  dual : ∀ p n, p ∈ (g.dependencies n).map Edge.source ↔ n ∈ g.dependents p
  refused_iff : (∃ cycles, g.sort = .error cycles) ↔ ∃ a, Relation.TransGen (Leads g.edges) a a
  told : ∀ cycles, g.sort = .error cycles → (∀ cycle ∈ cycles, IsSimpleCycle g.edges cycle) ∧
    (∀ cycle, IsSimpleCycle g.edges cycle → ∃ found ∈ cycles, found ~r cycle) ∧
      cycles.Pairwise fun a b => ¬ a ~r b
  complete : ∀ nodes, g.sort = .ok nodes → nodes.Perm g.nodes ∧ (nodes.map Node.id).Nodup
  respects : ∀ nodes, g.sort = .ok nodes →
    ∀ e ∈ g.edges, [e.source, e.target].Sublist (nodes.map Node.id)
  least : ∀ nodes, g.sort = .ok nodes → ∀ before n after, nodes = before ++ n :: after →
    Ready g.edges (before.map Node.id) n ∧
      ∀ m ∈ after, Ready g.edges (before.map Node.id) m → GoesFirst g.nodes n m

theorem Sound.sortsCorrectly (h : Sound g) : SortsCorrectly g where
  joins := h.joins
  dual p n := by
    simp only [dependencies, dependents, List.mem_map, List.mem_filter, beq_iff_eq]
    constructor
    · rintro ⟨e, ⟨he, htarget⟩, hsource⟩
      exact ⟨e, ⟨he, hsource⟩, htarget⟩
    · rintro ⟨e, ⟨he, hsource⟩, htarget⟩
      exact ⟨e, ⟨he, htarget⟩, hsource⟩
  refused_iff := h.refused_iff
  told cycles hsort := by
    obtain ⟨-, rfl⟩ := sort_eq_error_iff.mp hsort
    exact ⟨fun _ => h.mem_cycles, fun _ => h.exists_reported, h.pairwise_cycles⟩
  complete nodes hsort := by
    have hperm := (h.arrangement_of_sort hsort).perm
    rw [List.append_nil] at hperm
    exact ⟨hperm, (hperm.map Node.id).nodup_iff.mpr h.distinct⟩
  respects nodes hsort e he := (h.arrangement_of_sort hsort).sources_first he (h.joins e he).2.2
  least nodes hsort before n after hsplit := by
    have hleast := (h.arrangement_of_sort hsort).least before n after hsplit
    rw [List.append_nil] at hleast
    exact ⟨(h.arrangement_of_sort hsort).ready before n after hsplit, hleast⟩

structure Performs (g : DependencyGraph α) (op : Operation α) : Prop where
  refused_iff : (∃ refusal, g.perform op = .error refusal) ↔ g.Refused op
  unchanged : g.Refused op → g.after op = g
  added : ∀ n, ¬ g.Refused op → g.added? op = some n →
    (g.after op).nodes = g.nodes ++ [n] ∧ (g.after op).edges = g.edges
  joined : ∀ e, ¬ g.Refused op → op = .addEdge e → e.source ≠ e.target →
    (g.after op).nodes = g.nodes ∧
      ∀ a b, Leads (g.after op).edges a b ↔ Leads g.edges a b ∨ a = e.source ∧ b = e.target
  ignored : ∀ e, op = .addEdge e → e.source = e.target → g.after op = g

theorem performs (g : DependencyGraph α) (op : Operation α) : Performs g op := by
  rcases perform_cases g op with ⟨href, refusal, heq⟩ | ⟨href, n, hadded, -, heq⟩ |
    ⟨href, e, rfl, -, -, heq⟩
  · have hafter := after_of_error heq
    exact ⟨iff_of_true ⟨_, heq⟩ href, fun _ => hafter, fun _ h => absurd href h,
      fun _ h => absurd href h, fun _ _ _ => hafter⟩
  · have hafter := after_of_ok heq
    refine ⟨iff_of_false (by simp [heq]) href, fun h => absurd h href, ?_, ?_, ?_⟩
    · intro m _ hm
      cases hadded.symm.trans hm
      rw [hafter]
      exact ⟨rfl, rfl⟩
    · rintro e - rfl -
      cases hadded
    · rintro e rfl -
      cases hadded
  · have hafter := after_of_ok heq
    refine ⟨iff_of_false (by simp [heq]) href, fun h => absurd h href, ?_, ?_, ?_⟩
    · intro m _ hm
      cases hm
    · intro d _ hd hother
      cases hd
      rw [hafter, if_neg hother]
      exact ⟨rfl, fun _ _ => leads_placeEdge⟩
    · intro d hd hself
      cases hd
      rw [hafter, if_pos hself]

/-- Whatever is added, in whatever order and with whatever is refused between, the graph is sorted
correctly. -/
theorem afterAll_sorts (ops : List (Operation α)) :
    SortsCorrectly (afterAll ops) ∧ ∀ op, Performs (afterAll ops) op :=
  ⟨(sound_afterAll ops).sortsCorrectly, performs (afterAll ops)⟩

example :
    (afterAll [.discover "a" () 1, .discover "b" () 1, .discover "b" () 2, .discover "c" () 1,
      .addEdge ⟨"a", "b", .replace⟩, .addEdge ⟨"b", "a", .replace⟩, .addEdge ⟨"b", "b", .replace⟩,
      .addEdge ⟨"b", "c", .replace⟩, .addEdge ⟨"c", "b", .replace⟩]).sort =
        .error [["a", "b"], ["b", "c"]] := by
  decide

end SchemaMigration.DependencyGraph
