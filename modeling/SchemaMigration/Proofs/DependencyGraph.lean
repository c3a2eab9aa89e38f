import Mathlib.Data.List.Nodup
import SchemaMigration.DependencyGraph

/-!
Sorting a graph in which every edge leads to a later phase. The first of all waiting nodes is then
always ready, so nothing is ever stuck, and the order is that of phase and discovery alone.
-/

namespace SchemaMigration.DependencyGraph

variable {α : Type}

theorem hasNode_iff {g : DependencyGraph α} {id : String} :
    g.hasNode id = true ↔ id ∈ g.nodes.map Node.id := by
  simp [hasNode]

theorem mem_placeEdge {e d : Edge} {edges : List Edge} (h : d ∈ placeEdge e edges) :
    d = e ∨ d ∈ edges := by
  induction edges with
  | nil => exact Or.inl (by simpa [placeEdge] using h)
  | cons f rest ih =>
    rw [placeEdge] at h
    split at h
    · rcases List.mem_cons.mp h with rfl | h
      · exact Or.inl rfl
      · exact Or.inr (List.mem_cons_of_mem _ h)
    · rcases List.mem_cons.mp h with rfl | h
      · exact Or.inr List.mem_cons_self
      · exact (ih h).imp_right (List.mem_cons_of_mem _)

theorem precedes_irrefl (a : Node α) : ¬ a.Precedes a := by
  unfold Node.Precedes
  omega

theorem precedes_asymm {a b : Node α} (h : a.Precedes b) : ¬ b.Precedes a := by
  unfold Node.Precedes at *
  omega

def Discovered (nodes : List (Node α)) : Prop :=
  nodes.Pairwise fun a b => a.sequence < b.sequence

theorem Discovered.eq_of_sequence {nodes : List (Node α)} (h : Discovered nodes) {a b : Node α}
    (ha : a ∈ nodes) (hb : b ∈ nodes) (eq : a.sequence = b.sequence) : a = b := by
  induction nodes with
  | nil => cases ha
  | cons n rest ih =>
    rw [Discovered, List.pairwise_cons] at h
    rcases List.mem_cons.mp ha with rfl | ha'
    · rcases List.mem_cons.mp hb with rfl | hb'
      · rfl
      · have := h.1 b hb'
        omega
    · rcases List.mem_cons.mp hb with rfl | hb'
      · have := h.1 a ha'
        omega
      · exact ih h.2 ha' hb'

theorem Discovered.precedes_or {nodes : List (Node α)} (h : Discovered nodes) {a b : Node α}
    (ha : a ∈ nodes) (hb : b ∈ nodes) (hne : a ≠ b) : a.Precedes b ∨ b.Precedes a := by
  have hs : a.sequence ≠ b.sequence := fun eq => hne (h.eq_of_sequence ha hb eq)
  unfold Node.Precedes
  omega

theorem first?_eq_none {nodes : List (Node α)} : first? nodes = none ↔ nodes = [] := by
  cases nodes with
  | nil => simp [first?]
  | cons n rest =>
    simp only [first?, reduceCtorEq, iff_false]
    split
    · split <;> simp
    · simp

theorem first?_mem {nodes : List (Node α)} {n : Node α} (h : first? nodes = some n) :
    n ∈ nodes := by
  induction nodes generalizing n with
  | nil => cases h
  | cons head rest ih =>
    rw [first?] at h
    split at h
    · next m hm =>
      split at h <;> cases h
      · exact List.mem_cons_of_mem _ (ih hm)
      · exact List.mem_cons_self
    · cases h
      exact List.mem_cons_self

theorem first?_minimal {nodes : List (Node α)} {n : Node α} (h : first? nodes = some n) :
    ∀ m ∈ nodes, ¬ m.Precedes n := by
  induction nodes generalizing n with
  | nil => cases h
  | cons head rest ih =>
    rw [first?] at h
    split at h
    · next least hleast =>
      have hrest := ih hleast
      split at h <;> cases h <;> rintro m hm
      · next hlt =>
        rcases List.mem_cons.mp hm with rfl | hm
        · exact precedes_asymm hlt
        · exact hrest m hm
      · next hge =>
        rcases List.mem_cons.mp hm with rfl | hm
        · exact precedes_irrefl m
        · -- a node below the head would also be below the least of the rest
          have hm := hrest m hm
          unfold Node.Precedes at *
          omega
    · next hnone =>
      cases h
      rw [first?_eq_none] at hnone
      subst hnone
      simpa using precedes_irrefl head

theorem first?_filter {nodes : List (Node α)} (h : Discovered nodes) {n : Node α}
    {p : Node α → Bool} (hn : first? nodes = some n) (hp : p n = true) :
    first? (nodes.filter p) = some n := by
  have hin : n ∈ nodes.filter p := List.mem_filter.mpr ⟨first?_mem hn, hp⟩
  cases hm : first? (nodes.filter p) with
  | none =>
    rw [first?_eq_none.mp hm] at hin
    cases hin
  | some m =>
    have hmem : m ∈ nodes := List.mem_of_mem_filter (first?_mem hm)
    by_cases hne : m = n
    · rw [hne]
    · rcases h.precedes_or hmem (first?_mem hn) hne with hlt | hlt
      · exact absurd hlt (first?_minimal hn m hmem)
      · exact absurd hlt (first?_minimal hm n hin)

theorem perm_cons_filter {nodes : List (Node α)} (distinct : (nodes.map Node.id).Nodup)
    {n : Node α} (hn : n ∈ nodes) : (n :: nodes.filter fun m => m.id != n.id).Perm nodes := by
  have hd := distinct.of_map
  rw [List.perm_ext_iff_of_nodup _ hd]
  · intro m
    rw [List.mem_cons, List.mem_filter]
    constructor
    · rintro (rfl | hm)
      · exact hn
      · exact hm.1
    · intro hm
      by_cases hid : m.id = n.id
      · exact Or.inl (List.inj_on_of_nodup_map distinct hm hn hid)
      · exact Or.inr ⟨hm, by simpa using hid⟩
  · rw [List.nodup_cons]
    exact ⟨by simp [List.mem_filter], hd.filter _⟩

structure Rising (waiting : List (Node α)) (edges : List Edge) : Prop where
  discovered : Discovered waiting
  distinct : (waiting.map Node.id).Nodup
  rises : ∀ e ∈ edges, ∃ a ∈ waiting, a.id = e.source ∧
    ∀ b ∈ waiting, b.id = e.target → a.phase < b.phase

namespace Rising

variable {waiting : List (Node α)} {edges : List Edge}

theorem first_ready (h : Rising waiting edges) {n : Node α} (hn : first? waiting = some n) :
    isReady edges n = true := by
  rw [isReady, List.all_eq_true]
  intro e he
  obtain ⟨a, ha, -, hrise⟩ := h.rises e he
  simp only [bne_iff_ne, ne_eq]
  intro htarget
  have hlt := hrise n (first?_mem hn) htarget.symm
  exact first?_minimal hn a ha (Or.inl hlt)

theorem tail (h : Rising waiting edges) (n : Node α) :
    Rising (waiting.filter fun m => m.id != n.id) (edges.filter fun e => e.source != n.id) where
  discovered := h.discovered.filter _
  distinct := h.distinct.sublist (List.filter_sublist.map _)
  rises e he := by
    obtain ⟨he, hsource⟩ := List.mem_filter.mp he
    obtain ⟨a, ha, hid, hrise⟩ := h.rises e he
    refine ⟨a, List.mem_filter.mpr ⟨ha, by rwa [hid]⟩, hid, ?_⟩
    exact fun b hb => hrise b (List.mem_of_mem_filter hb)

theorem arrange_complete (h : Rising waiting edges) {count : Nat} (hc : waiting.length ≤ count) :
    ∃ placed, arrange count waiting edges = (placed, []) ∧ placed.Perm waiting ∧
      placed.Pairwise Node.Precedes := by
  -- each node placed is the first of those that wait, and `Rising` holds of the rest
  induction count generalizing waiting edges with
  | zero =>
    obtain rfl : waiting = [] := List.length_eq_zero_iff.mp (Nat.le_zero.mp hc)
    exact ⟨[], rfl, .nil, .nil⟩
  | succ count ih =>
    cases hn : first? waiting with
    | none =>
      obtain rfl := first?_eq_none.mp hn
      exact ⟨[], rfl, .nil, .nil⟩
    | some n =>
      have hperm := perm_cons_filter h.distinct (first?_mem hn)
      have hlength := hperm.length_eq
      rw [List.length_cons] at hlength
      obtain ⟨placed, hplaced, hp, hs⟩ := ih (h.tail n) (by omega)
      refine ⟨n :: placed, ?_, (hp.cons n).trans hperm, List.pairwise_cons.mpr ⟨?_, hs⟩⟩
      · simp only [arrange, first?_filter h.discovered hn (h.first_ready hn), hplaced]
      · intro m hm
        obtain ⟨hm, hid⟩ := List.mem_filter.mp (hp.mem_iff.mp hm)
        have hne : n ≠ m := fun eq => by simp [eq] at hid
        exact (h.discovered.precedes_or (first?_mem hn) hm hne).resolve_right
          (first?_minimal hn m hm)

end Rising

/-- Whether a node may stand before another one that was discovered later. -/
def inPhaseOrder (a b : Node α) : Bool := decide (a.phase ≤ b.phase)

private theorem inPhaseOrder_trans (a b c : Node α) (h : inPhaseOrder a b) (k : inPhaseOrder b c) :
    inPhaseOrder a c := by
  simp only [inPhaseOrder, decide_eq_true_eq] at *
  omega

private theorem inPhaseOrder_total (a b : Node α) : inPhaseOrder a b || inPhaseOrder b a := by
  simp only [inPhaseOrder, Bool.or_eq_true, decide_eq_true_eq]
  omega

/-- The stable sort keeps the order of discovery within a phase: the first node of all goes before
those of its phase that are already sorted. -/
theorem Discovered.mergeSort_precedes {nodes : List (Node α)} (h : Discovered nodes) :
    (nodes.mergeSort inPhaseOrder).Pairwise Node.Precedes := by
  induction nodes with
  | nil => simp
  | cons n rest ih =>
    rw [Discovered, List.pairwise_cons] at h
    obtain ⟨below, above, hsort, hrest, hbelow⟩ :=
      List.mergeSort_cons inPhaseOrder_trans inPhaseOrder_total n rest
    have hsorted := List.pairwise_mergeSort inPhaseOrder_trans inPhaseOrder_total (n :: rest)
    have hprecedes := ih h.2
    rw [hsort, List.pairwise_append, List.pairwise_cons] at hsorted
    rw [hrest, List.pairwise_append] at hprecedes
    rw [hsort, List.pairwise_append, List.pairwise_cons]
    refine ⟨hprecedes.1, ⟨?_, hprecedes.2.1⟩, ?_⟩
    · intro m hm
      have hle := hsorted.2.1.1 m hm
      have hlt := h.1 m (List.mem_mergeSort.mp (hrest ▸ List.mem_append_right _ hm))
      simp only [inPhaseOrder, decide_eq_true_eq] at hle
      unfold Node.Precedes
      omega
    · intro m hm k hk
      rcases List.mem_cons.mp hk with rfl | hk
      · have hlt := hbelow m hm
        simp only [inPhaseOrder, Bool.not_eq_true', decide_eq_false_iff_not] at hlt
        exact Or.inl (by omega)
      · exact hprecedes.2.2 m hm k hk

theorem sort_of_rising {g : DependencyGraph α} (h : Rising g.nodes g.edges) :
    g.sort = .ok (g.nodes.mergeSort inPhaseOrder) := by
  obtain ⟨placed, hplaced, hperm, hpairwise⟩ := h.arrange_complete (Nat.le_refl _)
  have heq : placed = g.nodes.mergeSort inPhaseOrder :=
    List.Perm.eq_of_pairwise (fun a b _ _ hab hba => absurd hba (precedes_asymm hab)) hpairwise
      h.discovered.mergeSort_precedes (hperm.trans (List.mergeSort_perm _ _).symm)
  rw [sort, arranged, hplaced, heq]

end SchemaMigration.DependencyGraph
