import Mathlib.Data.List.Cycle
import SchemaMigration.DependencyGraph

/-!
Cycles of a graph. Those that are found are the simple ones, each found once however it is turned:
it is told from the first of its nodes, in the order in which the nodes are tried.
-/

namespace SchemaMigration.DependencyGraph

variable {edges : List Edge} {root id a b : String} {others cycle path nodes : List String}

def Edge.ends (e : Edge) : String × String := (e.source, e.target)

def Leads (edges : List Edge) (a b : String) : Prop := ∃ e ∈ edges, e.source = a ∧ e.target = b

theorem leads_iff : Leads edges a b ↔ (a, b) ∈ edges.map Edge.ends := by
  simp [Leads, Edge.ends]

structure IsSimpleCycle (edges : List Edge) (cycle : List String) : Prop where
  nonempty : cycle ≠ []
  nodup : cycle.Nodup
  closed : Cycle.Chain (Leads edges) cycle

theorem isSimpleCycle_cons {rest : List String} :
    IsSimpleCycle edges (root :: rest) ↔
      (root :: rest).Nodup ∧ List.IsChain (Leads edges) (root :: (rest ++ [root])) := by
  rw [← Cycle.chain_coe_cons]
  exact ⟨fun h => ⟨h.nodup, h.closed⟩, fun h => ⟨List.cons_ne_nil _ _, h.1, h.2⟩⟩

theorem IsSimpleCycle.rotated (h : IsSimpleCycle edges cycle) {other : List String}
    (turned : cycle ~r other) : IsSimpleCycle edges other where
  nonempty := by
    rintro rfl
    exact h.nonempty (List.isRotated_nil_iff.mp turned)
  nodup := turned.nodup_iff.mp h.nodup
  closed := by
    rw [← Cycle.coe_eq_coe.mpr turned]
    exact h.closed

theorem rotated_to {a : String} (h : a ∈ cycle) : ∃ rest, cycle ~r a :: rest := by
  obtain ⟨before, after, rfl⟩ := List.append_of_mem h
  exact ⟨after ++ before, List.isRotated_append⟩

theorem IsSimpleCycle.leads_to (h : IsSimpleCycle edges cycle) {b : String} (hb : b ∈ cycle) :
    ∃ a ∈ cycle, Leads edges a b := by
  obtain ⟨rest, turned⟩ := rotated_to hb
  have hchain := (isSimpleCycle_cons.mp (h.rotated turned)).2
  refine ⟨(b :: rest).getLast (List.cons_ne_nil _ _), ?_, ?_⟩
  · exact turned.mem_iff.mpr (List.getLast_mem _)
  · rw [← List.cons_append, List.isChain_append] at hchain
    exact hchain.2.2 _ (List.getLast?_eq_getLast_of_ne_nil _) b rfl

/-! ### Paths that return to a node -/

theorem mem_returning {count : Nat} (distinct : others.Nodup) (away : root ∉ others) :
    path ∈ returning edges root count others id ↔ ∃ rest, path = id :: rest ∧ rest.Nodup ∧
      rest ⊆ others ∧ rest.length < count ∧
      List.IsChain (Leads edges) (id :: (rest ++ [root])) := by
  induction count generalizing others id path with
  | zero => simp [returning]
  | succ count ih =>
    simp only [returning, List.mem_flatMap, List.mem_filter, beq_iff_eq]
    constructor
    · rintro ⟨e, ⟨he, hsource⟩, hpath⟩
      have hleads : Leads edges id e.target := ⟨e, he, hsource, rfl⟩
      split at hpath
      · next hroot =>
        obtain rfl := List.mem_singleton.mp hpath
        exact ⟨[], rfl, List.nodup_nil, List.nil_subset _, Nat.succ_pos _, by
          simpa [hroot] using hleads⟩
      · split at hpath
        · next hother =>
          rw [List.contains_iff_mem] at hother
          obtain ⟨tail, htail, rfl⟩ := List.mem_map.mp hpath
          obtain ⟨rest, rfl, hnodup, hsub, hlength, hchain⟩ :=
            (ih (distinct.erase _) fun h => away (List.mem_of_mem_erase h)).mp htail
          refine ⟨e.target :: rest, rfl, List.nodup_cons.mpr ⟨?_, hnodup⟩, ?_,
            Nat.succ_lt_succ hlength, ?_⟩
          · exact fun h => distinct.not_mem_erase (hsub h)
          · exact List.cons_subset.mpr ⟨hother, fun a ha => List.mem_of_mem_erase (hsub ha)⟩
          · exact List.IsChain.cons_cons hleads hchain
        · cases hpath
    · rintro ⟨rest, rfl, hnodup, hsub, hlength, hchain⟩
      cases rest with
      | nil =>
        obtain ⟨e, he, hsource, htarget⟩ : Leads edges id root := by simpa using hchain
        exact ⟨e, ⟨he, hsource⟩, by simp [htarget]⟩
      | cons next rest =>
        rw [List.cons_append, List.isChain_cons_cons] at hchain
        obtain ⟨⟨e, he, hsource, rfl⟩, hchain⟩ := hchain
        obtain ⟨hother, hsub⟩ := List.cons_subset.mp hsub
        obtain ⟨hfresh, hnodup⟩ := List.nodup_cons.mp hnodup
        have hne : e.target ≠ root := fun h => away (h ▸ hother)
        refine ⟨e, ⟨he, hsource⟩, ?_⟩
        rw [if_neg hne, if_pos (List.contains_iff_mem.mpr hother)]
        have hstill : root ∉ others.erase e.target := fun h => away (List.mem_of_mem_erase h)
        refine List.mem_map_of_mem ((ih (distinct.erase _) hstill).mpr
          ⟨rest, rfl, hnodup, ?_, Nat.lt_of_succ_lt_succ hlength, hchain⟩)
        intro a ha
        have hne : a ≠ e.target := fun h => hfresh (h ▸ ha)
        exact (List.mem_erase_of_ne hne).mpr (hsub ha)

def EndsDistinct (edges : List Edge) : Prop :=
  (edges.map Edge.ends).Nodup

theorem head?_of_mem_returning {count : Nat} (h : path ∈ returning edges root count others id) :
    path.head? = some id := by
  cases count with
  | zero => cases h
  | succ count =>
    obtain ⟨e, -, he⟩ := List.mem_flatMap.mp h
    split at he
    · cases List.mem_singleton.mp he
      rfl
    · split at he
      · obtain ⟨tail, -, rfl⟩ := List.mem_map.mp he
        rfl
      · cases he

theorem nodup_returning (ends : EndsDistinct edges) (count : Nat) (others : List String)
    (id : String) : (returning edges root count others id).Nodup := by
  induction count generalizing others id with
  | zero => exact List.nodup_nil
  | succ count ih =>
    refine List.nodup_flatMap.mpr ⟨?_, ?_⟩
    · intro e _
      split
      · exact List.nodup_singleton _
      · split
        · exact (ih _ _).map fun _ _ h => (List.cons.inj h).2
        · exact List.nodup_nil
    · -- the edges from `id` have distinct targets, and the second node of a path tells its edge
      have htargets : (edges.filter fun e => e.source == id).Pairwise
          fun d e => d.target ≠ e.target := by
        have hends := (List.pairwise_map.mp ends).filter fun e : Edge => e.source == id
        refine hends.imp_of_mem fun hd he hne htarget => hne (Prod.ext ?_ htarget)
        have hsources := (List.mem_filter.mp hd).2
        have hsourcee := (List.mem_filter.mp he).2
        rw [beq_iff_eq] at hsources hsourcee
        exact hsources.trans hsourcee.symm
      refine htargets.imp fun {d e} hne path hd he => hne ?_
      have second : ∀ {f : Edge}, path ∈ (if f.target = root then [[id]]
          else if others.contains f.target then
            (returning edges root count (others.erase f.target) f.target).map (id :: ·)
          else []) → path.tail.head?.getD root = f.target := by
        intro f hf
        split at hf
        · next hroot =>
          cases List.mem_singleton.mp hf
          exact hroot.symm
        · split at hf
          · obtain ⟨tail, htail, rfl⟩ := List.mem_map.mp hf
            rw [List.tail_cons, head?_of_mem_returning htail]
            rfl
          · cases hf
      rw [← second hd, ← second he]

/-! ### All cycles -/

theorem mem_cyclesAmong (distinct : nodes.Nodup) :
    cycle ∈ cyclesAmong edges nodes ↔ ∃ before root after rest, nodes = before ++ root :: after ∧
      cycle = root :: rest ∧ rest ⊆ after ∧ IsSimpleCycle edges cycle := by
  induction nodes with
  | nil => simp [cyclesAmong]
  | cons first later ih =>
    obtain ⟨hfirst, hlater⟩ := List.nodup_cons.mp distinct
    rw [cyclesAmong, List.mem_append, mem_returning hlater hfirst, ih hlater]
    constructor
    · rintro (⟨rest, rfl, hnodup, hsub, -, hchain⟩ | ⟨before, root, after, rest, rfl, hcycle⟩)
      · refine ⟨[], first, later, rest, rfl, rfl, hsub, isSimpleCycle_cons.mpr ⟨?_, hchain⟩⟩
        exact List.nodup_cons.mpr ⟨fun h => hfirst (hsub h), hnodup⟩
      · exact ⟨first :: before, root, after, rest, rfl, hcycle⟩
    · rintro ⟨before, root, after, rest, hsplit, rfl, hsub, hcycle⟩
      cases before with
      | nil =>
        obtain ⟨rfl, rfl⟩ := List.cons.inj hsplit
        obtain ⟨hnodup, hchain⟩ := isSimpleCycle_cons.mp hcycle
        have hrest := (List.nodup_cons.mp hnodup).2
        have hlength := hrest.length_le_of_subset hsub
        exact Or.inl ⟨rest, rfl, hrest, hsub, by omega, hchain⟩
      | cons other before =>
        obtain ⟨rfl, rfl⟩ := List.cons.inj hsplit
        exact Or.inr ⟨before, root, after, rest, rfl, rfl, hsub, hcycle⟩

/-- A simple cycle among the nodes is found from where it is met first. -/
theorem exists_found (distinct : nodes.Nodup) (h : IsSimpleCycle edges cycle)
    (among : cycle ⊆ nodes) : ∃ found ∈ cyclesAmong edges nodes, found ~r cycle := by
  obtain ⟨a, ha⟩ := List.exists_mem_of_ne_nil _ h.nonempty
  have hsome : (nodes.find? fun n => cycle.contains n).isSome = true := by
    rw [List.find?_isSome]
    exact ⟨a, among ha, List.contains_iff_mem.mpr ha⟩
  obtain ⟨root, hroot⟩ := Option.isSome_iff_exists.mp hsome
  obtain ⟨hin, before, after, rfl, hbefore⟩ := List.find?_eq_some_iff_append.mp hroot
  obtain ⟨rest, turned⟩ := rotated_to (List.contains_iff_mem.mp hin)
  have hrotated := h.rotated turned
  refine ⟨root :: rest, (mem_cyclesAmong distinct).mpr
    ⟨before, root, after, rest, rfl, rfl, ?_, hrotated⟩, turned.symm⟩
  intro b hb
  have hcycle : b ∈ cycle := turned.mem_iff.mpr (List.mem_cons_of_mem _ hb)
  rcases List.mem_append.mp (among hcycle) with hmem | hmem
  · have hnot := hbefore b hmem
    simp [hcycle] at hnot
  · rcases List.mem_cons.mp hmem with rfl | hmem
    · exact absurd hb (List.nodup_cons.mp hrotated.nodup).1
    · exact hmem

/-- A turned list without repetitions that starts with the same item is the same list. -/
theorem eq_of_rotated {rest rest' : List String} (distinct : (root :: rest).Nodup)
    (turned : root :: rest ~r root :: rest') : root :: rest = root :: rest' := by
  obtain ⟨n, hn, hrotate⟩ := List.isRotated_iff_mod.mp turned
  rw [List.rotate_eq_drop_append_take hn] at hrotate
  cases n with
  | zero => simpa using hrotate
  | succ n =>
    rw [List.drop_succ_cons, List.take_succ_cons] at hrotate
    cases hdrop : rest.drop n with
    | nil =>
      have htake : rest.take n = rest := List.take_of_length_le (List.drop_eq_nil_iff.mp hdrop)
      simpa [hdrop, htake] using hrotate
    | cons a tail =>
      rw [hdrop, List.cons_append, List.cons.injEq] at hrotate
      have hmem : root ∈ rest := by
        rw [← hrotate.1]
        exact List.mem_of_mem_drop (hdrop ▸ List.mem_cons_self)
      exact absurd hmem (List.nodup_cons.mp distinct).1

theorem pairwise_cyclesAmong (ends : EndsDistinct edges) (distinct : nodes.Nodup) :
    (cyclesAmong edges nodes).Pairwise fun a b => ¬ a ~r b := by
  induction nodes with
  | nil => exact List.Pairwise.nil
  | cons root later ih =>
    obtain ⟨hroot, hlater⟩ := List.nodup_cons.mp distinct
    have starts : ∀ path ∈ returning edges root (later.length + 1) later root,
        ∃ rest, path = root :: rest ∧ (root :: rest).Nodup := by
      intro path hpath
      obtain ⟨rest, rfl, hnodup, hsub, -⟩ := (mem_returning hlater hroot).mp hpath
      exact ⟨rest, rfl, List.nodup_cons.mpr ⟨fun h => hroot (hsub h), hnodup⟩⟩
    refine List.pairwise_append.mpr ⟨?_, ih hlater, ?_⟩
    · refine (nodup_returning ends _ _ _).imp_of_mem fun {a b} ha hb hne turned => hne ?_
      obtain ⟨rest, rfl, hnodup⟩ := starts a ha
      obtain ⟨rest', rfl, -⟩ := starts b hb
      exact eq_of_rotated hnodup turned
    · -- the cycles that are found later do not pass the root
      intro a ha b hb turned
      obtain ⟨rest, rfl, -⟩ := starts a ha
      obtain ⟨before, first, after, tail, rfl, rfl, hsub, -⟩ := (mem_cyclesAmong hlater).mp hb
      have hmem : root ∈ first :: tail := turned.mem_iff.mp List.mem_cons_self
      apply hroot
      rcases List.mem_cons.mp hmem with rfl | hmem
      · exact List.mem_append_right _ List.mem_cons_self
      · exact List.mem_append_right _ (List.mem_cons_of_mem _ (hsub hmem))

/-! ### Where there is a cycle -/

theorem exists_simpleCycle_of_mem (distinct : path.Nodup)
    (chain : List.IsChain (Leads edges) path) (ha : a ∈ path)
    (leads : ∀ b ∈ path.head?, Leads edges a b) : ∃ cycle, IsSimpleCycle edges cycle := by
  obtain ⟨before, after, rfl⟩ := List.append_of_mem ha
  refine ⟨a :: before, isSimpleCycle_cons.mpr ⟨?_, ?_⟩⟩
  · have hsub : (before ++ [a]).Sublist (before ++ a :: after) :=
      (List.Sublist.refl before).append (List.singleton_sublist.mpr List.mem_cons_self)
    exact (List.perm_append_singleton a before).nodup_iff.mp (distinct.sublist hsub)
  · refine List.isChain_cons.mpr ⟨fun b hb => leads b ?_, (List.isChain_split.mp chain).1⟩
    cases before <;> exact hb

/-- Going back from node to node among finitely many comes around at last. -/
theorem exists_simpleCycle (preceded : ∀ b ∈ nodes, ∃ a ∈ nodes, Leads edges a b) (count : Nat)
    (b : String) (path : List String) (room : nodes.length < path.length + count)
    (among : b :: path ⊆ nodes) (distinct : (b :: path).Nodup)
    (chain : List.IsChain (Leads edges) (b :: path)) : ∃ cycle, IsSimpleCycle edges cycle := by
  induction count generalizing b path with
  | zero =>
    have hlength := distinct.length_le_of_subset among
    rw [List.length_cons] at hlength
    omega
  | succ count ih =>
    obtain ⟨a, ha, hleads⟩ := preceded b (among List.mem_cons_self)
    by_cases hmem : a ∈ b :: path
    · apply exists_simpleCycle_of_mem distinct chain hmem
      intro c hc
      cases hc
      exact hleads
    · apply ih a (b :: path)
      · rw [List.length_cons]
        omega
      · exact List.cons_subset.mpr ⟨ha, among⟩
      · exact List.nodup_cons.mpr ⟨hmem, distinct⟩
      · exact List.IsChain.cons_cons hleads chain

/-- Nodes that are all preceded by one of them do not end at any. -/
theorem exists_simpleCycle_of_preceded (some_node : nodes ≠ [])
    (preceded : ∀ b ∈ nodes, ∃ a ∈ nodes, Leads edges a b) :
    ∃ cycle, IsSimpleCycle edges cycle := by
  obtain ⟨b, hb⟩ := List.exists_mem_of_ne_nil _ some_node
  refine exists_simpleCycle preceded (nodes.length + 1) b [] (by simp) ?_
    (List.nodup_singleton b) (List.isChain_singleton b)
  intro c hc
  cases List.mem_singleton.mp hc
  exact hb

theorem IsSimpleCycle.comes_back (h : IsSimpleCycle edges cycle) :
    ∃ a, Relation.TransGen (Leads edges) a a := by
  cases cycle with
  | nil => exact absurd rfl h.nonempty
  | cons root rest =>
    have steps := (isSimpleCycle_cons.mp h).2.imp fun _ _ => Relation.TransGen.single
    exact ⟨root, steps.rel_cons (by simp)⟩

theorem exists_comes_back_iff :
    (∃ a, Relation.TransGen (Leads edges) a a) ↔ ∃ cycle, IsSimpleCycle edges cycle := by
  classical
  constructor
  · rintro ⟨a, ha⟩
    -- what comes back to itself is led to by something that also does
    let turning := (edges.map Edge.source).filter fun b => Relation.TransGen (Leads edges) b b
    have mem_turning : ∀ {b : String}, Relation.TransGen (Leads edges) b b → b ∈ turning := by
      intro b hb
      obtain ⟨c, ⟨e, he, hsource, -⟩, -⟩ := Relation.TransGen.head'_iff.mp hb
      exact List.mem_filter.mpr ⟨List.mem_map.mpr ⟨e, he, hsource⟩, decide_eq_true hb⟩
    apply exists_simpleCycle_of_preceded (List.ne_nil_of_mem (mem_turning ha))
    intro b hb
    have hback := of_decide_eq_true (List.mem_filter.mp hb).2
    obtain ⟨c, hc, hlast⟩ := Relation.TransGen.tail'_iff.mp hback
    exact ⟨c, mem_turning (Relation.TransGen.head' hlast hc), hlast⟩
  · rintro ⟨cycle, hcycle⟩
    exact hcycle.comes_back

end SchemaMigration.DependencyGraph
