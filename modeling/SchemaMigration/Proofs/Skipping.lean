import SchemaMigration.Proofs.Discovery
import SchemaMigration.Proofs.PhaseOrder

/-!
Comparisons that skip constraints. They discover the changes of tables and columns alone, under the
identifiers that these have anyway, and in the same order.
-/

namespace SchemaMigration

private theorem takeWhile_below {α : Type} {q : α → Bool} {below above : List α}
    (hbelow : ∀ b ∈ below, (!q b) = true) (habove : ∀ b ∈ above, q b = true) :
    (below ++ above).takeWhile (fun b => !q b) = below := by
  rw [List.takeWhile_append_of_pos hbelow]
  cases above with
  | nil => simp
  | cons b rest => simp [habove b List.mem_cons_self]

/-- A stable sort does not mind whether items are left out before it or after it. -/
theorem filter_mergeSort {α : Type} {le : α → α → Bool}
    (trans : ∀ a b c, le a b = true → le b c = true → le a c = true)
    (total : ∀ a b, (le a b || le b a) = true) (p : α → Bool) (l : List α) :
    (l.mergeSort le).filter p = (l.filter p).mergeSort le := by
  have sorted_above : ∀ {a : α} {l below above : List α},
      (a :: l).mergeSort le = below ++ a :: above → ∀ b ∈ above, le a b = true := by
    intro a l below above hsort
    have hsorted := List.pairwise_mergeSort trans total (a :: l)
    rw [hsort, List.pairwise_append, List.pairwise_cons] at hsorted
    exact hsorted.2.1.1
  induction l with
  | nil => simp
  | cons a rest ih =>
    obtain ⟨below, above, hsort, hrest, hbelow⟩ := List.mergeSort_cons trans total a rest
    rw [hrest, List.filter_append] at ih
    rw [hsort, List.filter_append]
    by_cases ha : p a = true
    · obtain ⟨below', above', hsort', hrest', hbelow'⟩ :=
        List.mergeSort_cons trans total a (rest.filter p)
      rw [hrest'] at ih
      -- both lists are cut where the items begin that may stand behind `a`
      have hcut := takeWhile_below (fun b hb => hbelow b (List.mem_of_mem_filter (p := p) hb))
        fun b hb => sorted_above hsort b (List.mem_of_mem_filter (p := p) hb)
      rw [ih, takeWhile_below hbelow' (sorted_above hsort')] at hcut
      rw [← hcut, List.append_cancel_left_eq] at ih
      rw [List.filter_cons_of_pos ha, List.filter_cons_of_pos ha, hsort', hcut, ih]
    · rw [List.filter_cons_of_neg ha, List.filter_cons_of_neg ha, ih]

def ChangeKind.isSkipped : ChangeKind → Bool
  | addIndex | dropIndex | addForeignKey | dropForeignKey => true
  | _ => false

def Change.remains (c : Change) : Bool := !c.kind.isSkipped

/-! ### Identifiers -/

namespace ChangeKind

/-- The name of a kind ends where an identifier goes on with a colon. -/
theorem takeWhile_name (k : ChangeKind) (rest : String) :
    (k.name ++ ":" ++ rest).toList.takeWhile (· != ':') = k.name.toList := by
  have hname : ∀ a ∈ k.name.toList, (a != ':') = true := by
    rw [← List.all_eq_true]
    cases k <;> decide
  rw [String.toList_append, String.toList_append, List.append_assoc,
    List.takeWhile_append_of_pos hname]
  simp

theorem name_injective {a b : ChangeKind} (h : a.name.toList = b.name.toList) : a = b := by
  revert h
  cases a <;> cases b <;> decide

end ChangeKind

/-- An identifier tells the kind of its change. -/
theorem ChangeLabel.kind_of_id {l m : ChangeLabel} (h : l.id = m.id) : l.kind = m.kind := by
  apply ChangeKind.name_injective
  rw [← ChangeKind.takeWhile_name l.kind l.qualified,
    ← ChangeKind.takeWhile_name m.kind m.qualified]
  exact congrArg _ (congrArg _ h)

namespace Comparison

def skipping (c : Comparison) : Comparison := { c with skipsConstraints := true }

/-- Numbers count changes with one identifier, so leaving out all of them or none changes none. -/
theorem numbered_filter (p : Change → Bool)
    (same : ∀ x y : Change, x.label.id = y.label.id → p x = p y) (seen seen' : List String)
    (h : ∀ x : Change, p x = true → seen'.count x.label.id = seen.count x.label.id)
    (changes : List Change) :
    (numbered seen changes).filter (fun s => p s.change) =
      numbered seen' (changes.filter p) := by
  induction changes generalizing seen seen' with
  | nil => rfl
  | cons x rest ih =>
    by_cases hx : p x = true
    · have hrest := ih (x.label.id :: seen) (x.label.id :: seen') fun y hy => by
        simp only [List.count_cons, h y hy]
      simp [numbered, hx, hrest, h x hx]
    · have hrest := ih (x.label.id :: seen) seen' fun y hy => by
        have hne : ¬ x.label.id = y.label.id := by
          intro heq
          rw [same x y heq] at hx
          exact hx hy
        simp only [List.count_cons, h y hy, beq_iff_eq, hne, if_false, Nat.add_zero]
      simp [numbered, hx, hrest]

/-! ### Discovery -/

variable {c : Comparison}

theorem skipped_map {α : Type} (items : List α) (table : String) (action : α → Action)
    (skipped : ∀ a, (action a).kind.isSkipped = true) :
    (items.map fun a => (⟨table, action a⟩ : Change)).filter Change.remains = [] := by
  rw [List.filter_eq_nil_iff, List.forall_mem_map]
  intro a _
  simp [Change.remains, Change.kind, skipped]

theorem creation_skipping (t : Table) :
    c.skipping.creation t = (c.creation t).filter Change.remains := by
  have hcreate : Change.remains ⟨t.name, .createTable t⟩ = true := rfl
  have hindexes := skipped_map t.indexes t.name .addIndex fun _ => rfl
  have hkeys := skipped_map t.foreignKeys t.name .addForeignKey fun _ => rfl
  unfold creation
  rw [List.filter_cons_of_pos hcreate]
  cases hskips : c.skipsConstraints with
  | true => simp [skipping]
  | false => simp [skipping, hindexes, hkeys]

theorem removal_skipping (t : Table) :
    c.skipping.removal t = (c.removal t).filter Change.remains := by
  have hdrop : Change.remains ⟨t.name, .dropTable t⟩ = true := rfl
  have hkeys := skipped_map t.foreignKeys t.name .dropForeignKey fun _ => rfl
  unfold removal
  rw [List.filter_append, List.filter_cons_of_pos hdrop]
  cases hskips : c.skipsConstraints with
  | true => simp [skipping]
  | false => simp [skipping, hkeys]

theorem skipped_constraints (old new : Table) :
    (foreignKeyChanges old new ++ indexChanges old new).filter Change.remains = [] := by
  simp only [foreignKeyChanges, indexChanges, List.filter_append]
  rw [skipped_map _ _ _ fun _ => rfl, skipped_map _ _ _ fun _ => rfl,
    skipped_map _ _ _ fun _ => rfl, skipped_map _ _ _ fun _ => rfl]
  rfl

theorem remains_of_mem_columnChanges {old new : Table} {y : Column} :
    ∀ x ∈ c.columnChanges old new y, x.remains = true := by
  intro x hx
  rcases columnChanges_cases hx with rfl | ⟨z, rfl | rfl⟩ <;> rfl

theorem tableChanges_skipping (old new : Table) :
    c.skipping.tableChanges old new = (c.tableChanges old new).filter Change.remains := by
  have hcolumns : (new.columns.flatMap (c.columnChanges old new)).filter Change.remains =
      new.columns.flatMap (c.columnChanges old new) := by
    rw [List.filter_eq_self]
    intro x hx
    obtain ⟨y, -, hx⟩ := List.mem_flatMap.mp hx
    exact remains_of_mem_columnChanges x hx
  have hdropped : (droppedColumns old new).filter Change.remains = droppedColumns old new := by
    rw [List.filter_eq_self, droppedColumns, List.forall_mem_map]
    exact fun _ _ => rfl
  have halter : Change.remains ⟨new.name, .alterTable old new⟩ = true := rfl
  have hconstraints : (if c.skipsConstraints then []
      else foreignKeyChanges old new ++ indexChanges old new).filter Change.remains = [] := by
    split
    · rfl
    · exact skipped_constraints old new
  unfold tableChanges
  rw [List.filter_append, List.filter_append, List.filter_append, hcolumns, hdropped, hconstraints]
  congr 1
  split
  · rw [if_pos (by assumption)]
    rfl
  · rw [if_neg (by assumption), List.filter_cons_of_pos halter]
    rfl

theorem changes_skipping : c.skipping.changes = c.changes.filter Change.remains := by
  unfold changes
  rw [List.filter_append, List.filter_flatMap, List.filter_flatMap]
  congr 1
  · refine congrArg (List.flatMap · c.target.tables.entries) ?_
    funext entry
    cases hold : c.current.table? entry.1 with
    | none => simpa [skipping, hold] using creation_skipping entry.2
    | some old => simpa [skipping, hold] using tableChanges_skipping old entry.2
  · simp only [← removal_skipping]
    rfl

theorem steps_skipping :
    c.skipping.steps = c.steps.filter fun s => s.change.remains := by
  rw [steps, steps, changes_skipping, numbered_filter Change.remains _ [] [] fun _ _ => rfl]
  intro x y h
  have hkind : x.kind = y.kind := ChangeLabel.kind_of_id h
  simp [Change.remains, hkind]

/-- Skipping constraints leaves the changes of indexes and foreign keys out of a difference and does
nothing else to it. -/
theorem difference_of_skipping {d : Difference} (hd : c.difference = .ok d) :
    c.skipping.difference = .ok { d with steps := d.steps.filter fun s => s.change.remains } := by
  obtain ⟨hids, hcurrent, htarget, hsteps⟩ := difference_ok hd
  have hids' : (c.skipping.steps.map Step.id).Nodup := by
    rw [steps_skipping]
    exact hids.sublist (List.filter_sublist.map Step.id)
  obtain ⟨g, -, -, -, hd'⟩ := difference_of_nodup hids'
  rw [hd', hcurrent, htarget, hsteps, filter_mergeSort inPhaseOrder_trans inPhaseOrder_total,
    steps_skipping]
  rfl

end Comparison

/-- The columns of orders are changed all the same, and their key and index are left alone. -/
theorem Shop.skipping_leaves_columns :
    ∃ d, comparison.difference = .ok d ∧
      comparison.skipping.difference =
        .ok { d with steps := d.steps.filter fun s => s.change.remains } ∧
      d.steps.length = 9 ∧ (d.steps.filter fun s => s.change.remains).length = 5 := by
  obtain ⟨g, -, -, -, hd⟩ := Comparison.difference_of_nodup (c := comparison) (by decide)
  refine ⟨_, hd, Comparison.difference_of_skipping hd, ?_, ?_⟩
  · rw [List.length_mergeSort]
    decide
  · rw [filter_mergeSort Comparison.inPhaseOrder_trans Comparison.inPhaseOrder_total,
      List.length_mergeSort]
    decide

end SchemaMigration
