import SchemaMigration.Proofs.Identifier
import SchemaMigration.Proofs.TableChanges

/-!
Tables apart. What is done to a table, and in which order, follows from its own two definitions. The
tables around it, their changes and what these wait for only tell which numbers the identifiers get.
-/

namespace SchemaMigration

namespace Step

def IsNumbered (s : Step) : Prop := ∃ n, s.id = Comparison.withNumber s.change.label.id n

/-- Two steps make the same change, and their identifiers differ in their numbers at most. -/
structure Alike (a b : Step) : Prop where
  change : a.change = b.change
  left : a.IsNumbered
  right : b.IsNumbered

theorem forall₂_alike {as bs : List Step} (left : ∀ a ∈ as, a.IsNumbered)
    (right : ∀ b ∈ bs, b.IsNumbered) (same : as.map Step.change = bs.map Step.change) :
    List.Forall₂ Alike as bs := by
  induction as generalizing bs with
  | nil =>
    obtain rfl := List.map_eq_nil_iff.mp same.symm
    exact .nil
  | cons a as ih =>
    cases bs with
    | nil => cases same
    | cons b bs =>
      obtain ⟨ha, has⟩ := List.forall_mem_cons.mp left
      obtain ⟨hb, hbs⟩ := List.forall_mem_cons.mp right
      rw [List.map_cons, List.map_cons, List.cons.injEq] at same
      exact .cons ⟨same.1, ha, hb⟩ (ih has hbs same.2)

end Step

namespace Comparison

variable {a b c : Comparison} {x y d : Difference} {name : String}

def orderedOf (c : Comparison) (name : String) : List Change :=
  (c.changesOf name).mergeSort fun x y => decide (x.phase ≤ y.phase)

theorem isNumbered_of_mem_numbered {seen : List String} {changes : List Change} {s : Step}
    (h : s ∈ numbered seen changes) : s.IsNumbered := by
  induction changes generalizing seen with
  | nil => cases h
  | cons change rest ih =>
    rcases List.mem_cons.mp h with rfl | h
    · exact ⟨seen.count change.label.id, rfl⟩
    · exact ih h

theorem isNumbered_of_difference (hd : c.difference = .ok d) {s : Step} (hs : s ∈ d.steps) :
    s.IsNumbered := by
  obtain ⟨-, -, -, hsteps⟩ := difference_ok hd
  rw [hsteps, List.mem_mergeSort] at hs
  exact isNumbered_of_mem_numbered hs

theorem changes_forTable (d : Difference) (name : String) :
    (d.forTable name).map Step.change = d.changes.filter fun x => x.table = name := by
  rw [Difference.forTable, Difference.changes, List.filter_map]
  rfl

/-- The part of a difference that is about one table. -/
theorem forTable_of_difference (hc : c.current.TablesNamed) (ht : c.target.TablesNamed)
    (hd : c.difference = .ok d) (name : String) :
    (d.forTable name).map Step.change = c.orderedOf name := by
  rw [changes_forTable, changes_of_difference hd, ordered,
    filter_mergeSort phase_le_trans phase_le_total, changes_of_table hc ht, orderedOf]

/-- The definitions of a table, the rules and the choice to skip constraints are all that its
changes are told from. -/
theorem changesOf_congr (rules : a.rules = b.rules)
    (skips : a.skipsConstraints = b.skipsConstraints)
    (held : a.current.table? name = b.current.table? name)
    (wanted : a.target.table? name = b.target.table? name) :
    a.changesOf name = b.changesOf name := by
  obtain ⟨current, target, rules', skips'⟩ := a
  subst rules skips
  unfold changesOf
  rw [held, wanted]
  rfl

/-- If two comparisons have the same definitions of a table, then their differences do the same to
it in the same order, whatever other tables there are: they do what these definitions tell. -/
theorem tables_do_not_interfere (hx : a.difference = .ok x) (hy : b.difference = .ok y)
    (rules : a.rules = b.rules) (skips : a.skipsConstraints = b.skipsConstraints)
    (ha : a.current.TablesNamed ∧ a.target.TablesNamed)
    (hb : b.current.TablesNamed ∧ b.target.TablesNamed)
    (held : a.current.table? name = b.current.table? name)
    (wanted : a.target.table? name = b.target.table? name) :
    List.Forall₂ Step.Alike (x.forTable name) (y.forTable name) ∧
      (x.forTable name).map Step.change = a.orderedOf name := by
  have hxs := forTable_of_difference ha.1 ha.2 hx name
  have hys := forTable_of_difference hb.1 hb.2 hy name
  have same : a.orderedOf name = b.orderedOf name := by
    rw [orderedOf, orderedOf, changesOf_congr rules skips held wanted]
  refine ⟨Step.forall₂_alike ?_ ?_ ?_, hxs⟩
  · intro s hs
    exact isNumbered_of_difference hx (List.mem_of_mem_filter hs)
  · intro s hs
    exact isNumbered_of_difference hy (List.mem_of_mem_filter hs)
  · rw [hxs, hys, same]

end Comparison

/-! A shop with and without the table whose index is called like that of its other one. -/

namespace Shop

def noted (name index : String) : Table := { users with name, indexes := [⟨index, ["id"], false⟩] }

def alone : Comparison := ⟨.empty, .ofTables [noted "orders.by" "note"], .neutral, false⟩

def beside : Comparison :=
  { alone with target := .ofTables [noted "orders" "by.note", noted "orders.by" "note"] }

/-- Beside the other table, the index gets a number, and all else remains as it is. -/
theorem noted_table_keeps_changes :
    ∃ x y, beside.difference = .ok x ∧ alone.difference = .ok y ∧
      List.Forall₂ Step.Alike (x.forTable "orders.by") (y.forTable "orders.by") ∧
      (x.forTable "orders.by").map Step.id =
        ["create_table:orders.by", "add_index:orders.by.note#1"] ∧
      (y.forTable "orders.by").map Step.id =
        ["create_table:orders.by", "add_index:orders.by.note"] := by
  refine ⟨_, _, rfl, rfl, ?_, rfl, rfl⟩
  exact (Comparison.tables_do_not_interfere (a := beside) (b := alone) rfl rfl rfl rfl (by decide)
    (by decide) rfl rfl).1

end Shop

end SchemaMigration
