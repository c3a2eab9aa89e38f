import SchemaMigration.Dialect
import SchemaMigration.Proofs.PhaseOrder
import SchemaMigration.Proofs.WellFormed

/-!
Identifiers of changes. Changes that would share one are numbered in the order of their discovery.
That tells them apart unless another change happens to be called like one of them with its number,
and then there is no difference.
-/

namespace SchemaMigration

namespace Comparison

/-- The identifier of a change before which `count` others were called alike. -/
def withNumber (id : String) (count : Nat) : String :=
  if count = 0 then id else id ++ "#" ++ toString count

/-- Names, each with the number of times that it has occurred before. -/
def occurrences (seen : List String) : List String → List (String × Nat)
  | [] => []
  | id :: rest => (id, seen.count id) :: occurrences (id :: seen) rest

theorem ids_numbered (seen : List String) (changes : List Change) :
    (numbered seen changes).map Step.id =
      (occurrences seen (changes.map fun x => x.label.id)).map fun o => withNumber o.1 o.2 := by
  induction changes generalizing seen with
  | nil => rfl
  | cons x rest ih => simp [numbered, occurrences, withNumber, ih]

theorem mem_occurrences {seen ids : List String} {id : String} {n : Nat} :
    (id, n) ∈ occurrences seen ids ↔
      seen.count id ≤ n ∧ n < seen.count id + ids.count id := by
  induction ids generalizing seen with
  | nil => simp [occurrences]
  | cons first rest ih =>
    rw [occurrences, List.mem_cons, ih, Prod.mk.injEq]
    by_cases h : first = id
    · subst h
      simp only [List.count_cons_self, true_and]
      omega
    · have h' : ¬ id = first := fun e => h e.symm
      simp [List.count_cons_of_ne h, h']

theorem nodup_occurrences (seen ids : List String) : (occurrences seen ids).Nodup := by
  induction ids generalizing seen with
  | nil => exact List.nodup_nil
  | cons first rest ih =>
    refine List.nodup_cons.mpr ⟨?_, ih (first :: seen)⟩
    intro h
    have hle := (mem_occurrences.mp h).1
    rw [List.count_cons_self] at hle
    omega

theorem sign_not_mem_toString (n : Nat) : '#' ∉ (toString n).toList := by
  rw [Nat.toString_eq_repr, Nat.toList_repr]
  intro h
  exact absurd (Nat.isDigit_of_mem_toDigits (by decide) (by decide) h) (by decide)

/-- The number of an identifier is what follows its last number sign. -/
theorem number_of_reverse (id : String) (n : Nat) :
    (id ++ "#" ++ toString n).toList.reverse.takeWhile (· != '#') =
      (toString n).toList.reverse := by
  have hdigits : ∀ a ∈ (toString n).toList.reverse, (a != '#') = true := by
    intro a ha
    rw [List.mem_reverse] at ha
    simp only [bne_iff_ne, ne_eq]
    rintro rfl
    exact sign_not_mem_toString n ha
  rw [String.toList_append, String.toList_append, List.reverse_append, List.reverse_append,
    List.takeWhile_append_of_pos hdigits]
  simp

theorem signed_inj {a b : String} {m n : Nat}
    (h : a ++ "#" ++ toString m = b ++ "#" ++ toString n) : a = b ∧ m = n := by
  have hnumbers : (toString m).toList = (toString n).toList := by
    rw [← List.reverse_inj, ← number_of_reverse a m, ← number_of_reverse b n, h]
  have hmn : m = n := by
    rw [Nat.toString_eq_repr, Nat.toString_eq_repr, Nat.toList_repr, Nat.toList_repr] at hnumbers
    rw [← Nat.ofDigitChars_ten_toDigits (n := m), hnumbers, Nat.ofDigitChars_ten_toDigits]
  subst hmn
  rw [String.append_assoc, String.append_assoc] at h
  exact ⟨String.append_left_inj _ |>.mp h, rfl⟩

theorem withNumber_cases {a b : String} {m n : Nat} (h : withNumber a m = withNumber b n) :
    a = b ∧ m = n ∨ 0 < m ∧ b = a ++ "#" ++ toString m ∨ 0 < n ∧ a = b ++ "#" ++ toString n := by
  unfold withNumber at h
  by_cases hm : m = 0
  · by_cases hn : n = 0
    · rw [if_pos hm, if_pos hn] at h
      exact Or.inl ⟨h, hm.trans hn.symm⟩
    · rw [if_pos hm, if_neg hn] at h
      exact Or.inr (Or.inr ⟨Nat.pos_of_ne_zero hn, h⟩)
  · by_cases hn : n = 0
    · rw [if_neg hm, if_pos hn] at h
      exact Or.inr (Or.inl ⟨Nat.pos_of_ne_zero hm, h.symm⟩)
    · rw [if_neg hm, if_neg hn] at h
      exact Or.inl (signed_inj h)

variable {c : Comparison}

def labels (c : Comparison) : List String := c.changes.map fun x => x.label.id

/-- A change is called like another one with its number. -/
def Clashes (c : Comparison) : Prop :=
  ∃ id ∈ c.labels, ∃ n, 0 < n ∧ n < c.labels.count id ∧ id ++ "#" ++ toString n ∈ c.labels

theorem nodup_ids_iff : (c.steps.map Step.id).Nodup ↔ ¬ c.Clashes := by
  have occurs : ∀ {id n}, (id, n) ∈ occurrences [] c.labels ↔ n < c.labels.count id := by
    intro id n
    rw [mem_occurrences, List.count_nil]
    omega
  have known : ∀ {id n}, n < c.labels.count id → id ∈ c.labels := fun h =>
    List.count_pos_iff.mp (by omega)
  rw [steps, ids_numbered, List.nodup_map_iff_inj_on (nodup_occurrences _ _)]
  constructor
  · rintro inj ⟨id, -, n, hpos, hlt, hmem⟩
    have heq := inj (id, n) (occurs.mpr hlt) (id ++ "#" ++ toString n, 0)
      (occurs.mpr (List.count_pos_iff.mpr hmem)) (by simp [withNumber, Nat.ne_of_gt hpos])
    have hzero := (Prod.mk.inj heq).2
    omega
  · rintro clear ⟨a, m⟩ ha ⟨b, n⟩ hb heq
    replace ha := occurs.mp ha
    replace hb := occurs.mp hb
    rcases withNumber_cases heq with ⟨rfl, rfl⟩ | ⟨hpos, rfl⟩ | ⟨hpos, rfl⟩
    · rfl
    · exact absurd ⟨a, known ha, m, hpos, ha, known hb⟩ clear
    · exact absurd ⟨b, known hb, n, hpos, hb, known ha⟩ clear

theorem sign_not_mem_id {x : Change} (htable : '#' ∉ x.table.toList)
    (hsubject : '#' ∉ x.subject.toList) : '#' ∉ x.label.id.toList := by
  have hname : '#' ∉ x.kind.name.toList := by
    cases x.kind <;> decide
  have hqualified : '#' ∉ x.label.qualified.toList := by
    unfold ChangeLabel.qualified
    split
    · exact htable
    · rw [String.toList_append, String.toList_append, List.mem_append, List.mem_append]
      rintro ((h | h) | h)
      · exact htable h
      · exact absurd h (by decide)
      · exact hsubject h
  rw [ChangeLabel.id, String.toList_append, String.toList_append, List.mem_append, List.mem_append]
  rintro ((h | h) | h)
  · exact hname h
  · exact absurd h (by decide)
  · exact hqualified h

theorem clear_of_signless
    (h : ∀ x ∈ c.changes, '#' ∉ x.table.toList ∧ '#' ∉ x.subject.toList) : ¬ c.Clashes := by
  rintro ⟨id, -, n, -, -, hmem⟩
  obtain ⟨y, hy, hid⟩ := List.mem_map.mp hmem
  apply sign_not_mem_id (h y hy).1 (h y hy).2
  rw [hid, String.toList_append, String.toList_append]
  simp

/-- Changes are told apart, and there is a difference, unless one of them is called like another one
with its number. That takes a number sign in some name. -/
theorem identifiers_distinct_iff (c : Comparison) :
    ((c.steps.map Step.id).Nodup ↔ ¬ c.Clashes) ∧
      ((∃ d, c.difference = .ok d) ↔ ¬ c.Clashes) ∧
      (c.Clashes → ∃ refusal, c.difference = .error (.refused refusal)) ∧
      ((∀ x ∈ c.changes, '#' ∉ x.table.toList ∧ '#' ∉ x.subject.toList) → ¬ c.Clashes) := by
  refine ⟨nodup_ids_iff, ⟨?_, ?_⟩, ?_, clear_of_signless⟩
  · rintro ⟨d, hd⟩
    exact nodup_ids_iff.mp (difference_ok hd).1
  · intro clear
    obtain ⟨g, -, -, -, hd⟩ := difference_of_nodup (nodup_ids_iff.mpr clear)
    exact ⟨_, hd⟩
  · intro clashes
    exact difference_refused fun hids => nodup_ids_iff.mp hids clashes

end Comparison

/-! A shop in which the name of a table continues that of another one. -/

namespace Shop

def indexed (name : String) (indexes : List String) : TableDef where
  name := name
  columns := [⟨"id", "INT", none, none, false, none, none, none⟩]
  primaryKey := ["id"]
  indexes := indexes.map fun i => ⟨i, ["id"], false⟩
  foreignKeys := []
  charset := none
  collation := none

def creating (tables : List TableDef) : Except SchemaError Comparison := do
  let target ← (Dialect.projection .postgres).snapshot { Schema.ofName "shop" with tables }
  return ⟨.empty, target, Dialect.postgres.rules, false⟩

/-- An index of each of two tables has the same identifier, and the second one gets a number. -/
theorem continued_names_are_numbered :
    ∃ c, creating [indexed "orders" ["by.note"], indexed "orders.by" ["note"]] = .ok c ∧
      (∀ x ∈ c.changes, '#' ∉ x.table.toList ∧ '#' ∉ x.subject.toList) ∧
      ¬ c.labels.Nodup ∧ (c.steps.map Step.id).Nodup ∧ ∃ d, c.difference = .ok d := by
  have apart : ∀ {c : Comparison},
      (∀ x ∈ c.changes, '#' ∉ x.table.toList ∧ '#' ∉ x.subject.toList) →
        (c.steps.map Step.id).Nodup ∧ ∃ d, c.difference = .ok d := by
    intro c signless
    obtain ⟨distinct, computed, -, clear⟩ := Comparison.identifiers_distinct_iff c
    exact ⟨distinct.mpr (clear signless), computed.mpr (clear signless)⟩
  exact ⟨_, rfl, by decide, by decide, apart (by decide)⟩

/-- The number that an index would get is in the name of another one. -/
theorem taken_number_is_refused :
    ∃ c, creating [indexed "orders" ["by.note", "by.note#1"], indexed "orders.by" ["note"]] =
        .ok c ∧ c.current.WellFormed ∧ c.target.WellFormed ∧ ¬ (c.steps.map Step.id).Nodup ∧
      c.difference = .error (.refused (.duplicateNode "add_index:orders.by.note#1")) := by
  exact ⟨_, rfl, by decide, by decide, by decide, by decide⟩

end Shop

end SchemaMigration
