import SchemaMigration.Dialect.TypeName
import SchemaMigration.Proofs.Midway
import SchemaMigration.Proofs.Skipping

/-!
The changes to one column. Whatever else a difference does in between, the changes to a column are
those that its two definitions tell, in the order in which they are told.
-/

namespace SchemaMigration

theorem flatMap_eq_of_key {α β κ : Type} {key : α → κ} {items : List α}
    (distinct : (items.map key).Nodup) {a : α} (ha : a ∈ items) {f : α → List β}
    (other : ∀ b ∈ items, key b ≠ key a → f b = []) : items.flatMap f = f a := by
  obtain ⟨before, after, rfl⟩ := List.append_of_mem ha
  rw [List.map_append, List.map_cons, List.nodup_append, List.nodup_cons] at distinct
  obtain ⟨-, ⟨hafter, -⟩, hbefore⟩ := distinct
  have nothing_before : before.flatMap f = [] := by
    rw [List.flatMap_eq_nil_iff]
    intro b hb
    apply other b (List.mem_append_left _ hb)
    exact hbefore _ (List.mem_map_of_mem hb) _ List.mem_cons_self
  have nothing_after : after.flatMap f = [] := by
    rw [List.flatMap_eq_nil_iff]
    intro b hb
    apply other b (List.mem_append_right _ (List.mem_cons_of_mem _ hb))
    intro heq
    exact hafter (heq ▸ List.mem_map_of_mem hb)
  rw [List.flatMap_append, List.flatMap_cons, nothing_before, nothing_after, List.nil_append,
    List.append_nil]

namespace Change

def place? (x : Change) : Option (String × String) :=
  x.action.column?.map fun y => (x.table, y.name)

def isOfColumn (x : Change) : Bool := x.action.column?.isSome

theorem isOfColumn_eq (x : Change) : x.isOfColumn = x.place?.isSome :=
  (Option.isSome_map ..).symm

end Change

/-- Every type that is set has a name in every dialect. -/
theorem Dialect.typeOf?_isSome (d : Dialect) {y : Column} (typed : y.type ≠ .unset) :
    (d.typeOf? y).isSome := by
  rw [Dialect.typeOf?, Option.isSome_map]
  cases d <;> cases htype : y.type <;> first | exact absurd htype typed | rfl

structure Snapshot.ColumnsNamed (s : Snapshot) : Prop where
  named : ∀ entry ∈ s.tables.entries, entry.2.name = entry.1
  columns : ∀ entry ∈ s.tables.entries, entry.2.columnNames.Nodup

namespace Comparison

variable {c : Comparison} {old new : Table}

theorem typeOf?_of_sameType {y z : Column} (same : c.sameType y z = true) (d : Dialect) :
    d.typeOf? y = d.typeOf? z := by
  obtain ⟨htype, hlength, hscale, hvalues, -⟩ := sameType_iff.mp same
  simp [Dialect.typeOf?, Dialect.sizedType, htype, hlength, hscale, hvalues]

theorem hasEnumValues_of_sameType {y z : Column} (same : c.sameType y z = true) :
    y.HasEnumValues = z.HasEnumValues := by
  obtain ⟨htype, -, -, hvalues, -⟩ := sameType_iff.mp same
  rw [Column.HasEnumValues, htype, hvalues]
  rfl

/-- The changes that two definitions of a table tell of the column of some name. -/
def columnCourse (c : Comparison) (old new : Table) (name : String) : List Change :=
  match new.column? name, old.column? name with
  | some y, _ => c.columnChanges old new y
  | none, some x => [⟨new.name, .dropColumn x⟩]
  | none, none => []

/-- The changes to a column of a table, if this is neither created nor dropped. -/
def placeCourse (c : Comparison) (place : String × String) : List Change :=
  match c.current.table? place.1, c.target.table? place.1 with
  | some old, some new => c.columnCourse old new place.2
  | _, _ => []

theorem nothing_at (changes : List Change) (place : String × String)
    (nowhere : ∀ x ∈ changes, x.place? = none) :
    changes.filter (fun x => x.place? = some place) = [] := by
  rw [List.filter_eq_nil_iff]
  intro x hx
  simp [nowhere x hx]

theorem place?_of_mem_columnChanges {y : Column} {x : Change}
    (h : x ∈ c.columnChanges old new y) : x.place? = some (new.name, y.name) := by
  rcases columnChanges_cases h with rfl | ⟨z, rfl | rfl⟩ <;> rfl

theorem sorted_columnChanges (y : Column) :
    (c.columnChanges old new y).Pairwise fun a b => a.phase ≤ b.phase := by
  unfold columnChanges
  split
  · exact List.pairwise_singleton _ _
  · split <;> split <;> simp [Change.phase, Change.kind, Action.kind, ChangeKind.phase]

theorem sorted_placeCourse (place : String × String) :
    (c.placeCourse place).Pairwise fun a b => a.phase ≤ b.phase := by
  unfold placeCourse
  split
  · unfold columnCourse
    split
    · exact sorted_columnChanges _
    · exact List.pairwise_singleton _ _
    · exact List.Pairwise.nil
  · exact List.Pairwise.nil

theorem columnChanges_at (y : Column) (place : String × String) :
    (c.columnChanges old new y).filter (fun x => x.place? = some place) =
      if (new.name, y.name) = place then c.columnChanges old new y else [] := by
  split
  · next heq =>
    rw [List.filter_eq_self]
    intro x hx
    simp [place?_of_mem_columnChanges hx, heq]
  · next hne =>
    rw [List.filter_eq_nil_iff]
    intro x hx
    simp [place?_of_mem_columnChanges hx, hne]

theorem columns_at (hn : new.columnNames.Nodup) (name : String) :
    (new.columns.flatMap (c.columnChanges old new)).filter
        (fun x => x.place? = some (new.name, name)) =
      (new.column? name).elim [] (c.columnChanges old new) := by
  rw [List.filter_flatMap]
  cases hy : new.column? name with
  | none =>
    rw [Option.elim_none, List.flatMap_eq_nil_iff]
    intro y hy'
    have hne : y.name ≠ name := by
      rintro rfl
      exact Table.column?_eq_none_iff.mp hy (List.mem_map_of_mem hy')
    rw [columnChanges_at, if_neg (by simp [hne])]
  | some y =>
    obtain ⟨hmem, rfl⟩ := (find?_key_eq_some_iff hn).mp hy
    rw [Option.elim_some, flatMap_eq_of_key hn hmem]
    · rw [columnChanges_at, if_pos rfl]
    · intro z _ hne
      rw [columnChanges_at, if_neg (by simp [hne])]

theorem droppedColumns_at (ho : old.columnNames.Nodup) (name : String) :
    (droppedColumns old new).filter (fun x => x.place? = some (new.name, name)) =
      if new.hasColumn name then []
      else (old.column? name).elim [] fun x => [⟨new.name, .dropColumn x⟩] := by
  have place_of_drop : ∀ x : Column,
      [(⟨new.name, .dropColumn x⟩ : Change)].filter (fun x => x.place? = some (new.name, name)) =
        if x.name = name then [⟨new.name, .dropColumn x⟩] else [] := by
    intro x
    by_cases hname : x.name = name <;> simp [Change.place?, Action.column?, hname]
  rw [droppedColumns, List.map_eq_flatMap, List.filter_flatMap]
  simp only [place_of_drop]
  split
  · next hkept =>
    rw [List.flatMap_eq_nil_iff]
    intro x hx
    have hgone := (List.mem_filter.mp hx).2
    rw [if_neg]
    rintro rfl
    simp [hkept] at hgone
  · next hgone =>
    cases hx : old.column? name with
    | none =>
      rw [Option.elim_none, List.flatMap_eq_nil_iff]
      intro x hx'
      rw [if_neg]
      rintro rfl
      exact Table.column?_eq_none_iff.mp hx (List.mem_map_of_mem (List.mem_of_mem_filter hx'))
    | some x =>
      obtain ⟨hmem, rfl⟩ := (find?_key_eq_some_iff ho).mp hx
      have hdropped : x ∈ old.columns.filter fun y => !new.hasColumn y.name :=
        List.mem_filter.mpr ⟨hmem, by simpa using hgone⟩
      rw [Option.elim_some,
        flatMap_eq_of_key (ho.sublist (List.filter_sublist.map Column.name)) hdropped]
      · rw [if_pos rfl]
      · exact fun y _ hne => if_neg hne

theorem keyChanges_at (old new : Table) (place : String × String) :
    (if c.skipsConstraints then [] else foreignKeyChanges old new ++ indexChanges old new).filter
      (fun x => x.place? = some place) = [] := by
  apply nothing_at
  intro x hx
  split at hx
  · cases hx
  · simp only [foreignKeyChanges, indexChanges, List.mem_append, List.mem_map] at hx
    rcases hx with (⟨_, -, rfl⟩ | ⟨_, -, rfl⟩) | ⟨_, -, rfl⟩ | ⟨_, -, rfl⟩ <;> rfl

theorem optionChanges_at (old new : Table) (place : String × String) :
    (if old.primaryKey == new.primaryKey && c.sameOptions old new then []
      else [⟨new.name, .alterTable old new⟩] : List Change).filter
        (fun x => x.place? = some place) = [] := by
  apply nothing_at
  intro x hx
  split at hx
  · cases hx
  · cases List.mem_singleton.mp hx
    rfl

theorem tableChanges_at (ho : old.columnNames.Nodup) (hn : new.columnNames.Nodup) (name : String) :
    (c.tableChanges old new).filter (fun x => x.place? = some (new.name, name)) =
      c.columnCourse old new name := by
  rw [tableChanges, List.filter_append, List.filter_append, List.filter_append, keyChanges_at,
    optionChanges_at, columns_at hn, droppedColumns_at ho, List.nil_append, List.append_nil,
    columnCourse, Table.hasColumn]
  cases new.column? name with
  | none => cases old.column? name <;> rfl
  | some y => simp

theorem tableChanges_elsewhere {place : String × String} (h : new.name ≠ place.1) :
    (c.tableChanges old new).filter (fun x => x.place? = some place) = [] := by
  have hne : ∀ name, (new.name, name) ≠ place := fun name heq => h (heq ▸ rfl)
  have columns_elsewhere : (new.columns.flatMap (c.columnChanges old new)).filter
      (fun x => x.place? = some place) = [] := by
    rw [List.filter_flatMap, List.flatMap_eq_nil_iff]
    intro y _
    rw [columnChanges_at, if_neg (hne y.name)]
  have dropped_elsewhere : (droppedColumns old new).filter
      (fun x => x.place? = some place) = [] := by
    rw [List.filter_eq_nil_iff]
    intro x hx
    obtain ⟨y, -, rfl⟩ := List.mem_map.mp hx
    simp [Change.place?, Action.column?, hne]
  rw [tableChanges, List.filter_append, List.filter_append, List.filter_append, keyChanges_at,
    optionChanges_at, columns_elsewhere, dropped_elsewhere]
  rfl

theorem creation_at (t : Table) (place : String × String) :
    (c.creation t).filter (fun x => x.place? = some place) = [] := by
  apply nothing_at
  intro x hx
  rcases List.mem_cons.mp hx with rfl | hx
  · rfl
  · split at hx
    · cases hx
    · simp only [List.mem_append, List.mem_map] at hx
      rcases hx with ⟨_, -, rfl⟩ | ⟨_, -, rfl⟩ <;> rfl

theorem removal_at (t : Table) (place : String × String) :
    (c.removal t).filter (fun x => x.place? = some place) = [] := by
  apply nothing_at
  intro x hx
  rcases List.mem_append.mp hx with hx | hx
  · split at hx
    · cases hx
    · obtain ⟨_, -, rfl⟩ := List.mem_map.mp hx
      rfl
  · cases List.mem_singleton.mp hx
    rfl

theorem changes_at (hc : c.current.ColumnsNamed) (ht : c.target.ColumnsNamed)
    (place : String × String) :
    c.changes.filter (fun x => x.place? = some place) = c.placeCourse place := by
  obtain ⟨table, name⟩ := place
  rw [changes, List.filter_append, List.filter_flatMap, List.filter_flatMap]
  simp only [removal_at]
  rw [List.flatMap_eq_nil_iff.mpr fun _ _ => rfl, List.append_nil, placeCourse]
  have elsewhere : ∀ entry ∈ c.target.tables.entries, entry.1 ≠ table → ∀ found : List Change,
      (found = c.creation entry.2 ∨ ∃ old, found = c.tableChanges old entry.2) →
        found.filter (fun x => x.place? = some (table, name)) = [] := by
    rintro entry hentry hne found (rfl | ⟨old, rfl⟩)
    · exact creation_at _ _
    · apply tableChanges_elsewhere
      rwa [ht.named entry hentry]
  cases hnew : c.target.table? table with
  | none =>
    rw [List.flatMap_eq_nil_iff.mpr]
    · cases c.current.table? table <;> rfl
    · intro entry hentry
      apply elsewhere entry hentry
      · rintro rfl
        rw [Snapshot.table?_eq_some_iff.mpr hentry] at hnew
        cases hnew
      · split
        · exact Or.inl rfl
        · exact Or.inr ⟨_, rfl⟩
  | some new =>
    have hentry := Snapshot.table?_eq_some_iff.mp hnew
    have hname : new.name = table := ht.named _ hentry
    rw [flatMap_eq_of_key c.target.tables.distinct hentry]
    · dsimp only
      cases hold : c.current.table? table with
      | none => exact creation_at _ _
      | some old =>
        have hdistinct := hc.columns _ (Snapshot.table?_eq_some_iff.mp hold)
        subst hname
        exact tableChanges_at hdistinct (ht.columns _ hentry) name
    · intro entry hentry' hne
      apply elsewhere entry hentry' hne
      split
      · exact Or.inl rfl
      · exact Or.inr ⟨_, rfl⟩

/-- The changes to one column, in the order of a difference. -/
theorem ordered_at (hc : c.current.ColumnsNamed) (ht : c.target.ColumnsNamed)
    (place : String × String) :
    c.ordered.filter (fun x => x.place? = some place) = c.placeCourse place := by
  have hsorted := sorted_placeCourse (c := c) place
  rw [ordered, filter_mergeSort phase_le_trans phase_le_total, changes_at hc ht]
  exact List.mergeSort_of_pairwise (hsorted.imp fun h => decide_eq_true h)

end Comparison

end SchemaMigration
