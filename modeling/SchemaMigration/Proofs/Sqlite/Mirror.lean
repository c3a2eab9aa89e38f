import SchemaMigration.Proofs.References
import SchemaMigration.Proofs.Sqlite.Rebuild

/-!
A database that mirrors a snapshot. While a script runs, its database and the snapshot that the
changes are replayed on stay together: tables that are rebuilt keep their old definition until they
take the new one at once, all others follow every change. Indexes that a rebuild takes along are
created again only if the new snapshot has them.
-/

namespace SchemaMigration

open Emission.Sqlite (temporaryName needsRebuild)

/-- What SQLite asks of a snapshot: the indexes of all tables share their names, and a table that is
rebuilt needs a free name meanwhile. -/
structure Snapshot.Storable (s : Snapshot) : Prop extends s.WellFormed where
  indexNames : (s.ownedIndexes.map fun e => e.2.name).Nodup
  temporary : ∀ name ∈ s.tables.keys, temporaryName name ∉ s.tables.keys

instance (s : Snapshot) : Decidable s.Storable :=
  decidable_of_iff
    (s.WellFormed ∧ (s.ownedIndexes.map fun e => e.2.name).Nodup ∧
      ∀ name ∈ s.tables.keys, temporaryName name ∉ s.tables.keys)
    ⟨fun ⟨hw, hi, ht⟩ => ⟨hw, hi, ht⟩, fun h => ⟨h.toWellFormed, h.indexNames, h.temporary⟩⟩

theorem Snapshot.Storable.table_eq {s : Snapshot} (h : s.Storable) {u v : String} {t w : Table}
    (ht : s.table? u = some t) (hw : s.table? v = some w) {i j : Index} (hi : i ∈ t.indexes)
    (hj : j ∈ w.indexes) (hname : i.name = j.name) : u = v := by
  have hpair : (u, i) = (v, j) := List.inj_on_of_nodup_map h.indexNames
    (mem_ownedIndexes.mpr ⟨t, ht, hi⟩) (mem_ownedIndexes.mpr ⟨w, hw, hj⟩) hname
  exact congrArg Prod.fst hpair

namespace Comparison

variable {c : Comparison} {done : List Change} {s : Snapshot} {name : String} {t : Table}

/-! ### Indexes that are there share their names -/

theorem Midway.old_index (h : c.Midway done s) (early : ∀ x ∈ done, x.phase < 9)
    (ht : s.table? name = some t) {i : Index} (hi : i ∈ t.indexes) :
    ∃ old, c.current.table? name = some old ∧ i ∈ old.indexes := by
  obtain ⟨-, start, goal, course, hat⟩ := h.of_table? ht
  rcases (hat.indexes i).mp hi with ⟨-, added⟩ | ⟨hstart, -⟩
  · exact absurd (early _ added) (show ¬ 9 < 9 by decide)
  · cases course_cases course with
    | kept held _ => exact ⟨_, held, hstart⟩
    | created _ _ => cases hstart
    | dropped held _ => exact ⟨_, held, hstart⟩

theorem Midway.new_index (h : c.Midway done s) (hc : c.current.Distinct) (hd : c.target.Distinct)
    (keeps : c.skipsConstraints = false) (moment : c.Moment done) {x : Change} (hx : x ∈ done)
    (late : 9 ≤ x.phase) (ht : s.table? name = some t) {i : Index} (hi : i ∈ t.indexes) :
    ∃ new, c.target.table? name = some new ∧ i ∈ new.indexes := by
  obtain ⟨alive, start, goal, course, hat⟩ := h.of_table? ht
  obtain rfl := (course_distinct hc hd course).2.2.2
  cases hnew : c.target.table? goal.name with
  | none =>
    -- a table that goes away is gone by now
    obtain ⟨old, hold⟩ : ∃ old, c.current.table? goal.name = some old := by
      cases course_cases course with
      | kept held _ => exact ⟨_, held⟩
      | created _ wanted =>
        rw [hnew] at wanted
        cases wanted
      | dropped held _ => exact ⟨_, held⟩
    have dropped := moment.earlier x hx _ (.removal hold hnew) (show 8 < x.phase by omega)
    exact absurd dropped (alive.2 old)
  | some new =>
    obtain rfl := course_of_target hnew course
    refine ⟨goal, rfl, ?_⟩
    rcases (hat.indexes i).mp hi with ⟨hgoal, -⟩ | ⟨hstart, undropped⟩
    · exact hgoal
    · by_contra gone
      exact undropped (moment.earlier x hx _ (.part course (.dropIndex keeps hstart gone))
        (show 1 < x.phase by omega))

/-- No two tables that are there have indexes of one name. -/
theorem Midway.table_eq (h : c.Midway done s) (hc : c.current.Storable) (hd : c.target.Storable)
    (keeps : c.skipsConstraints = false) (moment : c.Moment done) {u v : String} {t w : Table}
    (ht : s.table? u = some t) (hw : s.table? v = some w) {i j : Index} (hi : i ∈ t.indexes)
    (hj : j ∈ w.indexes) (hname : i.name = j.name) : u = v := by
  by_cases late : ∃ x ∈ done, 9 ≤ x.phase
  · obtain ⟨x, hx, late⟩ := late
    obtain ⟨new, hnew, hi'⟩ := h.new_index hc.toDistinct hd.toDistinct keeps moment hx late ht hi
    obtain ⟨new', hnew', hj'⟩ := h.new_index hc.toDistinct hd.toDistinct keeps moment hx late hw hj
    exact hd.table_eq hnew hnew' hi' hj' hname
  · have early : ∀ x ∈ done, x.phase < 9 := fun x hx =>
      Nat.lt_of_not_le fun hle => late ⟨x, hx, hle⟩
    obtain ⟨old, hold, hi'⟩ := h.old_index early ht hi
    obtain ⟨old', hold', hj'⟩ := h.old_index early hw hj
    exact hc.table_eq hold hold' hi' hj' hname

end Comparison

namespace Sqlite

variable {c : Comparison}

structure Tracks (c : Comparison) (done : List Change) (p : Progress) : Prop where
  rebuilding : ∀ name, name ∈ p.rebuilding ↔ Rebuilds c name
  rebuilt : ∀ name, name ∈ p.rebuilt ↔
    Rebuilds c name ∧ ∃ a, ⟨name, a⟩ ∈ done ∧ causesRebuild a = true
  created : ∀ name n, (name, n) ∈ p.createdIndexes ↔ ∃ i, ⟨name, .addIndex i⟩ ∈ done ∧ i.name = n

/-- The foreign keys in the definition of a table that is not rebuilt: those that it had, or all of
them if it is created. -/
def inlineKeys (c : Comparison) (name : String) : List ForeignKey :=
  match c.current.table? name, c.target.table? name with
  | some old, _ => old.foreignKeys
  | none, some new => new.foreignKeys
  | none, none => []

structure MirrorsTables (c : Comparison) (rebuilt : List String) (s : Snapshot) (db : Database) :
    Prop where
  absent : ∀ name, s.table? name = none → db.table? name = none
  kept : ∀ name t, s.table? name = some t → ¬ Rebuilds c name →
    db.table? name = some ⟨t.columns, t.primaryKey, inlineKeys c name⟩
  replaced : ∀ name, Rebuilds c name → db.table? name =
    if name ∈ rebuilt then (c.target.table? name).map .ofTable
    else (c.current.table? name).map .ofTable

structure Mirrors (c : Comparison) (rebuilt : List String) (s : Snapshot) (db : Database) : Prop
    extends MirrorsTables c rebuilt s db where
  indexes : ∀ name i, (name, i) ∈ db.indexes ↔ ∃ t, s.table? name = some t ∧ i ∈ t.indexes ∧
    (name ∈ rebuilt → ∃ new, c.target.table? name = some new ∧ i ∈ new.indexes)
  nodup : db.indexes.Nodup

theorem mirrors_start (hc : c.current.Storable) :
    Mirrors c [] c.current (.ofSnapshot c.current) where
  absent name h := by rw [Database.table?_ofSnapshot, h, Option.map_none]
  kept name t h _ := by
    rw [Database.table?_ofSnapshot, h, Option.map_some, inlineKeys, h]
    rfl
  replaced name _ := by simp [Database.table?_ofSnapshot]
  indexes name i := by simp [Database.ofSnapshot, Snapshot.mem_ownedIndexes]
  nodup := hc.indexNames.of_map

section Bookkeeping

variable {done : List Change} {p : Progress} {x : Change} {name : String}

theorem Tracks.start {p : Progress} (rebuilding : ∀ name, name ∈ p.rebuilding ↔ Rebuilds c name)
    (rebuilt : p.rebuilt = []) (created : p.createdIndexes = []) : Tracks c [] p where
  rebuilding := rebuilding
  rebuilt name := by simp [rebuilt]
  created name n := by simp [created]

/-- Most changes need no note: they cause no rebuild, or not any more. -/
theorem Tracks.unnoted (h : Tracks c done p) (index : ∀ i, x.action ≠ .addIndex i)
    (rebuild : causesRebuild x.action = true → Rebuilds c x.table → x.table ∈ p.rebuilt) :
    Tracks c (done ++ [x]) p where
  rebuilding := h.rebuilding
  rebuilt name := by
    constructor
    · intro hname
      obtain ⟨hrebuilds, a, ha, hcause⟩ := (h.rebuilt name).mp hname
      exact ⟨hrebuilds, a, List.mem_append_left _ ha, hcause⟩
    · rintro ⟨hrebuilds, a, ha, hcause⟩
      rcases List.mem_append.mp ha with ha | ha
      · exact (h.rebuilt name).mpr ⟨hrebuilds, a, ha, hcause⟩
      · obtain rfl := List.mem_singleton.mp ha
        exact rebuild hcause hrebuilds
  created name n := by
    rw [h.created]
    constructor
    · rintro ⟨i, hi, hn⟩
      exact ⟨i, List.mem_append_left _ hi, hn⟩
    · rintro ⟨i, hi, hn⟩
      rcases List.mem_append.mp hi with hi | hi
      · exact ⟨i, hi, hn⟩
      · obtain rfl := List.mem_singleton.mp hi
        exact absurd rfl (index i)

theorem Tracks.index (h : Tracks c done p) (i : Index) :
    Tracks c (done ++ [⟨name, .addIndex i⟩])
      { p with createdIndexes := (name, i.name) :: p.createdIndexes } where
  rebuilding := h.rebuilding
  rebuilt n := by
    rw [h.rebuilt n]
    constructor
    · rintro ⟨hrebuilds, a, ha, hcause⟩
      exact ⟨hrebuilds, a, List.mem_append_left _ ha, hcause⟩
    · rintro ⟨hrebuilds, a, ha, hcause⟩
      rcases List.mem_append.mp ha with ha | ha
      · exact ⟨hrebuilds, a, ha, hcause⟩
      · obtain ⟨rfl, rfl⟩ : n = name ∧ a = .addIndex i := by simpa using ha
        cases hcause
  created n m := by
    rw [List.mem_cons, h.created n m, Prod.mk.injEq]
    constructor
    · rintro (⟨rfl, rfl⟩ | ⟨j, hj, hm⟩)
      · exact ⟨i, List.mem_append_right _ (List.mem_singleton_self _), rfl⟩
      · exact ⟨j, List.mem_append_left _ hj, hm⟩
    · rintro ⟨j, hj, hm⟩
      rcases List.mem_append.mp hj with hj | hj
      · exact Or.inr ⟨j, hj, hm⟩
      · obtain ⟨rfl, rfl⟩ : n = name ∧ j = i := by simpa using hj
        exact Or.inl ⟨rfl, hm.symm⟩

theorem Tracks.rebuild (h : Tracks c done p) {a : Action} (rebuilds : Rebuilds c name)
    (cause : causesRebuild a = true) (index : ∀ i, a ≠ .addIndex i) :
    Tracks c (done ++ [⟨name, a⟩]) { p with rebuilt := name :: p.rebuilt } where
  rebuilding := h.rebuilding
  rebuilt n := by
    rw [List.mem_cons, h.rebuilt n]
    constructor
    · rintro (rfl | ⟨hrebuilds, b, hb, hcause⟩)
      · exact ⟨rebuilds, a, List.mem_append_right _ (List.mem_singleton_self _), cause⟩
      · exact ⟨hrebuilds, b, List.mem_append_left _ hb, hcause⟩
    · rintro ⟨hrebuilds, b, hb, hcause⟩
      rcases List.mem_append.mp hb with hb | hb
      · exact Or.inr ⟨hrebuilds, b, hb, hcause⟩
      · obtain ⟨rfl, -⟩ : n = name ∧ b = a := by simpa using hb
        exact Or.inl rfl
  created n m := by
    rw [h.created n m]
    simp [fun i => (index i).symm]

end Bookkeeping

section Following

variable {rebuilt : List String} {s : Snapshot} {db : Database} {name : String} {t changed : Table}

/-- A definition that changes in nothing but keys and indexes, or that a rebuild brings, does not
show in a stored table. -/
theorem MirrorsTables.restate (h : MirrorsTables c rebuilt s db) (ht : s.table? name = some t)
    (same : ¬ Rebuilds c name →
      changed.columns = t.columns ∧ changed.primaryKey = t.primaryKey) :
    MirrorsTables c rebuilt (s.put name changed) db where
  absent n hn := by
    rw [Snapshot.table?_put] at hn
    split at hn
    · cases hn
    · exact h.absent n hn
  kept n u hu hkept := by
    rw [Snapshot.table?_put] at hu
    split at hu
    · next heq =>
      subst heq
      obtain rfl := Option.some.inj hu
      rw [h.kept name t ht hkept, (same hkept).1, (same hkept).2]
    · exact h.kept n u hu hkept
  replaced := h.replaced

theorem MirrorsTables.reindex (h : MirrorsTables c rebuilt s db) (ht : s.table? name = some t)
    (indexes : List Index) (owned : List (String × Index)) :
    MirrorsTables c rebuilt (s.put name { t with indexes }) { db with indexes := owned } := by
  have same : MirrorsTables c rebuilt (s.put name { t with indexes }) db :=
    h.restate ht fun _ => ⟨rfl, rfl⟩
  exact ⟨same.absent, same.kept, same.replaced⟩

/-- A change that is left to a rebuild, or that concerns foreign keys only, needs no statement. -/
theorem Mirrors.restate (h : Mirrors c rebuilt s db) (ht : s.table? name = some t)
    (indexes : changed.indexes = t.indexes)
    (same : ¬ Rebuilds c name →
      changed.columns = t.columns ∧ changed.primaryKey = t.primaryKey) :
    Mirrors c rebuilt (s.put name changed) db where
  toMirrorsTables := h.toMirrorsTables.restate ht same
  indexes n i := by
    rw [h.indexes n i, Snapshot.table?_put]
    split
    · next heq =>
      subst heq
      simp [ht, indexes]
    · rfl
  nodup := h.nodup

/-- A table that is not rebuilt gets another definition. -/
theorem Mirrors.redefine (h : Mirrors c rebuilt s db) (kept : ¬ Rebuilds c name)
    (indexes : ∀ i, i ∈ changed.indexes ↔ ∃ t, s.table? name = some t ∧ i ∈ t.indexes) :
    Mirrors c rebuilt (s.put name changed)
      (db.putTable name ⟨changed.columns, changed.primaryKey, inlineKeys c name⟩) where
  absent n hn := by
    rw [Snapshot.table?_put] at hn
    rw [Database.table?_putTable]
    split at hn
    · cases hn
    · next hne =>
      rw [if_neg hne]
      exact h.absent n hn
  kept n u hu hkept := by
    rw [Snapshot.table?_put] at hu
    rw [Database.table?_putTable]
    split at hu
    · next heq =>
      subst heq
      obtain rfl := Option.some.inj hu
      rw [if_pos rfl]
    · next hne =>
      rw [if_neg hne]
      exact h.kept n u hu hkept
  replaced n hn := by
    have hne : name ≠ n := by
      rintro rfl
      exact kept hn
    rw [Database.table?_putTable, if_neg hne]
    exact h.replaced n hn
  indexes n i := by
    rw [Database.indexes_putTable, h.indexes n i, Snapshot.table?_put]
    split
    · next heq =>
      subst heq
      simp only [Option.some.injEq, exists_eq_left', indexes i]
      constructor
      · rintro ⟨t, ht, hi, hreplaced⟩
        exact ⟨⟨t, ht, hi⟩, hreplaced⟩
      · rintro ⟨⟨t, ht, hi⟩, hreplaced⟩
        exact ⟨t, ht, hi, hreplaced⟩
    · rfl
  nodup := h.nodup

/-- A table that goes away takes its indexes along. -/
theorem Mirrors.remove (h : Mirrors c rebuilt s db) (kept : ¬ Rebuilds c name) :
    Mirrors c rebuilt (s.remove name) (db.removeTable name) where
  absent n hn := by
    rw [Snapshot.table?_remove] at hn
    rw [Database.table?_removeTable]
    split
    · rfl
    · next hne =>
      rw [if_neg hne] at hn
      exact h.absent n hn
  kept n u hu hkept := by
    rw [Snapshot.table?_remove] at hu
    rw [Database.table?_removeTable]
    split at hu
    · cases hu
    · next hne =>
      rw [if_neg hne]
      exact h.kept n u hu hkept
  replaced n hn := by
    have hne : name ≠ n := by
      rintro rfl
      exact kept hn
    rw [Database.table?_removeTable, if_neg hne]
    exact h.replaced n hn
  indexes n i := by
    rw [Database.removeTable, List.mem_filter, h.indexes n i, Snapshot.table?_remove]
    by_cases heq : name = n
    · simp [heq]
    · simp [heq, Ne.symm heq]
  nodup := h.nodup.filter _

theorem Mirrors.createIndex (h : Mirrors c rebuilt s db) (ht : s.table? name = some t) {i : Index}
    (fresh : (name, i) ∉ db.indexes)
    (wanted : name ∈ rebuilt → ∃ new, c.target.table? name = some new ∧ i ∈ new.indexes) :
    Mirrors c rebuilt (s.put name { t with indexes := t.indexes ++ [i] })
      { db with indexes := db.indexes ++ [(name, i)] } where
  toMirrorsTables := h.toMirrorsTables.reindex ht _ _
  indexes n j := by
    rw [List.mem_append, List.mem_singleton, h.indexes n j, Snapshot.table?_put, Prod.mk.injEq]
    split
    · next heq =>
      subst heq
      simp only [ht, Option.some.injEq, exists_eq_left', List.mem_append, List.mem_singleton,
        true_and]
      constructor
      · rintro (⟨hj, hreplaced⟩ | rfl)
        · exact ⟨Or.inl hj, hreplaced⟩
        · exact ⟨Or.inr rfl, wanted⟩
      · rintro ⟨hj | rfl, hreplaced⟩
        · exact Or.inl ⟨hj, hreplaced⟩
        · exact Or.inr rfl
    · next hne => simp [Ne.symm hne]
  nodup := by
    refine List.nodup_append.mpr ⟨h.nodup, List.nodup_singleton _, ?_⟩
    rintro e he f hf rfl
    exact fresh (List.mem_singleton.mp hf ▸ he)

/-- An index goes by its name, which no index of another table has. -/
theorem Mirrors.dropIndex (h : Mirrors c rebuilt s db) (ht : s.table? name = some t) {i : Index}
    (own : ∀ n u, s.table? n = some u → ∀ j ∈ u.indexes, j.name = i.name → n = name) :
    Mirrors c rebuilt (s.put name { t with indexes := t.indexes.filter fun j => j.name ≠ i.name })
      { db with indexes := db.indexes.filter fun e => e.2.name ≠ i.name } where
  toMirrorsTables := h.toMirrorsTables.reindex ht _ _
  indexes n j := by
    rw [List.mem_filter, h.indexes n j, Snapshot.table?_put, decide_eq_true_eq]
    split
    · next heq =>
      subst heq
      simp only [ht, Option.some.injEq, exists_eq_left', List.mem_filter, decide_eq_true_eq]
      exact and_right_comm
    · next hne =>
      constructor
      · exact And.left
      · rintro ⟨u, hu, hj, hreplaced⟩
        exact ⟨⟨u, hu, hj, hreplaced⟩, fun heq => hne (own n u hu j hj heq).symm⟩
  nodup := h.nodup.filter _

/-- A rebuild brings the new definition, with those of its indexes that are there. -/
theorem Mirrors.replace (h : Mirrors c rebuilt s db) (ht : s.table? name = some t)
    (rebuilds : Rebuilds c name) {new : Table} (hnew : c.target.table? name = some new)
    (same : changed.indexes = t.indexes) {after : Database}
    (tables : ∀ n, after.table? n = if n = name then some (.ofTable new) else db.table? n)
    (indexes : ∀ n i, (n, i) ∈ after.indexes ↔
      if n = name then i ∈ new.indexes ∧ i ∈ t.indexes else (n, i) ∈ db.indexes)
    (nodup : after.indexes.Nodup) : Mirrors c (name :: rebuilt) (s.put name changed) after where
  absent n hn := by
    rw [Snapshot.table?_put] at hn
    split at hn
    · cases hn
    · next hne =>
      rw [tables, if_neg (Ne.symm hne)]
      exact h.absent n hn
  kept n u hu hkept := by
    have hne : name ≠ n := by
      rintro rfl
      exact hkept rebuilds
    rw [Snapshot.table?_put, if_neg hne] at hu
    rw [tables, if_neg (Ne.symm hne)]
    exact h.kept n u hu hkept
  replaced n hn := by
    rw [tables]
    by_cases heq : n = name
    · simp [heq, hnew]
    · simp [heq, h.replaced n hn]
  indexes n i := by
    rw [indexes, Snapshot.table?_put]
    by_cases heq : n = name
    · subst heq
      simp [hnew, same, and_comm]
    · simp [heq, Ne.symm heq, h.indexes n i]
  nodup := nodup

end Following

end Sqlite

end SchemaMigration
