import SchemaMigration.Proofs.References

/-!
A difference is complete: once all of its changes are made, every table is that of the new snapshot,
as far as the dialect can tell the two apart.
-/

namespace SchemaMigration

/-- Lists with the same values have them in some order, if a value is known by its key. -/
theorem map_perm_of_key {α β κ : Type} {f : α → β} (key : α → κ) {first second : List α}
    (congr : ∀ x y, f x = f y → key x = key y) (h₁ : (first.map key).Nodup)
    (h₂ : (second.map key).Nodup) (sound : ∀ x ∈ first, ∃ y ∈ second, f y = f x)
    (complete : ∀ y ∈ second, ∃ x ∈ first, f x = f y) :
    (first.map f).Perm (second.map f) := by
  have nodup : ∀ l : List α, (l.map key).Nodup → (l.map f).Nodup := by
    intro l hl
    refine List.pairwise_map.mpr ((List.pairwise_map.mp hl).imp fun hne heq => ?_)
    exact hne (congr _ _ heq)
  refine (List.perm_ext_iff_of_nodup (nodup _ h₁) (nodup _ h₂)).mpr fun z => ?_
  simp only [List.mem_map]
  constructor
  · rintro ⟨x, hx, rfl⟩
    exact sound x hx
  · rintro ⟨y, hy, rfl⟩
    exact complete y hy

namespace Column

theorem retyped_eq_self {x y : Column} (h : x.SameType y = true) : x.retyped y = x := by
  obtain ⟨name, type, length, scale, nullable, default, enumValues, collation⟩ := x
  simp only [SameType, Bool.and_eq_true, beq_iff_eq] at h
  obtain ⟨⟨⟨⟨rfl, rfl⟩, rfl⟩, rfl⟩, rfl⟩ := h
  rfl

theorem redefaulted_eq_self {x y : Column} (h : x.SameNullDefault y = true) :
    x.redefaulted y = x := by
  obtain ⟨name, type, length, scale, nullable, default, enumValues, collation⟩ := x
  simp only [SameNullDefault, Bool.and_eq_true, beq_iff_eq] at h
  obtain ⟨rfl, rfl⟩ := h
  rfl

theorem redefaulted_retyped {x y : Column} (h : x.name = y.name) :
    (x.retyped y).redefaulted y = y := by
  obtain ⟨name, type, length, scale, nullable, default, enumValues, collation⟩ := y
  obtain rfl := h
  rfl

end Column

namespace Comparison

variable {c : Comparison} {done : List Change} {start goal t : Table}

def seen (c : Comparison) (x : Column) : Column :=
  if c.rules.comparesCollations then x else x.withoutCollation

@[simp] theorem name_seen (x : Column) : (c.seen x).name = x.name := by
  unfold seen
  split <;> rfl

theorem seen_retyped (x y : Column) : c.seen (x.retyped y) = (c.seen x).retyped (c.seen y) := by
  unfold seen
  split <;> rfl

theorem seen_redefaulted (x y : Column) :
    c.seen (x.redefaulted y) = (c.seen x).redefaulted (c.seen y) := by
  unfold seen
  split <;> rfl

theorem sameType_eq (x y : Column) : c.sameType x y = (c.seen x).SameType (c.seen y) := by
  unfold sameType seen
  split <;> rfl

theorem sameNullDefault_seen (x y : Column) :
    (c.seen x).SameNullDefault (c.seen y) = x.SameNullDefault y := by
  unfold seen
  split <;> rfl

def Finished (c : Comparison) (done : List Change) (start goal : Table) : Prop :=
  ∀ a, c.Needs start goal a → ⟨goal.name, a⟩ ∈ done

/-- In the end, a column of both definitions is that of the new one. -/
theorem seen_during (finished : c.Finished done start goal) (hg : goal.Distinct) {x y : Column}
    (hx : x ∈ start.columns) (hy : y ∈ goal.columns) (hname : x.name = y.name) :
    c.seen (x.during done goal) = c.seen y := by
  have retyped : c.seen (if ⟨goal.name, .alterColumnType (some x) y⟩ ∈ done then x.retyped y
      else x) = (c.seen x).retyped (c.seen y) := by
    split
    · exact seen_retyped x y
    · next unaltered =>
      have same : c.sameType x y = true := by
        by_contra differs
        exact unaltered (finished _ (.alterColumnType hx hy hname (by simpa using differs)))
      rw [sameType_eq] at same
      rw [Column.retyped_eq_self same]
  rw [Column.during, hg.column?_eq_some_iff.mpr ⟨hy, hname.symm⟩]
  dsimp only
  split
  · rw [seen_redefaulted, retyped, Column.redefaulted_retyped (by simpa using hname)]
  · next unaltered =>
    have same : x.SameNullDefault y = true := by
      by_contra differs
      exact unaltered (finished _ (.alterColumnNullDefault hx hy hname (by simpa using differs)))
    rw [retyped]
    have kept : ((c.seen x).retyped (c.seen y)).SameNullDefault (c.seen y) = true := by
      rw [← same, ← sameNullDefault_seen (c := c) x y]
      rfl
    rw [← Column.redefaulted_eq_self kept, Column.redefaulted_retyped (by simpa using hname)]

theorem columns_perm (finished : c.Finished done start goal) (moment : c.Moment done)
    (course : c.course? goal.name = some (start, goal)) (hg : goal.Distinct)
    (hat : Table.At done start goal t) :
    (t.columns.map c.seen).Perm (goal.columns.map c.seen) := by
  refine map_perm_of_key Column.name (fun x y h => ?_) hat.distinct.columns hg.columns ?_ ?_
  · rw [← name_seen (c := c) x, h, name_seen]
  · intro x hx
    rcases (hat.columns x).mp hx with ⟨hxg, -⟩ | ⟨y, hy, undropped, rfl⟩
    · exact ⟨x, hxg, rfl⟩
    · have stays : y.name ∈ goal.columnNames := by
        by_contra gone
        exact undropped (finished _ (.dropColumn hy gone))
      obtain ⟨z, hz, hname⟩ := List.mem_map.mp stays
      exact ⟨z, hz, (seen_during finished hg hy hz hname.symm).symm⟩
  · intro y hy
    by_cases old : y.name ∈ start.columnNames
    · obtain ⟨x, hx, hname⟩ := List.mem_map.mp old
      have kept := (moment.shared_column course hx hy hname).1
      exact ⟨x.during done goal, (hat.columns _).mpr (Or.inr ⟨x, hx, kept, rfl⟩),
        seen_during finished hg hx hy hname⟩
    · exact ⟨y, (hat.columns y).mpr (Or.inl ⟨hy, finished _ (.addColumn hy old)⟩), rfl⟩

theorem indexes_perm (keeps : c.skipsConstraints = false) (finished : c.Finished done start goal)
    (moment : c.Moment done) (course : c.course? goal.name = some (start, goal))
    (hg : goal.Distinct) (hat : Table.At done start goal t) : t.indexes.Perm goal.indexes := by
  refine (List.perm_ext_iff_of_nodup hat.distinct.indexes.of_map hg.indexes.of_map).mpr fun i => ?_
  rw [hat.indexes i]
  constructor
  · rintro (⟨new, -⟩ | ⟨old, undropped⟩)
    · exact new
    · by_contra gone
      exact undropped (finished _ (.dropIndex keeps old gone))
  · intro new
    by_cases old : i ∈ start.indexes
    · refine Or.inr ⟨old, fun dropped => ?_⟩
      cases (moment.discovered _ dropped).needs course rfl with
      | dropIndex _ _ gone => exact gone new
    · exact Or.inl ⟨new, finished _ (.addIndex keeps new old)⟩

def knownSignatures (c : Comparison) (name : String) : List ForeignKey.Signature :=
  ((c.current.table? name).map Table.signatures).getD []

theorem knownSignatures_of_course {name : String} (course : c.course? name = some (start, goal)) :
    c.knownSignatures name = start.signatures := by
  cases course_cases course with
  | kept held _ => simp [knownSignatures, held]
  | created absent _ => simp [knownSignatures, absent, Table.signatures, Table.bare]
  | dropped held _ => simp [knownSignatures, held]

/-- A foreign key without its name, if another one is known to do the same. -/
def seenKey (known : List ForeignKey.Signature) (k : ForeignKey) : ForeignKey :=
  if k.signature ∈ known then { k with name := none } else k

theorem signature_seenKey (known : List ForeignKey.Signature) (k : ForeignKey) :
    (seenKey known k).signature = k.signature := by
  unfold seenKey
  split <;> rfl

theorem seenKey_congr {known : List ForeignKey.Signature} {k l : ForeignKey}
    (hk : k.signature ∈ known) (same : k.signature = l.signature) :
    seenKey known k = seenKey known l := by
  obtain ⟨name, columns, table, referenced, onDelete, onUpdate⟩ := k
  obtain ⟨name', columns', table', referenced', onDelete', onUpdate'⟩ := l
  rw [seenKey, seenKey, ← same, if_pos hk, if_pos hk]
  simpa [ForeignKey.signature] using same

theorem foreignKeys_perm (keeps : c.skipsConstraints = false)
    (finished : c.Finished done start goal) (moment : c.Moment done)
    (course : c.course? goal.name = some (start, goal)) (hg : goal.Distinct)
    (hat : Table.At done start goal t) :
    (t.foreignKeys.map (seenKey start.signatures)).Perm
      (goal.foreignKeys.map (seenKey start.signatures)) := by
  refine map_perm_of_key ForeignKey.signature (fun k l h => ?_) hat.distinct.foreignKeys
    hg.foreignKeys ?_ ?_
  · rw [← signature_seenKey start.signatures k, h, signature_seenKey]
  · intro k hk
    rcases key_cases keeps course hat hk with ⟨old, l, hl, same⟩ | ⟨old, drops, undropped⟩ |
      ⟨new, -⟩
    · exact ⟨l, hl, (seenKey_congr (List.mem_map_of_mem old) same.symm).symm⟩
    · exact absurd (finished _ (drops.needs course rfl)) undropped
    · exact ⟨k, new, rfl⟩
  · intro l hl
    by_cases known : l.signature ∈ start.signatures
    · obtain ⟨k, hk, same⟩ := List.mem_map.mp known
      refine ⟨k, (hat.foreignKeys k).mpr (Or.inr ⟨hk, fun dropped => ?_⟩),
        seenKey_congr (List.mem_map_of_mem hk) same⟩
      cases (moment.discovered _ dropped).needs course rfl with
      | dropForeignKey _ _ gone => exact gone (same ▸ List.mem_map_of_mem hl)
    · exact ⟨l, (hat.foreignKeys l).mpr (Or.inl ⟨hl, finished _ (.addForeignKey keeps hl known)⟩),
        rfl⟩

theorem primaryKey_eq (finished : c.Finished done start goal) (hat : Table.At done start goal t) :
    t.primaryKey = goal.primaryKey := by
  rw [hat.primaryKey]
  split
  · rfl
  · next unaltered =>
    by_contra differs
    exact unaltered (finished _ (.alterTable fun same => absurd same differs))

theorem options_eq (finished : c.Finished done start goal) (hat : Table.At done start goal t)
    (compares : c.rules.comparesCollations = true) :
    t.charset = goal.charset ∧ t.collation = goal.collation := by
  rw [hat.charset, hat.collation]
  split
  · exact ⟨rfl, rfl⟩
  · next unaltered =>
    have same : c.sameOptions start goal = true := by
      by_contra differs
      exact unaltered (finished _ (.alterTable fun _ => by simpa using differs))
    simpa [sameOptions, compares] using same

/-- A table is that of the new snapshot, up to the order of its parts, the names of foreign keys
that were there before, and what the dialect cannot tell. -/
structure Agrees (c : Comparison) (t goal : Table) : Prop where
  name : t.name = goal.name
  columns : (t.columns.map c.seen).Perm (goal.columns.map c.seen)
  primaryKey : t.primaryKey = goal.primaryKey
  indexes : t.indexes.Perm goal.indexes
  foreignKeys : (t.foreignKeys.map (seenKey (c.knownSignatures goal.name))).Perm
    (goal.foreignKeys.map (seenKey (c.knownSignatures goal.name)))
  options : c.rules.comparesCollations = true →
    t.charset = goal.charset ∧ t.collation = goal.collation

structure Reaches (c : Comparison) (s : Snapshot) : Prop where
  names : s.tables.keys.Perm c.target.tables.keys
  tables : ∀ name t goal, s.table? name = some t → c.target.table? name = some goal →
    c.Agrees t goal

theorem agrees_of_finished (keeps : c.skipsConstraints = false)
    (finished : c.Finished done start goal) (moment : c.Moment done)
    (course : c.course? goal.name = some (start, goal)) (hg : goal.Distinct)
    (hat : Table.At done start goal t) : c.Agrees t goal where
  name := hat.name
  columns := columns_perm finished moment course hg hat
  primaryKey := primaryKey_eq finished hat
  indexes := indexes_perm keeps finished moment course hg hat
  foreignKeys := by
    rw [knownSignatures_of_course course]
    exact foreignKeys_perm keeps finished moment course hg hat
  options := options_eq finished hat

/-- In the end, the tables of the new snapshot are there, and no others. -/
theorem live_iff_of_finished (moment : c.Moment done) (finished : ∀ x, c.Discovers x → x ∈ done)
    (name : String) : c.Live done name ↔ ∃ new, c.target.table? name = some new := by
  constructor
  · rintro ⟨hborn, undropped⟩
    by_contra hnone
    have gone : c.target.table? name = none :=
      Option.eq_none_iff_forall_not_mem.mpr fun new h => hnone ⟨new, h⟩
    rcases hborn with hsome | ⟨t, hcreate⟩
    · obtain ⟨old, hold⟩ := Option.isSome_iff_exists.mp hsome
      exact undropped old (finished _ (.removal hold gone))
    · exact hnone ⟨t, (moment.discovered _ hcreate).of_createTable.2⟩
  · rintro ⟨new, hnew⟩
    cases hold : c.current.table? name with
    | some old => exact live_of_both moment hold hnew
    | none => exact live_of_created moment (finished _ (.creation hold hnew))

theorem Midway.reaches (hc : c.current.Distinct) (ht : c.target.Distinct)
    (keeps : c.skipsConstraints = false) (moment : c.Moment done)
    (finished : ∀ x, c.Discovers x → x ∈ done) {s : Snapshot} (h : c.Midway done s) :
    c.Reaches s where
  names := by
    refine (List.perm_ext_iff_of_nodup s.tables.nodup_keys c.target.tables.nodup_keys).mpr ?_
    intro name
    rw [Snapshot.mem_keys_iff, Snapshot.mem_keys_iff, ← live_iff_of_finished moment finished name]
    constructor
    · rintro ⟨t, hsome⟩
      exact (h.of_table? hsome).1
    · intro alive
      obtain ⟨-, -, t, -, hsome, -⟩ := h.live name alive
      exact ⟨t, hsome⟩
  tables name t new hsome hnew := by
    obtain ⟨-, start, goal, course, hat⟩ := h.of_table? hsome
    obtain ⟨-, hg, -, hname⟩ := course_distinct hc ht course
    obtain rfl := course_of_target hnew course
    subst hname
    exact agrees_of_finished keeps (fun a needs => finished _ (.part course needs)) moment course hg
      hat

/-- The changes of a difference lead from the current snapshot to the new one. -/
theorem replay_reaches_target (hc : c.current.Distinct) (ht : c.target.Distinct)
    (keeps : c.skipsConstraints = false) {d : Difference} (hd : c.difference = .ok d) :
    ∃ s, c.current.replay? d.changes = some s ∧ c.Reaches s := by
  rw [changes_of_difference hd]
  have moment : c.Moment c.ordered := moment_of_prefix hc ht List.prefix_rfl
  have finished : ∀ x, c.Discovers x → x ∈ c.ordered := fun x hx =>
    List.mem_mergeSort.mpr ((mem_changes hc ht).mpr hx)
  obtain ⟨s, hs, hmid⟩ := replay_midway hc ht moment
  exact ⟨s, hs, hmid.reaches hc ht keeps moment finished⟩

end Comparison

theorem Shop.replay_reaches_new_orders :
    ∃ d s, comparison.difference = .ok d ∧ comparison.current.replay? d.changes = some s ∧
      comparison.Reaches s := by
  obtain ⟨g, -, -, -, hd⟩ := Comparison.difference_of_nodup (c := comparison) (by decide)
  obtain ⟨s, hs, reaches⟩ := Comparison.replay_reaches_target (c := comparison) (by decide)
    (by decide) rfl hd
  exact ⟨_, s, hd, hs, reaches⟩

end SchemaMigration
