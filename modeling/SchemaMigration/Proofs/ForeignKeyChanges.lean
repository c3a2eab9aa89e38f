import Mathlib.Data.List.Perm.Subperm
import SchemaMigration.Proofs.Alteration
import SchemaMigration.Proofs.TableChanges

/-!
Which foreign keys a difference drops and adds. A comparison tells foreign keys apart by what they
do, a database by their names. So of foreign keys that do the same only one is dropped from a table
that stays, and one that is added can find its name taken by one that is left alone.
-/

namespace SchemaMigration

/-- A list holds everything as often as another one does if it does so for each value of a key. -/
theorem subperm_iff_by_key {α κ : Type} [DecidableEq α] [DecidableEq κ] (key : α → κ)
    {few many : List α} :
    few.Subperm many ↔
      ∀ k, (few.filter fun a => key a = k).Subperm (many.filter fun a => key a = k) := by
  constructor
  · intro h k
    exact h.filter _
  · intro h
    rw [List.subperm_ext_iff]
    intro a _
    have count_le := (h (key a)).count_le a
    rwa [List.count_filter (by simp), List.count_filter (by simp)] at count_le

theorem nodup_map_of_subperm {α β : Type} {f : α → β} {few many : List α} (h : few.Subperm many)
    (distinct : (many.map f).Nodup) : (few.map f).Nodup := by
  obtain ⟨some, perm, sublist⟩ := h
  exact (perm.map f).nodup_iff.mp (distinct.sublist (sublist.map f))

namespace OrderedMap

variable {α β : Type} [DecidableEq α] {e : α × β}

theorem mem_place {key : α} {value : β} {entries : List (α × β)}
    (h : e ∈ place key value entries) : e = (key, value) ∨ e ∈ entries := by
  induction entries with
  | nil => exact Or.inl (List.mem_singleton.mp h)
  | cons entry rest ih =>
    rw [place] at h
    split at h
    · rcases List.mem_cons.mp h with rfl | h
      · exact Or.inl rfl
      · exact Or.inr (List.mem_cons_of_mem _ h)
    · rcases List.mem_cons.mp h with rfl | h
      · exact Or.inr List.mem_cons_self
      · exact (ih h).imp_right (List.mem_cons_of_mem _)

theorem mem_of_mem_ofList {entries : List (α × β)} (h : e ∈ (ofList entries).entries) :
    e ∈ entries := by
  have fold : ∀ m : OrderedMap α β,
      e ∈ (entries.foldl (fun m entry => m.insert entry.1 entry.2) m).entries →
        e ∈ m.entries ∨ e ∈ entries := by
    clear h
    induction entries with
    | nil => exact fun m h => Or.inl h
    | cons entry rest ih =>
      intro m h
      rcases ih (m.insert entry.1 entry.2) h with h | h
      · rcases mem_place h with rfl | h
        · exact Or.inr List.mem_cons_self
        · exact Or.inl h
      · exact Or.inr (List.mem_cons_of_mem _ h)
  exact (fold empty h).resolve_left List.not_mem_nil

end OrderedMap

namespace Comparison

variable {c : Comparison} {old new : Table} {name : String}

/-! ### Drops -/

def drops (table : String) (keys : List ForeignKey) : List Change :=
  keys.map fun k => ⟨table, .dropForeignKey k⟩

theorem drops_subperm_iff {table : String} {few many : List ForeignKey} :
    (drops table few).Subperm (drops table many) ↔ few.Subperm many :=
  List.map_subperm_map_iff fun k l h => by simpa using h

/-- The foreign keys of a current table that have no counterpart in the new snapshot, each of them
as often as it occurs. -/
def releasedKeys (c : Comparison) (old : Table) : List ForeignKey :=
  match c.target.table? old.name with
  | none => old.foreignKeys
  | some new => old.foreignKeys.filter fun k => !new.signatures.contains k.signature

/-- A drop for every foreign key that has no counterpart in the new snapshot. -/
def releases (c : Comparison) : List Change :=
  c.current.tables.entries.flatMap fun entry => drops entry.2.name (c.releasedKeys entry.2)

theorem releases_of_table (hc : c.current.TablesNamed) (name : String) :
    c.releases.filter (fun x => x.table = name) =
      ((c.current.table? name).map fun old => drops old.name (c.releasedKeys old)).getD [] := by
  refine filter_table_flatMap c.current.tables.distinct (fun entry hentry x hx => ?_) name
  obtain ⟨k, -, rfl⟩ := List.mem_map.mp hx
  exact hc entry hentry

theorem mem_of_mem_keysOf {t : Table} {e : ForeignKey.Signature × ForeignKey}
    (h : e ∈ (keysOf t).entries) : e.2 ∈ t.foreignKeys ∧ e.2.signature = e.1 := by
  obtain ⟨k, hk, rfl⟩ := List.mem_map.mp (OrderedMap.mem_of_mem_ofList h)
  exact ⟨hk, rfl⟩

theorem exists_mem_keysOf {t : Table} {k : ForeignKey} (h : k ∈ t.foreignKeys) :
    ∃ l, (k.signature, l) ∈ (keysOf t).entries := by
  have known : (keysOf t).contains k.signature = true := by
    rw [contains_keysOf, List.contains_iff_mem]
    exact List.mem_map_of_mem h
  obtain ⟨l, hl⟩ := Option.isSome_iff_exists.mp known
  exact ⟨l, OrderedMap.find?_eq_some_iff.mp hl⟩

def droppedKeys (old new : Table) : List ForeignKey :=
  ((keysOf old).entries.filter fun e => !new.signatures.contains e.1).map Prod.snd

theorem nodup_droppedKeys (old new : Table) :
    ((droppedKeys old new).map ForeignKey.signature).Nodup := by
  have distinct := (keysOf old).distinct.sublist
    ((List.filter_sublist (p := fun e => !new.signatures.contains e.1)).map Prod.fst)
  have signatures : (droppedKeys old new).map ForeignKey.signature =
      ((keysOf old).entries.filter fun e => !new.signatures.contains e.1).map Prod.fst := by
    rw [droppedKeys, List.map_map]
    apply List.map_congr_left
    intro e he
    exact (mem_of_mem_keysOf (List.mem_of_mem_filter he)).2
  rwa [signatures]

/-- The foreign keys that have to go are all dropped exactly if no two of them do the same. -/
theorem subperm_droppedKeys_iff {released : List ForeignKey}
    (h : released = old.foreignKeys.filter fun k => !new.signatures.contains k.signature) :
    released.Subperm (droppedKeys old new) ↔ (released.map ForeignKey.signature).Nodup := by
  have mem_released (k : ForeignKey) : k ∈ released ↔
      k ∈ old.foreignKeys ∧ (!new.signatures.contains k.signature) = true := by
    rw [h, List.mem_filter]
  constructor
  · exact fun h => nodup_map_of_subperm h (nodup_droppedKeys old new)
  · intro distinct
    refine List.subperm_of_subset distinct.of_map fun k hk => ?_
    obtain ⟨hold, gone⟩ := (mem_released k).mp hk
    -- what is dropped for the signature of k is the last key with it, which can only be k
    obtain ⟨l, hl⟩ := exists_mem_keysOf hold
    obtain ⟨hlold, same⟩ := mem_of_mem_keysOf hl
    have hlgone : l ∈ released := (mem_released l).mpr ⟨hlold, by rwa [same]⟩
    obtain rfl := List.inj_on_of_nodup_map distinct hlgone hk same
    exact List.mem_map.mpr ⟨(l.signature, l), List.mem_filter.mpr ⟨hl, gone⟩, rfl⟩

theorem filter_drops (table : String) (keys : List ForeignKey) :
    (drops table keys).filter (fun x => x.kind = .dropForeignKey) = drops table keys := by
  rw [List.filter_eq_self]
  intro x hx
  obtain ⟨k, -, rfl⟩ := List.mem_map.mp hx
  rfl

theorem no_drops {changes : List Change} (h : ∀ x ∈ changes, x.kind ≠ .dropForeignKey) :
    changes.filter (fun x => x.kind = .dropForeignKey) = [] := by
  rw [List.filter_eq_nil_iff]
  intro x hx
  simp [h x hx]

theorem drops_of_foreignKeyChanges (old new : Table) :
    (foreignKeyChanges old new).filter (fun x => x.kind = .dropForeignKey) =
      drops old.name (droppedKeys old new) := by
  have split : foreignKeyChanges old new = drops old.name (droppedKeys old new) ++
      ((keysOf new).entries.filter fun e => !(keysOf old).contains e.1).map
        fun e => ⟨new.name, .addForeignKey e.2⟩ := by
    simp only [foreignKeyChanges, contains_keysOf, drops, droppedKeys, List.map_map]
    rfl
  rw [split, List.filter_append, filter_drops, no_drops, List.append_nil]
  intro x hx
  obtain ⟨e, -, rfl⟩ := List.mem_map.mp hx
  exact fun h => by cases h

theorem drops_of_tableChanges (keeps : c.skipsConstraints = false) (old new : Table) :
    (c.tableChanges old new).filter (fun x => x.kind = .dropForeignKey) =
      drops old.name (droppedKeys old new) := by
  have indexes : (indexChanges old new).filter (fun x => x.kind = .dropForeignKey) = [] := by
    apply no_drops
    intro x hx heq
    have rank := (rank_of_mem_indexChanges hx).1
    rw [heq] at rank
    exact absurd rank (by decide)
  have columns : (new.columns.flatMap (c.columnChanges old new)).filter
      (fun x => x.kind = .dropForeignKey) = [] := by
    apply no_drops
    intro x hx
    obtain ⟨y, -, hx⟩ := List.mem_flatMap.mp hx
    rcases columnChanges_cases hx with rfl | ⟨z, rfl | rfl⟩ <;> exact fun h => by cases h
  have dropped : (droppedColumns old new).filter (fun x => x.kind = .dropForeignKey) = [] := by
    apply no_drops
    intro x hx
    obtain ⟨y, -, rfl⟩ := List.mem_map.mp hx
    exact fun h => by cases h
  have options : (if old.primaryKey == new.primaryKey && c.sameOptions old new then []
      else [(⟨new.name, .alterTable old new⟩ : Change)]).filter
        (fun x => x.kind = .dropForeignKey) = [] := by
    split <;> rfl
  simp only [tableChanges, keeps, Bool.false_eq_true, if_false, List.filter_append, indexes,
    columns, dropped, options, List.append_nil, drops_of_foreignKeyChanges]

theorem drops_sublist_removal (keeps : c.skipsConstraints = false) (old : Table) :
    (drops old.name old.foreignKeys).Sublist (c.removal old) := by
  rw [removal, keeps]
  exact List.sublist_append_left _ _

/-- The drops that a table gets are enough for its foreign keys exactly if it goes or those of them
that have to go all do something else. -/
theorem released_subperm_iff (keeps : c.skipsConstraints = false) {old : Table}
    (hold : c.current.table? old.name = some old) :
    (drops old.name (c.releasedKeys old)).Subperm (c.changesOf old.name) ↔
      ∀ new, c.target.table? old.name = some new →
        ((c.releasedKeys old).map ForeignKey.signature).Nodup := by
  cases hnew : c.target.table? old.name with
  | none =>
    have released : c.releasedKeys old = old.foreignKeys := by rw [releasedKeys, hnew]
    have changes : c.changesOf old.name = c.removal old := by rw [changesOf, hold, hnew]
    refine iff_of_true ?_ fun new h => by cases h
    rw [released, changes]
    exact (drops_sublist_removal keeps old).subperm
  | some new =>
    have released : c.releasedKeys old =
        old.foreignKeys.filter fun k => !new.signatures.contains k.signature := by
      rw [releasedKeys, hnew]
    have changes : c.changesOf old.name = c.tableChanges old new := by rw [changesOf, hold, hnew]
    rw [changes]
    constructor
    · rintro h other -
      have among_drops := h.filter fun x => x.kind = .dropForeignKey
      rw [filter_drops, drops_of_tableChanges keeps, drops_subperm_iff] at among_drops
      exact (subperm_droppedKeys_iff released).mp among_drops
    · intro distinct
      have among_drops :
          (drops old.name (c.releasedKeys old)).Subperm (drops old.name (droppedKeys old new)) :=
        drops_subperm_iff.mpr ((subperm_droppedKeys_iff released).mpr (distinct new rfl))
      rw [← drops_of_tableChanges keeps] at among_drops
      exact among_drops.trans List.filter_sublist.subperm

/-- Every occurrence of a foreign key that has no counterpart in the new snapshot gets a drop of its
own exactly if, of the foreign keys of a table that stays, no two that have to go do the same. -/
theorem releases_dropped_iff (hc : c.current.TablesNamed) (ht : c.target.TablesNamed)
    (keeps : c.skipsConstraints = false) {d : Difference} (hd : c.difference = .ok d) :
    c.releases.Subperm d.changes ↔
      ∀ old new, c.current.table? old.name = some old → c.target.table? old.name = some new →
        ((c.releasedKeys old).map ForeignKey.signature).Nodup := by
  have perm : d.changes.Perm c.changes := by
    rw [changes_of_difference hd]
    exact List.mergeSort_perm _ _
  rw [perm.subperm_left, subperm_iff_by_key Change.table]
  simp only [releases_of_table hc, changes_of_table hc ht]
  constructor
  · intro h old new hold hnew
    have of_table := h old.name
    rw [hold] at of_table
    exact (released_subperm_iff keeps hold).mp of_table new hnew
  · intro distinct name
    cases hold : c.current.table? name with
    | none => exact List.nil_subperm
    | some old =>
      obtain rfl := hc.name_of_table? hold
      exact (released_subperm_iff keeps hold).mpr fun new hnew => distinct old new hold hnew

end Comparison

namespace Shop

def owner : ForeignKey := ⟨some "owner", ["user"], "users", ["id"], "CASCADE", "NO ACTION"⟩

theorem owner_is_released :
    comparison.releases = [⟨"orders", .dropForeignKey owner⟩] ∧
      ∃ d, comparison.difference = .ok d ∧ comparison.releases.Subperm d.changes := by
  obtain ⟨g, -, -, -, hd⟩ := Comparison.difference_of_nodup (c := comparison) (by decide)
  have distinct : ∀ entry ∈ comparison.current.tables.entries,
      ((comparison.releasedKeys entry.2).map ForeignKey.signature).Nodup := by decide
  refine ⟨by decide, _, hd,
    (Comparison.releases_dropped_iff (by decide) (by decide) rfl hd).mpr fun old new hold _ => ?_⟩
  exact distinct _ (Snapshot.table?_eq_some_iff.mp hold)

def twiceOwned : Table := { orders with foreignKeys := [owner, { owner with name := some "payer" }] }

def disowning : Comparison where
  current := .ofTables [users, twiceOwned]
  target := .ofTables [users, orders.detached]
  rules := .neutral
  skipsConstraints := false

/-- Of two foreign keys that do the same, the first is left behind. -/
theorem owner_is_left_behind :
    disowning.current.TablesNamed ∧ disowning.target.TablesNamed ∧
      disowning.skipsConstraints = false ∧
      ∃ d, disowning.difference = .ok d ∧
        ⟨"orders", .dropForeignKey owner⟩ ∈ disowning.releases ∧
        ⟨"orders", .dropForeignKey owner⟩ ∉ d.changes ∧
        ¬ disowning.releases.Subperm d.changes := by
  obtain ⟨g, -, -, -, hd⟩ := Comparison.difference_of_nodup (c := disowning) (by decide)
  have hchanges := Comparison.changes_of_sorted hd (by decide)
  have released : (⟨"orders", .dropForeignKey owner⟩ : Change) ∈ disowning.releases := by decide
  have missing : (⟨"orders", .dropForeignKey owner⟩ : Change) ∉ disowning.changes := by decide
  rw [← hchanges] at missing
  exact ⟨by decide, by decide, rfl, _, hd, released, missing, fun h => missing (h.subset released)⟩

end Shop

/-! ### Names of foreign keys that are added -/

structure Table.KeysNamed (t : Table) : Prop where
  named : ∀ k ∈ t.foreignKeys, k.name.isSome
  distinct : (t.foreignKeys.map ForeignKey.name).Nodup

instance (t : Table) : Decidable t.KeysNamed :=
  decidable_of_iff
    ((∀ k ∈ t.foreignKeys, k.name.isSome) ∧ (t.foreignKeys.map ForeignKey.name).Nodup)
    ⟨fun ⟨hn, hd⟩ => ⟨hn, hd⟩, fun h => ⟨h.named, h.distinct⟩⟩

def Snapshot.KeysNamed (s : Snapshot) : Prop := ∀ entry ∈ s.tables.entries, entry.2.KeysNamed

instance (s : Snapshot) : Decidable s.KeysNamed := by
  unfold Snapshot.KeysNamed
  infer_instance

namespace Comparison

variable {c : Comparison}

theorem course_keys_distinct (named : c.target.KeysNamed) {owner : String} {start goal : Table}
    (course : c.course? owner = some (start, goal)) :
    (goal.foreignKeys.map ForeignKey.name).Nodup := by
  cases course_cases course with
  | kept _ wanted => exact (named _ (Snapshot.table?_eq_some_iff.mp wanted)).distinct
  | created _ wanted => exact (named _ (Snapshot.table?_eq_some_iff.mp wanted)).distinct
  | dropped => exact List.nodup_nil

/-- A foreign key that is added has the name of none that has been added to its table before. -/
theorem Moment.other_added_name {done : List Change} {owner : String} {k l : ForeignKey}
    (named : c.target.KeysNamed) (moment : c.Moment (done ++ [⟨owner, .addForeignKey k⟩]))
    (added : ⟨owner, .addForeignKey l⟩ ∈ done) : l.name ≠ k.name := by
  intro heq
  have adding := List.mem_append_right done (List.mem_singleton_self ⟨owner, .addForeignKey k⟩)
  obtain ⟨-, start, goal, course, hk, -⟩ := moment.live_of_added adding
  obtain ⟨-, start', goal', course', hl, -⟩ := moment.before.live_of_added added
  rw [course] at course'
  cases course'
  obtain rfl := List.inj_on_of_nodup_map (course_keys_distinct named course) hl hk heq
  exact moment.fresh added

/-- Every foreign key that is added finds its name free exactly if no table that stays keeps a
foreign key whose name one of the added ones has. -/
theorem added_names_free_iff (hc : c.current.Distinct) (ht : c.target.Distinct)
    (named : c.target.KeysNamed) (keeps : c.skipsConstraints = false) {d : Difference}
    (hd : c.difference = .ok d) :
    (∀ done owner k rest, d.changes = done ++ ⟨owner, .addForeignKey k⟩ :: rest →
      ∃ s, c.current.replay? done = some s ∧ ∀ l, s.HoldsKey owner l → l.name ≠ k.name) ↔
    ∀ owner old new, c.current.table? owner = some old → c.target.table? owner = some new →
      ∀ l ∈ old.foreignKeys, l.signature ∈ new.signatures →
        ∀ k ∈ new.foreignKeys, k.signature ∉ old.signatures → l.name ≠ k.name := by
  constructor
  · intro free owner old new hold hnew l hl stays k hk fresh
    have course : c.course? owner = some (old, new) := by simp [course?, hold, hnew]
    have mem : ⟨owner, .addForeignKey k⟩ ∈ d.changes :=
      (mem_difference hc ht hd).mpr (.part course (.addForeignKey keeps hk fresh))
    obtain ⟨done, rest, hsplit⟩ := List.append_of_mem mem
    obtain ⟨s, hs, unused⟩ := free done owner k rest hsplit
    have moment := moment_of_split hc ht hd hsplit
    obtain ⟨s', hs', hmid⟩ := replay_midway hc ht moment.before
    rw [hs] at hs'
    cases hs'
    have dropped : 0 < (⟨owner, .addForeignKey k⟩ : Change).phase := show 0 < 10 by decide
    apply unused l
    exact (hmid.holdsKey_iff_of_dropped hc ht keeps moment dropped).mpr
      (Or.inl ⟨old, new, hold, hnew, hl, stays⟩)
  · intro apart done owner k rest hsplit
    have moment := moment_of_split hc ht hd hsplit
    obtain ⟨s, hs, hmid⟩ := replay_midway hc ht moment.before
    refine ⟨s, hs, fun l holds => ?_⟩
    have dropped : 0 < (⟨owner, .addForeignKey k⟩ : Change).phase := show 0 < 10 by decide
    rcases (hmid.holdsKey_iff_of_dropped hc ht keeps moment dropped).mp holds with
      ⟨old, new, hold, hnew, hl, stays⟩ | added
    · obtain ⟨-, start, goal, course, hk, fresh⟩ := moment.live_of_added
        (List.mem_append_right done (List.mem_singleton_self _))
      obtain rfl := course_of_current hold course
      obtain rfl := course_of_target hnew course
      exact apart owner start goal hold hnew l hl stays k hk fresh
    · exact moment.other_added_name named added

end Comparison

namespace Shop

def laxOwner : ForeignKey := { owner with onDelete := "SET NULL" }

def replacing : Comparison where
  current := .ofTables [users, { orders with foreignKeys := [buyer, owner] }]
  target := .ofTables [users, { orders with foreignKeys := [buyer, laxOwner] }]
  rules := .neutral
  skipsConstraints := false

/-- A foreign key makes room for another one of its name. -/
theorem owner_makes_room :
    ∃ d s, replacing.difference = .ok d ∧
      d.changes = [⟨"orders", .dropForeignKey owner⟩, ⟨"orders", .addForeignKey laxOwner⟩] ∧
      replacing.current.replay? [⟨"orders", .dropForeignKey owner⟩] = some s ∧
      ∀ l, s.HoldsKey "orders" l → l.name ≠ laxOwner.name := by
  obtain ⟨g, -, -, -, hd⟩ := Comparison.difference_of_nodup (c := replacing) (by decide)
  have hchanges := Comparison.changes_of_sorted hd (by decide)
  have apart : ∀ entry ∈ replacing.current.tables.entries,
      ∀ new ∈ replacing.target.table? entry.1,
        ∀ l ∈ entry.2.foreignKeys, l.signature ∈ new.signatures →
          ∀ k ∈ new.foreignKeys, k.signature ∉ entry.2.signatures → l.name ≠ k.name := by decide
  obtain ⟨s, hs, free⟩ := (Comparison.added_names_free_iff (c := replacing) (by decide) (by decide)
    (by decide) rfl hd).mpr
      (fun table old new hold hnew => apart _ (Snapshot.table?_eq_some_iff.mp hold) new hnew)
      [⟨"orders", .dropForeignKey owner⟩] "orders" laxOwner [] hchanges
  exact ⟨_, s, hd, hchanges, hs, free⟩

/-- What orders are stocked by takes over the name of their owner, who gets another one. -/
def swapping : Comparison where
  current := .ofTables [users, { orders with foreignKeys := [owner] }]
  target := .ofTables [users,
    { orders with
      foreignKeys := [{ owner with name := some "payer" }, { buyer with name := some "owner" }] }]
  rules := .neutral
  skipsConstraints := false

/-- The owner is still there under its old name when another foreign key gets this name. -/
theorem owner_is_taken :
    swapping.current.WellFormed ∧ swapping.target.WellFormed ∧
      swapping.current.KeysNamed ∧ swapping.target.KeysNamed ∧ swapping.skipsConstraints = false ∧
      ∃ d s, swapping.difference = .ok d ∧
        d.changes = [⟨"orders", .addForeignKey { buyer with name := some "owner" }⟩] ∧
        swapping.current.replay? [] = some s ∧ s.HoldsKey "orders" owner ∧
        owner.name = some "owner" := by
  obtain ⟨g, -, -, -, hd⟩ := Comparison.difference_of_nodup (c := swapping) (by decide)
  have hchanges := Comparison.changes_of_sorted hd (by decide)
  exact ⟨by decide, by decide, by decide, by decide, rfl, _, _, hd, hchanges, rfl, by decide, rfl⟩

end Shop

end SchemaMigration
