import SchemaMigration.Proofs.References

/-!
What is live while tables are altered. Columns and primary keys are altered after the foreign keys
that go away and before those that come, so the foreign keys of that time are the ones that both
snapshots have. Columns change whether they are nullable before primary keys change, so the columns
of a primary key stay required unless one of them is to be nullable once it has left the key.
-/

namespace SchemaMigration

variable {c : Comparison} {done : List Change} {x : Change} {s : Snapshot} {name owner : String}
  {start goal t : Table} {k : ForeignKey}

/-! ### Foreign keys -/

/-- A foreign key of a table uses a column, as one of its own or as one that it refers to. -/
def ForeignKey.Uses (k : ForeignKey) (owner table column : String) : Prop :=
  owner = table ∧ column ∈ k.columns ∨ k.referencedTable = table ∧ column ∈ k.referencedColumns

instance (k : ForeignKey) (owner table column : String) : Decidable (k.Uses owner table column) :=
  inferInstanceAs (Decidable (_ ∨ _))

/-- A change alters what a foreign key of a table uses: the type of a column, or a primary key that
the foreign key refers to. -/
def Change.Disturbs (x : Change) (owner : String) (k : ForeignKey) : Prop :=
  match x.action with
  | .alterColumnType _ new => k.Uses owner x.table new.name
  | .alterTable old new => old.primaryKey ≠ new.primaryKey ∧ k.referencedTable = x.table ∧
      ∃ n ∈ k.referencedColumns, n ∈ old.primaryKey
  | _ => False

instance (x : Change) (owner : String) (k : ForeignKey) : Decidable (x.Disturbs owner k) := by
  unfold Change.Disturbs
  split <;> infer_instance

theorem Change.phase_of_disturbs (h : x.Disturbs owner k) : 4 ≤ x.phase ∧ x.phase ≤ 6 := by
  obtain ⟨table, action⟩ := x
  cases action with
  | alterColumnType => exact (by decide : 4 ≤ 4 ∧ 4 ≤ 6)
  | alterTable => exact (by decide : 4 ≤ 6 ∧ 6 ≤ 6)
  | _ => cases h

namespace Comparison

/-- A foreign key is left alone: its table stays, and keeps a foreign key that does the same. -/
def KeepsKey (c : Comparison) (owner : String) (k : ForeignKey) : Prop :=
  ∃ old new, c.current.table? owner = some old ∧ c.target.table? owner = some new ∧
    k ∈ old.foreignKeys ∧ k.signature ∈ new.signatures

instance (c : Comparison) (owner : String) (k : ForeignKey) : Decidable (c.KeepsKey owner k) :=
  match hold : c.current.table? owner, hnew : c.target.table? owner with
  | some old, some new =>
    decidable_of_iff (k ∈ old.foreignKeys ∧ k.signature ∈ new.signatures)
      ⟨fun ⟨hk, stays⟩ => ⟨old, new, hold, hnew, hk, stays⟩, fun ⟨_, _, h₁, h₂, hk, stays⟩ => by
        obtain rfl := Option.some.inj (hold.symm.trans h₁)
        obtain rfl := Option.some.inj (hnew.symm.trans h₂)
        exact ⟨hk, stays⟩⟩
  | none, _ => isFalse fun ⟨_, _, h, _⟩ => by simp [hold] at h
  | some _, none => isFalse fun ⟨_, _, _, h, _⟩ => by simp [hnew] at h

theorem Moment.live_of_added (moment : c.Moment done)
    (added : ⟨owner, .addForeignKey k⟩ ∈ done) :
    c.Live done owner ∧ ∃ start goal, c.course? owner = some (start, goal) ∧
      k ∈ goal.foreignKeys ∧ k.signature ∉ start.signatures := by
  cases moment.discovered _ added with
  | @part _ start goal _ course needs =>
    cases needs with
    | addForeignKey _ mem fresh =>
      refine ⟨?_, start, goal, course, mem, fresh⟩
      cases course_cases course with
      | kept held wanted => exact live_of_both moment held wanted
      | created absent wanted =>
        exact live_of_created moment
          (moment.earlier _ added _ (.creation absent wanted) (show 2 < 10 by decide))
      | dropped => cases mem

/-- Once foreign keys have been dropped, those that are there are the ones that are left alone and
the ones that have been added. -/
theorem Midway.holdsKey_iff_of_dropped (hc : c.current.Distinct) (ht : c.target.Distinct)
    (keeps : c.skipsConstraints = false) (h : c.Midway done s) (moment : c.Moment (done ++ [x]))
    (dropped : 0 < x.phase) :
    s.HoldsKey owner k ↔ c.KeepsKey owner k ∨ ⟨owner, .addForeignKey k⟩ ∈ done := by
  constructor
  · rintro ⟨t, hsome, hk⟩
    obtain ⟨-, start, goal, course, hat⟩ := h.of_table? hsome
    obtain rfl := (course_distinct hc ht course).2.2.2
    rcases key_cases keeps course hat hk with ⟨old, l, hl, same⟩ | ⟨-, drops, undropped⟩ |
      ⟨-, added⟩
    · cases course_cases course with
      | kept held wanted =>
        exact Or.inl ⟨start, goal, held, wanted, old, same ▸ List.mem_map_of_mem hl⟩
      | created => cases old
      | dropped => cases hl
    · exact absurd (moment.reached drops dropped) undropped
    · exact Or.inr added
  · rintro (⟨old, new, hold, hnew, hk, stays⟩ | added)
    · obtain ⟨start, goal, t, course, hsome, hat⟩ :=
        h.live _ (live_of_both moment.before hold hnew)
      obtain rfl := course_of_current hold course
      obtain rfl := course_of_target hnew course
      obtain rfl := (course_distinct hc ht course).2.2.2
      refine ⟨t, hsome, (hat.foreignKeys k).mpr (Or.inr ⟨hk, fun hdrop => ?_⟩)⟩
      cases (moment.before.discovered _ hdrop).needs course rfl with
      | dropForeignKey _ _ gone => exact gone stays
    · obtain ⟨alive, start, goal, course, mem, -⟩ := moment.before.live_of_added added
      obtain ⟨start', goal', t, course', hsome, hat⟩ := h.live _ alive
      rw [course] at course'
      cases course'
      obtain rfl := (course_distinct hc ht course).2.2.2
      exact ⟨t, hsome, (hat.foreignKeys k).mpr (Or.inl ⟨mem, added⟩)⟩

/-- Between the last foreign key that is dropped and the first one that is added, the foreign keys
are those that are left alone. -/
theorem Midway.holdsKey_iff (hc : c.current.Distinct) (ht : c.target.Distinct)
    (keeps : c.skipsConstraints = false) (h : c.Midway done s) (moment : c.Moment (done ++ [x]))
    (dropped : 0 < x.phase) (unadded : x.phase < 10) : s.HoldsKey owner k ↔ c.KeepsKey owner k := by
  rw [h.holdsKey_iff_of_dropped hc ht keeps moment dropped, or_iff_left]
  intro added
  have late : 10 ≤ x.phase := moment.past added
  omega

/-- When the type of a column or a primary key is altered, a foreign key that uses it is live
exactly if it is left alone. -/
theorem disturbed_key_is_kept (hc : c.current.WellFormed) (ht : c.target.WellFormed)
    (keeps : c.skipsConstraints = false) {d : Difference} (hd : c.difference = .ok d)
    {rest : List Change} (hx : d.changes = done ++ x :: rest) :
    ∃ s, c.current.replay? done = some s ∧
      ∀ owner k, x.Disturbs owner k → (s.HoldsKey owner k ↔ c.KeepsKey owner k) := by
  have moment := moment_of_split hc.toDistinct ht.toDistinct hd hx
  obtain ⟨s, hs, hmid⟩ := replay_midway hc.toDistinct ht.toDistinct moment.before
  refine ⟨s, hs, fun owner k disturbs => ?_⟩
  obtain ⟨after, before⟩ := Change.phase_of_disturbs disturbs
  exact hmid.holdsKey_iff hc.toDistinct ht.toDistinct keeps moment (by omega) (by omega)

end Comparison

namespace Shop

def buyer : ForeignKey := ⟨some "buyer", ["user"], "users", ["id"], "NO ACTION", "NO ACTION"⟩

def widerUser : Column := { number "user" with type := .bigInt }

def widerUsers : Table :=
  { users with
    columns := [{ number "id" with type := .bigInt }, { number "email" with type := .text }]
    primaryKey := ["id", "email"] }

def widening : Comparison where
  current := .ofTables [users, { orders with foreignKeys := buyer :: orders.foreignKeys }]
  target := .ofTables [
    { orders with
      columns := orders.columns.map fun x => if x.name = "user" then widerUser else x
      foreignKeys := [buyer] },
    widerUsers]
  rules := .neutral
  skipsConstraints := false

theorem changes_of_widening :
    ∃ d, widening.difference = .ok d ∧ d.changes = widening.changes := by
  obtain ⟨g, -, -, -, hd⟩ := Comparison.difference_of_nodup (c := widening) (by decide)
  exact ⟨_, hd, Comparison.changes_of_sorted hd (by decide)⟩

def widenUser : Change := ⟨"orders", .alterColumnType (some (number "user")) widerUser⟩

def widenKey : Change := ⟨"users", .alterTable users widerUsers⟩

/-- When the key of users gets its other column, the foreign key of both snapshots is all that is
left of those of the old orders. -/
theorem only_buyer_is_left :
    ∃ d s, widening.difference = .ok d ∧
      d.changes = widening.changes.take 5 ++ widenKey :: widening.changes.drop 6 ∧
      widening.current.replay? (widening.changes.take 5) = some s ∧
      s.HoldsKey "orders" buyer ∧ ∀ k ∈ orders.foreignKeys, ¬ s.HoldsKey "orders" k := by
  obtain ⟨d, hd, hchanges⟩ := changes_of_widening
  have hx : d.changes = widening.changes.take 5 ++ widenKey :: widening.changes.drop 6 := hchanges
  obtain ⟨s, hs, kept⟩ := Comparison.disturbed_key_is_kept (c := widening) (by decide) (by decide)
    rfl hd hx
  refine ⟨d, s, hd, hx, hs, ?_, fun k hk => ?_⟩
  · exact (kept "orders" buyer (by decide)).mpr (by decide)
  · have disturbs : ∀ k ∈ orders.foreignKeys, widenKey.Disturbs "orders" k := by decide
    have dropped : ∀ k ∈ orders.foreignKeys, ¬ widening.KeepsKey "orders" k := by decide
    exact fun holds => dropped k hk ((kept "orders" k (disturbs k hk)).mp holds)

/-- A foreign key of both snapshots is live while the column and the primary key that it uses are
altered. -/
theorem buyer_live_when_disturbed :
    widening.current.WellFormed ∧ widening.target.WellFormed ∧ widening.skipsConstraints = false ∧
      widenUser.Disturbs "orders" buyer ∧ widenKey.Disturbs "orders" buyer ∧
      ∃ d, widening.difference = .ok d ∧
        (∃ done rest s, d.changes = done ++ widenUser :: rest ∧
          widening.current.replay? done = some s ∧ s.HoldsKey "orders" buyer) ∧
        ∃ done rest s, d.changes = done ++ widenKey :: rest ∧
          widening.current.replay? done = some s ∧ s.HoldsKey "orders" buyer := by
  obtain ⟨d, hd, hchanges⟩ := changes_of_widening
  refine ⟨by decide, by decide, rfl, by decide, by decide, d, hd, ?_, ?_⟩
  · exact ⟨widening.changes.take 1, widening.changes.drop 2, _, hchanges, rfl, by decide⟩
  · exact ⟨widening.changes.take 5, widening.changes.drop 6, _, hchanges, rfl, by decide⟩

end Shop

/-! ### Primary keys -/

/-- Every column of the primary key of a table is there and not nullable. -/
def Table.KeyRequired (t : Table) : Prop :=
  ∀ n ∈ t.primaryKey, ∃ x ∈ t.columns, x.name = n ∧ x.nullable = false

instance (t : Table) : Decidable t.KeyRequired := by
  unfold Table.KeyRequired
  infer_instance

def Snapshot.KeysRequired (s : Snapshot) : Prop :=
  ∀ name t, s.table? name = some t → t.KeyRequired

instance (s : Snapshot) : Decidable s.KeysRequired :=
  decidable_of_iff (∀ entry ∈ s.tables.entries, entry.2.KeyRequired)
    ⟨fun h name t ht => h (name, t) (Snapshot.table?_eq_some_iff.mp ht),
      fun h entry hentry => h entry.1 entry.2 (Snapshot.table?_eq_some_iff.mpr hentry)⟩

theorem Table.KeyRequired.column (h : t.KeyRequired) (distinct : t.Distinct) {x : Column}
    (hx : x ∈ t.columns) (inKey : x.name ∈ t.primaryKey) : x.nullable = false := by
  obtain ⟨y, hy, hname, required⟩ := h x.name inKey
  rwa [distinct.column_eq hx hy hname.symm]

/-- Whether a column of both definitions is nullable is as in the new one from when that has been
changed. -/
theorem Column.nullable_during {x y : Column} (h : goal.column? x.name = some y) :
    (x.during done goal).nullable =
      if ⟨goal.name, .alterColumnNullDefault (some x) y⟩ ∈ done then y.nullable
      else x.nullable := by
  simp only [during, h]
  split <;> split <;> rfl

theorem Column.during_of_gone {x : Column} (h : x.name ∉ goal.columnNames) :
    x.during done goal = x := by
  rw [during, Table.column?_eq_none_iff.mpr h]

namespace Comparison

/-- A column that is to be required is so if it was, and by the time the key has changed anyway. -/
theorem Moment.required_during (moment : c.Moment done) (hg : goal.Distinct)
    (course : c.course? goal.name = some (start, goal)) {x y : Column} (hx : x ∈ start.columns)
    (hy : y ∈ goal.columns) (hname : x.name = y.name) (required : y.nullable = false)
    (h : x.nullable = false ∨ ⟨goal.name, .alterTable start goal⟩ ∈ done) :
    (x.during done goal).nullable = false := by
  rw [Column.nullable_during (hg.column?_eq_some_iff.mpr ⟨hy, hname.symm⟩)]
  split
  · exact required
  · next unaltered =>
    rcases h with was | rekeyed
    · exact was
    · -- columns are altered before keys, so there was nothing to alter
      by_contra nullable
      have alters : c.Needs start goal (.alterColumnNullDefault (some x) y) :=
        .alterColumnNullDefault hx hy hname (by simp [Column.SameNullDefault, required, nullable])
      exact unaltered (moment.earlier _ rekeyed _ (.part course alters) (show 5 < 6 by decide))

/-- A table whose old key columns stay required keeps a key of required columns. -/
theorem Moment.keyRequired (moment : c.Moment done) (hs : start.Distinct) (hg : goal.Distinct)
    (owns : start.OwnsColumns) (owns' : goal.OwnsColumns)
    (course : c.course? goal.name = some (start, goal)) (hat : Table.At done start goal t)
    (old : start.KeyRequired) (new : goal.KeyRequired)
    (stays : ∀ y ∈ goal.columns, y.name ∈ start.primaryKey → y.nullable = false) :
    t.KeyRequired := by
  intro n hn
  obtain ⟨z, hz, rfl⟩ := List.mem_map.mp
    ((secured_primaryKey owns owns' course hat).present moment course hat n hn)
  refine ⟨z, hz, rfl, ?_⟩
  -- the key in force is the old one or the new one, and both ask the same of the new definition
  have inKey : z.name ∈ start.primaryKey ∨
      z.name ∈ goal.primaryKey ∧ ⟨goal.name, .alterTable start goal⟩ ∈ done := by
    rw [hat.primaryKey] at hn
    split at hn
    · next rekeyed => exact Or.inr ⟨hn, rekeyed⟩
    · exact Or.inl hn
  have required : ∀ y ∈ goal.columns, y.name = z.name → y.nullable = false := by
    intro y hy hname
    rcases inKey with was | ⟨is, -⟩
    · exact stays y hy (hname ▸ was)
    · exact new.column hg hy (hname ▸ is)
  rcases (hat.columns z).mp hz with ⟨hzg, -⟩ | ⟨x, hx, -, rfl⟩
  · exact required z hzg rfl
  · rw [Column.name_during] at inKey required
    by_cases shared : x.name ∈ goal.columnNames
    · obtain ⟨y, hy, hname⟩ := List.mem_map.mp shared
      exact moment.required_during hg course hx hy hname.symm (required y hy hname)
        (inKey.imp (old.column hs hx) And.right)
    · rw [Column.during_of_gone shared]
      rcases inKey with was | ⟨is, -⟩
      · exact old.column hs hx was
      · exact absurd (owns'.primaryKey _ is) shared

/-- A column of the old key that is to be nullable is so while it still belongs to the key. -/
theorem nullable_in_key (hc : c.current.Distinct) (ht : c.target.Distinct)
    (required : c.current.KeysRequired) {old new : Table} {y : Column}
    (hold : c.current.table? name = some old) (hnew : c.target.table? name = some new)
    (hy : y ∈ new.columns) (inKey : y.name ∈ old.primaryKey) (nullable : y.nullable = true) :
    ∃ done, done <+: c.ordered ∧
      ∃ s, c.current.replay? done = some s ∧ ¬ s.KeysRequired := by
  obtain ⟨x, hx, hname, hrequired⟩ := required name old hold y.name inKey
  have course : c.course? name = some (old, new) := by simp [course?, hold, hnew]
  obtain ⟨-, hg, -, rfl⟩ := course_distinct hc ht course
  let alter : Change := ⟨new.name, .alterColumnNullDefault (some x) y⟩
  have alters : c.Discovers alter :=
    .part course (.alterColumnNullDefault hx hy hname
      (by simp [Column.SameNullDefault, hrequired, nullable]))
  have mem : alter ∈ c.ordered := by rwa [ordered, List.mem_mergeSort, mem_changes hc ht]
  obtain ⟨before, after, hsplit⟩ := List.append_of_mem mem
  have hprefix : before ++ [alter] <+: c.ordered := ⟨after, by simp [hsplit]⟩
  have moment := moment_of_prefix hc ht hprefix
  obtain ⟨s, hs, hmid⟩ := replay_midway hc ht moment
  refine ⟨before ++ [alter], hprefix, s, hs, fun hreq => ?_⟩
  have mem_alter : alter ∈ before ++ [alter] := by simp
  obtain ⟨start, goal, t, course', hsome, hat⟩ := hmid.live _ (live_of_both moment hold hnew)
  rw [course] at course'
  cases course'
  have still : y.name ∈ t.primaryKey := by
    rw [hat.primaryKey, if_neg]
    · exact inKey
    · intro rekeyed
      rcases List.mem_append.mp rekeyed with early | late
      · exact absurd (moment.past early) (show ¬ 6 ≤ 5 by decide)
      · simp [alter] at late
  have present : x.during (before ++ [alter]) new ∈ t.columns :=
    (hat.columns _).mpr (Or.inr ⟨x, hx, (moment.shared_column course hx hy hname).1, rfl⟩)
  have loose := (hreq _ t hsome).column hat.distinct present (by simpa [hname] using still)
  rw [Column.nullable_during (hg.column?_eq_some_iff.mpr ⟨hy, hname.symm⟩), if_pos mem_alter,
    nullable] at loose
  cases loose

/-- The columns of the primary keys stay required all along exactly if no column of an old key is
to be nullable, be it as part of the new key or not. -/
theorem keys_stay_required_iff (hc : c.current.WellFormed) (ht : c.target.WellFormed)
    (old : c.current.KeysRequired) (new : c.target.KeysRequired) {d : Difference}
    (hd : c.difference = .ok d) :
    (∀ done, done <+: d.changes → ∃ s, c.current.replay? done = some s ∧ s.KeysRequired) ↔
      ∀ name old new, c.current.table? name = some old → c.target.table? name = some new →
        ∀ y ∈ new.columns, y.name ∈ old.primaryKey → y.nullable = false := by
  rw [changes_of_difference hd]
  constructor
  · intro h name o n hold hnew y hy inKey
    by_contra nullable
    obtain ⟨done, hprefix, s, hs, loose⟩ := nullable_in_key hc.toDistinct ht.toDistinct old hold
      hnew hy inKey (by simpa using nullable)
    obtain ⟨s', hs', required⟩ := h done hprefix
    rw [hs] at hs'
    cases hs'
    exact loose required
  · intro stays done hprefix
    have moment := moment_of_prefix hc.toDistinct ht.toDistinct hprefix
    obtain ⟨s, hs, hmid⟩ := replay_midway hc.toDistinct ht.toDistinct moment
    refine ⟨s, hs, fun name t hsome => ?_⟩
    obtain ⟨-, start, goal, course, hat⟩ := hmid.of_table? hsome
    obtain ⟨hs, hg, -, rfl⟩ := course_distinct hc.toDistinct ht.toDistinct course
    obtain ⟨owns, owns'⟩ := course_owns hc.toResolved ht.toResolved course
    cases course_cases course with
    | kept held wanted =>
      exact moment.keyRequired hs hg owns owns' course hat (old _ _ held) (new _ _ wanted)
        (stays _ _ _ held wanted)
    | created _ wanted =>
      have required := new _ _ wanted
      exact moment.keyRequired hs hg owns owns' course hat required required
        fun y hy => required.column hg hy
    | dropped held _ =>
      have required := old _ _ held
      exact moment.keyRequired hs hg owns owns' course hat required required
        fun y hy => required.column hs hy

end Comparison

namespace Shop

def guests : Table :=
  { users with
    columns := [
      { number "id" with nullable := true },
      { number "email" with type := .string, length := some 255 }]
    primaryKey := ["email"] }

def releasing : Comparison where
  current := .ofTables [users]
  target := .ofTables [guests]
  rules := .neutral
  skipsConstraints := false

/-- A key that gets another column keeps its columns required. -/
theorem wider_key_stays_required :
    ∃ d, widening.difference = .ok d ∧ ∀ done, done <+: d.changes →
      ∃ s, widening.current.replay? done = some s ∧ s.KeysRequired := by
  obtain ⟨d, hd, -⟩ := changes_of_widening
  have stays : ∀ entry ∈ widening.current.tables.entries,
      ∀ new ∈ widening.target.table? entry.1,
        ∀ y ∈ new.columns, y.name ∈ entry.2.primaryKey → y.nullable = false := by decide
  refine ⟨d, hd, (Comparison.keys_stay_required_iff (by decide) (by decide) (by decide) (by decide)
    hd).mpr fun name old new hold hnew => ?_⟩
  exact stays _ (Snapshot.table?_eq_some_iff.mp hold) new hnew

/-- A column that leaves its key is nullable while it still belongs to it. -/
theorem released_key_is_nullable :
    releasing.current.WellFormed ∧ releasing.target.WellFormed ∧
      releasing.current.KeysRequired ∧ releasing.target.KeysRequired ∧
      releasing.skipsConstraints = false ∧
      ∃ d done s, releasing.difference = .ok d ∧ done <+: d.changes ∧
        releasing.current.replay? done = some s ∧ ¬ s.KeysRequired := by
  obtain ⟨g, -, -, -, hd⟩ := Comparison.difference_of_nodup (c := releasing) (by decide)
  have hchanges := Comparison.changes_of_sorted hd (by decide)
  refine ⟨by decide, by decide, by decide, by decide, rfl, _, releasing.changes.take 1, _, hd,
    ?_, rfl, by decide⟩
  rw [hchanges]
  exact List.take_prefix _ _

end Shop

end SchemaMigration
