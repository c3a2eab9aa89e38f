import SchemaMigration.Proofs.Mysql.Advance

/-!
The character sets and collations of MySQL tables. A schema always declares a character set for a
table, but its projection keeps this only if a collation is known, too: one that is declared, or the
default of the character set. What is not kept cannot be written, and is missed again and again.
-/

namespace SchemaMigration

def Schema.charsetOf (schema : Schema) (t : TableDef) : String :=
  (Text.nonempty? t.charset).getD schema.charset

/-- The collation that is declared for a table, else the default of its character set. -/
def Schema.collationOf? (d : Dialect) (schema : Schema) (t : TableDef) : Option String :=
  (Text.nonempty? t.collation <|> schema.collation) <|>
    if schema.charsetOf t = "" then none else d.defaultCollation? (schema.charsetOf t)

theorem Projection.options_of_table {d : Dialect} {schema : Schema} {t : TableDef} {table : Table}
    (compares : d.rules.comparesCollations = true) (h : d.projection.table schema t = .ok table) :
    table.collation = schema.collationOf? d t ∧
      table.charset = (schema.collationOf? d t).map fun _ => schema.charsetOf t := by
  have options : (table.charset, table.collation) = d.projection.options schema t := by
    unfold Projection.table at h
    obtain ⟨columns, -, h⟩ := bind_eq_ok_iff.mp h
    generalize d.projection.options schema t = options at h ⊢
    cases h
    rfl
  have declared : d.projection.options schema t =
      if (schema.collationOf? d t).isSome ∧ d.rules.comparesCollations then
        (some (schema.charsetOf t), schema.collationOf? d t)
      else (none, none) := by
    unfold Projection.options Schema.collationOf? Schema.charsetOf
    cases Text.nonempty? t.collation <|> schema.collation <;> rfl
  rw [declared] at options
  cases known : schema.collationOf? d t with
  | none =>
    rw [known, if_neg (by simp)] at options
    exact ⟨congrArg Prod.snd options, congrArg Prod.fst options⟩
  | some collation =>
    rw [known, if_pos ⟨rfl, compares⟩] at options
    exact ⟨congrArg Prod.snd options, congrArg Prod.fst options⟩

/-- A table of a projection is made of a definition, which is found under the same name. -/
theorem Projection.table_of_snapshot {p : Projection} {schema : Schema} {s : Snapshot}
    (h : p.snapshot schema = .ok s) {name : String} {table : Table}
    (held : s.table? name = some table) :
    ∃ t ∈ schema.tables, t.name = name ∧ p.table schema t = .ok table := by
  obtain ⟨tables, hmade, -, entries, -⟩ := entries_of_snapshot h
  have entry := Snapshot.table?_eq_some_iff.mp held
  rw [entries] at entry
  obtain ⟨made, hmem, heq⟩ := List.mem_map.mp entry
  obtain ⟨t, ht, hfrom⟩ := (of_mapM_eq_ok hmade).1 made hmem
  cases heq
  exact ⟨t, ht, (makes_of_table hfrom).name.symm, hfrom⟩

namespace Mysql

open Emission Comparison

variable {server : Server} {c : Comparison} {x : Context} {name : String} {old new t : Table}
  {schema : Schema} {definition : TableDef}

structure Writable (schema : Schema) (t : TableDef) : Prop where
  charset : schema.charsetOf t ≠ ""
  collation : schema.collationOf? .mysql t ≠ none

structure Reachable (schema : Schema) (t : TableDef) : Prop extends Writable schema t where
  named : schema.collationOf? .mysql t ≠ some ""

theorem nonempty?_charset_iff (made : Dialect.mysql.projection.table schema definition = .ok new)
    {charset : String} :
    Text.nonempty? new.charset = some charset ↔
      Writable schema definition ∧ charset = schema.charsetOf definition := by
  obtain ⟨-, hcharset⟩ := Projection.options_of_table rfl made
  rw [Text.nonempty?_eq_some_iff, hcharset, Option.map_eq_some_iff]
  constructor
  · rintro ⟨⟨collation, given, rfl⟩, named⟩
    exact ⟨⟨named, by rw [given]; exact Option.some_ne_none _⟩, rfl⟩
  · rintro ⟨⟨named, given⟩, rfl⟩
    obtain ⟨collation, given⟩ := Option.ne_none_iff_exists'.mp given
    exact ⟨⟨collation, given, rfl⟩, named⟩

/-! ### The statements of an alteration -/

theorem keyStatements_eq_nil_iff :
    keyStatements old new = [] ↔ old.primaryKey = new.primaryKey := by
  unfold keyStatements
  by_cases same : old.primaryKey = new.primaryKey
  · simp [same]
  · by_cases unkeyed : old.primaryKey = []
    · have keyed : new.primaryKey ≠ [] := fun h => same (unkeyed.trans h.symm)
      simp [same, keyed]
    · simp [same, unkeyed]

theorem convertCharset_mem_iff {table charset : String} {collation : Option String} :
    .convertCharset table charset collation ∈ keyStatements old new ++ optionStatements old new ↔
      table = new.name ∧ collation = new.collation ∧ ¬ SameOptions old new ∧
        Text.nonempty? new.charset = some charset := by
  have keys : .convertCharset table charset collation ∉ keyStatements old new := by
    unfold keyStatements
    split
    · simp
    · split <;> split <;> simp
  rw [List.mem_append, or_iff_right keys]
  unfold optionStatements
  by_cases same : SameOptions old new
  · simp [same]
  · rw [if_neg same]
    constructor
    · intro h
      obtain ⟨given, hgiven, heq⟩ := List.mem_map.mp h
      cases heq
      exact ⟨rfl, rfl, same, Option.mem_toList.mp hgiven⟩
    · rintro ⟨rfl, rfl, -, hgiven⟩
      exact List.mem_map.mpr ⟨charset, Option.mem_toList.mpr hgiven, rfl⟩

/-- Other options are converted to the declared character set if this can be written. -/
theorem converts_iff (made : Dialect.mysql.projection.table schema definition = .ok new) :
    (∃ collation, .convertCharset new.name (schema.charsetOf definition) collation ∈
        keyStatements old new ++ optionStatements old new) ↔
      ¬ SameOptions old new ∧ Writable schema definition := by
  constructor
  · rintro ⟨collation, h⟩
    obtain ⟨-, -, other, given⟩ := convertCharset_mem_iff.mp h
    exact ⟨other, ((nonempty?_charset_iff made).mp given).1⟩
  · rintro ⟨other, writable⟩
    have given := (nonempty?_charset_iff made).mpr ⟨writable, rfl⟩
    exact ⟨_, convertCharset_mem_iff.mpr ⟨rfl, rfl, other, given⟩⟩

theorem optionStatements_eq_nil (made : Dialect.mysql.projection.table schema definition = .ok new)
    (unwritable : ¬ Writable schema definition) : optionStatements old new = [] := by
  unfold optionStatements
  split
  · rfl
  · cases given : Text.nonempty? new.charset with
    | none => rfl
    | some charset => exact absurd ((nonempty?_charset_iff made).mp given).1 unwritable

/-- An alteration that is discovered has a statement if the primary key changes or the options can
be written. -/
theorem alteration_ne_nil_iff (made : Dialect.mysql.projection.table schema definition = .ok new)
    (differs : ¬ (old.primaryKey = new.primaryKey ∧ SameOptions old new)) :
    keyStatements old new ++ optionStatements old new ≠ [] ↔
      old.primaryKey ≠ new.primaryKey ∨ Writable schema definition := by
  constructor
  · intro some_statement
    by_contra neither
    obtain ⟨key, unwritable⟩ := not_or.mp neither
    rw [keyStatements_eq_nil_iff.mpr (not_not.mp key),
      optionStatements_eq_nil made unwritable] at some_statement
    exact some_statement rfl
  · intro condition none_at_all
    have key := keyStatements_eq_nil_iff.mp (List.append_eq_nil_iff.mp none_at_all).1
    have writable := condition.resolve_left (not_not.mpr key)
    have other : ¬ SameOptions old new := fun same => differs ⟨key, same⟩
    obtain ⟨collation, h⟩ := (converts_iff made).mpr ⟨other, writable⟩
    rw [none_at_all] at h
    cases h

/-! ### The options after all statements -/

/-- A table that started with the old options ends with the same ones as any other, also when it is
altered once more. -/
theorem sameOptions_altered
    (h : SameOptions t old ∨ SameOptions t (altered server old new old)) :
    SameOptions (altered server old new t) (altered server old new old) := by
  unfold SameOptions altered at *
  dsimp only at *
  split
  · next same =>
    rw [if_pos same] at h
    exact h.elim id id
  · next differs =>
    rw [if_neg differs] at h
    cases given : Text.nonempty? new.charset with
    | none =>
      rw [given] at h
      exact h.elim id id
    | some charset => exact ⟨rfl, rfl⟩

theorem primaryKey_altered (h : t.primaryKey = old.primaryKey ∨ t.primaryKey = new.primaryKey) :
    (altered server old new t).primaryKey = new.primaryKey := by
  have keyed : (if old.primaryKey = new.primaryKey then t.primaryKey else new.primaryKey) =
      new.primaryKey := by
    split
    · next same => exact h.elim (fun h => h.trans same) id
    · rfl
  unfold altered
  dsimp only
  split
  · exact keyed
  · split <;> exact keyed

def Agrees (name : String) (key : List String) (like : Table) (s : Snapshot) : Prop :=
  ∃ t, s.table? name = some t ∧ t.primaryKey = key ∧ SameOptions t like

section Alteration

variable (server) (dialect : x.dialect = .mysql) (informs : c.Informs x)
  (hold : c.current.table? name = some old) (hnew : c.target.table? name = some new)

include dialect informs hold hnew

theorem agrees_advance {change : Change} {m : Progress × Snapshot} {key : List String}
    {like : Table} (listed : change ∈ x.changes) (own : change ≠ ⟨name, .alterTable old new⟩)
    (undropped : ∀ y, change = ⟨name, .dropColumn y⟩ → y.name ∉ key)
    (h : Agrees name key like m.2) : Agrees name key like (advance server x m change).2 := by
  obtain ⟨t, held, rfl, options⟩ := h
  obtain ⟨next, hnext, leaves⟩ := leaves_advance server dialect informs listed hold hnew own held
  refine ⟨next, hnext, leaves.primaryKey ?_, leaves.charset.trans options.1,
    leaves.collation.trans options.2⟩
  rintro n hn ⟨y, drops, rfl⟩
  exact undropped y drops hn

/-- Until its turn comes, a table keeps its old primary key and options. -/
theorem agrees_before {before : List Change} (listed : ∀ y ∈ before, y ∈ x.changes)
    (fresh : ⟨name, .alterTable old new⟩ ∉ before) (early : ∀ y ∈ before, y.phase ≤ 6) :
    Agrees name old.primaryKey old (advanceAll server x (.start, c.current) before).2 := by
  refine advanceAll_keeps (P := fun m => Agrees name old.primaryKey old m.2) ?_
    ⟨old, hold, rfl, rfl, rfl⟩
  intro change hchange m h
  have own : change ≠ ⟨name, .alterTable old new⟩ := fun same => fresh (same ▸ hchange)
  refine agrees_advance server dialect informs hold hnew (listed change hchange) own ?_ h
  rintro y rfl
  exact absurd (early _ hchange) (by decide : ¬ (7 ≤ 6))

/-- After its turn, a table keeps its new primary key and the options that it was given. -/
theorem agrees_after {after : List Change} {m : Progress × Snapshot}
    (listed : ∀ y ∈ after, y ∈ x.changes) (owns : new.OwnsColumns)
    (h : Agrees name new.primaryKey (altered server old new old) m.2) :
    Agrees name new.primaryKey (altered server old new old) (advanceAll server x m after).2 := by
  refine advanceAll_keeps
    (P := fun m => Agrees name new.primaryKey (altered server old new old) m.2) ?_ h
  intro change hchange m h
  have mem := listed change hchange
  by_cases own : change = ⟨name, .alterTable old new⟩
  · subst own
    obtain ⟨t, held, key, options⟩ := h
    have once_more := table?_advance_alterTable server dialect informs mem held
    exact ⟨_, once_more, primaryKey_altered (.inr key), sameOptions_altered (.inr options)⟩
  · refine agrees_advance server dialect informs hold hnew mem own ?_ h
    rintro y rfl hkey
    obtain ⟨-, gone⟩ := part_of_mem_changes informs.currentNamed informs.targetNamed hold hnew
      ((informs.changes _).mp mem)
    exact gone y rfl (owns.primaryKey y.name hkey)

/-- A table that is altered ends with its new primary key and with the options that its alteration
gives it, whatever else is done to it. -/
theorem agrees_of_alteration (sorted : x.changes.Pairwise fun a b => a.phase ≤ b.phase)
    (mem : ⟨name, .alterTable old new⟩ ∈ x.changes) (owns : new.OwnsColumns) :
    Agrees name new.primaryKey (altered server old new old)
      (advanceAll server x (.start, c.current) x.changes).2 := by
  obtain ⟨before, after, hsplit, fresh, early, -⟩ := Change.exists_split sorted mem
  have listed : ∀ y ∈ before ++ ⟨name, .alterTable old new⟩ :: after, y ∈ x.changes :=
    fun y hy => hsplit ▸ hy
  rw [List.forall_mem_append, List.forall_mem_cons] at listed
  obtain ⟨t, held, key, options⟩ :=
    agrees_before server dialect informs hold hnew listed.1 fresh early
  have at_turn := table?_advance_alterTable server dialect informs mem held
  rw [hsplit, advanceAll_append, advanceAll_cons]
  apply agrees_after server dialect informs hold hnew listed.2.2 owns
  exact ⟨_, at_turn, primaryKey_altered (.inl key), sameOptions_altered (.inl options)⟩

end Alteration

/-- An alteration leads to the new options exactly if they were the same before, or can be
reached. -/
theorem sameOptions_altered_iff (server : Server)
    (made : Dialect.mysql.projection.table schema definition = .ok new) :
    SameOptions (altered server old new old) new ↔
      SameOptions old new ∨ Reachable schema definition := by
  obtain ⟨hcollation, hcharset⟩ := Projection.options_of_table rfl made
  by_cases same : SameOptions old new
  · rw [altered, if_pos same]
    exact iff_of_true same (.inl same)
  · rw [altered, if_neg same, or_iff_right same]
    cases given : Text.nonempty? new.charset with
    | none =>
      have unwritable : ¬ Writable schema definition := by
        intro writable
        have found := (nonempty?_charset_iff made).mpr ⟨writable, rfl⟩
        rw [given] at found
        cases found
      exact iff_of_false same fun reachable => unwritable reachable.toWritable
    | some charset =>
      obtain ⟨writable, rfl⟩ := (nonempty?_charset_iff made).mp given
      obtain ⟨collation, known⟩ := Option.ne_none_iff_exists'.mp writable.collation
      have kept : some (schema.charsetOf definition) = new.charset := by rw [hcharset, known]; rfl
      show some _ = new.charset ∧ some (server.chosen _ new.collation) = new.collation ↔ _
      rw [and_iff_right kept, hcollation, known, Option.some.injEq]
      by_cases blank : collation = ""
      · subst blank
        refine iff_of_false (server.named _) fun reachable => reachable.named known
      · have chosen : server.chosen (schema.charsetOf definition) (some collation) = collation := by
          unfold Server.chosen
          rw [Text.nonempty?_eq_some_iff.mpr ⟨rfl, blank⟩]
          rfl
        refine iff_of_true chosen ⟨writable, fun h => ?_⟩
        rw [known] at h
        exact blank (Option.some.inj h)

theorem sameOptions_iff (skips : Bool) {current target : Snapshot} :
    (Comparison.mk current target Dialect.mysql.rules skips).sameOptions old new = true ↔
      SameOptions old new := by
  simp [Comparison.sameOptions, SameOptions, Dialect.rules]

/-- After all statements a table is still to be altered exactly if its options differed and cannot
be reached. -/
theorem alterTable_again_iff (dialect : x.dialect = .mysql) (informs : c.Informs x)
    (sorted : x.changes.Pairwise fun a b => a.phase ≤ b.phase)
    (mem : ⟨name, .alterTable old new⟩ ∈ x.changes) (owns : new.OwnsColumns)
    (made : Dialect.mysql.projection.table schema definition = .ok new) (skips : Bool) :
    (∃ again, ⟨name, .alterTable again new⟩ ∈
        (Comparison.mk (advanceAll server x (.start, c.current) x.changes).2 c.target
          Dialect.mysql.rules skips).changes) ↔
      ¬ SameOptions old new ∧ ¬ Reachable schema definition := by
  have discovered := (informs.changes _).mp mem
  obtain ⟨hold, hnew, -⟩ := (alterTable_mem_changes_iff informs.targetNamed).mp discovered
  obtain ⟨t, held, key, options⟩ :=
    agrees_of_alteration server dialect informs hold hnew sorted mem owns
  have reached : SameOptions t new ↔ SameOptions (altered server old new old) new := by
    rw [SameOptions, SameOptions, options.1, options.2]
  rw [← not_or, ← sameOptions_altered_iff server made, ← reached]
  have told (again : Table) := @alterTable_mem_changes_iff
    ⟨(advanceAll server x (.start, c.current) x.changes).2, c.target, Dialect.mysql.rules,
      skips⟩ name again new informs.targetNamed
  constructor
  · rintro ⟨again, h⟩ same
    obtain ⟨hagain, -, other⟩ := (told again).mp h
    obtain rfl := Option.some.inj (held.symm.trans hagain)
    exact other ⟨key, (sameOptions_iff skips).mpr same⟩
  · intro other
    refine ⟨t, (told t).mpr ⟨held, hnew, fun h => ?_⟩⟩
    exact other ((sameOptions_iff skips).mp h.2)

/-- The alteration of a table has a statement exactly if the primary key changes or what is declared
for the table can be written; other options are converted to the declared character set exactly in
the second case. After all statements the options are still to be altered if they differed and
cannot be reached, and only then. -/
theorem options_converge_iff (server : Server) (skips : Bool) {schema : Schema} (current : Snapshot)
    (valid : Dialect.mysql.rules.validate schema = .ok ()) :
    ∃ target, Dialect.mysql.projection.project schema = .ok target ∧
      ∀ d, (Comparison.mk current target Dialect.mysql.rules skips).difference = .ok d →
        ∀ name old new, ⟨name, .alterTable old new⟩ ∈ d.changes →
          ∃ definition ∈ schema.tables, definition.name = name ∧
            (∃ statements,
              (∀ p, Emission.emit ⟨.mysql, current, target, d.changes, skips⟩ p
                ⟨name, .alterTable old new⟩ = (p, .of statements)) ∧
              (statements ≠ [] ↔
                old.primaryKey ≠ new.primaryKey ∨ Writable schema definition) ∧
              (¬ SameOptions old new →
                ((∃ collation,
                    .convertCharset name (schema.charsetOf definition) collation ∈ statements) ↔
                  Writable schema definition))) ∧
            (current.TablesNamed → (∃ table k, d.DropsUnnamed table k) ∨
              ∃ statements,
                (Emission.body ⟨.mysql, current, target, d.changes, skips⟩ .start).2 =
                  .of statements ∧
                ((∃ again, ⟨name, .alterTable again new⟩ ∈
                    (Comparison.mk (run server current statements) target Dialect.mysql.rules
                      skips).changes) ↔
                  ¬ SameOptions old new ∧ ¬ Reachable schema definition)) := by
  obtain ⟨target, projected, -⟩ := Projection.snapshot_ok (p := Dialect.mysql.projection) valid
  have complete := Projection.projects_of_snapshot projected
  have targetNamed : target.TablesNamed := complete.named
  refine ⟨target, by rw [Projection.project, projected]; rfl, fun d hd name old new mem => ?_⟩
  have listed : ⟨name, .alterTable old new⟩ ∈
      (Comparison.mk current target Dialect.mysql.rules skips).changes := by
    rw [changes_of_difference hd, ordered, List.mem_mergeSort] at mem
    exact mem
  obtain ⟨hold, hnew, differs⟩ := (alterTable_mem_changes_iff targetNamed).mp listed
  rw [sameOptions_iff] at differs
  obtain ⟨definition, hdefinition, named, made⟩ := Projection.table_of_snapshot projected hnew
  have title : new.name = name := targetNamed.name_of_table? hnew
  refine ⟨definition, hdefinition, named,
    ⟨keyStatements old new ++ optionStatements old new, ?_, ?_, ?_⟩, ?_⟩
  · intro p
    exact Prod.ext rfl (alterTable_eq old new)
  · exact alteration_ne_nil_iff made differs
  · intro other
    rw [← title, converts_iff made, and_iff_right other]
  · intro tables
    have typed : target.Typed := fun entry hentry y hy =>
      ((complete.tables entry hentry).columns y hy).typed
    have informs := informs_of_difference (c := ⟨current, target, Dialect.mysql.rules, skips⟩)
      tables targetNamed typed hd .mysql
    rcases body_cases rfl informs with ⟨dropped, -⟩ | ⟨statements, written, leads⟩
    · exact .inl dropped
    · refine .inr ⟨statements, written, ?_⟩
      have sorted : d.changes.Pairwise fun a b => a.phase ≤ b.phase := by
        rw [changes_of_difference hd]
        exact sorted_ordered _
      rw [← leads server current]
      exact alterTable_again_iff (c := ⟨current, target, _, _⟩) rfl informs sorted mem
        (complete.tables _ (Snapshot.table?_eq_some_iff.mp hnew)).owns made skips

end Mysql

/-! A shop whose notes get another character set. -/

namespace Shop

def server : Mysql.Server := ⟨"utf8mb4", fun _ => "utf8mb4_0900_ai_ci", fun _ => by decide⟩

def notebook (charset : String) : Schema :=
  { Schema.ofName "shop" with
    tables := [
      { name := "notes"
        columns := [⟨"body", "VARCHAR", some 255, none, true, none, none, none⟩]
        primaryKey := []
        indexes := []
        foreignKeys := []
        charset := some charset
        collation := none }] }

def notes (charset collation : Option String) : Table :=
  { Table.ofName "notes" with
    columns := [⟨"body", .string, some 255, none, true, none, [], none⟩]
    charset
    collation }

def unicodeNotes : Table := notes (some "utf8mb4") (some "utf8mb4_0900_ai_ci")

def latinNotes : Table := notes (some "latin1") (some "latin1_swedish_ci")

def recoding (new : Table) : Comparison :=
  ⟨.ofTables [unicodeNotes], .ofTables [new], Dialect.mysql.rules, false⟩

/-- Notes in Latin letters are converted once. -/
theorem latin_notes_are_settled :
    Dialect.mysql.rules.validate (notebook "latin1") = .ok () ∧
      ∃ d statements, (recoding latinNotes).difference = .ok d ∧
        (Emission.body ⟨.mysql, (recoding latinNotes).current, (recoding latinNotes).target,
          d.changes, false⟩ .start).2 = .of statements ∧
        ∀ again, ⟨"notes", .alterTable again latinNotes⟩ ∉
          (Comparison.mk (Mysql.run server (recoding latinNotes).current statements)
            (recoding latinNotes).target Dialect.mysql.rules false).changes := by
  have valid : Dialect.mysql.rules.validate (notebook "latin1") = .ok () := rfl
  have projected : Dialect.mysql.projection.project (notebook "latin1") =
      .ok (recoding latinNotes).target := rfl
  obtain ⟨g, -, -, -, hd⟩ := Comparison.difference_of_nodup (c := recoding latinNotes) (by decide)
  have hchanges := Comparison.changes_of_sorted hd (by decide)
  have keeps : ∀ x ∈ (recoding latinNotes).changes, x.kind ≠ .dropForeignKey := by decide
  obtain ⟨target, made, converge⟩ := Mysql.options_converge_iff server false
    (recoding latinNotes).current valid
  obtain rfl := Except.ok.inj (projected.symm.trans made)
  obtain ⟨definition, hdefinition, -, -, settles⟩ :=
    converge _ hd "notes" unicodeNotes latinNotes (hchanges ▸ by decide)
  obtain rfl := List.mem_singleton.mp hdefinition
  rcases settles (by decide) with ⟨table, k, dropped, -⟩ | ⟨statements, written, again⟩
  · rw [hchanges] at dropped
    exact absurd rfl (keeps _ dropped)
  · refine ⟨valid, _, statements, hd, written, fun first h => ?_⟩
    exact (again.mp ⟨first, h⟩).2 ⟨⟨by decide, by decide⟩, by decide⟩

/-- No collation is known for this character set, so it is dropped on the way, and nothing is
written for the change that is discovered. -/
theorem unknown_charset_is_never_written :
    Dialect.mysql.rules.validate (notebook "gbk") = .ok () ∧
      Dialect.mysql.projection.project (notebook "gbk") =
        .ok (recoding (notes none none)).target ∧
      ∃ d, (recoding (notes none none)).difference = .ok d ∧
        ⟨"notes", .alterTable unicodeNotes (notes none none)⟩ ∈ d.changes ∧
        (Emission.body ⟨.mysql, (recoding (notes none none)).current,
          (recoding (notes none none)).target, d.changes, false⟩ .start).2 = .of [] := by
  obtain ⟨g, -, -, -, hd⟩ := Comparison.difference_of_nodup (c := recoding (notes none none))
    (by decide)
  have hchanges := Comparison.changes_of_sorted hd (by decide)
  refine ⟨rfl, rfl, _, hd, ?_, ?_⟩
  · rw [hchanges]
    decide
  · rw [hchanges]
    rfl

end Shop

end SchemaMigration
