import SchemaMigration.Proofs.DeclaredType
import SchemaMigration.Proofs.Outcome
import SchemaMigration.Proofs.Projection

/-!
Failures of reading the current snapshot. They are failures of the migration, with one exception: a
database that declares a column with a type that cannot be taken apart is refused like a schema
would be.
-/

namespace SchemaMigration

/-! ### What blames the schema -/

def Failure.blamesSchema : Failure → Bool
  | .schema _ => true
  | _ => false

/-- A stage passes the blame on. -/
theorem guarded_blames_iff {α : Type} {stage : MigrationError} {result : Except Failure α}
    {error : SchemaError} :
    guarded stage result = .error (.schema error) ↔ result = .error (.schema error) := by
  cases result with
  | ok a => exact ⟨nofun, nofun⟩
  | error failure => cases failure <;> simp [guarded, Except.mapError, Failure.inStage,
      Failure.isExplained]

/-- A result that does not blame the schema. -/
def Blameless {α : Type} (result : Except Failure α) : Prop :=
  ∀ error, result ≠ .error (.schema error)

namespace Blameless

variable {α β : Type}

theorem ok (a : α) : Blameless (.ok a) := by
  intro error h
  cases h

theorem error {failure : Failure} (h : failure.blamesSchema = false) :
    Blameless (.error failure : Except Failure α) := by
  rintro error ⟨⟩
  cases h

theorem bind {x : Except Failure α} {f : α → Except Failure β} (hx : Blameless x)
    (hf : ∀ a, Blameless (f a)) : Blameless (x >>= f) := by
  intro error h
  rcases bind_eq_error_iff.mp h with h | ⟨a, -, h⟩
  · exact hx error h
  · exact hf a error h

theorem mapM {f : α → Except Failure β} (hf : ∀ a, Blameless (f a)) (as : List α) :
    Blameless (as.mapM f) := by
  intro error h
  obtain ⟨-, a, -, -, -, ha⟩ := mapM_eq_error_iff.mp h
  exact hf a error ha

theorem guarded {result : Except Failure α} (h : Blameless result) (stage : MigrationError) :
    Blameless (guarded stage result) :=
  fun error herror => h error (guarded_blames_iff.mp herror)

end Blameless

namespace Sqlite

theorem blameless_rows {α : Type} (answer : Except String (List α)) : Blameless (rows answer) := by
  cases answer with
  | ok rs => exact .ok rs
  | error message => exact .error rfl

theorem blameless_integerArgument (text : Option String) : Blameless (integerArgument text) := by
  cases text with
  | none => exact .ok none
  | some text =>
    unfold integerArgument
    dsimp only
    split
    · exact .ok _
    · exact .error rfl

theorem blameless_readIndexes (c : Catalog) (table : String) :
    Blameless (readIndexes c table) := by
  refine (blameless_rows _).bind fun created => ?_
  refine (Blameless.mapM (fun row => ?_) _).bind fun indexes => .ok _
  exact (blameless_rows _).bind fun columns => .ok _

theorem blameless_readForeignKey (c : Catalog) (table : String) (members : List ForeignKeyRow) :
    Blameless (readForeignKey c table members) := by
  cases members with
  | nil => exact .ok none
  | cons row rest =>
    unfold readForeignKey
    dsimp only
    split
    · refine (blameless_rows _).bind fun columns => ?_
      split
      · exact .ok _
      · exact .error rfl
    · exact .ok _

theorem blameless_readForeignKeys (c : Catalog) (table : String) :
    Blameless (readForeignKeys c table) :=
  (blameless_rows _).bind fun _ =>
    (Blameless.mapM (fun _ => blameless_readForeignKey c table _) _).bind fun _ => .ok _

def ColumnRow.Malformed (row : ColumnRow) (declared : String) : Prop :=
  row.declared = some declared ∧ DeclaredType.Malformed declared

theorem declaredType_blames_iff {table column declared : String} {error : SchemaError} :
    declaredType table column declared = .error (.schema error) ↔
      error = .malformedType declared ∧ DeclaredType.Malformed declared := by
  unfold declaredType
  by_cases hempty : declared = ""
  · subst hempty
    simp [DeclaredType.not_malformed_empty]
  · rw [← DeclaredType.split?_eq_none_iff hempty]
    cases hsplit : DeclaredType.split? declared with
    | none => simp [hempty, eq_comm]
    | some parts =>
      cases htype : ColumnType.ofSpelling? parts.name <;> simp [hempty, htype]

theorem readColumn_blames_iff {table definition : String} {row : ColumnRow} {error : SchemaError} :
    readColumn table definition row = .error (.schema error) ↔
      ∃ declared, error = .malformedType declared ∧ row.Malformed declared := by
  unfold readColumn
  rw [bind_eq_error_iff, declaredType_blames_iff]
  constructor
  · rintro (⟨rfl, hmalformed⟩ | ⟨⟨type, arguments⟩, -, h⟩)
    · cases hdeclared : row.declared with
      | none =>
        rw [hdeclared] at hmalformed
        exact absurd hmalformed DeclaredType.not_malformed_empty
      | some declared =>
        rw [hdeclared] at hmalformed
        exact ⟨declared, rfl, hdeclared, hmalformed⟩
    · -- nothing that is read after the type blames the schema
      exfalso
      revert h
      refine Blameless.bind (blameless_integerArgument _) (fun length => ?_) error
      refine (blameless_integerArgument _).bind fun scale => ?_
      dsimp only
      split
      · split
        · exact .ok _
        · exact .error rfl
      · exact .ok _
  · rintro ⟨declared, rfl, hdeclared, hmalformed⟩
    rw [hdeclared]
    exact .inl ⟨rfl, hmalformed⟩

/-- Reading a database comes to a column with a malformed type: the tables before and the columns
before in its table can be read. -/
def Catalog.MeetsMalformed (c : Catalog) (declared : String) : Prop :=
  ∃ tables table tables', c.tables = .ok (tables ++ table :: tables') ∧
    (∀ before ∈ tables, ∃ read, readTable c before = .ok read) ∧
    ∃ columns column columns', c.columns table.name = .ok (columns ++ column :: columns') ∧
      (∀ before ∈ columns, ∃ read,
        readColumn table.name (table.definition.getD "") before = .ok read) ∧
      column.Malformed declared

theorem rows_eq_ok_iff {α : Type} {answer : Except String (List α)} {rs : List α} :
    rows answer = .ok rs ↔ answer = .ok rs := by
  cases answer <;> simp [rows]

theorem readTable_blames_iff {c : Catalog} {table : TableRow} {error : SchemaError} :
    readTable c table = .error (.schema error) ↔
      ∃ columns column columns', c.columns table.name = .ok (columns ++ column :: columns') ∧
        (∀ before ∈ columns, ∃ read,
          readColumn table.name (table.definition.getD "") before = .ok read) ∧
        ∃ declared, error = .malformedType declared ∧ column.Malformed declared := by
  unfold readTable
  rw [bind_eq_error_iff]
  constructor
  · rintro (h | ⟨columnRows, hrows, h⟩)
    · exact absurd h (blameless_rows _ error)
    · rcases bind_eq_error_iff.mp h with h | ⟨columns, -, h⟩
      · obtain ⟨before, column, after, rfl, hbefore, hcolumn⟩ := mapM_eq_error_iff.mp h
        exact ⟨before, column, after, rows_eq_ok_iff.mp hrows, hbefore,
          readColumn_blames_iff.mp hcolumn⟩
      · exfalso
        revert h
        refine Blameless.bind (blameless_readIndexes c _) (fun indexes => ?_) error
        exact (blameless_readForeignKeys c _).bind fun keys => .ok _
  · rintro ⟨columns, column, columns', hcolumns, hbefore, declared, rfl, hmalformed⟩
    refine .inr ⟨_, rows_eq_ok_iff.mpr hcolumns, bind_eq_error_iff.mpr (.inl ?_)⟩
    exact mapM_eq_error_iff.mpr ⟨columns, column, columns', rfl, hbefore,
      readColumn_blames_iff.mpr ⟨declared, rfl, hmalformed⟩⟩

theorem readSnapshot_blames_iff {c : Catalog} {error : SchemaError} :
    readSnapshot c = .error (.schema error) ↔
      ∃ declared, error = .malformedType declared ∧ c.MeetsMalformed declared := by
  unfold readSnapshot
  rw [bind_eq_error_iff]
  constructor
  · rintro (h | ⟨tableRows, hrows, h⟩)
    · exact absurd h (blameless_rows _ error)
    · rcases bind_eq_error_iff.mp h with h | ⟨tables, -, h⟩
      · obtain ⟨before, table, after, rfl, hbefore, htable⟩ := mapM_eq_error_iff.mp h
        obtain ⟨columns, column, columns', hcolumns, hread, declared, herror, hmalformed⟩ :=
          readTable_blames_iff.mp htable
        exact ⟨declared, herror, before, table, after, rows_eq_ok_iff.mp hrows, hbefore,
          columns, column, columns', hcolumns, hread, hmalformed⟩
      · cases h
  · rintro ⟨declared, rfl, before, table, after, htables, hbefore, columns, column, columns',
      hcolumns, hread, hmalformed⟩
    refine .inr ⟨_, rows_eq_ok_iff.mpr htables, bind_eq_error_iff.mpr (.inl ?_)⟩
    exact mapM_eq_error_iff.mpr ⟨before, table, after, rfl, hbefore, readTable_blames_iff.mpr
      ⟨columns, column, columns', hcolumns, hread, declared, rfl, hmalformed⟩⟩

end Sqlite

/-! ### The reading stage -/

theorem Snapshot.blameless_ofFile (disk : Disk) (path : String) :
    Blameless (Snapshot.ofFile disk path) := by
  refine Blameless.bind ?_ fun content => ?_
  · cases disk.read? (Path.normalized path) with
    | ok content => exact .ok content
    | error fault => exact .error rfl
  · cases content with
    | none => exact .error rfl
    | some text =>
      dsimp only
      cases Snapshot.ofText text with
      | ok s => exact .ok s
      | error fault => cases fault <;> exact .error rfl

def Failure.IsMigration : Failure → Prop
  | .migration _ _ | .unknownDriver _ _ => True
  | _ => False

/-- A stage reports a failure of the migration unless the schema is to blame. -/
theorem Failure.isMigration_inStage_iff {failure : Failure} {stage : MigrationError} :
    (failure.inStage stage).IsMigration ↔ ∀ error, failure ≠ .schema error := by
  cases failure <;> simp [inStage, isExplained, IsMigration]

/-- A reading that blames the schema only for malformed types fails as a migration if it meets
none. -/
theorem Failure.isMigration_iff_of_blames {α : Type} {result : Except Failure α}
    {meets : String → Prop} {failure : Failure}
    (blames : ∀ error, result = .error (.schema error) ↔
      ∃ declared, error = .malformedType declared ∧ meets declared)
    (h : result = .error failure) (stage : MigrationError) :
    (failure.inStage stage).IsMigration ↔ ∀ declared, ¬ meets declared := by
  rw [isMigration_inStage_iff]
  constructor
  · intro hblameless declared hmeets
    have blamed := (blames _).mpr ⟨declared, rfl, hmeets⟩
    exact hblameless _ (Except.error.inj (h.symm.trans blamed))
  · rintro hnone error rfl
    obtain ⟨declared, -, hmeets⟩ := (blames error).mp h
    exact hnone declared hmeets

def Dialect.MeetsMalformed (d : Dialect) (connection : Connection) (declared : String) : Prop :=
  d = .sqlite ∧ connection.catalog.MeetsMalformed declared

theorem Dialect.readCurrent_blames_iff {d : Dialect} {connection : Connection}
    {error : SchemaError} : d.readCurrent connection = .error (.schema error) ↔
      ∃ declared, error = .malformedType declared ∧ d.MeetsMalformed connection declared := by
  unfold readCurrent MeetsMalformed
  by_cases hd : d = .sqlite
  · simp [hd, Sqlite.readSnapshot_blames_iff]
  · simp [hd, Failure.ofMigration]

namespace Executor

variable {e : Executor} {d : Dialect} {schema : Schema} {connection : Connection}

/-- A run reads a database, and comes to a malformed type. -/
def MeetsMalformed (e : Executor) (d : Dialect) (connection : Connection) (declared : String) :
    Prop :=
  e.configuration.currentSnapshot = none ∧ d.MeetsMalformed connection declared

theorem readCurrent_blames_iff (hreader : e.currentReader = none) {error : SchemaError} :
    e.readCurrent d connection = .error (.schema error) ↔
      ∃ declared, error = .malformedType declared ∧ e.MeetsMalformed d connection declared := by
  unfold readCurrent MeetsMalformed
  rw [hreader]
  cases hsnapshot : e.configuration.currentSnapshot with
  | some path => simpa using Snapshot.blameless_ofFile e.disk path error
  | none => simpa using Dialect.readCurrent_blames_iff

theorem blameless_compare (s : Session) (skips : Bool) (current target : Snapshot) :
    Blameless (s.compare skips current target) := by
  unfold Session.compare
  split
  · exact .ok _
  · rename_i fault _
    refine Blameless.guarded ?_ _
    cases fault <;> exact .error rfl

theorem blameless_script (x : Context) (d : Dialect) (charset : String) :
    Blameless (x.script d charset) := by
  refine (Blameless.guarded ?_ _).bind fun found => (Blameless.guarded ?_ _).bind fun body => .ok _
  · cases Emission.prolog x charset with
    | ok found => exact .ok found
    | error fault => cases fault <;> exact .error rfl
  · unfold Emission.bodyTexts
    split
    · exact .ok _
    · rename_i fault _
      cases fault <;> exact .error rfl

theorem project_blames_iff {p : Projection} {error : SchemaError} :
    p.project schema = .error (.schema error) ↔ p.rules.validate schema = .error error := by
  rw [← Projection.snapshot_eq_error_iff, Projection.project]
  cases p.snapshot schema <;> simp [Except.mapError]

theorem blameless_handOver (hreceive : ∀ fragments, Blameless (e.receive fragments))
    (head rest : List Fragment) : Blameless (e.handOver head rest) := by
  intro error h
  unfold handOver at h
  cases hreceived : e.receive (head ++ rest) with
  | ok => simp [hreceived, Except.map] at h
  | error failure =>
    rw [hreceived] at h
    cases h
    exact hreceive _ error hreceived

theorem scriptOver_blames_iff (hreader : e.currentReader = none) {error : SchemaError} :
    e.scriptOver d schema connection = .error (.schema error) ↔
      ((∃ current, e.readCurrent d connection = .ok current) ∧
        d.rules.validate schema = .error error) ∨
      ∃ declared, error = .malformedType declared ∧ e.MeetsMalformed d connection declared := by
  unfold scriptOver
  rw [bind_eq_error_iff, guarded_blames_iff, readCurrent_blames_iff hreader, or_comm]
  refine or_congr_left ⟨?_, ?_⟩
  · rintro ⟨current, hread, h⟩
    refine ⟨⟨current, RunM.eq_ok_of_guarded hread⟩, ?_⟩
    rcases bind_eq_error_iff.mp h with h | ⟨target, -, h⟩
    · exact project_blames_iff.mp h
    · exact absurd h ((blameless_compare _ _ _ _).bind (fun x => blameless_script x _ _) error)
  · rintro ⟨⟨current, hread⟩, hinvalid⟩
    refine ⟨current, by rw [hread]; rfl, bind_eq_error_iff.mpr (.inl ?_)⟩
    exact project_blames_iff.mpr hinvalid

end Executor

structure ReadingContract (e : Executor) (s : Session) (connection : Connection)
    (generatedAt : String) : Prop where
  execute : ∀ failure, e.readCurrent s.dialect connection = .error failure →
    (s.execute e generatedAt).result = .error (failure.inStage .cannotReadCurrent) ∧
      ((failure.inStage .cannotReadCurrent).IsMigration ↔
        ∀ declared, ¬ e.MeetsMalformed s.dialect connection declared)
  capture : ∀ (connect : ConnectionFactory) (connectionString : Option String),
    connect connectionString = .ok connection →
    ∀ failure, s.dialect.readCurrent connection = .error failure →
      s.dialect.capture connect connectionString =
          .error (failure.inStage .cannotReadCurrent) ∧
        ((failure.inStage .cannotReadCurrent).IsMigration ↔
          ∀ declared, ¬ s.dialect.MeetsMalformed connection declared)
  blames : ∀ error, (s.execute e generatedAt).result = .error (.schema error) ↔
    ((∃ current, e.readCurrent s.dialect connection = .ok current) ∧
      s.dialect.rules.validate s.schema = .error error) ∨
    ∃ declared, error = .malformedType declared ∧ e.MeetsMalformed s.dialect connection declared

/-- Reading the current snapshot fails as a migration, unless a malformed type is met. -/
theorem Session.execute_keeps_reading_contract {e : Executor} {s : Session}
    {connection : Connection} (hreader : e.currentReader = none)
    (hconnect : e.connect s.dialect e.configuration.connectionString = .ok connection)
    (hclose : connection.fault? = none) (hreceive : ∀ fragments, Blameless (e.receive fragments))
    (generatedAt : String) : ReadingContract e s connection generatedAt where
  execute := by
    intro failure hfailure
    constructor
    · rw [Session.result_of_connected hconnect hclose, Executor.scriptOver, hfailure]
      rfl
    · exact Failure.isMigration_iff_of_blames
        (fun error => Executor.readCurrent_blames_iff hreader) hfailure _
  capture := by
    intro connect connectionString hopen failure hfailure
    constructor
    · rw [Dialect.capture, hopen]
      dsimp only
      rw [hclose, hfailure]
      rfl
    · exact Failure.isMigration_iff_of_blames
        (fun error => Dialect.readCurrent_blames_iff) hfailure _
  blames := by
    intro error
    rw [Session.result_of_connected hconnect hclose, ← Executor.scriptOver_blames_iff hreader,
      bind_eq_error_iff]
    constructor
    · rintro (h | ⟨rest, -, h⟩)
      · exact h
      · exact absurd h (Executor.blameless_handOver hreceive _ rest error)
    · exact .inl

/-! A shop whose items have an unsigned identifier. SQLite keeps the type that stands in quotes. -/

namespace Shop

def unsignedItems : Connection where
  catalog := { Sqlite.Catalog.empty with
    tables := .ok [⟨"items", some "CREATE TABLE items (id \"INT(10) UNSIGNED\")"⟩]
    columns := fun _ => .ok [⟨"id", some "INT(10) UNSIGNED", false, none, 0⟩] }
  closing := .quiet

def unsignedReader : Executor where
  configuration := ⟨none, none, false, "sqlite", none⟩
  registry := ⟨.empty⟩
  disk := .empty
  schema := none
  connectionFactory := some fun _ => .ok unsignedItems
  currentReader := none
  receive := fun _ => .ok ()

theorem unsigned_items_keep_reading_contract :
    ReadingContract unsignedReader (.start .sqlite (.ofName "shop")) unsignedItems "today" :=
  Session.execute_keeps_reading_contract rfl rfl rfl (fun _ => .ok ()) "today"

theorem unsigned_items_meet_malformed : unsignedItems.catalog.MeetsMalformed "INT(10) UNSIGNED" :=
  ⟨[], ⟨"items", some "CREATE TABLE items (id \"INT(10) UNSIGNED\")"⟩, [], rfl, List.forall_mem_nil _,
    [], ⟨"id", some "INT(10) UNSIGNED", false, none, 0⟩, [], rfl, List.forall_mem_nil _,
    rfl, "INT".toList, "10) UNSIGNED".toList, by decide, by decide, .inr (by decide)⟩

def unsignedFailure : Failure := .schema (.malformedType "INT(10) UNSIGNED")

/-- There is nothing wrong with the schema, but it is blamed for what is in the database. -/
theorem unsigned_items_blame_schema :
    Dialect.sqlite.rules.validate (.ofName "shop") = .ok () ∧
      unsignedReader.readCurrent .sqlite unsignedItems = .error unsignedFailure ∧
      ((Session.start .sqlite (.ofName "shop")).execute unsignedReader "today").result =
        .error unsignedFailure ∧
      Dialect.sqlite.capture (fun _ => .ok unsignedItems) none = .error unsignedFailure ∧
      ¬ unsignedFailure.IsMigration := by
  have blamed : Dialect.sqlite.readCurrent unsignedItems = .error unsignedFailure :=
    Dialect.readCurrent_blames_iff.mpr ⟨_, rfl, rfl, unsigned_items_meet_malformed⟩
  refine ⟨rfl, blamed, ?_, ?_, not_false⟩
  · have connects : unsignedReader.connect .sqlite none = .ok unsignedItems := rfl
    rw [Session.result_of_connected connects rfl, Executor.scriptOver]
    show (guarded _ (Dialect.sqlite.readCurrent unsignedItems) >>= _) >>= _ = _
    rw [blamed]
    rfl
  · show guarded _ (Dialect.sqlite.readCurrent unsignedItems) = _
    rw [blamed]
    rfl

end Shop

end SchemaMigration
