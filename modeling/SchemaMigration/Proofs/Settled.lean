import SchemaMigration.Proofs.Projection
import SchemaMigration.Proofs.Script
import SchemaMigration.Proofs.SnapshotFile

/-!
Runs that find everything in place. A run from the snapshot file of its own schema writes the head
of a script and nothing else.
-/

namespace SchemaMigration

namespace Emission

variable {x : Context}

theorem prolog_of_unchanged (h : x.changes = []) (charset : String) :
    prolog x charset = .ok (.start, []) := by
  cases hd : x.dialect with
  | mysql | postgres | sqlServer => simp only [prolog, hd, h, if_true]
  | sqlite =>
    have none : Sqlite.tablesToRebuild x = .ok [] := by
      rw [Sqlite.tablesToRebuild, h]
      rfl
    simp only [prolog, hd]
    rw [none, h]
    rfl

theorem fault_body_of_unchanged (h : x.changes = []) (p : Progress) :
    (body x p).2.fault = none := by
  rw [body, h]
  rfl

end Emission

namespace Session

/-- A snapshot is compared with itself without finding a change. -/
theorem compare_self (s : Session) (skips : Bool) {snapshot : Snapshot} (h : snapshot.Named) :
    s.compare skips snapshot snapshot = .ok ⟨s.dialect, snapshot, snapshot, [], skips⟩ := by
  let c : Comparison := ⟨snapshot, snapshot, s.dialect.rules, skips⟩
  have unchanged : c.changes = [] :=
    (Comparison.changes_eq_nil_iff (c := c) h h).mpr (.refl s.dialect.rules skips snapshot)
  obtain ⟨d, hd, hempty⟩ := Comparison.findsNothing_iff.mpr unchanged
  have none : d.changes = [] := by
    rw [Difference.changes, List.isEmpty_iff.mp hempty]
    rfl
  refine compare_eq_ok_iff.mpr ⟨d, hd, ?_⟩
  rw [none]

end Session

variable {e : Executor} {d : Dialect} {schema : Schema} {snapshot : Snapshot}
  {generatedAt : String}

/-- The script of a run without changes is its head. -/
theorem Session.execute_of_equal {s : Session} {connection : Connection}
    (connects : e.connect s.dialect e.configuration.connectionString = .ok connection)
    (quiet : connection.fault? = none)
    (current : e.readCurrent s.dialect connection = .ok snapshot)
    (target : s.dialect.projection.project s.schema = .ok snapshot) (named : snapshot.Named) :
    ∃ done, s.execute e generatedAt =
      ⟨(e.receive (s.headOf generatedAt)).map fun _ => s.headOf generatedAt,
        RunM.course connection (.connecting :: Stage.writing) ++
          [.delivered (s.headOf generatedAt)], done⟩ := by
  let x : Context := ⟨s.dialect, snapshot, snapshot, [], e.configuration.skipsConstraints⟩
  have unchanged : x.changes = [] := rfl
  have prolog := Emission.prolog_of_unchanged unchanged s.schema.charset
  obtain ⟨opened, done, completes⟩ : ∃ opened done,
      Completes e generatedAt s.restart connection x opened done :=
    completes_of_body current target (s.compare_self e.configuration.skipsConstraints named) prolog
      (Emission.fault_body_of_unchanged unchanged _)
  obtain ⟨p, settings, hsettings, hbuffer⟩ := completes.buffer
  have fragments : done.buffer.fragments = s.headOf generatedAt := by
    have opens := Emission.opens_of_prolog hsettings
    rw [hbuffer, Emission.body_of_unchanged opens unchanged]
    rfl
  refine ⟨done, ?_⟩
  rw [completes.execute connects quiet, fragments]

/-- A schema that its dialect accepts has a snapshot, and a run that finds this snapshot in a file
hands over the head of a script and nothing else. -/
theorem Executor.written_snapshot_needs_nothing (valid : d.rules.validate schema = .ok ()) :
    ∃ snapshot, d.projection.project schema = .ok snapshot ∧
      ∀ (e : Executor) (disk : Disk) (path generatedAt : String),
        snapshot.toFile disk path = .ok e.disk →
        e.configuration.currentSnapshot = some path →
        e.connectionFactory = none → e.currentReader = none →
        e.registry.require e.configuration.driver = .ok d → e.loadSchema = .ok schema →
        e.receive ((Session.start d schema).headOf generatedAt) = .ok () →
        e.run generatedAt =
          (.ok ((Session.start d schema).headOf generatedAt),
            (.connecting :: Stage.writing).map .passed ++
              [.delivered ((Session.start d schema).headOf generatedAt)]) := by
  obtain ⟨snapshot, hsnapshot, named⟩ := Projection.snapshot_ok (p := d.projection) valid
  have target : d.projection.project schema = .ok snapshot := by
    rw [Projection.project, hsnapshot]
    rfl
  refine ⟨snapshot, target, ?_⟩
  intro e disk path generatedAt written hpath factory reader driver loaded receives
  have session : e.newSession = .ok (.start d schema) := by
    rw [newSession, driver, loaded]
    rfl
  have connects : e.connect d e.configuration.connectionString = .ok .absent := by
    rw [connect, factory, hpath]
  have current : e.readCurrent d .absent = .ok snapshot := by
    rw [readCurrent, reader, hpath]
    exact Snapshot.ofFile_of_toFile written
  obtain ⟨done, hdone⟩ := Session.execute_of_equal (s := .start d schema) connects rfl current
    target named
  rw [run, session]
  dsimp only
  rw [hdone, receives]
  rfl

/-! A shop whose snapshot is kept in a file. -/

namespace Shop

def catalogue : Schema :=
  { Schema.ofName "shop" with
    collation := some "utf8mb4_bin"
    tables := [
      { name := "users"
        columns := [
          ⟨"id", "INT", none, none, true, none, none, none⟩,
          ⟨"email", "VARCHAR", some 255, none, true, some "'d\u00e9j\u00e0\tvu'", none, none⟩]
        primaryKey := ["id"]
        indexes := [⟨"by_email", ["email"], true⟩]
        foreignKeys := []
        charset := some "latin1"
        collation := none },
      { name := "orders"
        columns := [
          ⟨"user", "INT", none, none, false, none, none, none⟩,
          ⟨"state", "ENUM", none, none, false, none, some ["new", "\"paid\""], some "ascii_bin"⟩,
          ⟨"price", "DECIMAL", some 10, some (-2), true, none, none, none⟩]
        primaryKey := []
        indexes := []
        foreignKeys := [⟨none, ["user"], "users", ["id"], .cascade, .noAction⟩]
        charset := none
        collation := none }] }

def keeper (disk : Disk) : Executor where
  configuration := ⟨none, none, true, "mysql", some "./shop.json"⟩
  registry := .builtin
  disk := disk
  schema := some catalogue
  connectionFactory := none
  currentReader := none
  receive := fun _ => .ok ()

theorem properSteps_file : Path.properSteps "./shop.json" = ["shop.json"] := by
  rw [Path.properSteps, Path.steps_eq]
  decide

/-- Every snapshot that can be written finds a place in the file. -/
theorem file_is_written {snapshot : Snapshot}
    (h : Json.Writer.isWritable snapshot.encode = true) :
    ∃ disk, snapshot.toFile .empty "./shop.json" = .ok disk := by
  have parents : Disk.makeParents .empty "./shop.json" = .ok .empty := by
    rw [Disk.makeParents, Path.properSteps_normalized, properSteps_file]
    rfl
  have written : Disk.put .empty "./shop.json" snapshot.toText = .ok (Disk.empty.holding
      ((Place.start (Path.origin (Path.normalized "./shop.json"))).step "shop.json")
      snapshot.toText) := by
    refine Disk.put_eq_ok_iff.mpr ⟨_, ?_, ?_, ?_, rfl⟩
    · rw [Path.normalized, properSteps_file]
      decide
    · rw [properSteps_file, Disk.follow, Disk.entry?_of_isOuter (Place.isOuter_start _)]
      rfl
    · cases Path.origin (Path.normalized "./shop.json") <;> decide
  exact ⟨_, Snapshot.toFile_eq_ok_iff.mpr ⟨.empty, parents, h, written⟩⟩

theorem kept_catalogue_needs_nothing :
    (Dialect.rules .mysql).validate catalogue = .ok () ∧
      ∃ snapshot disk, (Dialect.projection .mysql).project catalogue = .ok snapshot ∧
        snapshot.toFile .empty "./shop.json" = .ok disk ∧
        (keeper disk).run "today" = (.ok ((Session.start .mysql catalogue).headOf "today"),
          (Stage.connecting :: Stage.writing).map .passed ++
            [.delivered ((Session.start .mysql catalogue).headOf "today")]) := by
  have valid : (Dialect.rules .mysql).validate catalogue = .ok () := rfl
  have writable : ∃ snapshot, (Dialect.projection .mysql).project catalogue = .ok snapshot ∧
      Json.Writer.isWritable snapshot.encode = true := ⟨_, rfl, rfl⟩
  obtain ⟨snapshot, projected, runs⟩ := Executor.written_snapshot_needs_nothing valid
  obtain ⟨same, hsame, hwritable⟩ := writable
  obtain rfl : same = snapshot := Except.ok.inj (hsame.symm.trans projected)
  obtain ⟨disk, hdisk⟩ := file_is_written hwritable
  exact ⟨valid, same, disk, projected, hdisk,
    runs (keeper disk) .empty "./shop.json" "today" hdisk rfl rfl rfl rfl rfl rfl⟩

end Shop

end SchemaMigration
