import SchemaMigration.Session
import SchemaMigration.Sqlite.CatalogSnapshot

/-!
What a migration is run with: its configuration, the files and the database that it reads, and those
who help with it.
-/

namespace SchemaMigration

structure Configuration where
  schemaFile : Option String
  connectionString : Option String
  skipsConstraints : Bool
  driver : String
  currentSnapshot : Option String
  deriving DecidableEq, Repr

namespace Configuration

def defaultDriver : String := "mysql"

open Json.Decoder in
def decode : Json.Decoder Configuration := record "ExecutorConfiguration" fun members =>
  Configuration.mk
    <$> withDefault (named "schema_file") none (optional text) members
    <*> withDefault (named "connection_string") none (optional text) members
    <*> withDefault (named "no_constraints_or_indexes") false flag members
    <*> withDefault (named "driver") defaultDriver text members
    <*> withDefault (named "current_snapshot") none (optional text) members

end Configuration

/-- What happens when a connection is closed. -/
inductive Closing
  | never
  | quiet
  | failing (failure : Failure)

instance : Coe Bool Closing := ⟨fun closes => if closes then .quiet else .never⟩

structure Connection where
  catalog : Sqlite.Catalog
  closing : Closing

def Connection.closes (c : Connection) : Bool :=
  match c.closing with
  | .never => false
  | .quiet | .failing _ => true

/-- Why closing a connection fails, if it does. -/
def Connection.fault? (c : Connection) : Option Failure :=
  match c.closing with
  | .failing failure => some failure
  | .never | .quiet => none

def Connection.absent : Connection := ⟨.empty, false⟩

abbrev ConnectionFactory := Option String → Except Failure Connection

abbrev CurrentReader := Connection → Except Failure Snapshot

def Snapshot.ofFile (disk : Disk) (path : String) : Except Failure Snapshot := do
  let path := Path.normalized path
  match ← (disk.read? path).mapError Failure.disk with
  | none => throw (.ofMigration (.snapshotNotFound path))
  | some content => (Snapshot.ofText content).mapError (Failure.ofSnapshotFault path)

def Snapshot.toFile (s : Snapshot) (disk : Disk) (path : String) : Except Failure Disk := do
  let disk ← (disk.makeParents path).mapError Failure.disk
  match s.encode.pretty? with
  | none => throw (.invalidInteger .unwritable)
  | some text => (disk.put path text).mapError Failure.disk

def Schema.ofFile (disk : Disk) (path : String) : Except Failure Schema := do
  let path := Path.normalized path
  match ← (disk.read? path).mapError Failure.disk with
  | none => throw (.schemaFileNotFound path)
  | some content => (Schema.ofText path content).mapError Failure.ofSchemaFault

def Projection.project (p : Projection) (schema : Schema) : Except Failure Snapshot :=
  (p.snapshot schema).mapError Failure.schema

namespace Dialect

/-- Opens a connection without help. A database without a name, or with the name `:memory:`, is an
empty one in memory; any other name is a path. -/
def connect (d : Dialect) (disk : Disk := .empty) (connectionString : Option String) :
    Except Failure Connection :=
  if d ≠ sqlite then .error (.ofMigration (.noConnectionFactory d))
  else match Text.nonempty? connectionString with
    | none => .ok ⟨.empty, true⟩
    | some name =>
      if name = ":memory:" then .ok ⟨.empty, true⟩
      else match disk.engine name with
        | .ok catalog => .ok ⟨catalog, true⟩
        | .error message => .error (.database message)

def readCurrent (d : Dialect) (connection : Connection) : Except Failure Snapshot :=
  if d = sqlite then Sqlite.readSnapshot connection.catalog
  else .error (.ofMigration (.noLiveReader d))

def capture (d : Dialect) (connect : ConnectionFactory) (connectionString : Option String) :
    Except Failure Snapshot :=
  match connect connectionString with
  | .error (.migration error cause) => .error (.migration error cause)
  | .error (.unknownDriver name available) => .error (.unknownDriver name available)
  | .error failure => .error (.migration .cannotConnect (some failure))
  | .ok connection =>
    match connection.fault? with
    | some failure => .error failure
    | none => guarded .cannotReadCurrent (d.readCurrent connection)

end Dialect

structure Executor where
  configuration : Configuration
  registry : Registry
  disk : Disk
  schema : Option Schema
  connectionFactory : Option ConnectionFactory
  currentReader : Option CurrentReader
  receive : List Fragment → Except Failure Unit

namespace Executor

/-- How a run opens its connection: with the given factory, not at all if a snapshot file stands in
for the database, or as the dialect does it. -/
def connect (e : Executor) (d : Dialect) : ConnectionFactory :=
  match e.connectionFactory, e.configuration.currentSnapshot with
  | some factory, _ => factory
  | none, some _ => fun _ => .ok .absent
  | none, none => d.connect e.disk

/-- How a run reads the current snapshot. -/
def readCurrent (e : Executor) (d : Dialect) : CurrentReader :=
  match e.currentReader, e.configuration.currentSnapshot with
  | some read, _ => read
  | none, some path => fun _ => Snapshot.ofFile e.disk path
  | none, none => d.readCurrent

def loadSchema (e : Executor) : Except Failure Schema :=
  match e.schema, e.configuration.schemaFile with
  | some schema, _ => .ok schema
  | none, some path => Schema.ofFile e.disk path
  | none, none => .error (.schema .notGiven)

def newSession (e : Executor) : Except Failure Session := do
  let dialect ← e.registry.require e.configuration.driver
  return .start dialect (← e.loadSchema)

end Executor

end SchemaMigration
