import SchemaMigration.Difference
import SchemaMigration.Dialect.Profile
import SchemaMigration.Disk
import SchemaMigration.Emission.Basic
import SchemaMigration.Schema.Document
import SchemaMigration.Snapshot.Document
import SchemaMigration.Sqlite.EnumCheck

/-!
Failures of a migration, with their messages. The failure of a stage keeps what caused it.
-/

namespace SchemaMigration

inductive MigrationError
  | cannotConnect
  | cannotReadCurrent
  | cannotCompare
  | cannotWriteProlog
  | cannotApply
  | noConnectionFactory (dialect : Dialect)
  | noLiveReader (dialect : Dialect)
  | snapshotNotFound (path : String)
  | invalidSnapshot (path : String)
  | unsupportedType (table column declared : String)
  | unmatchedReference (table referenced : String)
  | prologAfterStatement
  | unnamedForeignKey (table : String) (columns : List String)
  deriving DecidableEq, Repr

def MigrationError.message : MigrationError → String
  | cannotConnect => "Cannot open connection"
  | cannotReadCurrent => "Cannot read current schema"
  | cannotCompare => "Cannot compute schema difference"
  | cannotWriteProlog => "Cannot write prolog"
  | cannotApply => "Cannot apply changes"
  | noConnectionFactory d => "No connection factory configured for the " ++ d.id ++ " dialect"
  | noLiveReader d =>
    "No live schema reader for the " ++ d.id ++
      " dialect; configure a reader factory or a current snapshot"
  | snapshotNotFound path => "Snapshot file not found: " ++ path
  | invalidSnapshot path => "Invalid snapshot file " ++ path
  | unsupportedType table column declared =>
    "Column '" ++ table ++ "." ++ column ++ "' has unsupported type '" ++ declared ++ "'"
  | unmatchedReference table referenced =>
    "Foreign key on '" ++ table ++ "' references '" ++ referenced ++
      "' without columns, and its primary key does not match"
  | prologAfterStatement => "Prolog must precede statements"
  | unnamedForeignKey table columns =>
    "Cannot drop unnamed foreign key on '" ++ table ++ "' (" ++ ", ".intercalate columns ++ ")"

inductive Failure
  | schema (error : SchemaError)
  | migration (error : MigrationError) (cause : Option Failure)
  | unknownDriver (name : String) (available : List String)
  | duplicateDriver (name : String)
  | schemaFileNotFound (path : String)
  | disk (error : DiskError)
  | invalidInteger (fault : Text.IntegerFault)
  | invalidJson (error : Json.SyntaxError)
  | invalidDocument (problems : List Problem)
  | excessiveJson (excess : Json.Excess)
  | refusedByGraph (refusal : DependencyGraph.Refusal)
  | circular (cycles : List (List String))
  | untypedColumn
  | absent (asked : Trait)
  | definition (fault : Sqlite.DefinitionFault)
  /-- What a database answered instead of rows. -/
  | database (message : String)
  | connection (message : String)
  | reader (message : String)
  deriving Repr, BEq, Inhabited

namespace Failure

def ofMigration (error : MigrationError) : Failure := .migration error none

def listed (names : List String) : String :=
  match names.mergeSort fun a b => decide (a ≤ b) with
  | [] => "none"
  | sorted => ", ".intercalate sorted

def traitName : Trait → String
  | .name => "name"
  | .columns => "columns"
  | .column => "get_column"
  | .primaryKey => "primary_key"
  | .indexes => "indexes"
  | .table => "get_table"
  | .nullable => "nullable"
  | .default => "default"
  | .unique => "unique"

def message : Failure → String
  | schema error => error.message
  | migration error _ => error.message
  | unknownDriver name available =>
    "Unknown driver '" ++ name ++ "' (available: " ++ listed available ++ ")"
  | duplicateDriver name => "Provider with ID '" ++ name ++ "' is already registered"
  | schemaFileNotFound path => "Schema file not found: " ++ path
  | disk error => error.message
  | invalidInteger fault => fault.message
  | invalidJson error => error.message
  | invalidDocument problems => Problem.reportAll Snapshot.recordName problems
  | excessiveJson excess => excess.message
  | refusedByGraph refusal => refusal.message
  | circular cycles =>
    "Circular dependencies detected:\n" ++
      "\n".intercalate (cycles.map fun cycle => "  • " ++ " → ".intercalate cycle)
  | untypedColumn => "<DbType.UNSET: 'unset'>"
  | absent asked => "'NoneType' object has no attribute '" ++ traitName asked ++ "'"
  | definition fault => fault.message
  | database message => message
  | connection message => message
  | reader message => message

def text : Failure → String
  | migration error (some cause) => error.message ++ " (caused by: " ++ cause.text ++ ")"
  | failure => failure.message

/-- Whether a failure already says what part of a migration failed. -/
def isExplained : Failure → Bool
  | schema _ | migration _ _ | unknownDriver _ _ => true
  | _ => false

def ofSnapshotFault (path : String) : Snapshot.Fault → Failure
  | .invalidJson error => .migration (.invalidSnapshot path) (some (.invalidJson error))
  | .invalidDocument problems =>
    .migration (.invalidSnapshot path) (some (.invalidDocument problems))
  | .excess excess => .excessiveJson excess

def ofSchemaFault : Schema.Fault → Failure
  | .refused error => .schema error
  | .excess excess => .excessiveJson excess

def ofComparison : Comparison.Fault → Failure
  | .refused refusal => .refusedByGraph refusal
  | .circular cycles => .circular cycles

def ofEmission : EmissionFault → Failure
  | .untypedColumn => .untypedColumn
  | .absent asked => .absent asked
  | .unnamedForeignKey table columns => ofMigration (.unnamedForeignKey table columns)

end Failure

/-- A failure of a stage, as it is reported. One that does not explain itself becomes the cause of
the failure of the stage. -/
def Failure.inStage (failure : Failure) (stage : MigrationError) : Failure :=
  if failure.isExplained then failure else .migration stage (some failure)

def guarded {α : Type} (stage : MigrationError) (result : Except Failure α) : Except Failure α :=
  result.mapError fun failure => failure.inStage stage

def Registry.require (r : Registry) (driver : String) : Except Failure Dialect :=
  match r.find? driver with
  | some d => .ok d
  | none => .error (.unknownDriver driver r.ids)

def Registry.register (r : Registry) (d : Dialect) : Except Failure Registry :=
  match r.register? d with
  | some r => .ok r
  | none => .error (.duplicateDriver d.id)

end SchemaMigration
