import SchemaMigration.CommandLine.Arguments
import SchemaMigration.CommandLine.Console
import SchemaMigration.Run

/-!
The command line: which command some arguments ask for, and what the command prints and writes.
-/

namespace SchemaMigration.CommandLine

structure MigrateOptions where
  schemaFile : String
  driver : String
  connectionString : Option String
  currentSnapshot : Option String
  skipsConstraints : Bool
  output : Option String
  deriving DecidableEq, Repr

structure SnapshotOptions where
  driver : String
  connectionString : Option String
  schemaFile : Option String
  output : String
  deriving DecidableEq, Repr

inductive Command
  | version
  | migrate (options : MigrateOptions)
  | snapshot (options : SnapshotOptions)
  | drivers
  | types
  deriving DecidableEq, Repr

/-- Why a command ends without a message of its own. -/
inductive Crash
  | failure (failure : Failure)
  | markup (fault : Markup.Fault)
  deriving Repr

def Crash.message : Crash → String
  | failure f => f.message
  | markup fault => fault.message

structure Report where
  exitCode : Nat
  output : String
  errors : String
  written : List (Place × String)
  crash : Option Crash
  deriving Repr

namespace Report

def misuse : Report := ⟨2, "", "", [], none⟩

def printed (text : String) : Report := ⟨0, text, "", [], none⟩

def crashed (crash : Crash) (written : List (Place × String)) : Report :=
  ⟨1, "", "", written, some crash⟩

/-- The report of a failure, which is a crash unless the failure explains itself. -/
def failed (failure : Failure) : Report :=
  if failure.isExplained then
    match Console.message ("[red]✗ Error:[/red] " ++ failure.text) with
    | .ok shown => ⟨1, "", shown, [], none⟩
    | .error fault => crashed (.markup fault) []
  else crashed (.failure failure) []

def wrote (result : Except Failure Disk) (path text subject : String) : Report :=
  match result with
  | .error failure => crashed (.failure failure) []
  | .ok _ =>
    let written := [(Path.place path, text)]
    match Console.message ("[green]✓[/green] " ++ subject ++ " written to " ++
      Path.normalized path) with
    | .ok shown => ⟨0, shown, "", written, none⟩
    | .error fault => crashed (.markup fault) written

end Report

namespace Command

def driverOption : OptionSpec := ⟨"--driver", some 'd', true⟩
def connectionOption : OptionSpec := ⟨"--connection-string", some 'c', true⟩
def outputOption : OptionSpec := ⟨"--output", some 'o', true⟩
def currentOption : OptionSpec := ⟨"--current-snapshot", none, true⟩
def schemaOption : OptionSpec := ⟨"--schema", none, true⟩
def skipOption : OptionSpec := ⟨"--no-constraints-or-indexes", none, false⟩
def versionOption : OptionSpec := ⟨"--version", none, false⟩
def verboseOption : OptionSpec := ⟨"--verbose", some 'v', false⟩

def driverVariable : String := "DDLFORGE_DRIVER"

def connectionVariable : String := "DDLFORGE_CONNECTION_STRING"

/-- The value of an option, or of the environment's variable that stands in for it. -/
def valueOr (environment : String → Option String) (a : Arguments) (spec : OptionSpec)
    (name : String) : Option String :=
  a.value? spec.long <|> Text.nonempty? (environment name)

def driverOf (environment : String → Option String) (a : Arguments) : String :=
  (valueOr environment a driverOption driverVariable).getD Configuration.defaultDriver

def connectionOf (environment : String → Option String) (a : Arguments) : Option String :=
  valueOr environment a connectionOption connectionVariable

def migrate? (environment : String → Option String) (args : List String) : Option Command := do
  let specs := [driverOption, connectionOption, currentOption, skipOption, outputOption]
  let a ← Arguments.parse? specs true .empty args
  match a.positional with
  | [schemaFile] => return .migrate {
      schemaFile
      driver := driverOf environment a
      connectionString := connectionOf environment a
      currentSnapshot := a.value? currentOption.long
      skipsConstraints := a.has skipOption.long
      output := a.value? outputOption.long }
  | _ => none

def snapshot? (environment : String → Option String) (args : List String) : Option Command := do
  let a ← Arguments.parse? [driverOption, connectionOption, schemaOption, outputOption] true .empty
    args
  match a.positional, a.value? outputOption.long with
  | [], some output => return .snapshot {
      driver := driverOf environment a
      connectionString := connectionOf environment a
      schemaFile := a.value? schemaOption.long
      output }
  | _, _ => none

def plain? (c : Command) (args : List String) : Option Command := do
  let a ← Arguments.parse? [] true .empty args
  if a.positional = [] then some c else none

/-- The command that arguments ask for, none if they ask for none. -/
def ofArguments? (environment : String → Option String) (args : List String) : Option Command := do
  let a ← Arguments.parse? [versionOption, verboseOption] false .empty args
  if a.has versionOption.long then return .version
  match a.positional with
  | [] => none
  | "migrate" :: rest => migrate? environment rest
  | "snapshot" :: rest => snapshot? environment rest
  | "drivers" :: rest => plain? .drivers rest
  | "types" :: rest => plain? .types rest
  | _ => none

def inputs : Command → List String
  | .migrate o => o.schemaFile :: o.currentSnapshot.toList
  | .snapshot o => o.schemaFile.toList
  | _ => []

def output? : Command → Option String
  | .migrate o => o.output
  | .snapshot o => some o.output
  | _ => none

/-- A command reads files that exist and writes no directory. -/
def isPossible (disk : Disk) (c : Command) : Bool :=
  let isFile (path : String) : Bool :=
    match disk.look path with
    | .ok (.file _) => true
    | _ => false
  let isDirectory (path : String) : Bool :=
    match disk.look path with
    | .ok .directory => true
    | _ => false
  c.inputs.all isFile && c.output?.all fun path => !isDirectory path

def runMigrate (disk : Disk) (generatedAt : String) (o : MigrateOptions) : Report :=
  let executor : Executor := {
    configuration := {
      schemaFile := some o.schemaFile
      connectionString := o.connectionString
      skipsConstraints := o.skipsConstraints
      driver := o.driver
      currentSnapshot := o.currentSnapshot }
    registry := .builtin
    disk
    schema := none
    connectionFactory := none
    currentReader := none
    receive := fun _ => .ok () }
  match (executor.run generatedAt).1, o.output with
  | .error failure, _ => .failed failure
  | .ok fragments, some path =>
    let script := Fragment.render fragments
    .wrote ((disk.write path script).mapError Failure.disk) path script "SQL"
  | .ok fragments, none => .printed (Console.script (Fragment.render fragments))

def takeSnapshot (disk : Disk) (o : SnapshotOptions) : Except Failure Snapshot := do
  let dialect ← Registry.builtin.require o.driver
  match o.schemaFile with
  | some path => dialect.projection.project (← Schema.ofFile disk path)
  | none => dialect.capture (dialect.connect disk) o.connectionString

def runSnapshot (disk : Disk) (o : SnapshotOptions) : Report :=
  match takeSnapshot disk o with
  | .error failure => .failed failure
  | .ok taken =>
    .wrote (taken.toFile disk o.output) o.output taken.toText
      ("Snapshot of " ++ toString taken.tables.size ++ " table(s)")

def driverRow (d : Dialect) : List String :=
  [d.id, d.profile.name, if d.profile.hasLiveReader then "yes" else "no", d.profile.description]

def driverTable : String :=
  Console.table "Drivers" ["Driver", "Name", "Live reader", "Description"]
    (Registry.builtin.dialects.values.map driverRow)

def typeRow (t : ColumnType) : List String :=
  let spellings := t.spellingsOf.mergeSort fun a b => decide (a ≤ b)
  [t.name, if t.requiresLength then "required" else "", ", ".intercalate spellings]

def typeTable : String :=
  Console.table "Column types" ["Type", "Length", "Spellings"]
    ((ColumnType.all.filter (· != .unset)).map typeRow)

def run (disk : Disk) (generatedAt : String) (c : Command) : Report :=
  if !c.isPossible disk then .misuse
  else match c with
    | .version => .printed ("ddlforge, version " ++ Dialect.version ++ "\n")
    | .migrate options => runMigrate disk generatedAt options
    | .snapshot options => runSnapshot disk options
    | .drivers => .printed driverTable
    | .types => .printed typeTable

end Command

def run (disk : Disk) (environment : String → Option String) (generatedAt : String)
    (args : List String) : Report :=
  match Command.ofArguments? environment args with
  | some command => command.run disk generatedAt
  | none => .misuse

end SchemaMigration.CommandLine
