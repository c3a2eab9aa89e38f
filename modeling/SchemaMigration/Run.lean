import SchemaMigration.Migration

/-!
Runs of a migration. A run opens a connection, reads the current snapshot, compares it with the
schema and writes the script; it closes the connection however far it came, and then hands the
finished script over once.
-/

namespace SchemaMigration

namespace Session

def writeHead (s : Session) (generatedAt : String) : Session :=
  let s := s.comment "Automatically generated migration script"
  let s := s.comment ("Generated at " ++ generatedAt)
  s.blankLine.useDatabase.blankLine

def compare (s : Session) (skipsConstraints : Bool) (current target : Snapshot) :
    Except Failure Context :=
  match (Comparison.mk current target s.dialect.rules skipsConstraints).difference with
  | .ok d => .ok ⟨s.dialect, current, target, d.changes, skipsConstraints⟩
  | .error fault => guarded .cannotCompare (.error (.ofComparison fault))

def Outcome.guarded (stage : MigrationError) (o : Outcome) : Outcome :=
  { o with failure := o.failure.map fun failure => failure.inStage stage }

end Session

inductive Stage
  | connecting
  | reading
  | projecting
  | comparing
  | prolog
  | body
  deriving DecidableEq, Repr

/-- What can be seen of a run. -/
inductive RunEvent
  | opened
  | passed (stage : Stage)
  | closed
  | delivered (fragments : List Fragment)
  deriving DecidableEq, Repr

structure Run where
  session : Session
  connection : Option Connection
  events : List RunEvent

/-- A step of a run. What was done before a failure stays done. -/
abbrev RunM := ExceptT Failure (StateM Run)

namespace RunM

def note (event : RunEvent) : RunM Unit :=
  modify fun r => { r with events := r.events ++ [event] }

def stage {α : Type} (stage : Stage) : Except Failure α → RunM α
  | .ok a => do
    note (.passed stage)
    return a
  | .error failure => throw failure

def changeSession (f : Session → Session) : RunM Unit :=
  modify fun r => { r with session := f r.session }

/-- A stage that writes. What it wrote before a failure stays written. -/
def writeStage (stage : Stage) (write : Session → Session.Outcome) : RunM Unit := do
  let outcome := write (← get).session
  changeSession fun _ => outcome.session
  match outcome.failure with
  | none => note (.passed stage)
  | some failure => throw failure

def openConnection (e : Executor) : RunM Unit := do
  let dialect := (← get).session.dialect
  match e.connect dialect e.configuration.connectionString with
  | .error failure => throw (.migration .cannotConnect (some failure))
  | .ok connection =>
    modify fun r => { r with connection := some connection }
    if connection.closes then note .opened
    note (.passed .connecting)

/-- Closes the connection that the run holds. From then on it holds none. -/
def closeConnection : RunM Unit := do
  let held := (← get).connection
  modify fun r => { r with connection := none }
  match held with
  | none => return
  | some connection =>
    if connection.closes then note .closed
    match connection.fault? with
    | none => return
    | some failure => throw failure

def readCurrent (e : Executor) : RunM Snapshot := do
  let r ← get
  let connection := r.connection.getD .absent
  stage .reading (guarded .cannotReadCurrent (e.readCurrent r.session.dialect connection))

def keep (found : Context → Context) : RunM Unit :=
  changeSession fun s => { s with context := some (found s.contextOrEmpty) }

/-- Writes the script. Every stage finds what the stages before it have found out in the session,
which still knows the context of the run before. -/
def writeScript (e : Executor) (generatedAt : String) : RunM Unit := do
  changeSession fun s => s.writeHead generatedAt
  let current ← readCurrent e
  keep fun x => { x with current, skipsConstraints := e.configuration.skipsConstraints }
  let s := (← get).session
  let target ← stage .projecting (s.dialect.projection.project s.schema)
  keep fun x => { x with target }
  let s := (← get).session
  let x := s.contextOrEmpty
  let compared ← stage .comparing (s.compare x.skipsConstraints x.current x.target)
  keep fun _ => compared
  writeStage .prolog fun s => (s.writeProlog s.contextOrEmpty).guarded .cannotWriteProlog
  writeStage .body fun s => (s.writeBody s.contextOrEmpty).guarded .cannotApply

def deliver (e : Executor) : RunM (List Fragment) := do
  let fragments := (← get).session.buffer.fragments
  note (.delivered fragments)
  match e.receive fragments with
  | .ok () => return fragments
  | .error failure => throw failure

/-- A whole run. The connection is closed before the script is handed over and before a failure of
the script gets out. -/
def execute (e : Executor) (generatedAt : String) : RunM (List Fragment) := do
  changeSession Session.restart
  openConnection e
  try
    writeScript e generatedAt
  finally
    closeConnection
  deliver e

end RunM

structure RunResult where
  result : Except Failure (List Fragment)
  events : List RunEvent
  session : Session

def Session.execute (s : Session) (e : Executor) (generatedAt : String) : RunResult :=
  let (result, run) := (RunM.execute e generatedAt).run.run ⟨s, none, []⟩
  ⟨result, run.events, run.session⟩

def Executor.run (e : Executor) (generatedAt : String) :
    Except Failure (List Fragment) × List RunEvent :=
  match e.newSession with
  | .error failure => (.error failure, [])
  | .ok session =>
    let done := session.execute e generatedAt
    (done.result, done.events)

end SchemaMigration
