import SchemaMigration.Buffer
import SchemaMigration.Emission
import SchemaMigration.Failure
import SchemaMigration.Statement.Text

/-!
Sessions: the script that is written for one schema in one dialect, with all that is remembered
while it is written.
-/

namespace SchemaMigration

structure Session where
  dialect : Dialect
  schema : Schema
  buffer : Buffer
  context : Option Context
  progress : Progress
  deriving DecidableEq, Repr

namespace Session

def start (dialect : Dialect) (schema : Schema) : Session :=
  ⟨dialect, schema, .ofSeparator dialect.separator, none, .start⟩

/-- Forgets what was written and done. -/
def restart (s : Session) : Session :=
  { s with buffer := .ofSeparator s.dialect.separator, progress := .start }

structure Outcome where
  session : Session
  failure : Option Failure

def updateBuffer (s : Session) (f : Buffer → Buffer) : Session := { s with buffer := f s.buffer }

def comment (s : Session) (text : String) : Session :=
  s.updateBuffer fun b => b.comment (commentText text)

def blankLine (s : Session) : Session := s.updateBuffer Buffer.blankLine

def heading (s : Session) (text : String) : Session := (s.comment text).blankLine

def push (s : Session) (line : String) : Session := s.updateBuffer fun b => b.push line

def commit (s : Session) (statement : String) : Session :=
  s.updateBuffer fun b => b.commit statement

def addProlog (s : Session) (statement : String) : Outcome :=
  match s.buffer.addProlog? statement with
  | some buffer => ⟨{ s with buffer }, none⟩
  | none => ⟨s, some (.ofMigration .prologAfterStatement)⟩

def useLine (s : Session) : String := s.dialect.useText s.schema.databaseName

/-- Selects the database. This is no statement, so a prolog may follow it. -/
def useDatabase (s : Session) : Session :=
  s.updateBuffer fun b => b.raw .comment (s.useLine ++ "\n")

/-- Writes a statement. The definition of a table is put together on the scratch. -/
def writeStatement (s : Session) : Statement → Session
  | .createTable t =>
    ((s.push (s.dialect.tableOpening t.name)).push (s.dialect.tableBody t)).commit
      (s.dialect.tableClosing t)
  | statement => s.commit (s.dialect.text statement)

def write (s : Session) (statements : List Statement) : Session :=
  statements.foldl writeStatement s

def writeEmission (s : Session) (progress : Progress) (emission : Emission) : Outcome :=
  ⟨{ s.write emission.statements with progress }, emission.fault.map Failure.ofEmission⟩

/-- The context of what is written; before anything is known of a run, it is empty. -/
def contextOrEmpty (s : Session) : Context :=
  s.context.getD ⟨s.dialect, .empty, .empty, [], false⟩

/-- Creates a table under a name, its own if none is given. The start of the statement stays on the
scratch if a column has no declared type. -/
def createTable (s : Session) (table : Table) (name : Option String) : Outcome :=
  let name := (Text.nonempty? name).getD table.name
  match s.contextOrEmpty.tableClause table name with
  | .ok clause => ⟨s.write [.createTable clause], none⟩
  | .error fault => ⟨s.push (s.dialect.tableOpening name), some (.ofEmission fault)⟩

/-- Drops the primary key of a table. SQLite has to rebuild the table for that, which needs the
snapshots of a run. -/
def dropPrimaryKey (s : Session) (table : Table) : Outcome :=
  if s.dialect ≠ .sqlite then ⟨s.write [.dropPrimaryKey table.name], none⟩
  else match s.context with
    | some x =>
      let (progress, emission) := Emission.Sqlite.rebuild x s.progress table.name
      s.writeEmission progress emission
    | none =>
      if s.progress.rebuilt.contains table.name then ⟨s, none⟩
      else
        let progress := { s.progress with rebuilt := table.name :: s.progress.rebuilt }
        ⟨{ s with progress }, some (.absent .table)⟩

def convertTable (s : Session) (table : Table) : Session :=
  s.write (Emission.convertTable s.dialect table).statements

def addSettings (s : Session) : List Setting → Outcome
  | [] => ⟨s, none⟩
  | setting :: rest =>
    let outcome := s.addProlog (Dialect.settingText setting)
    match outcome.failure with
    | some _ => outcome
    | none => outcome.session.addSettings rest

def writeProlog (s : Session) (x : Context) : Outcome :=
  match Emission.prolog x s.schema.charset with
  | .error fault => ⟨s, some (.ofEmission fault)⟩
  | .ok (opened, settings) =>
    { s with progress := { s.progress with rebuilding := opened.rebuilding } }.addSettings settings

def writeBody (s : Session) (x : Context) : Outcome :=
  let (progress, emission) := Emission.body x s.progress
  s.writeEmission progress emission

def applyChanges (s : Session) (x : Context) (withProlog : Bool) : Outcome :=
  let s := { s with context := some x }
  if withProlog then
    let outcome := s.writeProlog x
    match outcome.failure with
    | some _ => outcome
    | none => outcome.session.writeBody x
  else s.writeBody x

end Session

end SchemaMigration
