import SchemaMigration.Emission.Mysql
import SchemaMigration.Emission.Postgres
import SchemaMigration.Emission.SqlServer
import SchemaMigration.Emission.Sqlite

/-!
The statements of a whole run: the settings of its prolog, the statements of each change, and what
closes it.
-/

namespace SchemaMigration.Emission

def emit (x : Context) (p : Progress) (c : Change) : Progress × Emission :=
  match x.dialect with
  | .mysql => Mysql.emit x p c
  | .postgres => Postgres.emit x p c
  | .sqlite => Sqlite.emit x p c
  | .sqlServer => SqlServer.emit x p c

/-- The statements for changes in their order, up to the first fault. -/
def emitAll (x : Context) (p : Progress) : List Change → Progress × Emission
  | [] => (p, of [])
  | c :: rest =>
    match emit x p c with
    | (p, emission) =>
      match emission.fault with
      | some _ => (p, emission)
      | none =>
        let (p, others) := emitAll x p rest
        (p, emission ++ others)

/-- The settings that come before all statements of a run. In SQLite, foreign keys are not enforced
while tables are rebuilt, so that dropping an old table takes no rows with it. -/
def prolog (x : Context) (charset : String) : Except EmissionFault (Progress × List Setting) :=
  let always (settings : List Setting) : Progress × List Setting :=
    (.start, if x.changes = [] then [] else settings)
  match x.dialect with
  | .mysql => .ok (always [.names charset])
  | .postgres => .ok (always [.utf8Encoding])
  | .sqlServer => .ok (always [.ansiNulls, .quotedIdentifiers])
  | .sqlite => do
    let rebuilding ← Sqlite.tablesToRebuild x
    let touchesKeys := x.changes.any fun c => c.kind == .addForeignKey || c.kind == .dropForeignKey
    let settings :=
      if rebuilding ≠ [] then [Setting.foreignKeys false]
      else if touchesKeys then [Setting.foreignKeys true]
      else []
    return ({ Progress.start with rebuilding }, settings)

def body (x : Context) (p : Progress) : Progress × Emission :=
  let (p, emission) := emitAll x p x.changes
  (p, emission ++ of (if p.rebuilding = [] then [] else [.set (.foreignKeys true)]))

end SchemaMigration.Emission
