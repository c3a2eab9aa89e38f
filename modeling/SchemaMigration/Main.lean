import SchemaMigration.CommandLine
import Std.Time.Format
import Std.Time.Zoned

/-!
The program: it shows the command line the files, the variables and the clock of the machine, and
carries out what is reported.
-/

namespace SchemaMigration.CommandLine

/-- Looks at a path. What cannot be read as text counts as nothing. -/
def look (path : String) : IO (Option Entry) := do
  try
    return some (.file (← IO.FS.readFile path))
  catch e =>
    match e with
    | .inappropriateType .. => return some .directory
    | _ => return none

def diskOf (paths : List String) : IO Disk := do
  let mut disk := Disk.empty
  for path in paths do
    for place in Path.placesTo path do
      match ← look place.text with
      | some (.file text) => disk := { disk with files := disk.files.insert place text }
      | some .directory => disk := { disk with directories := place :: disk.directories }
      | none => pure ()
  return disk

def writeText (place : Place) (text : String) : IO Unit := do
  IO.FS.createDirAll place.parent.text
  IO.FS.writeFile place.text text

end SchemaMigration.CommandLine

open SchemaMigration CommandLine in
def main (args : List String) : IO UInt32 := do
  let given ← [Command.driverVariable, Command.connectionVariable].filterMapM fun name =>
    return (← IO.getEnv name).map fun value => (name, value)
  let environment := fun name => given.lookup name
  match Command.ofArguments? environment args with
  | none => return UInt32.ofNat Report.misuse.exitCode
  | some command =>
    let disk ← diskOf (command.inputs ++ command.output?.toList)
    let now ← Std.Time.DateTime.now
    let report := command.run disk (now.format "uuuu-MM-dd'T'HH:mm:ssxxx")
    for (place, text) in report.written do writeText place text
    IO.print report.output
    IO.eprint report.errors
    if let some crash := report.crash then IO.eprintln crash.message
    return UInt32.ofNat report.exitCode
