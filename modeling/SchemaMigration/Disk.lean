import SchemaMigration.Disk.Path
import SchemaMigration.OrderedMap
import SchemaMigration.Sqlite.Catalog
import SchemaMigration.Text.Blank
import SchemaMigration.Text.Shown

/-!
Disks: files and directories at their places, and the databases that can be opened there. A path is
followed step by step, and every step has to start in a directory. Writing a file makes the
directories on the way to it.
-/

namespace SchemaMigration

inductive Entry
  | file (text : String)
  | directory
  deriving DecidableEq, Repr

inductive DiskFault
  | missing
  | occupied
  | notDirectory
  | isDirectory
  | nameTooLong
  deriving DecidableEq, Repr

namespace DiskFault

def number : DiskFault → Nat
  | missing => 2
  | occupied => 17
  | notDirectory => 20
  | isDirectory => 21
  | nameTooLong => 36

def words : DiskFault → String
  | missing => "No such file or directory"
  | occupied => "File exists"
  | notDirectory => "Not a directory"
  | isDirectory => "Is a directory"
  | nameTooLong => "File name too long"

end DiskFault

structure DiskError where
  fault : DiskFault
  path : String
  deriving DecidableEq, Repr

def DiskError.message (e : DiskError) : String :=
  "[Errno " ++ toString e.fault.number ++ "] " ++ e.fault.words ++ ": " ++ Text.shown e.path

/-- What a database engine does with a path: it opens the database there, which may be a new one, or
says why it does not. -/
abbrev Engine := String → Except String Sqlite.Catalog

def Engine.refusing : Engine := fun _ => .error "unable to open database file"

structure Disk where
  files : OrderedMap Place String
  directories : List Place
  engine : Engine := .refusing

namespace Disk

def empty : Disk where
  files := .empty
  directories := []

def ofFiles (files : List (String × String)) : Disk :=
  { empty with files := .ofList (files.map fun (path, text) => (Path.place path, text)) }

/-- What stands at a place. The place where the program runs, what lies around it, and whatever
something lies in are directories. -/
def entry? (d : Disk) (p : Place) : Option Entry :=
  match d.files.find? p with
  | some text => if p.isOuter then some .directory else some (.file text)
  | none =>
    if p.isOuter || d.directories.contains p ||
        (d.files.keys ++ d.directories).any fun inner => inner.isInside p
    then some .directory else none

theorem entry?_of_isOuter {d : Disk} {p : Place} (h : p.isOuter = true) :
    d.entry? p = some .directory := by
  unfold entry?
  cases d.files.find? p <;> simp [h]

def stepLimit : Nat := 255

def pathLimit : Nat := 4095

def follow (d : Disk) (p : Place) : List String → Except DiskFault Place
  | [] => .ok p
  | step :: rest =>
    match d.entry? p with
    | none => .error .missing
    | some (.file _) => .error .notDirectory
    | some .directory =>
      if stepLimit < step.utf8ByteSize then .error .nameTooLong
      else d.follow (p.step step) rest

def look (d : Disk) (path : String) : Except DiskFault Entry :=
  if path = "" then .error .missing
  else if pathLimit < path.utf8ByteSize then .error .nameTooLong
  else match d.follow (.start (Path.origin path)) (Path.steps path) with
    | .error fault => .error fault
    | .ok place =>
      match d.entry? place with
      | some entry => .ok entry
      | none => .error .missing

/-- The text of the file that a path leads to, in which every line ends in a line feed; none if the
path leads to nothing. -/
def read? (d : Disk) (path : String) : Except DiskError (Option String) :=
  match d.look path with
  | .ok (.file text) => .ok (some (String.ofList (Text.normalizeLineEnds text.toList)))
  | .ok .directory => .error ⟨.isDirectory, path⟩
  | .error .missing | .error .notDirectory => .ok none
  | .error fault => .error ⟨fault, path⟩

def makeDirectory (d : Disk) (origin : Origin) (steps : List String) : Except DiskFault Disk :=
  match d.follow (.start origin) steps with
  | .error fault => .error fault
  | .ok place =>
    match d.entry? place with
    | some .directory => .ok d
    | some (.file _) => .error .occupied
    | none => .ok { d with directories := place :: d.directories }

/-- Makes a directory, and if something is missing on the way to it first the directory around it.
The steps are given from the last one to the first. -/
def makeDirectories (d : Disk) (opening : String) (origin : Origin) :
    List String → Except DiskError Disk
  | [] => .ok d
  | step :: before =>
    let steps := (step :: before).reverse
    let named (fault : DiskFault) : DiskError := ⟨fault, Path.ofSteps opening steps⟩
    match d.makeDirectory origin steps with
    | .ok made => .ok made
    | .error .missing =>
      match d.makeDirectories opening origin before with
      | .ok made => (made.makeDirectory origin steps).mapError named
      | .error e => .error e
    | .error fault => .error (named fault)

/-- Makes the directories on the way to a path. -/
def makeParents (d : Disk) (path : String) : Except DiskError Disk :=
  let path := Path.normalized path
  d.makeDirectories (Path.opening path.toList) (Path.origin path)
    (Path.properSteps path).dropLast.reverse

def put (d : Disk) (path text : String) : Except DiskError Disk :=
  let path := Path.normalized path
  if pathLimit < path.utf8ByteSize then .error ⟨.nameTooLong, path⟩
  else match d.follow (.start (Path.origin path)) (Path.properSteps path) with
    | .error fault => .error ⟨fault, path⟩
    | .ok place =>
      match d.entry? place with
      | some .directory => .error ⟨.isDirectory, path⟩
      | _ => .ok { d with files := d.files.insert place text }

def write (d : Disk) (path text : String) : Except DiskError Disk := do
  (← d.makeParents path).put path text

end Disk

end SchemaMigration
