/-!
Paths and the places that they lead to. A path is written as steps between slashes; a step `..`
takes back the step before it, and an empty step or a step `.` stays where it is.
-/

namespace SchemaMigration

inductive Origin
  | root
  | here
  deriving DecidableEq, Repr

/-- A place on a disk, with the steps to it. Steps `..` lead out of the place where the program
runs; no other step stands before them. -/
structure Place where
  origin : Origin
  steps : List String
  deriving DecidableEq, Repr

namespace Place

def start (origin : Origin) : Place := ⟨origin, []⟩

/-- Whether a place is the root, the place where the program runs, or a place around that one. -/
def isOuter (p : Place) : Bool := p.steps.all (· == "..")

def parent (p : Place) : Place :=
  match p.origin with
  | .root => { p with steps := p.steps.dropLast }
  | .here => if p.isOuter then { p with steps := p.steps ++ [".."] }
    else { p with steps := p.steps.dropLast }

def step (p : Place) (s : String) : Place :=
  if s = "" ∨ s = "." then p
  else if s = ".." then p.parent
  else { p with steps := p.steps ++ [s] }

def isInside (p outer : Place) : Bool :=
  p.origin == outer.origin && p.steps != outer.steps && outer.steps.isPrefixOf p.steps

def text (p : Place) : String :=
  match p.origin, p.steps with
  | .root, steps => "/" ++ "/".intercalate steps
  | .here, [] => "."
  | .here, steps => "/".intercalate steps

theorem step_empty (p : Place) : p.step "" = p := rfl

theorem isOuter_start (origin : Origin) : (start origin).isOuter = true := rfl

end Place

namespace Path

def steps (path : String) : List String := (path.split '/').toList.map String.Slice.copy

def origin (path : String) : Origin := if path.startsWith "/" then .root else .here

def place (path : String) : Place := (steps path).foldl Place.step (.start (origin path))

def placesTo (path : String) : List Place :=
  (steps path).foldl (fun places step =>
    match places.getLast? with
    | some place => places ++ [place.step step]
    | none => []) [.start (origin path)]

/-- How a path starts once it is normalized: at the root, at the place that two slashes stand for,
or where the program runs. -/
def opening : List Char → String
  | ['/', '/'] => "//"
  | '/' :: '/' :: c :: _ => if c = '/' then "/" else "//"
  | '/' :: _ => "/"
  | _ => ""

def ofSteps (opening : String) (steps : List String) : String :=
  let whole := opening ++ "/".intercalate steps
  if whole = "" then "." else whole

/-- The steps of a path without those that stay where they are. -/
def properSteps (path : String) : List String :=
  (steps path).filter fun step => step != "" && step != "."

def normalized (path : String) : String := ofSteps (opening path.toList) (properSteps path)

end Path

end SchemaMigration
