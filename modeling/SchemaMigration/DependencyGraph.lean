/-!
Graphs of nodes that wait for each other. Sorting always places the ready node of the lowest phase,
and among those the one that was discovered first; what cannot be placed lies on or behind a cycle.
-/

namespace SchemaMigration

inductive Reason
  | tableExists
  | columnExists
  | keyExists
  | releaseReference
  | releaseIndex
  | releaseKey
  | replace
  | columnOrdering
  deriving DecidableEq, Repr

namespace Reason

def all : List Reason :=
  [tableExists, columnExists, keyExists, releaseReference, releaseIndex, releaseKey, replace,
   columnOrdering]

def name : Reason → String
  | tableExists => "table_exists"
  | columnExists => "column_exists"
  | keyExists => "key_exists"
  | releaseReference => "release_reference"
  | releaseIndex => "release_index"
  | releaseKey => "release_key"
  | replace => "replace"
  | columnOrdering => "column_ordering"

def ofName? (s : String) : Option Reason := all.find? fun reason => reason.name == s

end Reason

namespace DependencyGraph

structure Node (α : Type) where
  id : String
  payload : α
  phase : Int
  sequence : Int
  deriving DecidableEq, Repr

/-- The source has to come before the target. -/
structure Edge where
  source : String
  target : String
  reason : Reason
  deriving DecidableEq, Repr

inductive Refusal
  | duplicateNode (id : String)
  | unknownSource (id : String)
  | unknownTarget (id : String)
  deriving DecidableEq, Repr

def Refusal.message : Refusal → String
  | duplicateNode id => "Node " ++ id ++ " already exists in graph"
  | unknownSource id => "Source node " ++ id ++ " not in graph"
  | unknownTarget id => "Target node " ++ id ++ " not in graph"

end DependencyGraph

open DependencyGraph in
structure DependencyGraph (α : Type) where
  nodes : List (Node α)
  edges : List Edge
  deriving DecidableEq, Repr

namespace DependencyGraph

variable {α : Type}

def empty : DependencyGraph α := ⟨[], []⟩

def node? (g : DependencyGraph α) (id : String) : Option (Node α) :=
  g.nodes.find? fun n => n.id == id

def hasNode (g : DependencyGraph α) (id : String) : Bool := g.nodes.any fun n => n.id == id

def addNode (g : DependencyGraph α) (n : Node α) : Except Refusal (DependencyGraph α) :=
  if g.hasNode n.id then .error (.duplicateNode n.id)
  else .ok { g with nodes := g.nodes ++ [n] }

def discover (g : DependencyGraph α) (id : String) (payload : α) (phase : Int) :
    Except Refusal (DependencyGraph α) :=
  g.addNode ⟨id, payload, phase, g.nodes.length⟩

/-- Puts an edge at the place of the one with the same ends, or at the end. -/
def placeEdge (e : Edge) : List Edge → List Edge
  | [] => [e]
  | d :: rest =>
    if d.source = e.source ∧ d.target = e.target then e :: rest else d :: placeEdge e rest

/-- Adds an edge between two nodes of the graph. No node waits for itself. -/
def addEdge (g : DependencyGraph α) (e : Edge) : Except Refusal (DependencyGraph α) :=
  if g.hasNode e.source = false then .error (.unknownSource e.source)
  else if g.hasNode e.target = false then .error (.unknownTarget e.target)
  else if e.source = e.target then .ok g
  else .ok { g with edges := placeEdge e g.edges }

def dependencies (g : DependencyGraph α) (id : String) : List Edge :=
  g.edges.filter fun e => e.target == id

def dependents (g : DependencyGraph α) (id : String) : List String :=
  (g.edges.filter fun e => e.source == id).map Edge.target

def Node.Precedes (a b : Node α) : Prop :=
  a.phase < b.phase ∨ a.phase = b.phase ∧ a.sequence < b.sequence

instance (a b : Node α) : Decidable (a.Precedes b) := by unfold Node.Precedes; infer_instance

def first? : List (Node α) → Option (Node α)
  | [] => none
  | n :: rest =>
    match first? rest with
    | some m => if m.Precedes n then some m else some n
    | none => some n

def isReady (edges : List Edge) (n : Node α) : Bool := edges.all fun e => e.target != n.id

/-- Places ready nodes one by one and takes away the edges that leave them. Gives the placed nodes
and those that never become ready. The first argument bounds the number of placed nodes. -/
def arrange : Nat → List (Node α) → List Edge → List (Node α) × List (Node α)
  | 0, waiting, _ => ([], waiting)
  | count + 1, waiting, edges =>
    match first? (waiting.filter (isReady edges)) with
    | none => ([], waiting)
    | some n =>
      let (placed, stuck) := arrange count (waiting.filter fun m => m.id != n.id)
        (edges.filter fun e => e.source != n.id)
      (n :: placed, stuck)

def arranged (g : DependencyGraph α) : List (Node α) × List (Node α) :=
  arrange g.nodes.length g.nodes g.edges

/-- The paths from `id` over nodes of `others`, each at most once, to a node with an edge to
`root`. The first argument bounds the number of nodes on the way. -/
def returning (edges : List Edge) (root : String) :
    Nat → List String → String → List (List String)
  | 0, _, _ => []
  | count + 1, others, id =>
    (edges.filter fun e => e.source == id).flatMap fun e =>
      if e.target = root then [[id]]
      else if others.contains e.target then
        (returning edges root count (others.erase e.target) e.target).map (id :: ·)
      else []

/-- The cycles through the first of some nodes, then those through the second and later ones, and
so on. -/
def cyclesAmong (edges : List Edge) : List String → List (List String)
  | [] => []
  | root :: later =>
    returning edges root (later.length + 1) later root ++ cyclesAmong edges later

def cycles (g : DependencyGraph α) : List (List String) :=
  cyclesAmong g.edges (g.arranged.2.map Node.id)

def sort (g : DependencyGraph α) : Except (List (List String)) (List (Node α)) :=
  match g.arranged with
  | (placed, []) => .ok placed
  | _ => .error g.cycles

def least (name : String) (names : List String) : String :=
  names.foldl (fun a b => if b < a then b else a) name

/-- The rotation of a cycle that starts with its smallest name. -/
def rotated : List String → List String
  | [] => []
  | name :: names =>
    let start := least name names
    (name :: names).dropWhile (· != start) ++ (name :: names).takeWhile (· != start)

/-- The order of lists of names: by the first names that differ, and a shorter list before its
continuations. -/
def namesInOrder : List String → List String → Bool
  | [], _ => true
  | _ :: _, [] => false
  | a :: as, b :: bs => if a = b then namesInOrder as bs else decide (a < b)

def namedCycles (name : String → String) (cycles : List (List String)) : List (List String) :=
  (cycles.map fun cycle => rotated (cycle.map name)).mergeSort namesInOrder

end DependencyGraph

end SchemaMigration
