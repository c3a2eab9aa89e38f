/-!
Syntax trees of SQL, as far as anything is asked of them: columns, strings and comparisons with
lists are told apart, and of everything else only the parts count.
-/

namespace SchemaMigration.Sql

inductive Label
  | name (quoted : Bool) (text : String)
  /-- A column with the names before it; the last one is its own. -/
  | column (path : List String)
  | string (text : String)
  | number
  | star
  | query
  | subquery
  | rows
  | call
  | parenthesized
  | member
  | memberOf
  | type (arguments : Bool)
  | columnDefinition
  | other
  deriving DecidableEq, Repr

inductive Node
  | branch (label : Label) (parts : List Node)
  deriving Repr

namespace Node

def label : Node → Label
  | branch label _ => label

def parts : Node → List Node
  | branch _ parts => parts

def of (parts : List Node) : Node := branch .other parts

def leaf (label : Label) : Node := branch label []

def text : Node → String
  | branch (.name _ text) _ => text
  | branch (.string text) _ => text
  | branch (.column path) _ => path.getLast?.getD ""
  | branch .star _ => "*"
  | _ => ""

def string? : Node → Option String
  | branch (.string text) _ => some text
  | _ => none

def isQuery : Node → Bool
  | branch .query _ | branch .subquery _ => true
  | _ => false

/-- Layers of two trees, one above the other, joined side by side. -/
def beside {α : Type} : List (List α) → List (List α) → List (List α)
  | [], bs => bs
  | as, [] => as
  | a :: as, b :: bs => (a ++ b) :: beside as bs

mutual

/-- The nodes of a tree by their depth, in each depth in the order of the text. -/
def layers : Node → List (List Node)
  | branch label parts => [branch label parts] :: layersOf parts

def layersOf : List Node → List (List Node)
  | [] => []
  | node :: rest => beside node.layers (layersOf rest)

end

def nodes (n : Node) : List Node := n.layers.flatten

def encloses (n : Node) : Bool :=
  match n.label with
  | .parenthesized | .subquery | .call | .member => true
  | _ => false

mutual

/-- How many nodes that enclose their parts lie inside of each other. -/
def nesting : Node → Nat
  | branch label parts => nestingOf parts + if (leaf label).encloses then 1 else 0

def nestingOf : List Node → Nat
  | [] => 0
  | node :: rest => max node.nesting (nestingOf rest)

end

def compares (column : String) : Node → Bool
  | branch .member (branch (.column path) _ :: _)
  | branch .memberOf (branch (.column path) _ :: _) => path.getLast? == some column
  | _ => false

def values : Node → List String
  | branch .member (_ :: values) => values.filterMap string?
  | _ => []

end Node

end SchemaMigration.Sql
