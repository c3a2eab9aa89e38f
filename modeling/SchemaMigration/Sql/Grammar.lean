import SchemaMigration.Sql.Scanner
import SchemaMigration.Sql.Statement

/-!
The whole grammar: every phrase is read by the phrases inside of it. A text is one statement after
the other, and it has syntax trees only if all of them can be read.
-/

namespace SchemaMigration.Sql

def phrase (g : Grammar) : Phrase → Reader (Option Node)
  | .expression => expression g
  | .assignment => assignment g
  | .disjunction => disjunction g
  | .equality => equality g
  | .range => range g
  | .bitwise => bitwise g
  | .term => term g
  | .unary => unary g
  | .typed => typed g
  | .column => column g
  | .type named => dataType g false named
  | .call => call g false false false
  | .query place => query g place
  | .table joins => some <$> table g joins
  | .tableItem => tableItem g
  | .statement => statement g

/-- The grammar of phrases that are at most `depth` inside of each other. -/
def grammar : Nat → Grammar
  | 0 => fun _ => failure
  | depth + 1 => phrase (grammar depth)

/-- No phrase is so deep in a text; between two tokens there are fewer than twenty. -/
def depthOf (ts : List Token) : Nat := 20 * (ts.length + 1)

def statements (ts : List Token) : List (List Token) :=
  match ts with
  | [] => [[]]
  | t :: rest =>
    if t.isSymbol ";" then if rest.isEmpty then [[]] else [] :: statements rest
    else match statements rest with
      | first :: others => (t :: first) :: others
      | [] => [[t]]

/-- The tree of a statement, if there is one, provided that all its tokens are read. -/
def parseStatement (ts : List Token) : Option (Option Node) :=
  match (grammar (depthOf ts) .statement).run ts with
  | some (found, []) => some found
  | _ => none

def parse (ts : List Token) : Option Node := do
  let trees ← (statements ts).mapM parseStatement
  (trees.head?.bind id)

end SchemaMigration.Sql
