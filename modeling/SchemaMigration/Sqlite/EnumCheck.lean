import SchemaMigration.Sql.Grammar

/-!
The values of a column that has one of a list of values, as the definition of its table says it:
the least deep comparison of the column with a list counts, and the first of them if there are
several.
-/

namespace SchemaMigration.Sqlite

inductive DefinitionFault
  | unreadable (text : Sql.UnreadableText)
  | tooDeep
  deriving DecidableEq, Repr

def DefinitionFault.message : DefinitionFault → String
  | unreadable text => "Error tokenizing '" ++ text.context ++ "'"
  | tooDeep => "maximum recursion depth exceeded"

def nestingLimit : Nat := 40

def comparedValues (tree : Sql.Node) (column : String) : List String :=
  ((tree.nodes.find? (Sql.Node.compares column)).map Sql.Node.values).getD []

/-- The values that a table definition limits a column to, none if they cannot be found. -/
def enumValues (definition column : String) : Except DefinitionFault (List String) := do
  let ts ← (Sql.tokens definition).mapError .unreadable
  match Sql.parse ts with
  | some tree =>
    if nestingLimit < tree.nesting then throw .tooDeep
    return comparedValues tree column
  | none => return []

end SchemaMigration.Sqlite
