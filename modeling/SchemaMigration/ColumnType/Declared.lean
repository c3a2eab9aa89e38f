import SchemaMigration.Text.Blank

/-!
Declared column types: a name with arguments in parentheses, such as `DECIMAL(10, 2)` or
`ENUM('a', 'b')`.
-/

namespace SchemaMigration

structure DeclaredType where
  name : String
  arguments : List String
  deriving DecidableEq, Repr

namespace DeclaredType

open Text

/-- Cuts at the commas outside of single quotes; `quoted` tells whether a quote is open. -/
def splitArguments (quoted : Bool) : List Char → List (List Char)
  | [] => [[]]
  | c :: rest =>
    if c = ',' ∧ quoted = false then [] :: splitArguments quoted rest
    else
      match splitArguments (if c = '\'' then !quoted else quoted) rest with
      | [] => [[c]]
      | part :: others => (c :: part) :: others

/-- The name before the parenthesis without the blanks around it. A name of blanks alone is the
last of them. -/
def nameOf? (head : List Char) : Option (List Char) :=
  match trim isBlank head with
  | [] => head.getLast?.map fun c => [c]
  | name => some name

def argumentsOf? (tail : List Char) : Option (List Char) :=
  match (trimEnd isBlank tail).reverse with
  | ')' :: inner => some inner.reverse
  | _ => none

/-- Splits a declared type at its first parenthesis, which has to be closed at the end. -/
def split? (declared : String) : Option DeclaredType := do
  let (head, tail) := declared.toList.span (· != '(')
  let name ← nameOf? head
  match tail with
  | [] => return ⟨String.ofList name, []⟩
  | _ :: tail =>
    match ← argumentsOf? tail with
    | [] => return ⟨String.ofList name, []⟩
    | inner =>
      let parts := (splitArguments false inner).map fun part => String.ofList (trim isBlank part)
      return ⟨String.ofList name, parts⟩

end DeclaredType

end SchemaMigration
