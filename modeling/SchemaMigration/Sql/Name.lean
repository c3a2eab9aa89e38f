import SchemaMigration.Sql.Reader

/-!
Names and the places where they stand: which tokens may be a name differs from place to place.
-/

namespace SchemaMigration.Sql

open Reader

def anyToken : Reader (Option Token) := take? fun t => !t.isReserved

def placeholder : Reader (Option Node) := attempt do
  if ← symbol "?" then return some (.of [])
  else if ← symbol ":" then
    let isKey (t : Token) : Bool := t.isName || (t matches .number _)
    return (← take? isKey).map fun _ => .of []
  else if ← symbol "@" then
    return (← anyToken).map fun _ => .of []
  else return none

/-- A name in quotes, or a placeholder. -/
def quotedName : Reader (Option Node) := do
  match ← take? (fun t => t matches .quotedName _) with
  | some t => return some (.leaf (.name true t.text))
  | none => placeholder

def asName (t : Token) : Node := .leaf (.name (t matches .string _) t.text)

def nameOf (p : Token → Bool) : Reader (Option Node) :=
  orElse quotedName (do return (← take? p).map asName)

def anyName : Reader (Option Node) := nameOf fun t => !t.isReserved || t.isName

def name : Reader (Option Node) := nameOf Token.isName

def stringName : Reader (Option Node) := do
  return (← take? (fun t => t matches .string _)).map asName

def plainWord : Reader (Option Node) :=
  orElse (do return (← take? (fun t => t matches .name _)).map fun _ => .of []) placeholder

def anyWord : Reader (Option Node) :=
  orElse (do return (← take? fun t => !t.isReserved).map fun _ => .of []) placeholder

/-- Whether the clause that bounds the number of rows follows, and no name like its first word. -/
def seesBound (g : Grammar) : Reader Bool := do
  if !(← sees (Token.isKeywordOf ["LIMIT", "OFFSET"])) then return false
  let ts ← get
  let bound ← tentative (after (keywordOf ["LIMIT", "OFFSET"]) (g .term))
  set ts
  return bound.isSome

/-- Something with another name, which may stand without the word before it unless it is
`explicit`. -/
def aliased (g : Grammar) (explicit : Bool) (subject : Node) : Reader Node := do
  if ← seesBound g then return subject
  let marked ← keyword "AS"
  if explicit && !marked then return subject
  if ← symbol "(" then
    let _ ← closed (list (if marked then anyName else name))
    return .of [subject]
  match ← orElse (if marked then anyName else name) stringName with
  | some _ => return .of [subject]
  | none => return subject

/-- Whatever is read with another name after it, if anything is read. -/
def withAlias (g : Grammar) (explicit : Bool) (x : Reader (Option Node)) :
    Reader (Option Node) := do
  match ← x with
  | some subject => return some (← aliased g explicit subject)
  | none => if ← sees (Token.isKeyword "AS") then failure else return none

def tableAlias (g : Grammar) (p : Token → Bool) : Reader (Option Node) := do
  if ← seesBound g then return none
  let marked ← keyword "AS"
  let other ← orElse (if marked then anyName else nameOf p) stringName
  let columns ← attempt <| after (symbol "(") do
    let column : Reader (Option Node) := do
      match ← anyName with
      | some _ => return some (.of (← g (.type true)).toList)
      | none => return none
    match ← list column with
    | [] => return none
    | columns =>
      expect (symbol ")")
      return some (Node.of columns)
  return if other.isSome then some (.of columns.toList) else columns

end SchemaMigration.Sql
