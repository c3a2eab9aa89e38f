import SchemaMigration.Sql.Operand

/-!
Expressions, by how strongly their operators bind. Each level has its operands in the next, and
comparisons with lists, ranges and patterns stand between the bits and the order of values.
-/

namespace SchemaMigration.Sql

open Reader

def symbolOf (marks : List String) : Reader Bool :=
  accept fun t => match t with
    | .symbol s => marks.contains s
    | _ => false

def zoned (g : Grammar) : Reader (Option Node) := do
  match ← unary g with
  | none => return none
  | some n =>
    let step (left : Node) : Reader (Option Node) := do
      if ← words ["AT", "TIME", "ZONE"] then return some (.of [left, ← require (unary g)])
      else return none
    return some (← continued step n)

/-- Products and quotients. The word for whole quotients may be a name if nothing follows it. -/
def factor (g : Grammar) : Reader (Option Node) := do
  match ← zoned g with
  | none => if ← symbolOf ["*", "/", "<->"] then failure else return none
  | some first =>
    let whole (left : Node) : Reader (Option Node) := attempt do
      if ← keyword "DIV" then return (← unary g).map fun right => .of [left, right]
      else return none
    let step (left : Node) : Reader (Option Node) := do
      if ← symbolOf ["*", "/", "<->"] then return some (.of [left, ← require (unary g)])
      else whole left
    return some (← continued step first)

def term (g : Grammar) : Reader (Option Node) :=
  let operator : Reader Bool := do
    if ← symbolOf ["-", "+", "%"] then return true else keyword "COLLATE"
  chain operator (factor g) (factor g)

def bitwise (g : Grammar) : Reader (Option Node) :=
  let operator : Reader Bool := do
    if ← symbolOf ["&", "^", "|", "||", "??"] then return true
    else if ← all [Token.isSymbol "<", Token.isSymbol "<"] then return true
    else all [Token.isSymbol ">", Token.isSymbol ">"]
  chain operator (term g) (term g)

/-! Comparisons with lists, ranges and patterns -/

def membership (g : Grammar) (subject : Node) : Reader Node := do
  if ← symbol "(" then
    match ← list (queryOr g (g .assignment)) with
    | [value] =>
      if value.isQuery then
        return .branch .memberOf [subject, ← closed (modified g value)]
      else return .branch .member (subject :: (← closed (pure [value])))
    | values => return .branch .member (subject :: (← closed (pure values)))
  else return .branch .memberOf (subject :: (← g .column).toList)

def between (g : Grammar) (subject : Node) : Reader Node := do
  if !(← word "SYMMETRIC") then
    let _ ← word "ASYMMETRIC"
  let low ← require (bitwise g)
  let _ ← keyword "AND"
  return .of [subject, low, ← require (bitwise g)]

def pattern (g : Grammar) (subject : Node) : Reader Node := do
  let match? : Node := .of [subject, ← require (bitwise g)]
  if ← keyword "ESCAPE" then
    let isNull ← keyword "NULL"
    if !isNull then
      let _ ← require (orElse stringName placeholder)
    return .of [match?]
  else return match?

/-- What a subject may be said to be: a document, nothing, or the same as another operand. -/
def identified (g : Grammar) (subject : Node) : Reader (Option Node) := do
  if ← keyword "JSON" then
    let _ ← wordOf ["VALUE", "SCALAR", "OBJECT", "ARRAY"]
    if ← wordOf ["WITH", "WITHOUT"] then
      let _ ← keyword "UNIQUE"
      let _ ← word "KEYS"
    return some (.of [subject])
  else if ← keywordOf ["NULL", "UNKNOWN"] then return some (.of [subject])
  else return (← bitwise g).map fun n => .of [subject, n]

/-- What a subject is after the word that says so; nothing if nothing follows. -/
def identity (g : Grammar) (subject : Node) : Reader (Option Node) := do
  let negated ← keyword "NOT"
  if ← words ["DISTINCT", "FROM"] then
    return some (.of [subject, ← require (bitwise g)])
  match ← identified g subject with
  | some n => return some (← refined g (if negated then .of [n] else n))
  | none => return none

def comparison? (g : Grammar) (subject : Node) : Reader (Option Node) := attempt do
  if ← keyword "IN" then return some (← membership g subject)
  else if ← keyword "BETWEEN" then return some (← between g subject)
  else if ← keyword "IS" then identity g subject
  else if ← keywordOf ["LIKE", "GLOB", "MATCH", "ILIKE", "RLIKE", "SIMILAR TO", "OVERLAPS"] then
    return some (← pattern g subject)
  else if ← symbolOf ["~*", "&<", "&>", "-|-"] then return some (← pattern g subject)
  else return none

/-- An operand with one comparison after it, and a second one only if it says what the first is. -/
def range (g : Grammar) : Reader (Option Node) := do
  match ← bitwise g with
  | none =>
    if ← sees (Token.isKeywordOf ["IN", "BETWEEN", "LIKE", "GLOB", "ILIKE", "RLIKE", "SIMILAR TO",
        "NOTNULL"]) then failure
    else return none
  | some subject =>
    let negated ← keyword "NOT"
    let compared ← match ← comparison? g subject with
      | some n => pure n
      | none =>
        if ← keyword "ISNULL" then pure (.of [subject])
        else if !negated then pure subject
        else if ← keyword "NULL" then pure (.of [subject])
        else pure subject
    let compared ← if ← keyword "NOTNULL" then pure (.of [.of [compared]]) else pure compared
    let compared := if negated then .of [compared] else compared
    let identified ← attempt <| after (keyword "IS") (identity g compared)
    return some (identified.getD compared)

/-! The levels above -/

def comparison (g : Grammar) : Reader (Option Node) :=
  chain (symbolOf ["<", "<=", ">", ">="]) (range g) (range g)

def equality (g : Grammar) : Reader (Option Node) :=
  chain (symbolOf ["=", "<>", "<=>"]) (comparison g) (comparison g)

def conjunction (g : Grammar) : Reader (Option Node) :=
  chain (keyword "AND") (equality g) (equality g)

def disjunction (g : Grammar) : Reader (Option Node) :=
  chain (keyword "OR") (conjunction g) (conjunction g)

def assignment (g : Grammar) : Reader (Option Node) := do
  match ← disjunction g with
  | none => return none
  | some subject =>
    if ← symbol ":=" then return some (.of [subject, ← require (g .assignment)])
    else return some subject

def expression (g : Grammar) : Reader (Option Node) := withAlias g false (assignment g)

end SchemaMigration.Sql
