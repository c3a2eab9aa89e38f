import SchemaMigration.Sql.DataType

/-!
Queries: selections with their clauses, rows of values, and what combines them, with the tables
that they read from.
-/

namespace SchemaMigration.Sql

open Reader

/-- A part of the path to a table. A `plain` one is no call of a function. -/
def tablePart (g : Grammar) (plain : Bool) : Reader (Option Node) :=
  orElse (if plain then pure none else g .call) (orElse name stringName)

def tablePath (g : Grammar) (plain : Bool) : Reader Node := do
  let first ← require (tablePart g plain)
  return .of (first :: (← many (after (symbol ".") (some <$> require (tablePart g plain)))))

def rowsOfValues (g : Grammar) : Reader Node := do
  let row : Reader (Option Node) := do
    if ← symbol "(" then return some (.of (← closed (list (g .expression))))
    else return (← g .expression).map fun e => .of [e]
  return .branch .rows (← list row)

def valuesTable (g : Grammar) : Reader (Option Node) := do
  let enclosed ← all [Token.isSymbol "(", Token.isKeyword "VALUES"]
  if !enclosed then
    if !(← keyword "VALUES") then return none
  let rows ← rowsOfValues g
  let named ← tableAlias g Token.isTableName
  if enclosed then expect (symbol ")")
  if named.isNone then
    let _ ← tableAlias g Token.isTableName
  return some rows

def ordered (item : Reader (Option Node)) : Reader (Option Node) := do
  match ← item with
  | none => return none
  | some item =>
    let _ ← keyword "ASC"
    let _ ← keyword "DESC"
    if !(← words ["NULLS", "FIRST"]) then
      let _ ← words ["NULLS", "LAST"]
    return some (.of [item])

def orderItems (g : Grammar) : Reader Node := do
  return .of (← list (ordered (g .disjunction)))

def condition (g : Grammar) : Reader (Option Node) :=
  after (keyword "WHERE") do return some (.of [← require (g .disjunction)])

/-! Windows -/

def frameBound (g : Grammar) : Reader (List Node) := do
  let distance : Reader (Option Node) := do
    if ← Reader.word "UNBOUNDED" then return none
    else if ← words ["CURRENT", "ROW"] then return none
    else g .bitwise
  let bound ← distance
  let _ ← wordOf ["PRECEDING", "FOLLOWING"]
  return bound.toList

def windowBody (g : Grammar) : Reader (List Node) := closed do
  let _ ← nameOf fun t => t.isName && !t.isKeywordOf ["ROWS", "RANGE"]
  let partition ← if ← keyword "PARTITION BY" then list (g .disjunction) else pure []
  let order ← if ← keyword "ORDER BY" then (fun o => [o]) <$> orderItems g else pure []
  let framed ← if ← keywordOf ["ROWS", "RANGE"] then pure true else Reader.word "GROUPS"
  if !framed then return partition ++ order
  let _ ← keyword "BETWEEN"
  let first ← frameBound g
  let last ← if ← keyword "AND" then frameBound g else pure []
  if ← Reader.word "EXCLUDE" then
    if !(← words ["NO", "OTHERS"]) then
      if !(← words ["CURRENT", "ROW"]) then expect (wordOf ["GROUP", "TIES"])
  return partition ++ order ++ [.of (first ++ last)]

/-- A function with the rows that it is applied to: those of a group, those that meet a condition,
or those of a window. -/
def windowed (g : Grammar) (call : Node) : Reader Node := do
  let call ←
    if ← words ["WITHIN", "GROUP"] then
      let order ← wrapped (after (keyword "ORDER BY") (some <$> orderItems g))
      pure (Node.branch .call (call :: order.toList))
    else pure call
  let call ←
    if ← all [Token.isKeyword "FILTER", Token.isSymbol "("] then
      let _ ← keyword "WHERE"
      let filter ← closed (require (g .disjunction))
      pure (Node.branch .call [call, .of [filter]])
    else pure call
  if !(← words ["IGNORE", "NULLS"]) then
    let _ ← words ["RESPECT", "NULLS"]
  if !(← keyword "OVER") then return call
  if ← symbol "(" then return .branch .call (call :: (← windowBody g))
  let _ ← name
  return .branch .call [call]

def namedWindows (g : Grammar) : Reader Node := do
  let window : Reader (Option Node) := do
    match ← anyName with
    | none => return none
    | some _ =>
      expect (keyword "AS")
      expect (symbol "(")
      return some (.of (← windowBody g))
  return .of (← list window)

/-! Clauses -/

/-- A clause after the tables of a query, with the word by which it may occur only once. -/
def clause (g : Grammar) : Reader (Option (String × Node)) := do
  let words :=
    ["WHERE", "GROUP BY", "HAVING", "QUALIFY", "WINDOW", "ORDER BY", "LIMIT", "OFFSET"]
  match ← take? (Token.isKeywordOf words) with
  | some (.keyword word _) =>
    if word = "GROUP BY" then return some (word, .of (← list (g .disjunction)))
    else if word = "WINDOW" then return some (word, ← namedWindows g)
    else if word = "ORDER BY" then return some (word, ← orderItems g)
    else if word = "LIMIT" then
      let bound ← require (g .term)
      let rest ← if ← symbol "," then (fun n => [n]) <$> require (g .term) else pure []
      return some (word, .of (bound :: rest))
    else if word = "OFFSET" then
      let bound ← require (g .term)
      let _ ← keywordOf ["ROW", "ROWS"]
      return some (word, .of [bound])
    else return some (word, .of [← require (g .disjunction)])
  | _ => return none

def clauses (g : Grammar) : Reader (List Node) := do
  let found ← many (clause g)
  if (found.map Prod.fst).Nodup then return found.map Prod.snd else failure

/-- The words between two tables that are joined, before the last of them. -/
def joinKind : Reader (List String) := do
  let part (words : List String) : Reader (List String) := do
    match ← take? (Token.isKeywordOf words) with
    | some (.keyword word _) => return [word]
    | _ => return []
  let method ← part ["NATURAL", "ASOF"]
  let side ← part ["LEFT", "RIGHT", "FULL"]
  let kind ← part ["INNER", "OUTER", "CROSS", "SEMI", "ANTI", "STRAIGHT_JOIN"]
  return method ++ side ++ kind

def join (g : Grammar) : Reader (Option Node) := do
  if ← symbol "," then return (← tentative (g (.table false))).map fun t => .of [t]
  else attempt do
    let kind ← joinKind
    if !(← keyword "JOIN") && !kind.contains "STRAIGHT_JOIN" then return none
    let table ← require (g (.table false))
    if ← keyword "ON" then return some (.of [table, ← require (g .disjunction)])
    else if ← keyword "USING" then
      let _ ← wrapped (list anyName)
      return some (.of [table])
    else return some (.of [table])

def modified (g : Grammar) (n : Node) : Reader Node := do
  if !(n.isQuery || n.label = .rows) then return n
  let joins ← many (join g)
  return .branch n.label (n.parts ++ joins ++ (← clauses g))

def combined (g : Grammar) (n : Node) : Reader Node :=
  let step (left : Node) : Reader (Option Node) := attempt do
    let _ ← joinKind
    if !(← keywordOf ["UNION", "EXCEPT", "INTERSECT"]) then return none
    if !(← keyword "DISTINCT") then
      let _ ← keyword "ALL"
    return some (.branch .query [left, ← require (g (.query .operand))])
  continued step n

def subquery (g : Grammar) (named : Bool) (n : Node) : Reader Node := do
  if named then
    let _ ← tableAlias g Token.isTableName
  return .branch .subquery [n]

/-! Tables -/

def tableMarks (g : Grammar) (p : Token → Bool) : Reader Unit := do
  let _ ← tableAlias g p
  if ← keyword "INDEXED BY" then
    let _ ← tablePath g false
  else
    let _ ← words ["NOT", "INDEXED"]

/-- A table whose other name is of a kind; if `joins`, together with those that are joined to it. -/
def tableNamed (g : Grammar) (p : Token → Bool) (joins : Bool) : Reader Node := do
  match ← orElse (valuesTable g) (g (.query .source)) with
  | some rows => return rows
  | none =>
    let path ← tablePath g false
    let _ ← symbol "*"
    tableMarks g p
    let joined ← if joins then many (join g) else pure []
    return .of (path.parts ++ joined)

def table (g : Grammar) (joins : Bool) : Reader Node := tableNamed g Token.isTableName joins

def source (g : Grammar) : Reader (Option Node) :=
  after (keyword "FROM") do return some (.of [← table g false])

/-! Selections -/

def namedQueries (g : Grammar) : Reader Node := do
  let _ ← keyword "RECURSIVE"
  let one : Reader (Option Node) := do
    let _ ← require (tableAlias g Token.isName)
    expect (keyword "AS")
    if !(← words ["NOT", "MATERIALIZED"]) then
      let _ ← Reader.word "MATERIALIZED"
    return some (.of [← wrapped (require (g .statement))])
  let step (found : List Node) : Reader (Option (List Node)) := do
    let separated ← symbol ","
    if (← keyword "WITH") || separated then return some (found ++ (← one).toList)
    else return none
  return .of (← continued step (← one).toList)

def selection (g : Grammar) (tables : Option Node) : Reader Node := do
  let every ← if ← foresees (Token.isSymbol ".") then pure false else keyword "ALL"
  let distinct ← keyword "DISTINCT"
  if every && distinct then failure
  if distinct then
    if ← keyword "ON" then
      let _ ← wrapped (list (g .expression))
  let columns ← list (g .expression)
  let tables ← match tables with
    | some t => pure (some t)
    | none => source g
  modified g (.branch .query (columns ++ tables.toList))

/-- A query in parentheses where a table or the operand of another query may stand. -/
def enclosedQuery (g : Grammar) (place : QueryPlace) : Reader (Option Node) := do
  let inner ← if place = .source then g (.table true) else g (.query .operand)
  let inner ← match inner with
    | some n => do pure (some (← modified g (← combined g n)))
    | none => pure none
  expect (symbol ")")
  match inner with
  | some n => return some (← subquery g (place ≠ .content) n)
  | none => return none

def query (g : Grammar) (place : QueryPlace) : Reader (Option Node) := do
  if ← keyword "WITH" then
    let named ← namedQueries g
    let body ← require (g .statement)
    if body.isQuery then return some (.branch body.label (body.parts ++ [named])) else failure
  let tables ← source g
  if ← keyword "SELECT" then
    let first ← selection g tables
    if place = .operand then return some first else return some (← combined g first)
  if place ≠ .value then
    if ← symbol "(" then return ← enclosedQuery g place
  let first ←
    if ← sees (Token.isKeyword "VALUES") then valuesTable g
    else pure (tables.map fun t => .branch .query [t])
  match first with
  | some n => if place = .operand then return some n else return some (← combined g n)
  | none => return none

def content (g : Grammar) : Reader (Option Node) := do
  match ← g (.query .content) with
  | some n => return some (← modified g (← combined g n))
  | none => return none

end SchemaMigration.Sql
