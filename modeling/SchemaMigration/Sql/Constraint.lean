import SchemaMigration.Sql.Expression

/-!
The columns and constraints of a table. A constraint starts with a word of its own, and a word that
does not go on as a constraint may still be the name of a column.
-/

namespace SchemaMigration.Sql

open Reader

def constraintWords : List String :=
  ["AUTOINCREMENT", "AUTO_INCREMENT", "BUCKET", "CASESPECIFIC", "CHARACTER SET", "CHECK",
   "CLUSTERED", "COLLATE", "COMMENT", "COMPRESS", "DEFAULT", "ENCODE", "EPHEMERAL", "EXCLUDE",
   "FOREIGN KEY", "FORMAT", "GENERATED", "IDENTITY", "INLINE", "LIKE", "NONCLUSTERED", "NOT",
   "NULL", "ON", "PATH", "PERIOD", "PRIMARY KEY", "REFERENCES", "TITLE", "TRUNCATE", "TTL",
   "UNIQUE", "UPPERCASE", "WITH"]

def tableConstraintWords : List String :=
  ["BUCKET", "CHECK", "EXCLUDE", "FOREIGN KEY", "LIKE", "PERIOD", "PRIMARY KEY", "TRUNCATE",
   "UNIQUE"]

/-- The columns of a table in parentheses after something. A query in parentheses is none of
them. -/
def columns (g : Grammar) (subject : List Node) : Reader (List Node) := do
  if !(← sees (Token.isSymbol "(")) then return subject
  if ← foresees (fun t => t.isSymbol "(" || t.isKeywordOf ["SELECT", "WITH"]) then return subject
  expect (symbol "(")
  return [.of (subject ++ (← closed (list (g .tableItem))))]

def referred (g : Grammar) : Reader Node := do
  let path ← tablePath g true
  let _ ← symbol "*"
  return .of (← columns g path.parts)

def keyAction : Reader Bool := do
  if ← words ["NO", "ACTION"] then return true
  else if ← words ["SET", "NULL"] then return true
  else if ← words ["SET", "DEFAULT"] then return true
  else wordOf ["CASCADE", "RESTRICT"]

def keyOption : Reader (Option Unit) := do
  if ← keyword "ON" then
    let _ ← require anyToken
    expect keyAction
    return some ()
  let firstOf (word : String) (others : List String) : Reader Bool :=
    all [Token.isWordOf [word], Token.isWordOf others]
  if ← wordOf ["DEFERRABLE", "NORELY", "RELY"] then return some ()
  else if ← firstOf "NOT" ["ENFORCED"] then return some ()
  else if ← firstOf "MATCH" ["FULL", "PARTIAL", "SIMPLE"] then return some ()
  else if ← firstOf "INITIALLY" ["DEFERRED", "IMMEDIATE"] then return some ()
  else if ← firstOf "USING" ["BTREE", "HASH"] then return some ()
  else return none

def keyOptions : Reader Unit := do
  let _ ← many keyOption

def reference (g : Grammar) : Reader Node := do
  let table ← referred g
  keyOptions
  return .of [table]

def foreignKey (g : Grammar) : Reader Node := do
  if !(← sees (Token.isKeyword "REFERENCES")) then
    let _ ← wrapped (list anyName)
  let reference ← if ← keyword "REFERENCES" then some <$> reference g else pure none
  let _ ← many <| after (keyword "ON") do
    expect (keywordOf ["DELETE", "UPDATE"])
    if !(← words ["NO", "ACTION"]) then
      if ← keyword "SET" then
        let _ ← keywordOf ["NULL", "DEFAULT"]
      else
        let _ ← require (take? fun _ => true)
    return some ()
  keyOptions
  return .of reference.toList

def indexItem (g : Grammar) : Reader (Option Node) := do
  let item : Reader (Option Node) := do
    match ← g .disjunction with
    | none => return none
    | some n =>
      if ← sees (Token.isWordOf ["ASC", "DESC", "NULLS", "WITH"]) then return some n
      else if ← sees (fun t => t.isSymbol "," || t.isSymbol ")") then return some n
      else return some (.of [n, ← tablePath g false])
  match ← ordered item with
  | none => return none
  | some n =>
    if ← keyword "WITH" then
      let _ ← require (take? fun _ => true)
    return some n

def indexParts (g : Grammar) : Reader Node := do
  if ← keyword "USING" then
    let _ ← anyWord
  let items ←
    if ← sees (Token.isSymbol "(") then wrapped (list (indexItem g)) else pure []
  if ← word "INCLUDE" then
    let _ ← wrapped (list anyName)
  let partition ← if ← keyword "PARTITION BY" then list (g .disjunction) else pure []
  let filter ← condition g
  let place ← if ← keyword "ON" then field g false false else pure none
  return .of (items ++ partition ++ filter.toList ++ place.toList)

/-- A primary key after the words that open it. One without parentheses is that of a column. -/
def primaryKey (g : Grammar) : Reader Node := do
  let _ ← keywordOf ["ASC", "DESC"]
  if ← sees (Token.isSymbol "(") then
    let columns ← wrapped (list (field g false false))
    if columns.isEmpty then failure
    let parts ← indexParts g
    keyOptions
    return .of (columns ++ [parts])
  else
    keyOptions
    return .of []

def conflictKeys (g : Grammar) : Reader (List Node) := do
  if ← words ["ON", "CONSTRAINT"] then return (← anyName).toList
  else if ← symbol "(" then closed (list (indexItem g))
  else return []

def conflictUpdates : Reader Bool := do
  if ← words ["DO", "NOTHING"] then return false
  else if ← words ["DO", "UPDATE"] then return true
  else if ← word "UPDATE" then return true
  else
    expect (wordOf ["ABORT", "FAIL", "IGNORE", "REPLACE", "ROLLBACK"])
    return false

def onConflict (g : Grammar) : Reader (List Node) := do
  let conflict ← words ["ON", "CONFLICT"]
  let duplicate ← if conflict then pure false else words ["ON", "DUPLICATE", "KEY"]
  if !conflict && !duplicate then return []
  let keys ← if conflict then conflictKeys g else pure []
  let filter ← condition g
  if !(← conflictUpdates) then return keys ++ filter.toList
  let _ ← keyword "SET"
  let changes ← list (g .equality)
  return keys ++ changes ++ filter.toList ++ (← condition g).toList

/-- A constraint of uniqueness after its word. It stands alone if another constraint follows. -/
def uniqueness (g : Grammar) : Reader Node := do
  if ← sees (fun token => constraintWords.contains (Text.upper token.text)) then return .of []
  let _ ← wordOf ["KEY", "INDEX"]
  let _ ← words ["NULLS", "NOT", "DISTINCT"]
  let columns ← columns g (← name).toList
  if ← keyword "USING" then
    let _ ← anyToken
  let conflict ← onConflict g
  keyOptions
  return .of (columns ++ conflict)

def generated (g : Grammar) : Reader Node := do
  if ← words ["BY", "DEFAULT"] then
    let _ ← words ["ON", "NULL"]
  else
    let _ ← word "ALWAYS"
  let _ ← keyword "AS"
  if ← word "ROW" then
    if !(← word "START") then
      let _ ← keyword "END"
    let _ ← word "HIDDEN"
    return .of []
  let identity ← word "IDENTITY"
  if !(← symbol "(") then return .of []
  let bound (opening : Reader Bool) : Reader (List Node) := do
    if ← opening then return (← bitwise g).toList else return []
  let start ← bound (keyword "START WITH")
  let step ← bound (words ["INCREMENT", "BY"])
  let least ← bound (word "MINVALUE")
  let most ← bound (word "MAXVALUE")
  if !(← word "CYCLE") then
    let _ ← words ["NO", "CYCLE"]
  let value ←
    if !identity then do pure (← range g).toList
    else if start.isEmpty then list (bitwise g)
    else pure []
  return .of (← closed (pure (start ++ step ++ least ++ most ++ value)))

def template (g : Grammar) : Reader Node := do
  let table ← referred g
  let _ ← many <| after (wordOf ["INCLUDING", "EXCLUDING"]) (some <$> require anyName)
  return .of [table]

def part (x : Reader (Option Node)) : Reader (Option Node) := do
  return some (.of [← require x])

/-- A constraint after the word that it starts with; nothing if it is none. -/
def constraintOf (g : Grammar) (constraint : String) : Reader (Option Node) := do
  match constraint with
  | "AUTOINCREMENT" | "AUTO_INCREMENT" | "IDENTITY" =>
    if ← sees (Token.isSymbol "(") then return some (.of (← wrapped (list (bitwise g))))
    else if ← word "START" then
      let start ← bitwise g
      let _ ← word "INCREMENT"
      return some (.of (start.toList ++ (← bitwise g).toList))
    else return some (.of [])
  | "BUCKET" | "TRUNCATE" =>
    if ← sees (Token.isSymbol "(") then
      return some (.of (← wrapped (list (orElse (primary g) (column g)))))
    else return none
  | "CASESPECIFIC" | "UPPERCASE" => return some (.of [])
  | "CHARACTER SET" | "FORMAT" | "TITLE" => part (orElse stringName anyWord)
  | "CHECK" =>
    if ← symbol "(" then
      let condition ← closed (require (assignment g))
      let _ ← word "ENFORCED"
      return some (.of [condition])
    else return none
  | "CLUSTERED" | "NONCLUSTERED" =>
    return some (.of (← wrapped (list (ordered (disjunction g)))))
  | "COLLATE" => part (orElse quotedName (column g))
  | "COMMENT" | "PATH" => part (orElse stringName placeholder)
  | "COMPRESS" =>
    if ← sees (Token.isSymbol "(") then return some (.of (← wrapped (list (bitwise g))))
    else return some (.of (← bitwise g).toList)
  | "DEFAULT" => part (bitwise g)
  | "ENCODE" => part plainWord
  | "EPHEMERAL" | "INLINE" => return some (.of (← bitwise g).toList)
  | "EXCLUDE" => part (some <$> indexParts g)
  | "FOREIGN KEY" => some <$> foreignKey g
  | "GENERATED" => some <$> generated g
  | "LIKE" => some <$> template g
  | "NOT" =>
    if ← keyword "NULL" then return some (.of [])
    else if ← word "CASESPECIFIC" then return some (.of [])
    else if ← words ["FOR", "REPLICATION"] then return some (.of [])
    else return none
  | "NULL" => return some (.of [])
  | "ON" =>
    if ← keyword "UPDATE" then part (call g false false true)
    else part anyName
  | "PRIMARY KEY" => some <$> primaryKey g
  | "REFERENCES" => some <$> reference g
  | "TTL" => part (bitwise g)
  | "UNIQUE" => some <$> uniqueness g
  | _ => return none

def constraint (g : Grammar) (words : List String) : Reader (Option Node) := attempt do
  match ← take? (Token.isWordOf words) with
  | some token => constraintOf g (Text.upper token.text)
  | none => return none

/-- A constraint of a column, perhaps after its name. The name may stand alone. -/
def columnConstraint (g : Grammar) : Reader (Option Node) := attempt do
  let named ← if ← keyword "CONSTRAINT" then anyName else pure none
  match ← constraint g constraintWords with
  | some n => return some (.of [n])
  | none => return named

/-- The expression that a column is computed from. One that stands after the type may be stored. -/
def computation (g : Grammar) (typed : Bool) : Reader (Option Node) := do
  let isParenthesized ← foresees (Token.isSymbol "(")
  if typed && isParenthesized then
    if ← keyword "AS" then
      let value ← require (disjunction g)
      let _ ← wordOf ["STORED", "VIRTUAL"]
      return some (.of [.of [value]])
  let marked ← if typed then pure false else keyword "AS"
  let marked ← if marked then pure true else wordOf ["ALIAS", "MATERIALIZED"]
  if !marked then return none
  let value ← require (assignment g)
  let _ ← word "PERSISTED"
  let _ ← keywords ["NOT", "NULL"]
  return some (.of [.of [value]])

/-- What follows the name of a column: its type and constraints. -/
def columnOf (g : Grammar) (named : Option Node) : Reader (Option Node) := do
  let type ← dataType g false true
  if type.isSome then
    if ← keyword "ARRAY" then
      let _ ← list (disjunction g)
  let computed ← computation g type.isSome
  let constraints ← many (columnConstraint g)
  let marks := type.toList ++ computed.toList ++ constraints
  if marks.isEmpty then return named
  match named with
  | some n => return some (.branch .columnDefinition (n :: marks))
  | none => failure

def tableColumn (g : Grammar) : Reader (Option Node) := do
  columnOf g (← field g true false)

def tableConstraint (g : Grammar) : Reader (Option Node) := do
  if ← keyword "CONSTRAINT" then
    let _ ← require anyName
    let unquoted := do
      if ← sees (fun token => token matches .quotedName _) then return none
      else constraint g constraintWords
    let found ← many (orElse unquoted (call g false false true))
    if found.isEmpty then failure else return some (.of found)
  else if ← sees (fun token => token matches .quotedName _) then return none
  else constraint g tableConstraintWords

def tableItem (g : Grammar) : Reader (Option Node) := orElse (tableConstraint g) (tableColumn g)

end SchemaMigration.Sql
