import SchemaMigration.Sql.Constraint

/-!
Statements. A statement that is a command, or that creates or changes something in words which are
not read here, has no syntax tree of its own and counts as an empty one.
-/

namespace SchemaMigration.Sql

open Reader

def skipAll : Reader Node := do
  set ([] : List Token)
  return .of []

def namedProperty (g : Grammar) : Reader (Option Node) := attempt do
  match ← column g with
  | none => return none
  | some _ =>
    if ← symbol "=" then return some (.of [← require (orElse (bitwise g) anyWord)])
    else return none

def markedProperty (g : Grammar) : Reader (Option Node) := do
  let assigned : Reader (Option Node) := do
    let _ ← symbol "="
    let _ ← keyword "AS"
    part (orElse (primary g) (orElse (call g false false true) (orElse stringName anyWord)))
  if ← wordOf ["STRICT", "TEMP", "TEMPORARY", "GLOBAL", "LOCAL", "UNLOGGED", "TRANSIENT",
      "EXTERNAL", "MATERIALIZED", "VOLATILE", "HEAP", "IMMUTABLE", "STABLE", "SECURE", "MULTISET"]
  then return some (.of [])
  else if ← wordOf ["ALGORITHM", "AUTO_INCREMENT", "CHARSET", "CHARACTER SET", "COLLATE", "COMMENT",
      "ENGINE", "LOCATION", "ROW_FORMAT", "FORMAT"] then assigned
  else return none

def property (g : Grammar) : Reader (Option Node) := do
  let isDefault ← foresees (Token.isWordOf ["CHARSET", "CHARACTER SET", "COLLATE"])
  if isDefault then
    let _ ← keyword "DEFAULT"
  orElse (markedProperty g) (namedProperty g)

def properties (g : Grammar) : Reader (List Node) := many (property g)

def createdPath (g : Grammar) : Reader Node := do
  if ← word "IF" then
    let _ ← keywords ["NOT", "EXISTS"]
  tablePath g true

def createdTable (g : Grammar) (isTable : Bool) : Reader Node := do
  let path ← createdPath g
  let _ ← symbol ","
  let before ← many (markedProperty g)
  let schema ← columns g path.parts
  let after ← properties g
  let marked ← keyword "AS"
  let more ← properties g
  let found ← content g
  if found.isNone && marked then
    let _ ← tentative (some <$> tablePath g false)
  let last ← if isTable then properties g else pure []
  return .of (schema ++ found.toList ++ before ++ after ++ more ++ last)

def createdIndex (g : Grammar) : Reader Node := do
  if ← word "IF" then
    let _ ← keywords ["NOT", "EXISTS"]
  if !(← keyword "ON") then
    let _ ← anyName
    let _ ← keyword "ON"
  let _ ← keyword "TABLE"
  let path ← tablePath g true
  return .of [.of (path.parts ++ [← indexParts g])]

def created (g : Grammar) : Reader (Option Node) := do
  if ← keyword "TABLE" then return some (← createdTable g true)
  else if ← keyword "VIEW" then return some (← createdTable g false)
  else if ← keyword "INDEX" then return some (← createdIndex g)
  else return none

/-- A statement that creates something. If anything is left of it that cannot follow, it is not
read at all. -/
def creation (g : Grammar) : Reader Node := do
  let _ ← all [Token.isKeyword "OR", Token.isKeyword "REPLACE"]
  let _ ← keyword "UNIQUE"
  let _ ← properties g
  match ← created g with
  | none => skipAll
  | some n =>
    if (← get).isEmpty then return n
    else if ← sees (fun t => t.isSymbol ")" || t.isSymbol ",") then return n
    else skipAll

def returned (g : Grammar) : Reader (List Node) := do
  if ← keyword "RETURNING" then list (expression g) else return []

def deletion (g : Grammar) : Reader Node := do
  let tables ← if ← sees (Token.isKeyword "FROM") then pure [] else list (some <$> table g false)
  let source ← if ← keyword "FROM" then (fun n => [n]) <$> table g true else pure []
  let filter ← condition g
  let order ← if ← keyword "ORDER BY" then (fun n => [n]) <$> orderItems g else pure []
  let bound ← if ← keyword "LIMIT" then (fun n => [n]) <$> require (term g) else pure []
  return .branch .query (tables ++ source ++ filter.toList ++ (← returned g) ++ order ++ bound)

def update (g : Grammar) : Reader Node := do
  if ← keyword "OR" then expect (wordOf ["ABORT", "FAIL", "IGNORE", "REPLACE", "ROLLBACK"])
  let target ← tableNamed g (fun t => t.isTableName && !t.isKeyword "SET") true
  let clauses ← many do
    if ← keyword "SET" then return some (.of (← list (equality g)))
    else if ← keyword "ORDER BY" then return some (← orderItems g)
    else if ← keyword "LIMIT" then return some (.of [← require (term g)])
    else if ← keyword "RETURNING" then return some (.of (← list (expression g)))
    else orElse (source g) (condition g)
  return .branch .query (target :: clauses)

def insertion (g : Grammar) : Reader Node := do
  if ← keyword "OR" then expect (wordOf ["ABORT", "FAIL", "IGNORE", "REPLACE", "ROLLBACK"])
  let _ ← keyword "INTO"
  let _ ← keyword "TABLE"
  let target ← referred g
  if ← keyword "AS" then
    let _ ← anyName
  let before ← returned g
  let _ ← keywords ["DEFAULT", "VALUES"]
  let rows ← orElse (valuesTable g) (content g)
  let conflict ← onConflict g
  return .branch .query ([target] ++ rows.toList ++ conflict ++ before ++ (← returned g))

/-- A change of a table by columns or constraints that are added to it; any other change is not
read. -/
def alteration (g : Grammar) : Reader Node := do
  if !(← keyword "TABLE") then return ← skipAll
  if ← word "IF" then
    let _ ← keyword "EXISTS"
  let target ← referred g
  let added : Reader (Option Node) := do
    let _ ← word "ADD"
    if ← sees (Token.isWordOf ["CONSTRAINT", "PRIMARY KEY", "FOREIGN KEY"]) then
      return some (.of (← list (tableConstraint g)))
    let _ ← keyword "COLUMN"
    let found ← tableColumn g
    return found.filter fun n => n.label = .columnDefinition
  if !(← sees (Token.isWordOf ["ADD"])) then return ← skipAll
  let actions ← list added
  if (← get).isEmpty && !actions.isEmpty then return .of (target :: actions) else skipAll

def setting (g : Grammar) : Reader Node := do return .of (← expression g).toList

/-- A statement that starts with a word of its own. -/
def statementOf? (g : Grammar) (word : String) : Option (Reader Node) :=
  match word with
  | "CREATE" => some (creation g)
  | "DELETE" => some (deletion g)
  | "UPDATE" => some (update g)
  | "INSERT" => some (insertion g)
  | "ALTER" => some (alteration g)
  | "PRAGMA" => some (setting g)
  | "ANALYZE" | "ATTACH" | "BEGIN" | "CACHE" | "COMMENT" | "COMMIT" | "COPY" | "DESC" | "DESCRIBE"
  | "DETACH" | "DROP" | "GRANT" | "KILL" | "LOAD" | "MERGE" | "REFRESH" | "REVOKE" | "ROLLBACK"
  | "SET" | "TRUNCATE" | "UNCACHE" | "USE" => some skipAll
  | _ => if Keyword.commands.contains word then some skipAll else none

def statement (g : Grammar) : Reader (Option Node) := do
  match ← get with
  | .keyword word _ :: rest =>
    match statementOf? g word with
    | some special =>
      set rest
      return some (← special)
    | none => plain
  | _ => plain
where
  plain : Reader (Option Node) := do
    let found ← match ← expression g with
      | some n => do pure (some (← combined g n))
      | none => query g .value
    match found with
    | some n => return some (← modified g n)
    | none => return none

end SchemaMigration.Sql
