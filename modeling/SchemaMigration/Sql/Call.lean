import SchemaMigration.Sql.Query
import SchemaMigration.Sql.Signature

/-!
Calls of functions. Most take a list of arguments; some have words between their arguments, and a
few stand without parentheses.
-/

namespace SchemaMigration.Sql

open Reader

def queryOr (g : Grammar) (x : Reader (Option Node)) : Reader (Option Node) := do
  match ← g (.query .value) with
  | some n => return some n
  | none =>
    match ← x with
    | some n => return some (← combined g n)
    | none => return none

def arrow (g : Grammar) : Reader (Option Node) := attempt do
  if ← symbol "(" then
    let _ ← list anyName
    if !(← symbol ")") then return none
  else
    let _ ← anyName
  if ← accept (fun t => t.isSymbol "->" || t.isSymbol "=>") then
    return some (.of [← require (g .disjunction)])
  else return none

/-- An argument of a function, with what orders and bounds the rows that it is taken from. -/
def argument (g : Grammar) (named : Bool) : Reader (Option Node) := do
  match ← arrow g with
  | some n => return some n
  | none =>
    let subject ←
      if ← keyword "DISTINCT" then (fun ns => some (Node.of ns)) <$> list (g .assignment)
      else queryOr g (if named then withAlias g true (g .assignment) else g .assignment)
    if !(← words ["IGNORE", "NULLS"]) then
      let _ ← words ["RESPECT", "NULLS"]
    let order ← if ← keyword "ORDER BY" then some <$> orderItems g else pure none
    let bound ← if ← keyword "LIMIT" then some <$> require (g .term) else pure none
    match subject, order, bound with
    | some n, none, none => return some n
    | some n, some o, none => return some (.of [n, o])
    | some n, none, some b => return some (.of [n, b])
    | some n, some o, some b => return some (.of [.of [n, o], b])
    | none, none, none => return none
    | none, _, _ => failure

def callOf (function : String) (arguments : List Node) : Reader Node :=
  match Signature.of? function with
  | some s =>
    if s.admits arguments.length then
      match function, arguments with
      | "GLOB", a :: b :: _ => return .branch .call [b, a]
      | "LIKE", [a, b] => return .branch .call [b, a]
      | "LIKE", a :: b :: c :: _ => return .branch .call [.of [b, a], c]
      | _, _ => return .branch .call arguments
    else failure
  | none =>
    match function, arguments with
    | "STRFTIME", [a, b] => return .branch .call [.of [b], a]
    | _, _ => return .branch .call arguments

/-! Functions with words between their arguments, after the opening parenthesis -/

def typedCast (g : Grammar) : Reader Node := do
  let subject ← require (g .assignment)
  if ← keyword "AS" then
    let type ← require (g (.type true))
    if ← keyword "COLLATE" then
      let _ ← orElse quotedName (g .column)
    if ← keyword "CHARACTER SET" then
      let _ ← require anyWord
    if ← accept (fun t => t.isKeyword "FORMAT" || t.isSymbol ",") then
      let _ ← require stringName
    return .branch .call [subject, type]
  else
    expect (symbol ",")
    let _ ← require stringName
    return .branch .call [subject]

def typedConversion (g : Grammar) : Reader Node := do
  let subject ← require (g .bitwise)
  if ← keyword "USING" then
    let _ ← require plainWord
    return .branch .call [subject]
  else
    expect (symbol ",")
    return .branch .call [subject, ← require (g (.type true))]

def characters (g : Grammar) : Reader Node := do
  let codes ← list (g .assignment)
  if codes.isEmpty then failure
  if ← keyword "USING" then
    let _ ← require plainWord
  return .branch .call codes

def trimmed (g : Grammar) : Reader Node := do
  let _ ← wordOf ["BOTH", "LEADING", "TRAILING"]
  let first ← require (g .bitwise)
  let parts : Reader (List Node) := do
    if ← keyword "FROM" then return [← require (g .bitwise), first]
    else if ← symbol "," then return [first, ← require (g .bitwise)]
    else return [first]
  let parts ← parts
  let collation ← if ← keyword "COLLATE" then g .bitwise else pure none
  return .branch .call (parts ++ collation.toList)

def substring (g : Grammar) : Reader Node := do
  let first ← list (g .bitwise)
  let bounds ← many do
    if ← keywordOf ["FROM", "FOR"] then some <$> require (g .bitwise) else return none
  callOf "SUBSTRING" (first ++ bounds)

def extracted (g : Grammar) : Reader Node := do
  let part ← require (orElse (g .call) (orElse stringName anyWord))
  expect (accept fun t => t.isKeyword "FROM" || t.isSymbol ",")
  return .branch .call [part, ← require (g .bitwise)]

def located (g : Grammar) : Reader Node := do
  let arguments ← list (g .bitwise)
  if ← keyword "IN" then
    return .branch .call ((← require (g .bitwise)) :: arguments.take 1)
  match arguments with
  | needle :: text :: rest => return .branch .call (text :: needle :: rest.take 1)
  | _ => failure

def decoded (g : Grammar) : Reader Node := do
  let arguments ← list (g .assignment)
  if arguments.length < 2 then failure else return .branch .call arguments

def jsonObject (g : Grammar) : Reader Node := do
  if ← symbol "*" then return .branch .call []
  let entry : Reader (Option Node) := do
    let _ ← word "KEY"
    let key ← g .column
    let _ ← accept fun t => t.isSymbol ":" || t.isSymbol "," || t.isKeyword "IS"
    let _ ← word "VALUE"
    match key, ← g .bitwise with
    | none, none => return none
    | some key, some value =>
      let _ ← words ["FORMAT", "JSON"]
      return some (.of [key, value])
    | _, _ => failure
  let entries ← list entry
  if !(← words ["NULL", "ON", "NULL"]) then
    let _ ← words ["ABSENT", "ON", "NULL"]
  if !(← words ["WITH", "UNIQUE", "KEYS"]) then
    let _ ← words ["WITHOUT", "UNIQUE", "KEYS"]
  return .branch .call entries

def joinedText (g : Grammar) : Reader Node := do
  let first ←
    if ← keyword "DISTINCT" then do
      let first ← require (g .assignment)
      let rest ← if ← symbol "," then list (g .assignment) else pure []
      pure (Node.of [first] :: rest)
    else list (g .assignment)
  if ← keyword "ORDER BY" then
    let _ ← orderItems g
  callOf "GROUP_CONCAT" first

/-- The reader of a function that has words between its arguments. -/
def specialCall? (g : Grammar) (function : String) : Option (Reader Node) :=
  match function with
  | "CAST" | "TRY_CAST" | "SAFE_CAST" => some (typedCast g)
  | "CONVERT" | "TRY_CONVERT" => some (typedConversion g)
  | "CHAR" | "CHR" => some (characters g)
  | "TRIM" => some (trimmed g)
  | "SUBSTRING" => some (substring g)
  | "EXTRACT" => some (extracted g)
  | "POSITION" => some (located g)
  | "DECODE" => some (decoded g)
  | "JSON_OBJECT" | "JSON_OBJECTAGG" => some (jsonObject g)
  | "STRING_AGG" => some (joinedText g)
  | _ => none

/-! Functions without parentheses -/

def caseDistinction (g : Grammar) : Reader (Option Node) := do
  if ← sees (Token.isSymbol ".") then return none
  let subject ← g .disjunction
  let branches ← many <| after (keyword "WHEN") do
    let condition ← require (g .disjunction)
    let _ ← keyword "THEN"
    return some (.of [condition, ← require (g .disjunction)])
  let default ← if ← keyword "ELSE" then g .disjunction else pure none
  expect (keyword "END")
  if branches.isEmpty then failure
  return some (.branch .call (subject.toList ++ branches ++ default.toList))

/-- A choice between two values after its first word, nothing if no condition follows. -/
def choice (g : Grammar) : Reader (Option Node) := do
  if ← symbol "(" then
    let arguments ← closed (list (withAlias g true (g .assignment)))
    return some (← callOf "IF" arguments)
  match ← g .disjunction with
  | none => return none
  | some condition =>
    let _ ← keyword "THEN"
    let first ← require (g .disjunction)
    let second ← if ← keyword "ELSE" then g .disjunction else pure none
    let _ ← keyword "END"
    return some (.branch .call ([condition, first] ++ second.toList))

def unmarkedCall (g : Grammar) : Reader (Option Node) := attempt do
  let isPlain (t : Token) : Bool := match t with
    | .quotedName _ | .string _ => false
    | _ => t.isWordOf ["ANY", "CASE", "CONNECT_BY_ROOT", "IF"]
  match ← take? isPlain with
  | none => return none
  | some t =>
    let found ← match Text.upper t.text with
      | "ANY" => do pure (some (Node.branch .call [← require (g .bitwise)]))
      | "CASE" => caseDistinction g
      | "CONNECT_BY_ROOT" => do pure (some (Node.branch .call [← require (g .column)]))
      | _ => choice g
    match found with
    | some n => return some (← windowed g n)
    | none => return none

/-- What follows the opening parenthesis of a call. A `plain` call is read like that of a function
of which nothing is known. -/
def callBody (g : Grammar) (t : Token) (plain : Bool) : Reader Node := do
  let function := Text.upper t.text
  match if plain then none else specialCall? g function with
  | some special => return ← closed special
  | none =>
    if t.isKeywordOf ["ANY", "ALL", "EXISTS", "SOME"] then
      if ← sees (Token.isKeywordOf ["SELECT", "WITH"]) then
        return .branch .other [← closed (require (g (.query .value)))]
    let known := !plain && (Signature.of? function).isSome
    let arguments ← closed (list (argument g !known))
    if plain then return .branch .call arguments else callOf function arguments

/-- A function with its arguments. Any word may be its name if `any`; one of a few that need no
parentheses may stand without them if `optional`. -/
def call (g : Grammar) (any plain optional : Bool) : Reader (Option Node) := do
  match ← if optional then unmarkedCall g else pure none with
  | some n => return some n
  | none =>
    if ← foresees (Token.isSymbol "(") then
      match ← take? (if any then fun t => !t.isReserved else Token.isFunction) with
      | none => return none
      | some t =>
        expect (symbol "(")
        return some (← windowed g (← callBody g t plain))
    else if !optional then return none
    else if ← keywordOf Keyword.currentValues then return some (.branch .call [])
    else return none

end SchemaMigration.Sql
