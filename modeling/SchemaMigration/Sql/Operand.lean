import SchemaMigration.Sql.Call

/-!
The operands of expressions: literals, columns, function calls and what stands in parentheses, with
the operators that bind more strongly than all others.
-/

namespace SchemaMigration.Sql

open Reader

def parenthesis (g : Grammar) : Reader (Option Node) := after (symbol "(") do
  let items ← match ← g (.query .value) with
    | some n => pure [some n]
    | none => slots (g .expression)
  let found := items.filterMap id
  match found with
  | [] => do
    expect (symbol ")")
    return some (.of [])
  | first :: _ =>
    if first.label = .query then
      return some (.branch .subquery [← closed (pure first)])
    else if first.label = .subquery || first.label = .rows then
      let whole ← modified g (← combined g first)
      return some (.branch .subquery [← closed (pure whole)])
    else if found.length > 1 || (items.length > 1 && (items.getLast?.bind id).isNone) then
      return some (.of (← closed (pure found)))
    else
      let whole : Node := .branch .parenthesized (← closed (pure found))
      if first.label = .call then return some (← windowed g whole) else return some whole

/-- A literal, or what stands in parentheses. Strings one after the other are one value. -/
def primary (g : Grammar) : Reader (Option Node) := do
  match ← get with
  | .string text :: rest =>
    let isString (t : Token) : Bool := t matches .string _
    set (rest.dropWhile isString)
    let more := rest.takeWhile isString
    let leaf (s : String) : Node := .leaf (.string s)
    return some (if more.isEmpty then leaf text
      else .of (leaf text :: more.map fun t => leaf t.text))
  | .markedString _ :: rest =>
    set rest
    return some (.of [])
  | .number _ :: rest =>
    set rest
    return some (.leaf .number)
  | .symbol "." :: .number _ :: rest =>
    set rest
    return some (.leaf .number)
  | .symbol "*" :: rest =>
    set rest
    if ← wordOf ["EXCEPT", "EXCLUDE"] then
      if ← sees (Token.isSymbol "(") then
        return some (.branch .star (← wrapped (list (g .expression))))
      else return some (.branch .star (← withAlias g true (g .disjunction)).toList)
    else return some (.leaf .star)
  | .keyword "NULL" _ :: rest =>
    set rest
    return some (.of [])
  | .keyword "TRUE" _ :: rest =>
    set rest
    return some (.of [])
  | .keyword "FALSE" _ :: rest =>
    set rest
    return some (.of [])
  | _ => parenthesis g

/-- A literal, a call or a name. Any token may be the name if `any`; a `plain` call comes before
a literal. -/
def field (g : Grammar) (any plain : Bool) : Reader (Option Node) :=
  let found :=
    if plain then orElse (call g any true true) (primary g)
    else orElse (primary g) (call g any false true)
  orElse found (if any then anyName else name)

def columnReference (g : Grammar) : Reader (Option Node) := do
  let found ← field g false false
  let isUncalled ← foresees fun t => !t.isSymbol "("
  let isLast := (← get).length = 1
  let found ←
    if found.isNone && (isUncalled || isLast) then
      if ← sees (Token.isKeyword "VALUES") then anyName else pure none
    else pure found
  match found with
  | some (.branch (.name _ text) _) => return some (.leaf (.column [text]))
  | other => return other

def selected (left part : Node) : Node :=
  match left, part.label with
  | _, .call => .of [left, part]
  | .branch (.column path) _, _ =>
    if path.length < 4 then .branch (.column (path ++ [part.text])) [part] else .of [left, part]
  | _, _ => .of [left, part]

def isPathOperator (t : Token) : Bool :=
  match t with
  | .symbol s => ["->", "->>", "#>", "#>>", "?"].contains s
  | _ => false

def selection? (g : Grammar) (left : Node) : Reader (Option Node) :=
  after (symbol ".") do return some (selected left (← require (field g true true)))

def bracedTime : Reader (Option Node) := attempt do
  let isKind (t : Token) : Bool := (t matches .name _) && t.isWordOf ["D", "T", "TS"]
  if !(← accept isKind) then return none
  let _ ← stringName
  return some (.of [])

/-- A record in braces, whose parts may have names before colons; or a time or call in braces. -/
def braced (g : Grammar) : Reader (Option Node) := after (symbol "\x7b") do
  if ← word "FN" then
    let found ← require (g .call)
    let _ ← symbol "\x7d"
    return some found
  let part : Reader (Option Node) := do
    match ← withAlias g true (g .assignment) with
    | none => return none
    | some n =>
      if ← symbol ":" then return some (.of [← require (g .assignment)])
      return some n
  let found ← match ← bracedTime with
    | some n => pure n
    | none => Node.of <$> list part
  expect (symbol "\x7d")
  return some found

/-- An operand with the types, parts and paths that follow it. -/
def refined (g : Grammar) (operand : Node) : Reader Node :=
  let step (left : Node) : Reader (Option Node) := do
    if ← accept (fun t => t.isSymbol "::" || t.isSymbol "?::") then
      return some (.branch .call [left, ← require (g (.type true))])
    else if ← accept isPathOperator then
      let part ← require (orElse (columnReference g) (g .bitwise))
      let isColumn := part.label matches .column _
      let part ← if isColumn then continued (selection? g) part else pure part
      return some (.branch .call [left, part])
    else orElse (selection? g left) (braced g)
  continued step operand

def column (g : Grammar) : Reader (Option Node) := do
  match ← orElse (columnReference g) (braced g) with
  | some n => return some (← refined g n)
  | none => return none

def interval (g : Grammar) : Reader (Option Node) := attempt do
  if !(← keyword "INTERVAL") then return none
  let isString (t : Token) : Bool := t matches .string _
  let amount ← if ← sees isString then primary g else g .term
  match amount with
  | none => return none
  | some amount =>
    let isUnit ← sees (Token.isWordOf ["YEAR", "MONTH", "WEEK", "DAY", "HOUR", "MINUTE", "SECOND"])
    let isEnd := (← get).isEmpty
    match amount.label with
    | .column [_] => if !isUnit && !isEnd then return none
    | _ => pure ()
    if !(← sees (Token.isKeyword "AS")) then
      let _ ← orElse (g .call) anyWord
    return some (.of [amount])

def typed (g : Grammar) : Reader (Option Node) := do
  match ← interval g with
  | some n => return some (← refined g n)
  | none =>
    let value ← attempt do
      match ← dataType g true false with
      | none => return none
      | some type =>
        let after ← get
        match ← primary g with
        | some value =>
          if value.label matches .string _ | .number then
            return some (Node.branch .call [← refined g value, type])
        | none => pure ()
        set after
        if type.label = .type true then return some (← refined g type) else return none
    match value with
    | some n => return some n
    | none => column g

def unary (g : Grammar) : Reader (Option Node) := do
  if ← symbol "+" then g .unary
  else if ← keyword "NOT" then return some (.of [← require (g .equality)])
  else if ← accept (fun t => t.isSymbol "-" || t.isSymbol "~") then
    return some (.of [← require (g .unary)])
  else typed g

end SchemaMigration.Sql
