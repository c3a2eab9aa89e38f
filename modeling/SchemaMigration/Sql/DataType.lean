import SchemaMigration.Sql.Name

/-!
Types of columns and of conversions. Every name can be a type; the ones that are keywords may have
marks of their own after their parameters.
-/

namespace SchemaMigration.Sql

open Reader

def typeParameter (g : Grammar) : Reader (Option Node) := do
  match ← g .typed with
  | some size => do
    let _ ← anyWord
    return some (.of [size])
  | none => return none

/-- The keyword that a type starts with, or nothing if it is another name. -/
def typeName (named : Bool) : Reader (Option (Option String)) := do
  match ← take? Token.isType with
  | some (.keyword word _) => return some (some word)
  | _ =>
    if !named then return none
    match ← take? (fun t => t matches .name _ | .quotedName _) with
    | none => return none
    | some _ =>
      let _ ← many (after (symbol ".") anyToken)
      return some none

def timeZone : Reader Bool := do
  if ← words ["WITH", "TIME", "ZONE"] then return true
  else if ← words ["WITH", "LOCAL", "TIME", "ZONE"] then return true
  else words ["WITHOUT", "TIME", "ZONE"]

def typeField (g : Grammar) (named : Bool) : Reader (Option Node) := do
  if ← foresees Token.isType then g .tableItem else g (.type named)

/-- The parts of a type between its parentheses, or between angles if it has parts that are types.
Nothing is found where a parenthesis is not closed. -/
def typeParts (g : Grammar) (word : String) (named : Bool) :
    Reader (Option (Option (List Node))) := do
  let nested :=
    if Keyword.fieldTypes.contains word then list (typeField g named) else list (g (.type named))
  let isNested := Keyword.nestedTypes.contains word
  if ← symbol "(" then
    let parts ← if isNested then nested else list (typeParameter g)
    return if ← symbol ")" then some (some parts) else none
  else if isNested then
    if ← symbol "<" then
      let parts ← nested
      expect (symbol ">")
      return some (some parts)
    else return some none
  else return some none

/-- A type whose values are lists of another; no expressions may follow the word for an array. -/
def listed (g : Grammar) (type : Node) : Reader Node := do
  let lists ← many (after (keyword "LIST") (pure (some ())))
  let type := lists.foldl (fun n _ => .branch (.type true) [n]) type
  let array ← attempt <| after (keyword "ARRAY") do
    if (← list (g .disjunction)).isEmpty then return some () else return none
  return if array.isSome then .branch (.type true) [type] else type

/-- A type. One that is `checked` is no function: if it has parameters, a string follows. -/
def dataType (g : Grammar) (checked named : Bool) : Reader (Option Node) := attempt do
  match ← typeName named with
  | none => return none
  | some keyword =>
    let word := keyword.getD ""
    let isCall ← sees (Token.isSymbol "(")
    match ← typeParts g word named with
    | none => return none
    | some parts =>
      let zoned ← if Keyword.zonedTypes.contains word then timeZone else pure false
      if word = "INTERVAL" then
        let _ ← plainWord
      let isString (t : Token) : Bool := t matches .string _
      if checked && isCall && !zoned && !(← sees isString) then return none
      if word = "NULLABLE" && parts.isNone then return none
      if keyword.isSome && !zoned then
        if ← Reader.word "UNSIGNED" then
          expect (pure (Keyword.signedTypes.contains word))
      let parts := parts.getD []
      return some (← listed g (.branch (.type !parts.isEmpty) parts))

end SchemaMigration.Sql
