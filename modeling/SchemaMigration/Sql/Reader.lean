import SchemaMigration.Sql.Token
import SchemaMigration.Sql.Tree

/-!
Readers of syntax. A reader takes tokens from the front of a text, or fails because the text is no
SQL. One that may find nothing there gives nothing and leaves the tokens to the next.
-/

namespace SchemaMigration.Sql

abbrev Reader := StateT (List Token) Option

namespace Reader

variable {α β : Type}

def take? (p : Token → Bool) : Reader (Option Token) := fun ts =>
  match ts with
  | t :: rest => if p t then some (some t, rest) else some (none, t :: rest)
  | [] => some (none, [])

def accept (p : Token → Bool) : Reader Bool := Option.isSome <$> take? p

def sees (p : Token → Bool) : Reader Bool := do return ((← get).head?.map p).getD false

def foresees (p : Token → Bool) : Reader Bool := do return ((← get)[1]?.map p).getD false

def symbol (mark : String) : Reader Bool := accept (Token.isSymbol mark)
def keyword (word : String) : Reader Bool := accept (Token.isKeyword word)
def keywordOf (words : List String) : Reader Bool := accept (Token.isKeywordOf words)
def word (word : String) : Reader Bool := accept (Token.isWordOf [word])
def wordOf (words : List String) : Reader Bool := accept (Token.isWordOf words)

/-- What a reader finds; if it is nothing, no token is taken. -/
def attempt (x : Reader (Option α)) : Reader (Option α) := fun ts =>
  match x ts with
  | some (none, _) => some (none, ts)
  | result => result

/-- What a reader finds, nothing if it fails. -/
def tentative (x : Reader (Option α)) : Reader (Option α) := fun ts =>
  match x ts with
  | some (some a, rest) => some (some a, rest)
  | _ => some (none, ts)

def all (kinds : List (Token → Bool)) : Reader Bool := fun ts =>
  if kinds.length ≤ ts.length && (kinds.zip ts).all fun (p, t) => p t then
    some (true, ts.drop kinds.length)
  else some (false, ts)

def keywords (words : List String) : Reader Bool := all (words.map Token.isKeyword)
def words (words : List String) : Reader Bool := all (words.map fun w => Token.isWordOf [w])

def expect (x : Reader Bool) : Reader Unit := do
  if !(← x) then failure

def require (x : Reader (Option α)) : Reader α := do
  match ← x with
  | some a => return a
  | none => failure

def orElse (x y : Reader (Option α)) : Reader (Option α) := do
  match ← x with
  | some a => return some a
  | none => y

def after (x : Reader Bool) (y : Reader (Option α)) : Reader (Option α) := do
  if ← x then y else return none

def closed (x : Reader α) : Reader α := do
  let a ← x
  expect (symbol ")")
  return a

def wrapped (x : Reader α) : Reader α := do
  expect (symbol "(")
  closed x

/-- Items with commas between them; each may be missing. Every item takes one unit of fuel. -/
def slotsFrom (item : Reader (Option α)) : Nat → Reader (List (Option α))
  | 0 => failure
  | fuel + 1 => do
    let a ← item
    if ← symbol "," then return a :: (← slotsFrom item fuel)
    else return [a]

def slots (item : Reader (Option α)) : Reader (List (Option α)) := do
  slotsFrom item ((← get).length + 1)

def list (item : Reader (Option α)) : Reader (List α) := do
  return (← slots item).filterMap id

/-- Goes on from a result as long as a step finds another. Every step takes one unit of fuel. -/
def continuedFrom (step : α → Reader (Option α)) : Nat → α → Reader α
  | 0, _ => failure
  | fuel + 1, a => do
    match ← step a with
    | some b => continuedFrom step fuel b
    | none => return a

def continued (step : α → Reader (Option α)) (a : α) : Reader α := do
  continuedFrom step ((← get).length + 2) a

/-- As many items as are found one after the other. -/
def many (item : Reader (Option α)) : Reader (List α) := do
  let found ← continued
    (fun found => do
      match ← item with
      | some a => return some (a :: found)
      | none => return none)
    []
  return found.reverse

/-- An operand and those after it, with operators between them that bind to the left. No operator
may stand without an operand before it. -/
def chain (operator : Reader Bool) (first next : Reader (Option Node)) :
    Reader (Option Node) := do
  match ← first with
  | none => if ← operator then failure else return none
  | some left =>
    let step (left : Node) : Reader (Option Node) := do
      if ← operator then return some (.of [left, ← require next]) else return none
    return some (← continued step left)

end Reader

/-- Where a query stands, on which it depends how much belongs to it. -/
inductive QueryPlace
  | value
  | operand
  | source
  | content
  deriving DecidableEq, Repr

inductive Phrase
  | expression
  | assignment
  | disjunction
  | equality
  | range
  | bitwise
  | term
  | unary
  | typed
  | column
  | type (named : Bool)
  | call
  | query (place : QueryPlace)
  | table (joins : Bool)
  | tableItem
  | statement
  deriving DecidableEq, Repr

abbrev Grammar := Phrase → Reader (Option Node)

end SchemaMigration.Sql
