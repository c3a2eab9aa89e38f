import SchemaMigration.Sql.Token
import SchemaMigration.Text.Blank
import SchemaMigration.Text.Integer
import SchemaMigration.Text.Quoted

/-!
The tokens of an SQL text. Names stand in one of three kinds of quotes or in none, a closing quote
inside of a quoted token is written twice, and comments do not nest. A text has no tokens if a
quote or comment is not closed, or if a hexadecimal string has other characters than digits.
-/

namespace SchemaMigration.Sql

inductive Defect
  | opened
  | unfinished
  | doubled
  | digits (left : Nat)
  deriving DecidableEq, Repr

/-- How many characters of a text were passed when a defect was found. -/
def Defect.position (size : Nat) : Defect → Nat
  | opened => size + 1
  | unfinished => size
  | doubled => size - 1
  | digits left => size - left

structure UnreadableText where
  context : String
  deriving DecidableEq, Repr

/-- The fifty characters on either side of a defect, without the very last one of the text. -/
def UnreadableText.around (cs : List Char) (defect : Defect) : UnreadableText :=
  let position := defect.position cs.length
  ⟨String.ofList ((cs.take (min (position + 50) (cs.length - 1))).drop (position - 50))⟩

namespace Scanner

open Text

def isMark (c : Char) : Bool :=
  "()[]\x7b\x7d&^:,-.+/*;%?@~!<>=|#\\'\"\x60".toList.contains c

def isWordEnd (c : Char) : Bool := isBlank c || isMark c

def operators : List (String × Token) :=
  [("<->", .symbol "<->"), ("<=>", .symbol "<=>"), ("->>", .symbol "->>"), ("#>>", .symbol "#>>"),
   ("?::", .symbol "?::"), ("~~~", .keyword "GLOB" "~~~"), ("~~*", .keyword "ILIKE" "~~*"),
   ("-|-", .symbol "-|-"), ("||/", .symbol "||/"), ("==", .symbol "="), ("::", .symbol "::"),
   ("||", .symbol "||"), ("|/", .symbol "|/"), ("|>", .symbol "|>"), (">=", .symbol ">="),
   ("<=", .symbol "<="), ("<>", .symbol "<>"), ("!=", .symbol "<>"), (":=", .symbol ":="),
   ("->", .symbol "->"), ("=>", .symbol "=>"), ("#>", .symbol "#>"), ("&&", .symbol "&&"),
   ("??", .symbol "??"), ("~~", .keyword "LIKE" "~~"), ("~*", .symbol "~*"), ("&<", .symbol "&<"),
   ("&>", .symbol "&>")]

def after? : List Char → List Char → Option (List Char)
  | [], cs => some cs
  | _ :: _, [] => none
  | w :: ws, c :: cs => if w = c then after? ws cs else none

def operator? (cs : List Char) : Option (Token × List Char) :=
  operators.findSome? fun (mark, token) => (after? mark.toList cs).map (token, ·)

def afterComment? (a b : Char) : List Char → Option (List Char)
  | [] => none
  | [_] => none
  | c :: d :: rest => if c = a ∧ d = b then some rest else afterComment? a b (d :: rest)

def afterLine (cs : List Char) : List Char := cs.dropWhile fun c => c != '\n' && c != '\r'

/-- Whether a text that has no closing quote ends with a doubled one. -/
def endsDoubled (close : Char) : List Char → Bool
  | c :: d :: rest =>
    if c = close then rest.isEmpty || endsDoubled close rest else endsDoubled close (d :: rest)
  | _ => false

def quoted (close : Char) (cs : List Char) : Except Defect (String × List Char) :=
  match Quoted.scan close cs with
  | some (text, rest) => .ok (String.ofList text, rest)
  | none =>
    .error (if cs.isEmpty then .opened else if endsDoubled close cs then .doubled else .unfinished)

def hexValue? (c : Char) : Option Nat :=
  if 'a' ≤ c ∧ c ≤ 'f' then some (c.toNat - 'a'.toNat + 10)
  else if 'A' ≤ c ∧ c ≤ 'F' then some (c.toNat - 'A'.toNat + 10)
  else digitValue? c

/-- Whether a text is a hexadecimal number, perhaps with a sign and the mark of its base. -/
def isHexadecimal (s : String) : Bool :=
  let unsigned := match trim isBlank s.toList with
    | '-' :: rest => rest
    | '+' :: rest => rest
    | cs => cs
  let digits := match unsigned with
    | '0' :: 'x' :: '_' :: rest => rest
    | '0' :: 'X' :: '_' :: rest => rest
    | '0' :: 'x' :: rest => rest
    | '0' :: 'X' :: rest => rest
    | cs => cs
  (readNat hexValue? digits).isSome

/-- The longest beginning of a text that goes on a number: digits, one point, and an exponent. A
sign belongs to it after the mark of the exponent, if a digit follows and there is none yet. -/
def number (point marked signed : Bool) : List Char → List Char × List Char
  | [] => ([], [])
  | c :: rest =>
    let go (p m s : Bool) : List Char × List Char :=
      let (digits, after) := number p m s rest
      (c :: digits, after)
    if c.isDigit then go point marked signed
    else if c = '.' ∧ ¬point then go true marked signed
    else if (c = '-' ∨ c = '+') ∧ marked ∧ ¬signed ∧ (rest.head?.map Char.isDigit).getD false then
      go point marked true
    else if (c = 'e' ∨ c = 'E') ∧ ¬marked then go point true signed
    else ([], c :: rest)

def afterWord? : List Char → List Char → Option (List Char)
  | [], cs => some cs
  | _ :: _, [] => none
  | w :: ws, c :: cs => if upperChar c = [w] then afterWord? ws cs else none

def afterPhrase? : List String → List Char → Option (List Char)
  | [], cs => if (cs.head?.map isWordEnd).getD true then some cs else none
  | [word], cs => do afterPhrase? [] (← afterWord? word.toList cs)
  | word :: more, cs => do
    let rest ← afterWord? word.toList cs
    if (rest.head?.map isBlank).getD false then afterPhrase? more (rest.dropWhile isBlank) else none

def phrase? (cs : List Char) : Option (Token × List Char) :=
  Keyword.phrases.findSome? fun words =>
    (afterPhrase? words cs).map (Token.ofWord (" ".intercalate words), ·)

/-- The word at the beginning of a text. It is a plain name after the mark of a parameter. -/
def word (parameter : Bool) (cs : List Char) : Token × List Char :=
  let (letters, rest) := cs.span fun c => !isWordEnd c
  let text := String.ofList letters
  (if parameter then .name text else Token.ofWord text, rest)

def closing? (c : Char) : Option Char :=
  if c = '"' ∨ c = '\x60' then some c else if c = '[' then some ']' else none

/-- The token of a number that starts with `c`. A number with the mark of base sixteen that has
other characters than digits is a name. -/
def numeral (c : Char) (rest : List Char) : Token × List Char :=
  let isMarked := c == '0' && (rest.head? == some 'x' || rest.head? == some 'X')
  if isMarked then
    let (letters, after) := rest.span fun c => !isWordEnd c
    let text := String.ofList (c :: letters)
    (if isHexadecimal text then .markedString text else .quotedName text, after)
  else
    let (digits, after) := number false false false rest
    (.number (String.ofList (c :: digits)), after)

def token (parameter : Bool) (c : Char) (rest : List Char) :
    Except Defect (Token × List Char) := do
  if c.isDigit then return numeral c rest
  match closing? c with
  | some close =>
    let (text, after) ← quoted close rest
    return (.quotedName text, after)
  | none =>
    if c = '\'' then
      let (text, after) ← quoted '\'' rest
      return (.string text, after)
    else if (c = 'n' ∨ c = 'N') ∧ rest.head? = some '\'' then
      let (text, after) ← quoted '\'' rest.tail
      return (.markedString text, after)
    else if (c = 'x' ∨ c = 'X') ∧ rest.head? = some '\'' then
      let (text, after) ← quoted '\'' rest.tail
      if text = "" ∨ isHexadecimal text then return (.markedString text, after)
      else throw (.digits after.length)
    else if isMark c then
      let single : Token := if c = '!' then .keyword "NOT" "!" else .symbol (String.singleton c)
      return (operator? (c :: rest)).getD (single, rest)
    else if parameter then return word true (c :: rest)
    else return (phrase? (c :: rest)).getD (word false (c :: rest))

/-- What follows the blanks and comments at the beginning of a text. Every step takes one unit of
fuel and at least one character. -/
def afterBlanks : Nat → List Char → Except Defect (List Char)
  | 0, cs => .ok cs
  | fuel + 1, '-' :: '-' :: rest => afterBlanks fuel (afterLine rest)
  | fuel + 1, '/' :: '*' :: rest =>
    match afterComment? '*' '/' rest with
    | some rest => afterBlanks fuel rest
    | none => .error .opened
  | fuel + 1, '\x7b' :: '#' :: rest =>
    match afterComment? '#' '\x7d' rest with
    | some rest => afterBlanks fuel rest
    | none => .error .opened
  | fuel + 1, c :: rest => if isBlank c then afterBlanks fuel rest else .ok (c :: rest)
  | _ + 1, [] => .ok []

/-- The tokens of a text. Every token takes one unit of fuel and at least one character. -/
def scan : Nat → Bool → List Char → Except Defect (List Token)
  | 0, _, _ => .ok []
  | fuel + 1, parameter, cs => do
    match ← afterBlanks (cs.length + 1) cs with
    | [] => return []
    | c :: rest =>
      let (token, rest) ← token parameter c rest
      return token :: (← scan fuel (token.isSymbol "@") rest)

end Scanner

def tokens (sql : String) : Except UnreadableText (List Token) :=
  let cs := sql.toList
  (Scanner.scan (cs.length + 1) false cs).mapError (.around cs)

end SchemaMigration.Sql
