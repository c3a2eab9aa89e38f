import SchemaMigration.Json.Basic
import SchemaMigration.Text.Integer
import SchemaMigration.Text.Shown

/-!
Writing JSON text in ASCII, either on one line or with one element to a line and two spaces of
indentation a level.
-/

namespace SchemaMigration.Json

namespace Writer

def unitEscape (n : Nat) : List Char := '\\' :: 'u' :: Text.hex 4 n

def escapeChar (c : Char) : List Char :=
  if c == '"' then ['\\', '"']
  else if c == '\\' then ['\\', '\\']
  else if c == '\n' then ['\\', 'n']
  else if c == '\r' then ['\\', 'r']
  else if c == '\t' then ['\\', 't']
  else if c == '\x08' then ['\\', 'b']
  else if c == '\x0c' then ['\\', 'f']
  else if 0x20 ≤ c.toNat && c.toNat < 0x7F then [c]
  else if c.toNat < 0x10000 then unitEscape c.toNat
  else
    let n := c.toNat - 0x10000
    unitEscape (0xD800 + n / 0x400) ++ unitEscape (0xDC00 + n % 0x400)

def string (s : String) : List Char := '"' :: (s.toList.flatMap escapeChar ++ ['"'])

def real : Real → List Char
  | .scientific negative coefficient exponent =>
    (if negative then ['-'] else []) ++ Nat.toDigits 10 coefficient ++
      'e' :: (toString exponent).toList
  | .infinite negative => if negative then "-Infinity".toList else "Infinity".toList
  | .notANumber => "NaN".toList

structure Layout where
  /-- What opens a level that holds something, between two elements after the comma, and what closes
  it: the text for a depth. -/
  line : Nat → List Char
  comma : List Char
  colon : List Char

def oneLine : Layout := ⟨fun _ => [], [',', ' '], [':', ' ']⟩

def indented : Layout := ⟨fun depth => '\n' :: List.replicate (2 * depth) ' ', [','], [':', ' ']⟩

mutual

def value (layout : Layout) (depth : Nat) : Json → List Char
  | .null => "null".toList
  | .bool b => if b then "true".toList else "false".toList
  | .int n => (toString n).toList
  | .real r => real r
  | .text s => string s
  | .array [] => ['[', ']']
  | .array (v :: vs) =>
    '[' :: (layout.line (depth + 1) ++ value layout (depth + 1) v ++
      elements layout (depth + 1) vs ++ layout.line depth ++ [']'])
  | .object [] => ['{', '}']
  | .object ((k, v) :: ms) =>
    '{' :: (layout.line (depth + 1) ++ string k ++ layout.colon ++ value layout (depth + 1) v ++
      members layout (depth + 1) ms ++ layout.line depth ++ ['}'])

def elements (layout : Layout) (depth : Nat) : List Json → List Char
  | [] => []
  | v :: vs => layout.comma ++ layout.line depth ++ value layout depth v ++ elements layout depth vs

def members (layout : Layout) (depth : Nat) : List (String × Json) → List Char
  | [] => []
  | (k, v) :: ms =>
    layout.comma ++ layout.line depth ++ string k ++ layout.colon ++ value layout depth v ++
      members layout depth ms

end

mutual

/-- Whether every integer of a value can be written. -/
def isWritable : Json → Bool
  | .int n => Text.isWritable n
  | .array vs => areWritable vs
  | .object ms => membersWritable ms
  | .null | .bool _ | .real _ | .text _ => true

def areWritable : List Json → Bool
  | [] => true
  | v :: vs => isWritable v && areWritable vs

def membersWritable : List (String × Json) → Bool
  | [] => true
  | (_, v) :: ms => isWritable v && membersWritable ms

end

end Writer

def compact (json : Json) : String := String.ofList (Writer.value Writer.oneLine 0 json)

def pretty (json : Json) : String := String.ofList (Writer.value Writer.indented 0 json)

def pretty? (json : Json) : Option String :=
  if Writer.isWritable json then some json.pretty else none

end SchemaMigration.Json
