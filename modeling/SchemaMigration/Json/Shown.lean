import SchemaMigration.Json.Basic
import SchemaMigration.Text.Decimal
import SchemaMigration.Text.Shown

/-!
JSON values as messages show them: on one line, with texts and keys between single quotes, numbers
in their shortest form, and words of their own for the other values.
-/

namespace SchemaMigration.Json

def typeName : Json → String
  | null => "NoneType"
  | bool _ => "bool"
  | int _ => "int"
  | real _ => "float"
  | text _ => "str"
  | array _ => "list"
  | object _ => "dict"

mutual

def shown : Json → String
  | .null => "None"
  | .bool b => if b then "True" else "False"
  | .int n => toString n
  | .real r => Text.shownFloat r.toFloat
  | .text s => Text.shown s
  | .array vs => "[" ++ ", ".intercalate (shownItems vs) ++ "]"
  | .object ms => "\x7b" ++ ", ".intercalate (shownMembers ms) ++ "\x7d"

def shownItems : List Json → List String
  | [] => []
  | v :: vs => shown v :: shownItems vs

def shownMembers : List (String × Json) → List String
  | [] => []
  | (k, v) :: ms => (Text.shown k ++ ": " ++ shown v) :: shownMembers ms

end

end SchemaMigration.Json
