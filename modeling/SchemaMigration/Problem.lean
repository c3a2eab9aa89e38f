import SchemaMigration.Json.Shown
import SchemaMigration.Text.Abbreviation

/-!
Problems of a document: values that are not what they should be. A problem is reported in one line,
or in several ones that also show the value.
-/

namespace SchemaMigration

inductive Mismatch
  | missing
  | notText
  | notTruth
  | unclearTruth
  | notInteger
  | unclearInteger
  | oversizedInteger
  | fractional
  | notFinite
  | notList
  | notTuple
  | notDictionary
  | notRecord (record : String)
  | notAmong (choices : List String)
  deriving DecidableEq, Repr

namespace Mismatch

def code : Mismatch → String
  | missing => "missing"
  | notText => "string_type"
  | notTruth => "bool_type"
  | unclearTruth => "bool_parsing"
  | notInteger => "int_type"
  | unclearInteger => "int_parsing"
  | oversizedInteger => "int_parsing_size"
  | fractional => "int_from_float"
  | notFinite => "finite_number"
  | notList => "list_type"
  | notTuple => "tuple_type"
  | notDictionary => "dict_type"
  | notRecord _ => "model_type"
  | notAmong _ => "enum"

def alternatives : List String → String
  | [] => ""
  | [word] => "'" ++ word ++ "'"
  | [word, last] => "'" ++ word ++ "' or '" ++ last ++ "'"
  | word :: rest => "'" ++ word ++ "', " ++ alternatives rest

def message : Mismatch → String
  | missing => "Field required"
  | notText => "Input should be a valid string"
  | notTruth => "Input should be a valid boolean"
  | unclearTruth => "Input should be a valid boolean, unable to interpret input"
  | notInteger => "Input should be a valid integer"
  | unclearInteger => "Input should be a valid integer, unable to parse string as an integer"
  | oversizedInteger => "Unable to parse input string as an integer, exceeded maximum size"
  | fractional => "Input should be a valid integer, got a number with a fractional part"
  | notFinite => "Input should be a finite number"
  | notList => "Input should be a valid list"
  | notTuple => "Input should be a valid tuple"
  | notDictionary => "Input should be a valid dictionary"
  | notRecord record => "Input should be a valid dictionary or instance of " ++ record
  | notAmong choices => "Input should be " ++ alternatives choices

def helpPage (r : Mismatch) : String :=
  "https:" ++ "/".intercalate ["", "", "errors.pydantic.dev", "2.14", "v", r.code]

end Mismatch

structure Problem where
  path : List String
  mismatch : Mismatch
  /-- The value as messages show it; for a missing value it is the one that should hold it. -/
  shownValue : String
  typeName : String
  deriving DecidableEq, Repr

namespace Problem

def ofValue (mismatch : Mismatch) (value : Json) : Problem :=
  ⟨[], mismatch, value.shown, value.typeName⟩

def text (p : Problem) : String := ".".intercalate p.path ++ ": " ++ p.mismatch.message

/-- A step of a path in a report, in which dots stand between steps. -/
def shownStep (step : String) : String :=
  if step.toList.contains '.' then String.singleton '\x60' ++ step ++ String.singleton '\x60'
  else step

def valueLimit : Nat := 50

/-- A problem in several lines. -/
def report (p : Problem) : String :=
  let place := if p.path = [] then "" else "\n" ++ ".".intercalate (p.path.map shownStep)
  place ++ "\n  " ++ p.mismatch.message ++ " [type=" ++ p.mismatch.code ++ ", input_value=" ++
    Text.abbreviated valueLimit p.shownValue ++ ", input_type=" ++ p.typeName ++
    "]\n    For further information visit " ++ p.mismatch.helpPage

def reportAll (record : String) (problems : List Problem) : String :=
  let count := problems.length
  toString count ++ " validation error" ++ (if count = 1 then "" else "s") ++ " for " ++ record ++
    String.join (problems.map report)

end Problem

end SchemaMigration
