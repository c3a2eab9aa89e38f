import SchemaMigration.Json.Decoder
import SchemaMigration.Json.Reader
import SchemaMigration.Schema
import SchemaMigration.Text.Shown

/-!
Mistakes in a declarative schema.
-/

namespace SchemaMigration

inductive SchemaPart
  | table (name : String)
  | column (table name : String)
  | primaryKey
  | index (name : String)
  | foreignKey (name : Option String) (columns : List String) (table : String)
  deriving DecidableEq, Repr

def SchemaPart.text : SchemaPart → String
  | .table name => "table '" ++ name ++ "'"
  | .column owner name => "column '" ++ owner ++ "." ++ name ++ "'"
  | .primaryKey => "primary key"
  | .index name => "index '" ++ name ++ "'"
  | .foreignKey name columns owner =>
    "foreign key " ++ (Text.nonempty? name).getD (Text.shownList columns) ++ " on '" ++ owner ++ "'"

inductive SchemaError
  | notGiven
  | invalidJson (source : String) (error : Json.SyntaxError)
  | invalidDocument (source : String) (problems : List Problem)
  | unknownType (spelling : String)
  | malformedType (declared : String)
  | duplicateTable (name : String)
  | missingName (part : SchemaPart)
  | nameTooLong (part : SchemaPart) (limit : Nat)
  | noColumns (table : String)
  | duplicateColumn (part : SchemaPart)
  | missingLength (part : SchemaPart) (type : String)
  | missingEnumValues (part : SchemaPart)
  | refusedDefault (part : SchemaPart) (type : String)
  | duplicateIndex (name table : String)
  | emptyIndex (name : String)
  | unknownColumn (part : SchemaPart) (column table : String)
  | unknownTable (part : SchemaPart) (table : String)
  | mismatchedColumns (part : SchemaPart)
  deriving DecidableEq, Repr

def SchemaError.message : SchemaError → String
  | notGiven => "No schema given and no schema file configured"
  | invalidJson source error => "Invalid JSON in " ++ source ++ ": " ++ error.message
  | invalidDocument source problems =>
    "Invalid schema in " ++ source ++ ": " ++ "; ".intercalate (problems.map Problem.text)
  | unknownType spelling => "Unexpected data type '" ++ spelling ++ "'"
  | malformedType declared => "Cannot parse column type '" ++ declared ++ "'"
  | duplicateTable name => "Duplicate table '" ++ name ++ "'"
  | missingName part => "Missing name for " ++ part.text
  | nameTooLong part limit =>
    "Name of " ++ part.text ++ " exceeds " ++ toString limit ++ " characters"
  | noColumns table => "Table '" ++ table ++ "' has no columns"
  | duplicateColumn part => "Duplicate " ++ part.text
  | missingLength part type => part.text ++ " of type '" ++ type ++ "' requires a length"
  | missingEnumValues part => part.text ++ " is an enum without values"
  | refusedDefault part type =>
    part.text ++ " of type '" ++ type ++ "' cannot have a default value"
  | duplicateIndex name table => "Duplicate index '" ++ name ++ "' on '" ++ table ++ "'"
  | emptyIndex name => "Index '" ++ name ++ "' has no columns"
  | unknownColumn part column table =>
    part.text ++ " uses unknown column '" ++ column ++ "' of table '" ++ table ++ "'"
  | unknownTable part table => part.text ++ " references unknown table '" ++ table ++ "'"
  | mismatchedColumns part => part.text ++ " has mismatched column counts"

end SchemaMigration
