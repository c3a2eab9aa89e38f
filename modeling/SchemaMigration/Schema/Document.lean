import SchemaMigration.Json.Decoder
import SchemaMigration.Json.Reader
import SchemaMigration.Schema
import SchemaMigration.Schema.Error

/-!
Schema documents. Fields of several words may be written in camel case or with underscores, absent
fields have defaults, and unknown fields are passed over.
-/

namespace SchemaMigration

open Json.Decoder

def ReferentialAction.decode : Json.Decoder ReferentialAction := choice ofText? (all.map text)

def ColumnDef.decode : Json.Decoder ColumnDef := record "SchemaColumn" fun members =>
  ColumnDef.mk
    <$> required (named "name") text members
    <*> required (named "type") text members
    <*> withDefault (named "length") none (optional integer) members
    <*> withDefault (named "scale") none (optional integer) members
    <*> withDefault (named "nullable") true flag members
    <*> withDefault (named "default") none (optional text) members
    <*> withDefault ⟨"enumValues", "enum_values"⟩ none (optional (list text)) members
    <*> withDefault (named "collation") none (optional text) members

def IndexDef.decode : Json.Decoder IndexDef := record "SchemaIndex" fun members =>
  IndexDef.mk
    <$> required (named "name") text members
    <*> required (named "columns") (list text) members
    <*> withDefault (named "unique") false flag members

def ForeignKeyDef.decode : Json.Decoder ForeignKeyDef := record "SchemaForeignKey" fun members =>
  ForeignKeyDef.mk
    <$> withDefault (named "name") none (optional text) members
    <*> required (named "columns") (list text) members
    <*> required ⟨"referencedTable", "referenced_table"⟩ text members
    <*> required ⟨"referencedColumns", "referenced_columns"⟩ (list text) members
    <*> withDefault ⟨"onDelete", "on_delete"⟩ .noAction ReferentialAction.decode members
    <*> withDefault ⟨"onUpdate", "on_update"⟩ .noAction ReferentialAction.decode members

def TableDef.decode : Json.Decoder TableDef := record "SchemaTable" fun members =>
  TableDef.mk
    <$> required (named "name") text members
    <*> withDefault (named "columns") [] (list ColumnDef.decode) members
    <*> withDefault ⟨"primaryKey", "primary_key"⟩ [] (list text) members
    <*> withDefault (named "indexes") [] (list IndexDef.decode) members
    <*> withDefault ⟨"foreignKeys", "foreign_keys"⟩ [] (list ForeignKeyDef.decode) members
    <*> withDefault (named "charset") none (optional text) members
    <*> withDefault (named "collation") none (optional text) members

namespace Schema

def decode : Json.Decoder Schema := record "Schema" fun members =>
  Schema.mk
    <$> required (named "name") text members
    <*> withDefault (named "database") none (optional text) members
    <*> withDefault (named "charset") "utf8mb4" text members
    <*> withDefault (named "collation") none (optional text) members
    <*> withDefault (named "tables") [] (list TableDef.decode) members

/-- The source that messages name for a document that was read from no file. -/
def unnamedSource : String := "<schema>"

def ofDocument (source : String) (document : Json) : Except SchemaError Schema :=
  match decode document with
  | .valid schema => .ok schema
  | .invalid problems => .error (.invalidDocument source problems)

inductive Fault
  | refused (error : SchemaError)
  | excess (excess : Json.Excess)
  deriving DecidableEq, Repr

def ofText (source content : String) : Except Fault Schema :=
  match Json.parse content with
  | .ok document => (ofDocument source document).mapError .refused
  | .error (.fault error) => .error (.refused (.invalidJson source error))
  | .error (.excess excess) => .error (.excess excess)

end Schema

end SchemaMigration
