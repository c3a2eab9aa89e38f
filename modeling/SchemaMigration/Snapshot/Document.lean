import SchemaMigration.Json.Decoder
import SchemaMigration.Json.Reader
import SchemaMigration.Json.Writer
import SchemaMigration.Snapshot

/-!
Snapshot files. Every field is written, and a file may leave out the fields that have a default.
-/

namespace SchemaMigration

namespace Json

def ofOption {α : Type} (encode : α → Json) : Option α → Json
  | none => .null
  | some a => encode a

def texts (ss : List String) : Json := .array (ss.map .text)

end Json

open Json.Decoder

def ColumnType.decode : Json.Decoder ColumnType := choice ofName? names

namespace Column

def encode (c : Column) : Json := .object
  [("name", .text c.name), ("db_type", .text c.type.name), ("length", .ofOption .int c.length),
   ("scale", .ofOption .int c.scale), ("nullable", .bool c.nullable),
   ("default", .ofOption .text c.default), ("enum_values", .texts c.enumValues),
   ("collation", .ofOption .text c.collation)]

def decode : Json.Decoder Column := record "DataColumn" fun members =>
  Column.mk
    <$> required (named "name") text members
    <*> required (named "db_type") ColumnType.decode members
    <*> withDefault (named "length") none (optional integer) members
    <*> withDefault (named "scale") none (optional integer) members
    <*> withDefault (named "nullable") true flag members
    <*> withDefault (named "default") none (optional text) members
    <*> withDefault (named "enum_values") [] (tuple text) members
    <*> withDefault (named "collation") none (optional text) members

end Column

namespace Index

def encode (i : Index) : Json := .object
  [("name", .text i.name), ("columns", .texts i.columns), ("unique", .bool i.unique)]

def decode : Json.Decoder Index := record "DataIndex" fun members =>
  Index.mk
    <$> required (named "name") text members
    <*> required (named "columns") (tuple text) members
    <*> withDefault (named "unique") false flag members

end Index

namespace ForeignKey

def encode (k : ForeignKey) : Json := .object
  [("name", .ofOption .text k.name), ("columns", .texts k.columns),
   ("referenced_table", .text k.referencedTable),
   ("referenced_columns", .texts k.referencedColumns), ("on_delete", .text k.onDelete),
   ("on_update", .text k.onUpdate)]

def decode : Json.Decoder ForeignKey := record "DataForeignKey" fun members =>
  ForeignKey.mk
    <$> withDefault (named "name") none (optional text) members
    <*> required (named "columns") (tuple text) members
    <*> required (named "referenced_table") text members
    <*> required (named "referenced_columns") (tuple text) members
    <*> withDefault (named "on_delete") "NO ACTION" text members
    <*> withDefault (named "on_update") "NO ACTION" text members

end ForeignKey

namespace Table

def encode (t : Table) : Json := .object
  [("name", .text t.name), ("columns", .array (t.columns.map Column.encode)),
   ("primary_key", .texts t.primaryKey), ("indexes", .array (t.indexes.map Index.encode)),
   ("foreign_keys", .array (t.foreignKeys.map ForeignKey.encode)),
   ("charset", .ofOption .text t.charset), ("collation", .ofOption .text t.collation)]

def decode : Json.Decoder Table := record "DataTable" fun members =>
  Table.mk
    <$> required (named "name") text members
    <*> withDefault (named "columns") [] (tuple Column.decode) members
    <*> withDefault (named "primary_key") [] (tuple text) members
    <*> withDefault (named "indexes") [] (tuple Index.decode) members
    <*> withDefault (named "foreign_keys") [] (tuple ForeignKey.decode) members
    <*> withDefault (named "charset") none (optional text) members
    <*> withDefault (named "collation") none (optional text) members

end Table

namespace Snapshot

def encode (s : Snapshot) : Json := .object
  [("tables", .object (s.tables.entries.map fun entry => (entry.1, entry.2.encode)))]

def recordName : String := "DataSchema"

def decode : Json.Decoder Snapshot := record recordName fun members =>
  (fun tables => ⟨.ofList tables⟩)
    <$> withDefault (named "tables") [] (dictionary Table.decode) members

def toText (s : Snapshot) : String := s.encode.pretty

inductive Fault
  | invalidJson (error : Json.SyntaxError)
  | invalidDocument (problems : List Problem)
  | excess (excess : Json.Excess)
  deriving DecidableEq, Repr

def ofText (content : String) : Except Fault Snapshot :=
  match Json.parse content with
  | .error (.fault error) => .error (.invalidJson error)
  | .error (.excess excess) => .error (.excess excess)
  | .ok document =>
    match decode document with
    | .valid snapshot => .ok snapshot
    | .invalid problems => .error (.invalidDocument problems)

end Snapshot

end SchemaMigration
