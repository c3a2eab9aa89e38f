import SchemaMigration.Proofs.HiddenMembers
import SchemaMigration.Schema.Document

/-!
The documents of a schema. Every field may be given under either of its names or left out with its
default, in each record anew, and further members do not matter: the same schema is read. Where a
field is given under both names, the document is read as if it were given under the first alone.
-/

namespace SchemaMigration

open Json.Decoder

namespace ReferentialAction

theorem inverts_decode : Inverts decode fun action => .text action.text := by
  intro action
  rw [decode, choice, ofText?_text]

end ReferentialAction

namespace Json.Decoder

def MaybeText : Option String → Json → Prop := Exactly (.ofOption .text)

def MaybeInteger : Option Int → Json → Prop := Exactly (.ofOption .int)

def Texts : List String → Json → Prop := Exactly .texts

theorem recovers_text : Recovers text (Exactly .text) := inverts_text.recovers

theorem recovers_flag : Recovers flag (Exactly .bool) := inverts_flag.recovers

theorem recovers_optional_text : Recovers (optional text) MaybeText :=
  inverts_optional_text.recovers

theorem recovers_optional_integer : Recovers (optional integer) MaybeInteger :=
  inverts_optional_integer.recovers

theorem inverts_list_text : Inverts (list text) .texts := inverts_text.sequence .notList

theorem recovers_texts : Recovers (list text) Texts := inverts_list_text.recovers

theorem recovers_optional_texts :
    Recovers (optional (list text)) (Exactly (.ofOption .texts)) := by
  refine (inverts_list_text.optional ?_).recovers
  intro ss h
  cases h

theorem exists_exactly {α : Type} (encode : α → Json) (a : α) : ∃ v, Exactly encode a v :=
  ⟨encode a, rfl⟩

end Json.Decoder

/-! ### Columns -/

namespace ColumnDef

def layout : Layout where
  fields := [named "name", named "type", named "length", named "scale", named "nullable",
    named "default", ⟨"enumValues", "enum_values"⟩, named "collation"]
  nested := []
  apart := by decide
  known := List.forall_mem_nil _

def forms (c : ColumnDef) : List FieldForm :=
  [.required (named "name") (Exactly .text) c.name,
   .required (named "type") (Exactly .text) c.type,
   .withDefault (named "length") none MaybeInteger c.length,
   .withDefault (named "scale") none MaybeInteger c.scale,
   .withDefault (named "nullable") true (Exactly .bool) c.nullable,
   .withDefault (named "default") none MaybeText c.default,
   .withDefault ⟨"enumValues", "enum_values"⟩ none (Exactly (.ofOption .texts)) c.enumValues,
   .withDefault (named "collation") none MaybeText c.collation]

def Spells (c : ColumnDef) : Json → Prop := SpellsRecord c.forms

theorem recovers_decode : Recovers decode Spells := by
  intro c document h
  obtain ⟨members, rfl, name, type, length, scale, nullable, default, enumValues, collation⟩ :=
    SpellsRecord.found h layout.apart
  rw [decode, record, name.required recovers_text, type.required recovers_text,
    length.withDefault recovers_optional_integer, scale.withDefault recovers_optional_integer,
    nullable.withDefault recovers_flag, default.withDefault recovers_optional_text,
    enumValues.withDefault recovers_optional_texts, collation.withDefault recovers_optional_text]
  rfl

theorem exists_spells (c : ColumnDef) : ∃ document, c.Spells document := by
  refine exists_spelling ?_
  simp only [forms, List.forall_mem_cons]
  refine ⟨?_, ?_, ?_, ?_, ?_, ?_, ?_, ?_, List.forall_mem_nil _⟩
  all_goals exact exists_exactly _ _

theorem ignores_hidden : Ignores decode (DropsHidden layout) := by
  refine ignores_record fun h => ?_
  refine (((((((Validated.Agree.map _ ?_).seq ?_).seq ?_).seq ?_).seq ?_).seq ?_).seq ?_).seq ?_
  · exact h.required (by decide) nofun
  · exact h.required (by decide) nofun
  all_goals exact h.withDefault (by decide) _ nofun

end ColumnDef

/-! ### Indexes -/

namespace IndexDef

def layout : Layout where
  fields := [named "name", named "columns", named "unique"]
  nested := []
  apart := by decide
  known := List.forall_mem_nil _

def forms (i : IndexDef) : List FieldForm :=
  [.required (named "name") (Exactly .text) i.name,
   .required (named "columns") Texts i.columns,
   .withDefault (named "unique") false (Exactly .bool) i.unique]

def Spells (i : IndexDef) : Json → Prop := SpellsRecord i.forms

theorem recovers_decode : Recovers decode Spells := by
  intro i document h
  obtain ⟨members, rfl, name, columns, unique⟩ := SpellsRecord.found h layout.apart
  rw [decode, record, name.required recovers_text, columns.required recovers_texts,
    unique.withDefault recovers_flag]
  rfl

theorem exists_spells (i : IndexDef) : ∃ document, i.Spells document := by
  refine exists_spelling ?_
  simp only [forms, List.forall_mem_cons]
  refine ⟨?_, ?_, ?_, List.forall_mem_nil _⟩
  all_goals exact exists_exactly _ _

theorem ignores_hidden : Ignores decode (DropsHidden layout) := by
  refine ignores_record fun h => ?_
  refine ((Validated.Agree.map _ ?_).seq ?_).seq ?_
  · exact h.required (by decide) nofun
  · exact h.required (by decide) nofun
  · exact h.withDefault (by decide) _ nofun

end IndexDef

/-! ### Foreign keys -/

namespace ForeignKeyDef

def layout : Layout where
  fields := [named "name", named "columns", ⟨"referencedTable", "referenced_table"⟩,
    ⟨"referencedColumns", "referenced_columns"⟩, ⟨"onDelete", "on_delete"⟩,
    ⟨"onUpdate", "on_update"⟩]
  nested := []
  apart := by decide
  known := List.forall_mem_nil _

def Action : ReferentialAction → Json → Prop := Exactly fun action => .text action.text

def forms (k : ForeignKeyDef) : List FieldForm :=
  [.withDefault (named "name") none MaybeText k.name,
   .required (named "columns") Texts k.columns,
   .required ⟨"referencedTable", "referenced_table"⟩ (Exactly .text) k.referencedTable,
   .required ⟨"referencedColumns", "referenced_columns"⟩ Texts k.referencedColumns,
   .withDefault ⟨"onDelete", "on_delete"⟩ .noAction Action k.onDelete,
   .withDefault ⟨"onUpdate", "on_update"⟩ .noAction Action k.onUpdate]

def Spells (k : ForeignKeyDef) : Json → Prop := SpellsRecord k.forms

theorem recovers_action : Recovers ReferentialAction.decode Action :=
  ReferentialAction.inverts_decode.recovers

theorem recovers_decode : Recovers decode Spells := by
  intro k document h
  obtain ⟨members, rfl, name, columns, referencedTable, referencedColumns, onDelete, onUpdate⟩ :=
    SpellsRecord.found h layout.apart
  rw [decode, record, name.withDefault recovers_optional_text, columns.required recovers_texts,
    referencedTable.required recovers_text, referencedColumns.required recovers_texts,
    onDelete.withDefault recovers_action, onUpdate.withDefault recovers_action]
  rfl

theorem exists_spells (k : ForeignKeyDef) : ∃ document, k.Spells document := by
  refine exists_spelling ?_
  simp only [forms, List.forall_mem_cons]
  refine ⟨?_, ?_, ?_, ?_, ?_, ?_, List.forall_mem_nil _⟩
  all_goals exact exists_exactly _ _

theorem ignores_hidden : Ignores decode (DropsHidden layout) := by
  refine ignores_record fun h => ?_
  refine (((((Validated.Agree.map _ ?_).seq ?_).seq ?_).seq ?_).seq ?_).seq ?_
  · exact h.withDefault (by decide) _ nofun
  · exact h.required (by decide) nofun
  · exact h.required (by decide) nofun
  · exact h.required (by decide) nofun
  · exact h.withDefault (by decide) _ nofun
  · exact h.withDefault (by decide) _ nofun

end ForeignKeyDef

/-! ### Tables -/

namespace TableDef

def layout : Layout where
  fields := [named "name", named "columns", ⟨"primaryKey", "primary_key"⟩, named "indexes",
    ⟨"foreignKeys", "foreign_keys"⟩, named "charset", named "collation"]
  nested := [(named "columns", DropsInItem (DropsHidden ColumnDef.layout)),
    (named "indexes", DropsInItem (DropsHidden IndexDef.layout)),
    (⟨"foreignKeys", "foreign_keys"⟩, DropsInItem (DropsHidden ForeignKeyDef.layout))]
  apart := by decide
  known := by simp

def forms (t : TableDef) : List FieldForm :=
  [.required (named "name") (Exactly .text) t.name,
   .withDefault (named "columns") [] (Items ColumnDef.Spells) t.columns,
   .withDefault ⟨"primaryKey", "primary_key"⟩ [] Texts t.primaryKey,
   .withDefault (named "indexes") [] (Items IndexDef.Spells) t.indexes,
   .withDefault ⟨"foreignKeys", "foreign_keys"⟩ [] (Items ForeignKeyDef.Spells) t.foreignKeys,
   .withDefault (named "charset") none MaybeText t.charset,
   .withDefault (named "collation") none MaybeText t.collation]

def Spells (t : TableDef) : Json → Prop := SpellsRecord t.forms

theorem recovers_decode : Recovers decode Spells := by
  intro t document h
  obtain ⟨members, rfl, name, columns, primaryKey, indexes, foreignKeys, charset, collation⟩ :=
    SpellsRecord.found h layout.apart
  rw [decode, record, name.required recovers_text,
    columns.withDefault ColumnDef.recovers_decode.list, primaryKey.withDefault recovers_texts,
    indexes.withDefault IndexDef.recovers_decode.list,
    foreignKeys.withDefault ForeignKeyDef.recovers_decode.list,
    charset.withDefault recovers_optional_text, collation.withDefault recovers_optional_text]
  rfl

theorem exists_spells (t : TableDef) : ∃ document, t.Spells document := by
  refine exists_spelling ?_
  simp only [forms, List.forall_mem_cons]
  exact ⟨exists_exactly _ _, exists_items ColumnDef.exists_spells _, exists_exactly _ _,
    exists_items IndexDef.exists_spells _, exists_items ForeignKeyDef.exists_spells _,
    exists_exactly _ _, exists_exactly _ _, List.forall_mem_nil _⟩

theorem ignores_hidden : Ignores decode (DropsHidden layout) := by
  have columns := ColumnDef.ignores_hidden.list
  have indexes := IndexDef.ignores_hidden.list
  have foreignKeys := ForeignKeyDef.ignores_hidden.list
  refine ignores_record fun h => ?_
  refine ((((((Validated.Agree.map _ ?_).seq ?_).seq ?_).seq ?_).seq ?_).seq ?_).seq ?_
  · exact h.required (by decide) (by simp [layout, named])
  · exact h.withDefault (by decide) _ (by simpa [layout, named] using columns)
  · exact h.withDefault (by decide) _ (by simp [layout, named])
  · exact h.withDefault (by decide) _ (by simpa [layout, named] using indexes)
  · exact h.withDefault (by decide) _ (by simpa [layout, named] using foreignKeys)
  · exact h.withDefault (by decide) _ (by simp [layout, named])
  · exact h.withDefault (by decide) _ (by simp [layout, named])

end TableDef

/-! ### Schemas -/

namespace Schema

def layout : Layout where
  fields := [named "name", named "database", named "charset", named "collation", named "tables"]
  nested := [(named "tables", DropsInItem (DropsHidden TableDef.layout))]
  apart := by decide
  known := by simp

def forms (s : Schema) : List FieldForm :=
  [.required (named "name") (Exactly .text) s.name,
   .withDefault (named "database") none MaybeText s.database,
   .withDefault (named "charset") "utf8mb4" (Exactly .text) s.charset,
   .withDefault (named "collation") none MaybeText s.collation,
   .withDefault (named "tables") [] (Items TableDef.Spells) s.tables]

def Spells (s : Schema) : Json → Prop := SpellsRecord s.forms

theorem recovers_decode : Recovers decode Spells := by
  intro s document h
  obtain ⟨members, rfl, name, database, charset, collation, tables⟩ :=
    SpellsRecord.found h layout.apart
  rw [decode, record, name.required recovers_text, database.withDefault recovers_optional_text,
    charset.withDefault recovers_text, collation.withDefault recovers_optional_text,
    tables.withDefault TableDef.recovers_decode.list]
  rfl

theorem exists_spells (s : Schema) : ∃ document, s.Spells document := by
  refine exists_spelling ?_
  simp only [forms, List.forall_mem_cons]
  exact ⟨exists_exactly _ _, exists_exactly _ _, exists_exactly _ _, exists_exactly _ _,
    exists_items TableDef.exists_spells _, List.forall_mem_nil _⟩

theorem ignores_hidden : Ignores decode (DropsHidden layout) := by
  have tables := TableDef.ignores_hidden.list
  refine ignores_record fun h => ?_
  refine ((((Validated.Agree.map _ ?_).seq ?_).seq ?_).seq ?_).seq ?_
  · exact h.required (by decide) (by simp [layout, named])
  · exact h.withDefault (by decide) _ (by simp [layout, named])
  · exact h.withDefault (by decide) _ (by simp [layout, named])
  · exact h.withDefault (by decide) _ (by simp [layout, named])
  · exact h.withDefault (by decide) _ (by simpa [layout, named] using tables)

/-- What is read, or the message about a refused document. -/
def outcome (source : String) (document : Json) : Except String Schema :=
  (ofDocument source document).mapError SchemaError.message

theorem message_of_findings {ps qs : List Problem}
    (same : ps.map Problem.finding = qs.map Problem.finding) (source : String) :
    (SchemaError.invalidDocument source ps).message =
      (SchemaError.invalidDocument source qs).message := by
  have shown : ∀ rs : List Problem, (SchemaError.invalidDocument source rs).message =
      "Invalid schema in " ++ source ++ ": " ++ "; ".intercalate (rs.map Problem.text) :=
    fun _ => rfl
  rw [shown, shown, Problem.map_text_of_findings same]

theorem outcome_of_agree {source : String} {document document' : Json}
    (agree : Validated.Agree (decode document) (decode document')) :
    outcome source document = outcome source document' := by
  rw [outcome, outcome, ofDocument, ofDocument]
  generalize decode document = found at agree
  generalize decode document' = found' at agree
  cases agree with
  | valid s => rfl
  | invalid same => exact congrArg Except.error (message_of_findings same source)

/-- Every schema has documents, and each of them is read as the schema, whichever of the two names
its fields have in each record, whichever defaults are left out and whatever else is in it. A member
whose field is also given under its first name makes no difference in any document. -/
theorem documents_read_back (source : String) :
    (∀ schema : Schema, ∃ document, schema.Spells document) ∧
    (∀ (schema : Schema) (document : Json), schema.Spells document →
      ofDocument source document = .ok schema) ∧
    ∀ document document' : Json, DropsHidden layout document document' →
      outcome source document = outcome source document' := by
  refine ⟨exists_spells, fun schema document spelled => ?_, fun document document' dropped => ?_⟩
  · rw [ofDocument, recovers_decode schema document spelled]
  · exact outcome_of_agree (ignores_hidden document document' dropped)

end Schema

end SchemaMigration

/-! Ratings whose document has names of both kinds. -/

namespace SchemaMigration.Shop

open Json.Decoder

def ratings : Schema :=
  ⟨"shop", none, "utf8mb4", none,
    [⟨"ratings", [⟨"stars", "enum", none, none, true, none, some ["1", "2"], none⟩], ["stars"], [],
      [⟨none, ["stars"], "scales", ["id"], .cascade, .noAction⟩], none, none⟩]⟩

def starsDocument : Json := .object
  [("name", .text "stars"), ("type", .text "enum"), ("enum_values", .texts ["1", "2"])]

def scaleDocument (hidden : List (String × Json)) : Json := .object
  ([("columns", .texts ["stars"]), ("referenced_table", .text "scales"),
    ("referencedColumns", .texts ["id"]), ("onDelete", .text "CASCADE")] ++ hidden)

def ratingsTableDocument (hidden : List (String × Json)) : Json := .object
  [("name", .text "ratings"), ("columns", .array [starsDocument]),
    ("primary_key", .texts ["stars"]), ("foreignKeys", .array [scaleDocument hidden])]

def ratingsDocument (hidden : List (String × Json)) : Json := .object
  [("version", .int 2), ("name", .text "shop"), ("tables", .array [ratingsTableDocument hidden])]

theorem ratings_spelled : ratings.Spells (ratingsDocument []) := by
  have stars : (⟨"stars", "enum", none, none, true, none, some ["1", "2"], none⟩ : ColumnDef).Spells
      starsDocument :=
    .object (.first rfl (.first rfl (.omitted rfl (.omitted rfl (.omitted rfl (.omitted rfl
      (.second rfl (.omitted rfl .nil)))))))) (List.forall_mem_nil _) (.refl _)
  have scale : (⟨none, ["stars"], "scales", ["id"], .cascade, .noAction⟩ : ForeignKeyDef).Spells
      (scaleDocument []) :=
    .object (.omitted rfl (.first rfl (.second rfl (.first rfl (.first rfl (.omitted rfl .nil))))))
      (List.forall_mem_nil _) (.refl _)
  have table : ∀ t ∈ ratings.tables, t.Spells (ratingsTableDocument []) := by
    refine List.forall_mem_singleton.mpr ?_
    exact .object (.first rfl (.first ⟨_, rfl, .cons stars .nil⟩ (.second rfl (.omitted rfl
      (.first ⟨_, rfl, .cons scale .nil⟩ (.omitted rfl (.omitted rfl .nil)))))))
      (List.forall_mem_nil _) (.refl _)
  have unknown : ∀ m ∈ [("version", Json.int 2)], ∀ form ∈ ratings.forms,
      ¬ form.field.Names m.1 := by
    simp [Schema.forms, FieldForm.required, FieldForm.withDefault, named, FieldName.Names]
  have fields : Fields ratings.forms
      [("name", .text "shop"), ("tables", .array [ratingsTableDocument []])] :=
    .first rfl (.omitted rfl (.omitted rfl (.omitted rfl
      (.first ⟨_, rfl, .cons (table _ List.mem_cons_self) .nil⟩ .nil))))
  have order : (("version", Json.int 2) :: [("name", Json.text "shop"),
      ("tables", .array [ratingsTableDocument []])]).Perm _ :=
    (List.perm_append_singleton ("version", Json.int 2) _).symm
  exact .object fields unknown order

/-- The action that hides the second one counts, although the second one is no action. -/
theorem ratings_read_back :
    Schema.ofDocument "shop.json" (ratingsDocument []) = .ok ratings ∧
    Schema.outcome "shop.json" (ratingsDocument [("on_delete", .text "NEVER")]) = .ok ratings := by
  obtain ⟨-, read, hidden⟩ := Schema.documents_read_back "shop.json"
  have plain := read ratings (ratingsDocument []) ratings_spelled
  have scale : DropsHidden ForeignKeyDef.layout (scaleDocument [("on_delete", .text "NEVER")])
      (scaleDocument []) :=
    .here _ [] _ (by decide : ⟨"onDelete", "on_delete"⟩ ∈ ForeignKeyDef.layout.fields) (by decide)
      (by decide)
  have table : DropsHidden TableDef.layout (ratingsTableDocument [("on_delete", .text "NEVER")])
      (ratingsTableDocument []) := by
    have known : (⟨"foreignKeys", "foreign_keys"⟩, DropsInItem (DropsHidden ForeignKeyDef.layout)) ∈
        TableDef.layout.nested := by simp [TableDef.layout]
    exact .inside [_, _, _] [] known (.inl rfl) (.item [] [] scale)
  have schema : DropsHidden Schema.layout (ratingsDocument [("on_delete", .text "NEVER")])
      (ratingsDocument []) := by
    have known : (named "tables", DropsInItem (DropsHidden TableDef.layout)) ∈
        Schema.layout.nested := by simp [Schema.layout]
    exact .inside [_, _] [] known (.inl rfl) (.item [] [] table)
  refine ⟨plain, ?_⟩
  rw [hidden _ _ schema, Schema.outcome, plain]
  rfl

end SchemaMigration.Shop
