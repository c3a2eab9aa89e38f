import SchemaMigration.Proofs.Sql.Scanning
import SchemaMigration.Proofs.Sqlite.TypeName
import SchemaMigration.Statement.Text

/-!
The tokens of a table definition. However its names and values are spelled, the text of a
definition has a token for each of them and for each of its words, and no others.
-/

namespace SchemaMigration.Sqlite

open Sql Scanner

theorem spells_name (name : String) : Spells (Dialect.sqlite.quote name) [.quotedName name] :=
  .quotedName name

theorem spells_literal (value : String) : Spells (Dialect.literal value) [.string value] :=
  .string value

/-! ### Words -/

def clauseWords : List String :=
  ["NULL", "NOT", "IN", "ON", "SET", "DEFAULT", "DELETE", "UPDATE", "CONSTRAINT", "REFERENCES",
    "CREATE", "TABLE"]

def plainWords : List String := ["CHECK", "RESTRICT", "CASCADE"]

theorem spells_keyword (word : String) (h : word ∈ clauseWords) :
    Spells word [.keyword word word] := by
  have closed : ∀ word ∈ clauseWords, (word ≠ "" ∧ Lettered word.toList ∧ word ∉ openers) ∧
      Token.ofWord word = .keyword word word := by decide +kernel
  obtain ⟨alone, token⟩ := closed word h
  exact .word alone token

theorem spells_plain (word : String) (h : word ∈ plainWords) : Spells word [.name word] := by
  have closed : ∀ word ∈ plainWords, (word ≠ "" ∧ Lettered word.toList ∧ word ∉ openers) ∧
      Token.ofWord word = .name word := by decide +kernel
  obtain ⟨alone, token⟩ := closed word h
  exact .word alone token

/-! ### Columns -/

def sizes (c : Column) : List Int :=
  match c.length with
  | none => []
  | some length => if c.type = .decimal then [length, c.scale.getD 0] else [length]

def integerTokens (n : Int) : List Token :=
  (if n < 0 then [.symbol "-"] else []) ++ [.number (toString n.natAbs)]

def typeTokens (c : Column) : List Token :=
  Token.ofWord (Dialect.sqliteTypeName c.type) ::
    if sizes c = [] then [] else enclosed ((sizes c).map integerTokens)

def nullTokens (c : Column) : List Token :=
  (if c.nullable then [] else [.keyword "NOT" "NOT"]) ++ [.keyword "NULL" "NULL"]

def memberTokens (c : Column) : List Token :=
  .quotedName c.name :: .keyword "IN" "IN" :: enclosed (c.enumValues.map fun v => [.string v])

def checkTokens (c : Column) : List Token :=
  if c.HasEnumValues then .name "CHECK" :: .symbol "(" :: (memberTokens c ++ [.symbol ")"]) else []

def columnTokens (c : Column) : List Token :=
  .quotedName c.name :: (typeTokens c ++ nullTokens c ++ checkTokens c)

theorem sizedType_eq (name : String) (c : Column) :
    Dialect.sqlite.sizedType name c =
      if sizes c = [] then name
      else name ++ "(" ++ ", ".intercalate ((sizes c).map toString) ++ ")" := by
  unfold Dialect.sizedType sizes
  cases c.length with
  | none => rfl
  | some length =>
    by_cases decimal : c.type = .decimal
    · simp [decimal, Dialect.withPrecision, String.intercalate_cons_cons, String.append_assoc]
    · have written : Dialect.sqlite.writesLength c.type = true := rfl
      simp [decimal, written, Dialect.withLength]

theorem spells_integer (n : Int) : Spells (toString n) (integerTokens n) := by
  intro cs ts stops h
  cases n with
  | ofNat k =>
    have sign : ¬ (Int.ofNat k) < 0 := by simp
    rw [integerTokens, if_neg sign]
    exact .number k stops h
  | negSucc k =>
    have digits : Scans (Nat.toDigits 10 (k + 1) ++ cs) (.number (toString (k + 1)) :: ts) := by
      rw [← Nat.toList_repr]
      exact .number (k + 1) stops h
    obtain ⟨c, ds, hdigits, hc⟩ := Json.digit_head (k + 1)
    rw [hdigits] at digits
    rw [integerTokens, if_pos (Int.negSucc_lt_zero k), Json.toList_negSucc, hdigits]
    exact .minus hc digits

theorem spells_null (c : Column) : Spells (Dialect.nullClause c) (nullTokens c) := by
  have joined : "NOT NULL" = "NOT" ++ " " ++ "NULL" := by decide +kernel
  unfold Dialect.nullClause nullTokens
  split
  · exact spells_keyword "NULL" (by decide)
  · rw [joined]
    exact (spells_keyword "NOT" (by decide)).spaced (spells_keyword "NULL" (by decide))

theorem spells_member (c : Column) :
    Spells (Dialect.sqlite.quote c.name ++ " IN (" ++
      ", ".intercalate (c.enumValues.map Dialect.literal) ++ ")") (memberTokens c) := by
  intro cs ts stops h
  have values := Scans.enclosed c.enumValues (fun v _ => spells_literal v) h
  have compared := spells_keyword "IN" (by decide) _ _ (.space _) (.space values)
  have rest := spells_name c.name _ _ (.space _) (.space compared)
  simpa [memberTokens, String.toList_append] using rest

theorem spells_check (c : Column) :
    Spells (Dialect.sqlite.checkClause c)
      (.name "CHECK" :: .symbol "(" :: (memberTokens c ++ [.symbol ")"])) := by
  intro cs ts stops h
  have member := spells_member c _ _ (.closing cs) (.closing h)
  have rest := spells_plain "CHECK" (by decide) _ _ (.space _) (.space (.opening member))
  simpa [Dialect.checkClause, String.toList_append] using rest

theorem typeName_letters (t : ColumnType) : Lettered (Dialect.sqliteTypeName t).toList := by
  cases t <;> decide

/-- A type with the null rule after it. The word for null opens no second word of a type. -/
theorem spells_type {c : Column} (typed : c.type ≠ .unset) :
    Spells (Dialect.sqlite.sizedType (Dialect.sqliteTypeName c.type) c ++ " " ++
      Dialect.nullClause c) (typeTokens c ++ nullTokens c) := by
  intro cs ts stops h
  have null := spells_null c cs ts stops h
  obtain ⟨rest, hrest⟩ : ∃ rest, (Dialect.nullClause c).toList ++ cs = 'N' :: rest := by
    unfold Dialect.nullClause
    split <;> exact ⟨_, rfl⟩
  rw [hrest] at null
  have word {cs ts} (stops : Stops cs) (alone : Alone _ cs) (h : Scans cs ts) :=
    Scans.word (typeName_ne_empty typed) (typeName_letters c.type) stops alone h
  rw [sizedType_eq, typeTokens]
  by_cases unsized : sizes c = []
  · have text := word (.space _) (fun _ => ⟨rest, .inr rfl⟩) (.space null)
    simpa [unsized, String.toList_append, hrest] using text
  · have numbers := Scans.enclosed (sizes c) (fun n _ => spells_integer n) (.space null)
    have text := word (.opening _) (fun _ => ⟨_, .inl rfl⟩) numbers
    simpa [unsized, String.toList_append, hrest] using text

structure PlainColumn (clause : ColumnClause) : Prop where
  typed : clause.column.type ≠ .unset
  type : Dialect.sqlite.typeOf? clause.column = some clause.type
  collation : clause.column.collation = none
  default : clause.column.default = none

theorem columnText_eq {clause : ColumnClause} (plain : PlainColumn clause) (owner : String) :
    Dialect.sqlite.columnText owner clause =
      Dialect.sqlite.quote clause.column.name ++ " " ++
        (Dialect.sqlite.sizedType (Dialect.sqliteTypeName clause.column.type) clause.column ++
          " " ++ Dialect.nullClause clause.column) ++
        if clause.column.HasEnumValues then " " ++ Dialect.sqlite.checkClause clause.column
        else "" := by
  have type := plain.type
  rw [typeOf?_eq, Option.some.injEq] at type
  have named : clause.type ≠ "" := by
    rw [← type, sizedType_eq]
    split
    · exact typeName_ne_empty plain.typed
    · simp [String.append_eq_empty_iff]
  unfold Dialect.columnText Dialect.columnHead Dialect.defaultClause Dialect.enumClause
  rw [plain.collation, plain.default, type, if_neg named]
  by_cases limited : clause.column.HasEnumValues = true
  · simp [limited, Dialect.collateClause, Text.nonempty?, String.intercalate_cons_cons,
      String.append_assoc]
  · simp [limited, Dialect.collateClause, Text.nonempty?, String.intercalate_cons_cons,
      String.append_assoc]

theorem spells_column {clause : ColumnClause} (plain : PlainColumn clause) (owner : String) :
    Spells (Dialect.sqlite.columnText owner clause) (columnTokens clause.column) := by
  have head := (spells_name clause.column.name).spaced (spells_type plain.typed)
  rw [columnText_eq plain, columnTokens, checkTokens]
  by_cases limited : clause.column.HasEnumValues = true
  · rw [if_pos limited, if_pos limited, ← String.append_assoc]
    simpa [List.append_assoc] using head.spaced (spells_check clause.column)
  · rw [if_neg limited, if_neg limited, String.append_empty, List.append_nil]
    exact head

/-! ### Keys -/

def nameTokens (names : List String) : List Token := enclosed (names.map fun n => [.quotedName n])

def primaryKeyTokens (names : List String) : List Token :=
  .keyword "PRIMARY KEY" "PRIMARY KEY" :: nameTokens names

def actionTokens (event action : String) : List Token :=
  match ReferentialAction.ofText? action with
  | none | some .noAction => []
  | some .restrict => [.keyword "ON" "ON", .keyword event event, .name "RESTRICT"]
  | some .cascade => [.keyword "ON" "ON", .keyword event event, .name "CASCADE"]
  | some .setNull =>
    [.keyword "ON" "ON", .keyword event event, .keyword "SET" "SET", .keyword "NULL" "NULL"]
  | some .setDefault =>
    [.keyword "ON" "ON", .keyword event event, .keyword "SET" "SET", .keyword "DEFAULT" "DEFAULT"]

def keyTokens (k : ForeignKey) : List Token :=
  nameTokens k.columns ++ .keyword "REFERENCES" "REFERENCES" :: .quotedName k.referencedTable ::
    (nameTokens k.referencedColumns ++ (actionTokens "DELETE" k.onDelete ++
      actionTokens "UPDATE" k.onUpdate))

def foreignKeyTokens (clause : ForeignKeyClause) : List Token :=
  .keyword "CONSTRAINT" "CONSTRAINT" :: .quotedName clause.name ::
    .keyword "FOREIGN KEY" "FOREIGN KEY" :: keyTokens clause.key

structure PlainKey (k : ForeignKey) : Prop where
  onDelete : ∃ action : ReferentialAction, action.text = k.onDelete
  onUpdate : ∃ action : ReferentialAction, action.text = k.onUpdate

variable {cs : List Char} {ts : List Token}

theorem scans_names (names : List String) (h : Scans cs ts) :
    Scans ('(' :: ((Dialect.sqlite.quotedList names).toList ++ ')' :: cs))
      (nameTokens names ++ ts) :=
  .enclosed names (fun name _ => spells_name name) h

theorem spells_primaryKey (owner : String) (names : List String) :
    Spells (Dialect.sqlite.primaryKeyText owner names) (primaryKeyTokens names) := by
  intro cs ts stops h
  have text := Scans.primaryKey (.space (scans_names names h))
  simpa [Dialect.primaryKeyText, primaryKeyTokens, String.toList_append] using text

theorem stops_action (event action : String) (stops : Stops cs) :
    Stops ((Dialect.actionText event action).toList ++ cs) := by
  unfold Dialect.actionText
  split
  · exact stops
  · rw [String.toList_append, String.toList_append, String.toList_append]
    exact .space _

theorem spells_action {event : String} (word : Spells event [.keyword event event])
    (action : ReferentialAction) :
    Spells (Dialect.actionText event action.text) (actionTokens event action.text) := by
  have marked {text block} (h : Spells text block) (acts : text ≠ "NO ACTION") :
      Spells (Dialect.actionText event text)
        ([.keyword "ON" "ON"] ++ [.keyword event event] ++ block) := by
    intro cs ts stops hcs
    have on := spells_keyword "ON" (by decide)
    have text := ((on.spaced word).spaced h) cs ts stops hcs
    simpa [Dialect.actionText, acts, String.toList_append] using text.space
  have set := spells_keyword "SET" (by decide)
  rw [actionTokens, ReferentialAction.ofText?_text]
  cases action with
  | noAction => exact fun _ _ _ h => h
  | restrict => exact marked (spells_plain "RESTRICT" (by decide)) (by decide)
  | cascade => exact marked (spells_plain "CASCADE" (by decide)) (by decide)
  | setNull =>
    have joined : "SET NULL" = "SET" ++ " " ++ "NULL" := by decide +kernel
    rw [ReferentialAction.text, joined]
    exact marked (set.spaced (spells_keyword "NULL" (by decide))) (by decide +kernel)
  | setDefault =>
    have joined : "SET DEFAULT" = "SET" ++ " " ++ "DEFAULT" := by decide +kernel
    rw [ReferentialAction.text, joined]
    exact marked (set.spaced (spells_keyword "DEFAULT" (by decide))) (by decide +kernel)

theorem spells_foreignKey {clause : ForeignKeyClause} (plain : PlainKey clause.key) :
    Spells (Dialect.sqlite.namedForeignKeyText clause) (foreignKeyTokens clause) := by
  intro cs ts stops h
  obtain ⟨delete, hdelete⟩ := plain.onDelete
  obtain ⟨update, hupdate⟩ := plain.onUpdate
  have acted := spells_action (spells_keyword "UPDATE" (by decide)) update cs ts stops h
  have actions := spells_action (spells_keyword "DELETE" (by decide)) delete _ _
    (stops_action _ _ stops) acted
  rw [hdelete, hupdate] at actions
  have target := spells_name clause.key.referencedTable _ _ (.space _)
    (.space (scans_names clause.key.referencedColumns actions))
  have refers := spells_keyword "REFERENCES" (by decide) _ _ (.space _) (.space target)
  have key := Scans.foreignKey (.space (scans_names clause.key.columns refers.space))
  have named := spells_name clause.name _ _ (.space _) key.space
  have text := spells_keyword "CONSTRAINT" (by decide) _ _ (.space _) (.space named)
  unfold Dialect.namedForeignKeyText Dialect.foreignKeyText
  simpa [foreignKeyTokens, keyTokens, String.toList_append] using text

/-! ### Tables -/

/-- A part of a table definition that stands on a line of its own. -/
inductive Line
  | column (clause : ColumnClause)
  | primaryKey (names : List String)
  | foreignKey (clause : ForeignKeyClause)

namespace Line

def text (owner : String) : Line → String
  | column clause => Dialect.sqlite.columnText owner clause
  | primaryKey names => Dialect.sqlite.primaryKeyText owner names
  | foreignKey clause => Dialect.sqlite.namedForeignKeyText clause

def tokens : Line → List Token
  | column clause => columnTokens clause.column
  | primaryKey names => primaryKeyTokens names
  | foreignKey clause => foreignKeyTokens clause

def Plain : Line → Prop
  | column clause => PlainColumn clause
  | primaryKey names => names ≠ []
  | foreignKey clause => PlainKey clause.key

theorem spells {line : Line} (plain : line.Plain) (owner : String) :
    Spells (line.text owner) line.tokens := by
  cases line with
  | column clause => exact spells_column plain owner
  | primaryKey names => exact spells_primaryKey owner names
  | foreignKey clause => exact spells_foreignKey plain

end Line

def lines (t : TableClause) : List Line :=
  t.columns.map .column ++ (if t.primaryKey = [] then [] else [.primaryKey t.primaryKey]) ++
    t.foreignKeys.map .foreignKey

theorem tableLines_eq (t : TableClause) :
    Dialect.sqlite.tableLines t = (lines t).map (Line.text t.keyOwner) := by
  unfold Dialect.tableLines lines
  by_cases keyed : t.primaryKey = []
  · simp [keyed, Function.comp_def, Line.text]
  · simp [keyed, Function.comp_def, Line.text]

def tableTokens (name : String) (ls : List Line) : List Token :=
  .keyword "CREATE" "CREATE" :: .keyword "TABLE" "TABLE" :: .quotedName name ::
    enclosed (ls.map Line.tokens)

/-- The text of a table definition has the tokens of its lines. -/
theorem tokens_of_plain {t : TableClause} (plain : ∀ line ∈ lines t, line.Plain) :
    Sql.tokens (Dialect.sqlite.text (.createTable t)) = .ok (tableTokens t.name (lines t)) := by
  have indented : ∀ line ∈ lines t, Spells ("    " ++ line.text t.keyOwner) line.tokens := by
    intro line hline cs ts stops h
    rw [String.toList_append, List.append_assoc]
    exact .space (.space (.space (.space (Line.spells (plain line hline) _ cs ts stops h))))
  have body := Spells.intercalate ",\n" (fun _ => .comma _) (fun h => .comma (.newline h)) indented
  have named := spells_name t.name _ _ (.space _) (.space (.opening (.newline
    (body _ _ (.newline _) (.newline (.closing .nil))))))
  have table := spells_keyword "TABLE" (by decide) _ _ (.space _) (.space named)
  have whole := spells_keyword "CREATE" (by decide) _ _ (.space _) (.space table)
  have text : Dialect.sqlite.text (.createTable t) =
      "CREATE TABLE " ++ Dialect.sqlite.quote t.name ++ " (" ++ "\n" ++
        Dialect.sqlite.tableBody t ++ "\n" ++ ")" := rfl
  apply tokens_of_scans
  rw [text, Dialect.tableBody, tableLines_eq, List.map_map]
  simpa [tableTokens, enclosed, String.toList_append, Function.comp_def] using whole

end SchemaMigration.Sqlite
