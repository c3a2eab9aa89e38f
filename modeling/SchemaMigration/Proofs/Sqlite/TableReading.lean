import SchemaMigration.Proofs.Sqlite.KeyReading

/-!
The syntax tree of a table definition. Its lines are read one after the other, each as what it
defines, and nothing is read if one of them is not legible.
-/

namespace SchemaMigration.Sqlite

open Sql Reader
open Scanner (enclosed enclosed_append)

variable {g : Grammar} {ts us rest : List Token} {t : Token} {d : Nat}

/-! ### Tables -/

def Line.node : Line → Node
  | column clause => columnNode clause.column
  | primaryKey names => primaryKeyNode names
  | foreignKey clause => foreignKeyNode clause

def Line.Legible : Line → Prop
  | column clause => ∀ n ∈ sizes clause.column, 0 ≤ n
  | primaryKey _ | foreignKey _ => True

theorem takes_line {line : Line} (plain : line.Plain) (legible : line.Legible) :
    Takes (tableItem (grammar (d + 1))) line.tokens line.node := by
  cases line with
  | column clause => exact takes_column (PlainColumn.typed plain) legible
  | primaryKey names => exact takes_primaryKey plain
  | foreignKey clause => exact takes_foreignKey clause

def tableNode (name : String) (ls : List Line) : Node :=
  .of [.of (nameLeaf name :: ls.map Line.node)]

theorem properties_nil : properties g [] = some ([], []) := many_nil rfl

theorem content_nil : content (grammar (d + 1)) [] = some (none, []) := rfl

/-- No property stands before what is created. -/
theorem properties_table (name : String) :
    properties g (.keyword "TABLE" "TABLE" :: .quotedName name :: rest) =
      some ([], .keyword "TABLE" "TABLE" :: .quotedName name :: rest) := by
  apply many_nil
  refine (bind_of rfl _).trans ?_
  dsimp only
  split <;> rfl

theorem createdPath_name {name : String} (free : Text.upper name ≠ "IF") :
    createdPath g (.quotedName name :: .symbol "(" :: rest) =
      some (.of [nameLeaf name], .symbol "(" :: rest) := by
  have apart : Token.isWordOf ["IF"] (.quotedName name) = false := by
    simpa [Token.isWordOf, Token.text] using free
  have undotted : many (after (symbol ".") (some <$> require (tablePart g true)))
      (.symbol "(" :: rest) = some ([], .symbol "(" :: rest) := many_nil rfl
  have path : tablePath g true (.quotedName name :: .symbol "(" :: rest) =
      some (.of [nameLeaf name], .symbol "(" :: rest) :=
    (bind_of rfl _).trans (bind_of undotted _)
  exact (bind_of (accept_of_not apart) _).trans path

/-- A name that is taken for the word of a condition leaves the table without one. -/
theorem createdPath_condition {name : String} (taken : Text.upper name = "IF") :
    createdPath g (.quotedName name :: .symbol "(" :: rest) = none := by
  have word : Token.isWordOf ["IF"] (.quotedName name) = true := by
    simp [Token.isWordOf, Token.text, taken]
  have condition : keywords ["NOT", "EXISTS"] (.symbol "(" :: rest) =
      some (false, .symbol "(" :: rest) := all_cons_of_not _ rfl
  refine (bind_of (accept_of word) _).trans ((bind_of condition _).trans ?_)
  exact bind_none rfl _

theorem createdTable_of {name : String} {nodes : List Node} (free : Text.upper name ≠ "IF")
    (opens : ∃ t more, ts = t :: more ∧ OpensColumns t)
    (items : closed (list (grammar (d + 1) .tableItem)) ts = some (nodes, [])) :
    createdTable (grammar (d + 1)) true (.quotedName name :: .symbol "(" :: ts) =
      some (.of [.of (nameLeaf name :: nodes)], []) := by
  have columns : columns (grammar (d + 1)) [nameLeaf name] (.symbol "(" :: ts) =
      some ([.of (nameLeaf name :: nodes)], []) := by
    rw [columns_eq opens, items]
    rfl
  have marks : many (markedProperty (grammar (d + 1))) (.symbol "(" :: ts) =
      some ([], .symbol "(" :: ts) := many_nil rfl
  refine (bind_of (createdPath_name free) _).trans ((bind_of rfl _).trans ?_)
  refine (bind_of marks _).trans ((bind_of columns _).trans ?_)
  refine (bind_of properties_nil _).trans ((bind_of rfl _).trans ?_)
  refine (bind_of properties_nil _).trans ((bind_of content_nil _).trans ?_)
  exact (bind_of properties_nil _).trans rfl

theorem createdTable_none {name : String}
    (unread : Text.upper name = "IF" ∨ (∃ t more, ts = t :: more ∧ OpensColumns t) ∧
      closed (list (g .tableItem)) ts = none) :
    createdTable g true (.quotedName name :: .symbol "(" :: ts) = none := by
  by_cases taken : Text.upper name = "IF"
  · exact bind_none (createdPath_condition taken) _
  · obtain ⟨opens, items⟩ := unread.resolve_left taken
    have columns : columns g [nameLeaf name] (.symbol "(" :: ts) = none := by
      rw [columns_eq opens, items]
      rfl
    have marks : many (markedProperty g) (.symbol "(" :: ts) = some ([], .symbol "(" :: ts) :=
      many_nil rfl
    refine (bind_of (createdPath_name taken) _).trans ((bind_of rfl _).trans ?_)
    exact (bind_of marks _).trans (bind_none columns _)

theorem created_table (ts : List Token) :
    created g (.keyword "TABLE" "TABLE" :: ts) =
      (createdTable g true ts).bind fun (n, rest) => some (some n, rest) :=
  (bind_of rfl _).trans rfl

theorem creation_eq (name : String) :
    creation g (.keyword "TABLE" "TABLE" :: .quotedName name :: ts) =
      (do
        match ← created g with
        | none => skipAll
        | some n =>
          if (← get).isEmpty then return n
          else if ← sees (fun t => t.isSymbol ")" || t.isSymbol ",") then return n
          else skipAll : Reader Node) (.keyword "TABLE" "TABLE" :: .quotedName name :: ts) := by
  have replaced : all [Token.isKeyword "OR", Token.isKeyword "REPLACE"]
      (.keyword "TABLE" "TABLE" :: .quotedName name :: ts) = some (false, _) :=
    all_cons_of_not _ rfl
  refine (bind_of replaced _).trans ((bind_of rfl _).trans ?_)
  exact bind_of (properties_table name) _

theorem statement_create (ts : List Token) :
    statement g (.keyword "CREATE" "CREATE" :: ts) =
      (creation g ts).bind fun (n, rest) => some (some n, rest) := rfl

theorem statement_of_created {name : String} {n : Node}
    (h : createdTable g true (.quotedName name :: ts) = some (n, [])) :
    statement g (.keyword "CREATE" "CREATE" :: .keyword "TABLE" "TABLE" :: .quotedName name :: ts) =
      some (some n, []) := by
  have found : created g (.keyword "TABLE" "TABLE" :: .quotedName name :: ts) =
      some (some n, []) := by
    rw [created_table, h]
    rfl
  rw [statement_create, creation_eq, bind_of found]
  rfl

theorem statement_of_uncreated {name : String}
    (h : createdTable g true (.quotedName name :: ts) = none) :
    statement g (.keyword "CREATE" "CREATE" :: .keyword "TABLE" "TABLE" :: .quotedName name :: ts) =
      none := by
  have found : created g (.keyword "TABLE" "TABLE" :: .quotedName name :: ts) = none := by
    rw [created_table, h]
    rfl
  rw [statement_create, creation_eq, bind_none found]
  rfl

theorem opens_line (line : Line) : ∃ t more, line.tokens = t :: more ∧ OpensColumns t := by
  cases line <;> exact ⟨_, _, rfl, rfl⟩

/-- A line with a negative number is read up to its type. -/
theorem breaks_line {line : Line} (plain : line.Plain) (illegible : ¬ line.Legible) :
    Breaks (tableItem (grammar (d + 1))) line.tokens := by
  intro rest
  cases line with
  | primaryKey names => exact absurd trivial illegible
  | foreignKey clause => exact absurd trivial illegible
  | column clause =>
    have neg : ∃ n ∈ sizes clause.column, n < 0 := by simpa [Line.Legible] using illegible
    have item := tableItem_of_neg (d := d) (PlainColumn.typed plain) neg rest
    exact ⟨_, _, _, item, Scanner.isSymbol_ofWord _ _, Scanner.isSymbol_ofWord _ _⟩

variable {ls : List Line} {name : String}

theorem closed_of_legible (plain : ∀ line ∈ ls, line.Plain) (legible : ∀ line ∈ ls, line.Legible) :
    closed (list (tableItem (grammar (d + 1))))
        ([Token.symbol ","].intercalate (ls.map Line.tokens) ++ .symbol ")" :: rest) =
      some (ls.map Line.node, rest) :=
  closed_of_takes ls (fun line h => takes_line (plain line h) (legible line h))
    (fun _ => tableItem_closing)

theorem closed_of_illegible (plain : ∀ line ∈ ls, line.Plain)
    (illegible : ∃ line ∈ ls, ¬ line.Legible) :
    closed (list (tableItem (grammar (d + 1))))
        ([Token.symbol ","].intercalate (ls.map Line.tokens) ++ .symbol ")" :: rest) = none := by
  obtain ⟨as, t, more, items, unclosed⟩ := list_of_breaks
    (fun line hline => takes_line (plain line hline))
    (fun line hline => breaks_line (plain line hline)) illegible rest
  refine (bind_of items _).trans (bind_none ?_ _)
  exact (bind_of (accept_of_not unclosed) _).trans rfl

/-! ### Whole texts -/

theorem statements_single {ts : List Token} (h : ∀ t ∈ ts, t.isSymbol ";" = false) :
    statements ts = [ts] := by
  induction ts with
  | nil => rfl
  | cons t ts ih =>
    rw [statements, h t List.mem_cons_self, ih fun u hu => h u (List.mem_cons_of_mem _ hu)]
    rfl

theorem parse_single (h : ∀ t ∈ ts, t.isSymbol ";" = false) :
    parse ts = (parseStatement ts).bind id := by
  rw [parse, statements_single h]
  cases hstatement : parseStatement ts with
  | none => simp [hstatement]
  | some tree => simp [hstatement]

def Unseparated (ts : List Token) : Prop := ∀ t ∈ ts, t.isSymbol ";" = false

theorem unseparated_append (first : Unseparated ts) (second : Unseparated us) :
    Unseparated (ts ++ us) := by
  intro t ht
  rcases List.mem_append.mp ht with ht | ht
  · exact first t ht
  · exact second t ht

theorem unseparated_cons (first : t.isSymbol ";" = false) (others : Unseparated ts) :
    Unseparated (t :: ts) :=
  List.forall_mem_cons.mpr ⟨first, others⟩

theorem unseparated_enclosed {ι : Type} {items : List ι} {block : ι → List Token}
    (h : ∀ i ∈ items, Unseparated (block i)) : Unseparated (enclosed (items.map block)) := by
  have closing : Unseparated [.symbol ")"] := unseparated_cons (by decide) (List.forall_mem_nil _)
  have inside :
      Unseparated ([Token.symbol ","].intercalate (items.map block) ++ [.symbol ")"]) := by
    induction items with
    | nil => exact closing
    | cons i items ih =>
      have first := h i List.mem_cons_self
      cases items with
      | nil =>
        rw [List.map_cons, List.map_nil, List.intercalate_singleton]
        exact unseparated_append first closing
      | cons j items =>
        rw [separated_cons_cons]
        apply unseparated_append first
        exact unseparated_cons (by decide) (ih fun k hk => h k (List.mem_cons_of_mem _ hk))
  exact unseparated_cons (by decide) inside

theorem unseparated_single (h : t.isSymbol ";" = false) : Unseparated [t] :=
  unseparated_cons h (List.forall_mem_nil _)

theorem unseparated_integer (n : Int) : Unseparated (integerTokens n) := by
  unfold integerTokens
  split <;> simp [Unseparated, Token.isSymbol]

theorem unseparated_names (names : List String) : Unseparated (nameTokens names) :=
  unseparated_enclosed fun _ _ => unseparated_single rfl

theorem unseparated_column (c : Column) : Unseparated (columnTokens c) := by
  have type : Unseparated (typeTokens c) := by
    apply unseparated_cons (Scanner.isSymbol_ofWord _ _)
    split
    · exact List.forall_mem_nil _
    · exact unseparated_enclosed fun n _ => unseparated_integer n
  have null : Unseparated (nullTokens c) := by
    unfold nullTokens
    split <;> simp [Unseparated, Token.isSymbol]
  have check : Unseparated (checkTokens c) := by
    unfold checkTokens
    split
    · have values : Unseparated (enclosed (c.enumValues.map fun v => [.string v])) :=
        unseparated_enclosed fun _ _ => unseparated_single rfl
      have member : Unseparated (memberTokens c) :=
        unseparated_cons rfl (unseparated_cons rfl values)
      exact unseparated_cons rfl (unseparated_cons (by decide)
        (unseparated_append member (unseparated_single (by decide))))
    · exact List.forall_mem_nil _
  exact unseparated_cons rfl (unseparated_append (unseparated_append type null) check)

theorem unseparated_action (event action : String) : Unseparated (actionTokens event action) := by
  unfold actionTokens
  split <;> simp [Unseparated, Token.isSymbol]

theorem unseparated_key (k : ForeignKey) : Unseparated (keyTokens k) := by
  apply unseparated_append (unseparated_names _)
  apply unseparated_cons rfl
  apply unseparated_cons rfl
  apply unseparated_append (unseparated_names _)
  exact unseparated_append (unseparated_action _ _) (unseparated_action _ _)

theorem unseparated_table (name : String) (ls : List Line) : Unseparated (tableTokens name ls) := by
  have lines : Unseparated (enclosed (ls.map Line.tokens)) := by
    apply unseparated_enclosed
    intro line _
    cases line with
    | column clause => exact unseparated_column clause.column
    | primaryKey names => exact unseparated_cons rfl (unseparated_names names)
    | foreignKey clause =>
      exact unseparated_cons rfl (unseparated_cons rfl (unseparated_cons rfl (unseparated_key _)))
  exact unseparated_cons rfl (unseparated_cons rfl (unseparated_cons rfl lines))

theorem depth_of (ts : List Token) : ∃ d, depthOf ts = d + 3 :=
  ⟨depthOf ts - 3, by unfold depthOf; omega⟩

theorem opens_lines (ls : List Line) :
    ∃ t more, [Token.symbol ","].intercalate (ls.map Line.tokens) ++ [.symbol ")"] = t :: more ∧
      OpensColumns t :=
  separated_head (p := OpensColumns) rfl (fun line _ => opens_line line) []

theorem statement_of_legible (free : Text.upper name ≠ "IF") (plain : ∀ line ∈ ls, line.Plain)
    (legible : ∀ line ∈ ls, line.Legible) :
    grammar (d + 3) .statement (tableTokens name ls) = some (some (tableNode name ls), []) := by
  exact statement_of_created (createdTable_of free (opens_lines ls)
    (closed_of_legible plain legible))

theorem statement_of_illegible (plain : ∀ line ∈ ls, line.Plain)
    (unread : Text.upper name = "IF" ∨ ∃ line ∈ ls, ¬ line.Legible) :
    grammar (d + 3) .statement (tableTokens name ls) = none := by
  apply statement_of_uncreated
  apply createdTable_none
  rcases unread with taken | illegible
  · exact .inl taken
  · exact .inr ⟨opens_lines ls, closed_of_illegible plain illegible⟩

/-- A table definition is read as the tree of its lines. -/
theorem parse_of_legible (free : Text.upper name ≠ "IF") (plain : ∀ line ∈ ls, line.Plain)
    (legible : ∀ line ∈ ls, line.Legible) :
    parse (tableTokens name ls) = some (tableNode name ls) := by
  obtain ⟨d, hd⟩ := depth_of (tableTokens name ls)
  have found := statement_of_legible (d := d) free plain legible
  rw [parse_single (unseparated_table name ls), parseStatement, hd, StateT.run, found]
  rfl

/-- A table definition is not read if its name is taken for another word, or if one of its lines
has a negative number. -/
theorem parse_of_illegible (plain : ∀ line ∈ ls, line.Plain)
    (unread : Text.upper name = "IF" ∨ ∃ line ∈ ls, ¬ line.Legible) :
    parse (tableTokens name ls) = none := by
  obtain ⟨d, hd⟩ := depth_of (tableTokens name ls)
  have found := statement_of_illegible (d := d) plain unread
  rw [parse_single (unseparated_table name ls), parseStatement, hd, StateT.run, found]
  rfl

end SchemaMigration.Sqlite
