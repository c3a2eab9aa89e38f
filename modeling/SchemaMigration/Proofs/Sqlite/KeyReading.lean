import SchemaMigration.Proofs.Sqlite.ColumnReading

/-!
Keys as they are read: the names of their columns, and what a foreign key refers to. The actions of
a foreign key leave nothing in the tree.
-/

namespace SchemaMigration.Sqlite

open Sql Reader
open Scanner (enclosed enclosed_append)

variable {g : Grammar} {ts rest after : List Token} {t : Token} {d : Nat}

/-! ### Keys -/

def primaryKeyNode (names : List String) : Node := .of (names.map nameLeaf ++ [.of []])

theorem keyOption_none (closes : Closes t) : keyOption (t :: rest) = some (none, t :: rest) := by
  have apart : ∀ word ∈ ["NOT", "MATCH", "INITIALLY", "USING"],
      Token.isWordOf [word] t = false := by
    cases closes <;> decide
  have single : wordOf ["DEFERRABLE", "NORELY", "RELY"] (t :: rest) = some (false, t :: rest) := by
    cases closes <;> rfl
  have on : keyword "ON" (t :: rest) = some (false, t :: rest) := by cases closes <;> rfl
  refine (bind_of on _).trans ((bind_of single _).trans ?_)
  refine (bind_of (all_cons_of_not _ (apart "NOT" (by simp))) _).trans ?_
  refine (bind_of (all_cons_of_not _ (apart "MATCH" (by simp))) _).trans ?_
  refine (bind_of (all_cons_of_not _ (apart "INITIALLY" (by simp))) _).trans ?_
  exact bind_of (all_cons_of_not _ (apart "USING" (by simp))) _

theorem keyOptions_none (closes : Closes t) : keyOptions (t :: rest) = some ((), t :: rest) :=
  bind_of (many_nil (keyOption_none closes)) _

theorem indexParts_none (closes : Closes t) :
    indexParts g (t :: rest) = some (.of [], t :: rest) := by
  cases closes <;> rfl

theorem takes_keyName (name : String) :
    Takes (field g false false) [.quotedName name] (nameLeaf name) := by
  intro mark rest hmark
  rcases hmark with rfl | rfl <;> rfl

theorem takes_anyName (name : String) : Takes anyName [.quotedName name] (nameLeaf name) := by
  intro mark rest hmark
  rfl

theorem takes_primaryKey {names : List String} (hne : names ≠ []) :
    Takes (tableItem g) (primaryKeyTokens names) (primaryKeyNode names) := by
  intro mark rest hmark
  have closes := closes_of_mark hmark
  have columns : wrapped (list (field g false false)) (nameTokens names ++ .symbol mark :: rest) =
      some (names.map nameLeaf, .symbol mark :: rest) :=
    wrapped_of_takes names (fun name _ => takes_keyName name) (fun h => absurd h hne)
  have nonempty : (names.map nameLeaf).isEmpty = false := by simpa using hne
  have key : primaryKey g (nameTokens names ++ .symbol mark :: rest) =
      some (primaryKeyNode names, .symbol mark :: rest) := by
    refine (bind_of rfl _).trans ((bind_of rfl _).trans ((bind_of columns _).trans ?_))
    rw [nonempty]
    refine (bind_of (indexParts_none closes) _).trans ?_
    exact bind_of (keyOptions_none closes) _
  have defined : constraintOf g "PRIMARY KEY" (nameTokens names ++ .symbol mark :: rest) =
      some (some (primaryKeyNode names), .symbol mark :: rest) := map_of key _
  have found : constraint g tableConstraintWords
      (.keyword "PRIMARY KEY" "PRIMARY KEY" :: (nameTokens names ++ .symbol mark :: rest)) =
      some (some (primaryKeyNode names), .symbol mark :: rest) :=
    constraint_of (by decide) (by decide) defined
  have item : tableConstraint g
      (.keyword "PRIMARY KEY" "PRIMARY KEY" :: (nameTokens names ++ .symbol mark :: rest)) =
      some (some (primaryKeyNode names), .symbol mark :: rest) := found
  exact bind_of item _

/-! ### Foreign keys -/

theorem call_closes (closes : Closes t) (any : Bool) :
    call g any false true (t :: rest) = some (none, t :: rest) := by
  cases closes
  · refine (bind_of rfl _).trans ((bind_of rfl _).trans ?_)
    cases any <;> split <;> rfl
  · refine (bind_of rfl _).trans ((bind_of rfl _).trans ?_)
    cases any <;> split <;> rfl

/-- Nothing stands before a closing parenthesis. -/
theorem tableItem_closing :
    tableItem g (.symbol ")" :: rest) = some (none, .symbol ")" :: rest) := by
  have literal : primary g (.symbol ")" :: rest) = some (none, .symbol ")" :: rest) := rfl
  have field : field g true false (.symbol ")" :: rest) = some (none, .symbol ")" :: rest) :=
    (bind_of ((bind_of literal _).trans (call_closes .closing true)) _).trans rfl
  have item : tableConstraint g (.symbol ")" :: rest) = some (none, .symbol ")" :: rest) := rfl
  refine (bind_of item _).trans ((bind_of field _).trans ?_)
  exact columnOf_closes .closing none

def OpensColumns (t : Token) : Prop :=
  (t.isSymbol "(" || t.isKeywordOf ["SELECT", "WITH"]) = false

theorem columns_eq {path : List Node} (opens : ∃ t more, ts = t :: more ∧ OpensColumns t) :
    columns g path (.symbol "(" :: ts) =
      (closed (list (g .tableItem)) ts).bind fun (nodes, rest) =>
        some ([.of (path ++ nodes)], rest) := by
  obtain ⟨t, more, rfl, ht⟩ := opens
  refine (bind_of rfl _).trans ((bind_of rfl _).trans ?_)
  rw [if_neg (by simpa [OpensColumns] using ht)]
  exact (bind_of rfl _).trans rfl

/-- The columns of a table that is referred to. -/
theorem columns_of_names (path : List Node) (names : List String) :
    columns (grammar (d + 1)) path (nameTokens names ++ rest) =
      some ([.of (path ++ names.map nameLeaf)], rest) := by
  have items : closed (list (grammar (d + 1) .tableItem)) _ = some (_, rest) :=
    closed_of_takes names (fun name _ => takes_referenced name) (fun _ => tableItem_closing)
  have opens : ∀ n ∈ names, ∃ t more, [Token.quotedName n] = t :: more ∧ OpensColumns t :=
    fun _ _ => ⟨_, _, rfl, rfl⟩
  have head := separated_head (p := OpensColumns) rfl opens rest
  rw [nameTokens, enclosed_append, columns_eq head, items]
  rfl

theorem referred_names (name : String) (names : List String) :
    referred (grammar (d + 1)) (.quotedName name :: (nameTokens names ++ rest)) =
      some (.of [.of (nameLeaf name :: names.map nameLeaf)], rest) := by
  have path : tablePath (grammar (d + 1)) true (.quotedName name :: (nameTokens names ++ rest)) =
      some (.of [nameLeaf name], nameTokens names ++ rest) := by
    have undotted : many (after (symbol ".") (some <$> require (tablePart (grammar (d + 1)) true)))
        (nameTokens names ++ rest) = some ([], nameTokens names ++ rest) := many_nil rfl
    exact (bind_of rfl _).trans (bind_of undotted _)
  refine (bind_of path _).trans ((bind_of rfl _).trans ?_)
  exact bind_of (columns_of_names [nameLeaf name] names) _

theorem keyAction_word (rest : List Token) :
    keyAction (.name "RESTRICT" :: rest) = some (true, rest) ∧
      keyAction (.name "CASCADE" :: rest) = some (true, rest) := by
  constructor
  · refine (bind_of (all_cons_of_not _ (by decide)) _).trans ?_
    refine (bind_of (all_cons_of_not _ (by decide)) _).trans ?_
    exact (bind_of (all_cons_of_not _ (by decide)) _).trans rfl
  · refine (bind_of (all_cons_of_not _ (by decide)) _).trans ?_
    refine (bind_of (all_cons_of_not _ (by decide)) _).trans ?_
    exact (bind_of (all_cons_of_not _ (by decide)) _).trans rfl

theorem keyAction_set (rest : List Token) :
    keyAction (.keyword "SET" "SET" :: .keyword "NULL" "NULL" :: rest) = some (true, rest) ∧
      keyAction (.keyword "SET" "SET" :: .keyword "DEFAULT" "DEFAULT" :: rest) =
        some (true, rest) := by
  constructor
  · refine (bind_of (all_cons_of_not _ (by decide)) _).trans ?_
    exact (bind_of ((all_pair _ _ _ _ _).trans (if_pos (by decide))) _).trans rfl
  · refine (bind_of (all_cons_of_not _ (by decide)) _).trans ?_
    refine (bind_of ((all_pair _ _ _ _ _).trans (if_neg (by decide))) _).trans ?_
    exact (bind_of ((all_pair _ _ _ _ _).trans (if_pos (by decide))) _).trans rfl

/-- An action of a foreign key is an option of its own. -/
theorem keyOption_action (event : String) (free : Token.isReserved (.keyword event event) = false)
    (action : String) : actionTokens event action = [] ∨
      keyOption (actionTokens event action ++ rest) = some (some (), rest) := by
  have acts {ts : List Token} (h : keyAction ts = some (true, rest)) :
      keyOption (.keyword "ON" "ON" :: .keyword event event :: ts) = some (some (), rest) := by
    have event :
        anyToken (.keyword event event :: ts) = some (some (.keyword event event), ts) := by
      simp [anyToken, take?, free]
    refine (bind_of rfl _).trans ((bind_of (bind_of event _) _).trans ?_)
    exact bind_of (bind_of h _) _
  unfold actionTokens
  split
  · exact .inl rfl
  · exact .inl rfl
  · exact .inr (acts (keyAction_word rest).1)
  · exact .inr (acts (keyAction_word rest).2)
  · exact .inr (acts (keyAction_set rest).1)
  · exact .inr (acts (keyAction_set rest).2)

theorem keyOptions_actions (closes : Closes t) (onDelete onUpdate : String) :
    keyOptions (actionTokens "DELETE" onDelete ++ (actionTokens "UPDATE" onUpdate ++ t :: rest)) =
      some ((), t :: rest) := by
  have none : Items keyOption (t :: rest) [] (t :: rest) := .done (keyOption_none closes)
  have update : ∃ units, Items keyOption (actionTokens "UPDATE" onUpdate ++ t :: rest) units
      (t :: rest) ∧ units.length ≤ 1 := by
    rcases keyOption_action "UPDATE" (by decide) onUpdate with h | h
    · rw [h]
      exact ⟨[], none, by simp⟩
    · exact ⟨[()], .more h none, by simp⟩
  obtain ⟨units, items, short⟩ := update
  have enough : units.length + 1 < (actionTokens "DELETE" onDelete ++
      (actionTokens "UPDATE" onUpdate ++ t :: rest)).length + 2 := by
    simp only [List.length_append, List.length_cons]
    omega
  rcases keyOption_action "DELETE" (by decide) onDelete with h | h
  · rw [h] at enough ⊢
    exact bind_of (many_of_items items (by omega)) _
  · exact bind_of (many_of_items (.more h items) enough) _

def keyNode (k : ForeignKey) : Node :=
  .of [.of [.of [.of (nameLeaf k.referencedTable :: k.referencedColumns.map nameLeaf)]]]

theorem foreignKey_tokens (closes : Closes t) (k : ForeignKey) :
    foreignKey (grammar (d + 1)) (keyTokens k ++ t :: rest) = some (keyNode k, t :: rest) := by
  have tokens : keyTokens k ++ t :: rest = nameTokens k.columns ++
      .keyword "REFERENCES" "REFERENCES" :: .quotedName k.referencedTable ::
        (nameTokens k.referencedColumns ++ (actionTokens "DELETE" k.onDelete ++
          (actionTokens "UPDATE" k.onUpdate ++ t :: rest))) := by
    simp [keyTokens]
  have columns {ts : List Token} : wrapped (list anyName) (nameTokens k.columns ++ ts) =
      some (k.columns.map nameLeaf, ts) :=
    wrapped_of_takes k.columns (fun name _ => takes_anyName name) (fun _ => rfl)
  have refers : reference (grammar (d + 1)) (.quotedName k.referencedTable ::
      (nameTokens k.referencedColumns ++ (actionTokens "DELETE" k.onDelete ++
        (actionTokens "UPDATE" k.onUpdate ++ t :: rest)))) =
      some (.of [.of [.of (nameLeaf k.referencedTable :: k.referencedColumns.map nameLeaf)]],
        t :: rest) :=
    (bind_of (referred_names _ _) _).trans (bind_of (keyOptions_actions closes _ _) _)
  have acted : many (after (keyword "ON") do
      expect (keywordOf ["DELETE", "UPDATE"])
      if !(← words ["NO", "ACTION"]) then
        if ← keyword "SET" then
          let _ ← keywordOf ["NULL", "DEFAULT"]
        else
          let _ ← require (take? fun _ => true)
      return some ()) (t :: rest) = some ([], t :: rest) :=
    many_nil (by cases closes <;> rfl)
  have opened : sees (Token.isKeyword "REFERENCES") (nameTokens k.columns ++
      .keyword "REFERENCES" "REFERENCES" :: .quotedName k.referencedTable ::
        (nameTokens k.referencedColumns ++ (actionTokens "DELETE" k.onDelete ++
          (actionTokens "UPDATE" k.onUpdate ++ t :: rest)))) = some (false, _) := rfl
  rw [tokens]
  refine (bind_of opened _).trans ((bind_of columns _).trans ((bind_of rfl _).trans ?_))
  refine (bind_of (map_of refers _) _).trans ((bind_of acted _).trans ?_)
  exact bind_of (keyOptions_none closes) _

def unquotedConstraint (g : Grammar) : Reader (Option Node) := do
  if ← sees (fun token => token matches .quotedName _) then return none
  else constraint g constraintWords

def namedConstraint (g : Grammar) : Reader (Option Node) :=
  orElse (unquotedConstraint g) (call g false false true)

theorem namedConstraint_none (closes : Closes t) :
    namedConstraint g (t :: rest) = some (none, t :: rest) := by
  have unquoted : unquotedConstraint g (t :: rest) = some (none, t :: rest) := by
    cases closes <;> rfl
  exact (bind_of unquoted _).trans (call_closes closes false)

theorem namedConstraint_key (closes : Closes t) (k : ForeignKey) :
    namedConstraint (grammar (d + 1)) (.keyword "FOREIGN KEY" "FOREIGN KEY" ::
      (keyTokens k ++ t :: rest)) = some (some (keyNode k), t :: rest) := by
  have key : constraintOf (grammar (d + 1)) "FOREIGN KEY" (keyTokens k ++ t :: rest) =
      some (some (keyNode k), t :: rest) := map_of (foreignKey_tokens closes k) _
  have found : constraint (grammar (d + 1)) constraintWords
      (.keyword "FOREIGN KEY" "FOREIGN KEY" :: (keyTokens k ++ t :: rest)) =
      some (some (keyNode k), t :: rest) :=
    constraint_of (by decide) (by decide) key
  have unquoted : unquotedConstraint (grammar (d + 1)) (.keyword "FOREIGN KEY" "FOREIGN KEY" ::
      (keyTokens k ++ t :: rest)) = some (some (keyNode k), t :: rest) := found
  exact bind_of unquoted _

def foreignKeyNode (clause : ForeignKeyClause) : Node := .of [keyNode clause.key]

theorem takes_foreignKey (clause : ForeignKeyClause) :
    Takes (tableItem (grammar (d + 1))) (foreignKeyTokens clause) (foreignKeyNode clause) := by
  intro mark rest hmark
  have closes := closes_of_mark hmark
  have found : many (namedConstraint (grammar (d + 1)))
      (.keyword "FOREIGN KEY" "FOREIGN KEY" :: (keyTokens clause.key ++ .symbol mark :: rest)) =
      some ([keyNode clause.key], .symbol mark :: rest) :=
    many_of_items (.more (namedConstraint_key closes clause.key)
      (.done (namedConstraint_none closes))) (by simp)
  have named : keyword "CONSTRAINT" (foreignKeyTokens clause ++ .symbol mark :: rest) =
      some (true, _) := rfl
  have item : tableConstraint (grammar (d + 1)) (foreignKeyTokens clause ++ .symbol mark :: rest) =
      some (some (foreignKeyNode clause), .symbol mark :: rest) :=
    (bind_of named _).trans ((bind_of rfl _).trans (bind_of found _))
  exact bind_of item _

end SchemaMigration.Sqlite
