import SchemaMigration.Proofs.Sql.Operands
import SchemaMigration.Proofs.Sqlite.TableTokens

/-!
Column definitions as they are read. A column has its type, its null rule and its check, which is a
comparison with its values. A type that has a negative number is not read.
-/

namespace SchemaMigration.Sqlite

open Sql Reader
open Scanner (enclosed enclosed_append)

variable {g : Grammar} {ts rest after : List Token} {t : Token} {d : Nat}

/-! ### Types -/

def isPlainType : Token → Bool
  | .keyword word _ =>
    Keyword.isType word && !Keyword.nestedTypes.contains word && word != "INTERVAL" &&
      word != "NULLABLE"
  | .name _ => true
  | _ => false

theorem isPlainType_typeName {type : ColumnType} (typed : type ≠ .unset) :
    isPlainType (Token.ofWord (Dialect.sqliteTypeName type)) = true := by
  have plain : ∀ t ∈ ColumnType.all, t ≠ .unset →
      isPlainType (Token.ofWord (Dialect.sqliteTypeName t)) = true := by decide +kernel
  exact plain type type.mem_all typed

inductive Ruled : Token → Prop
  | null : Ruled (.keyword "NULL" "NULL")
  | not : Ruled (.keyword "NOT" "NOT")

theorem timeZone_ruled (ruled : Ruled t) : timeZone (t :: rest) = some (false, t :: rest) := by
  have marked : Token.isWordOf ["WITH"] t = false := by cases ruled <;> decide
  have unmarked : Token.isWordOf ["WITHOUT"] t = false := by cases ruled <;> decide
  refine (bind_of (all_cons_of_not _ marked) _).trans ?_
  refine (bind_of (all_cons_of_not _ marked) _).trans ?_
  exact all_cons_of_not _ unmarked

theorem listed_ruled (ruled : Ruled t) (type : Node) :
    listed g type (t :: rest) = some (type, t :: rest) := by
  have lists : many (after (keyword "LIST") (pure (some ()))) (t :: rest) = some ([], t :: rest) :=
    many_nil (by cases ruled <;> rfl)
  refine (bind_of lists _).trans ?_
  cases ruled <;> rfl

/-- What may follow the parts of a type is not there. -/
theorem type_ends (ruled : Ruled t) (word : Option String) (type : Node) :
    (do
      if word.isSome && !false then
        if ← Reader.word "UNSIGNED" then
          expect (pure (Keyword.signedTypes.contains (word.getD "")))
      return some (← listed g type) : Reader (Option Node)) (t :: after) =
      some (some type, t :: after) := by
  have unsigned : Reader.word "UNSIGNED" (t :: after) = some (false, t :: after) := by
    cases ruled <;> rfl
  dsimp only
  split
  · exact (bind_of unsigned _).trans (bind_of (listed_ruled ruled type) _)
  · exact bind_of (listed_ruled ruled type) _

theorem dataType_of {word : Option String} {parts : Option (List Node)} (ruled : Ruled t)
    (name : typeName true ts = some (some word, rest))
    (found : typeParts g (word.getD "") true rest = some (some parts, t :: after))
    (interval : word.getD "" ≠ "INTERVAL") (nullable : word.getD "" ≠ "NULLABLE") :
    dataType g false true ts =
      some (some (.branch (.type !(parts.getD []).isEmpty) (parts.getD [])), t :: after) := by
  apply attempt_of
  refine (bind_of name _).trans ?_
  refine (bind_of rfl _).trans ?_
  refine (bind_of found _).trans ?_
  simp only [interval, nullable, if_false, decide_false, Bool.false_and, Bool.false_eq_true]
  -- no time zone follows, whether or not the type may have one
  split
  · refine (bind_of (timeZone_ruled ruled) _).trans ((bind_of rfl _).trans ?_)
    exact type_ends ruled word _
  · refine (bind_of rfl _).trans ((bind_of rfl _).trans ?_)
    exact type_ends ruled word _

/-! ### Sizes -/

def typeWord : Token → Option String
  | .keyword word _ => some word
  | _ => none

theorem typeName_plain {name : Token} (plain : isPlainType name = true)
    (undotted : Token.isSymbol "." t = false) :
    typeName true (name :: t :: rest) = some (some (typeWord name), t :: rest) := by
  cases name with
  | keyword word text =>
    simp only [isPlainType, Bool.and_eq_true] at plain
    have type : take? Token.isType (.keyword word text :: t :: rest) =
        some (some (.keyword word text), t :: rest) := by
      simp [take?, Token.isType, plain.1.1.1]
    exact bind_of type _
  | name text =>
    have path : many (after (symbol ".") anyToken) (t :: rest) = some ([], t :: rest) :=
      many_nil (bind_of (accept_of_not undotted) _)
    refine (bind_of rfl _).trans ((bind_of rfl _).trans ?_)
    exact bind_of path _
  | symbol | quotedName | string | markedString | number => cases plain

theorem unnested_of_plain {name : Token} (plain : isPlainType name = true) :
    Keyword.nestedTypes.contains ((typeWord name).getD "") = false ∧
      (typeWord name).getD "" ≠ "INTERVAL" ∧ (typeWord name).getD "" ≠ "NULLABLE" := by
  cases name with
  | keyword word text =>
    simp only [isPlainType, Bool.and_eq_true, Bool.not_eq_true', bne_iff_ne] at plain
    exact ⟨plain.1.1.2, plain.1.2, plain.2⟩
  | name text =>
    show Keyword.nestedTypes.contains "" = false ∧ "" ≠ "INTERVAL" ∧ "" ≠ "NULLABLE"
    decide
  | symbol | quotedName | string | markedString | number => cases plain

theorem integerTokens_of_nonneg {n : Int} (h : 0 ≤ n) :
    integerTokens n = [.number (toString n.natAbs)] := by
  rw [integerTokens, if_neg (by omega)]
  rfl

theorem integerTokens_of_neg {n : Int} (h : n < 0) :
    integerTokens n = [.symbol "-", .number (toString n.natAbs)] := by
  rw [integerTokens, if_pos h]
  rfl

theorem takes_integer {n : Int} (h : 0 ≤ n) :
    Takes (typeParameter (grammar (d + 1))) (integerTokens n) (.of [.leaf .number]) := by
  intro mark rest hmark
  rw [integerTokens_of_nonneg h]
  have size : grammar (d + 1) .typed (.number (toString n.natAbs) :: .symbol mark :: rest) =
      some (some (.leaf .number), .symbol mark :: rest) :=
    typed_number (closes_of_mark hmark) _
  refine (bind_of size _).trans ?_
  rcases hmark with rfl | rfl <;> rfl

/-- A sign is no parameter of a type. -/
theorem breaks_integer {n : Int} (h : n < 0) :
    Breaks (typeParameter (grammar (d + 1))) (integerTokens n) := by
  intro rest
  rw [integerTokens_of_neg h]
  exact ⟨none, .symbol "-", _, rfl, by decide, by decide⟩

variable {word : String} {ns : List Int}

/-- The numbers of a type are its parts if none of them is negative. -/
theorem typeParts_of_nonneg (unnested : Keyword.nestedTypes.contains word = false)
    (hne : ns ≠ []) (nonneg : ∀ n ∈ ns, 0 ≤ n) (rest : List Token) :
    typeParts (grammar (d + 1)) word true (enclosed (ns.map integerTokens) ++ rest) =
      some (some (some (ns.map fun _ => .of [.leaf .number])), rest) := by
  have parts : list _ _ = some (_, .symbol ")" :: rest) :=
    list_of_takes hne fun n hn => takes_integer (d := d) (nonneg n hn)
  rw [enclosed_append]
  refine (bind_of rfl _).trans ?_
  simp only [unnested, Bool.false_eq_true, if_false]
  exact (bind_of parts _).trans rfl

theorem typeParts_none (unnested : Keyword.nestedTypes.contains word = false) (ruled : Ruled t) :
    typeParts g word true (t :: rest) = some (some none, t :: rest) := by
  have mark : symbol "(" (t :: rest) = some (false, t :: rest) := by cases ruled <;> rfl
  refine (bind_of mark _).trans ?_
  simp only [unnested, Bool.false_eq_true, if_false]
  rfl

theorem typeParts_of_neg (unnested : Keyword.nestedTypes.contains word = false)
    (neg : ∃ n ∈ ns, n < 0) (rest : List Token) :
    ∃ rest', typeParts (grammar (d + 1)) word true (enclosed (ns.map integerTokens) ++ rest) =
      some (none, rest') := by
  have unsound : ∃ n ∈ ns, ¬ 0 ≤ n := by simpa using neg
  obtain ⟨as, t, more, parts, unclosed⟩ := list_of_breaks
    (fun n _ nonneg => takes_integer (d := d) nonneg)
    (fun n _ negative => breaks_integer (d := d) (Int.not_le.mp negative)) unsound rest
  refine ⟨t :: more, ?_⟩
  rw [enclosed_append]
  refine (bind_of rfl _).trans ?_
  simp only [unnested, Bool.false_eq_true, if_false]
  refine (bind_of parts _).trans ?_
  exact (bind_of (accept_of_not unclosed) _).trans rfl

def sizeNodes (c : Column) : List Node := (sizes c).map fun _ => .of [.leaf .number]

def typeNode (c : Column) : Node := .branch (.type !(sizeNodes c).isEmpty) (sizeNodes c)

variable {c : Column}

theorem dataType_typeTokens (typed : c.type ≠ .unset) (nonneg : ∀ n ∈ sizes c, 0 ≤ n)
    (ruled : Ruled t) :
    dataType (grammar (d + 1)) false true (typeTokens c ++ t :: rest) =
      some (some (typeNode c), t :: rest) := by
  have plain := isPlainType_typeName typed
  obtain ⟨unnested, interval, nullable⟩ := unnested_of_plain plain
  unfold typeTokens typeNode sizeNodes
  by_cases unsized : sizes c = []
  · have undotted : Token.isSymbol "." t = false := by cases ruled <;> rfl
    rw [unsized]
    exact dataType_of ruled (typeName_plain plain undotted) (typeParts_none unnested ruled) interval
      nullable
  · have parts := typeParts_of_nonneg (d := d) unnested unsized nonneg (t :: rest)
    rw [if_neg unsized, List.cons_append]
    exact dataType_of ruled (typeName_plain plain rfl) parts interval nullable

/-- A type with a negative number is not read at all. -/
theorem dataType_of_neg (typed : c.type ≠ .unset) (neg : ∃ n ∈ sizes c, n < 0)
    (rest : List Token) :
    dataType (grammar (d + 1)) false true (typeTokens c ++ rest) =
      some (none, typeTokens c ++ rest) := by
  have plain := isPlainType_typeName typed
  obtain ⟨unnested, -, -⟩ := unnested_of_plain plain
  have sized : sizes c ≠ [] := by
    obtain ⟨n, hn, -⟩ := neg
    exact List.ne_nil_of_mem hn
  obtain ⟨rest', parts⟩ := typeParts_of_neg (d := d) unnested neg rest
  unfold typeTokens
  rw [if_neg sized, List.cons_append]
  apply attempt_nothing
  refine (bind_of (typeName_plain plain rfl) _).trans ?_
  exact (bind_of rfl _).trans (bind_of parts _)

/-! ### Columns -/

def nameLeaf (name : String) : Node := .leaf (.name true name)

def checkNode (c : Column) : Node := .of [.of [memberNode c.name c.enumValues]]

def columnNode (c : Column) : Node :=
  .branch .columnDefinition (nameLeaf c.name :: typeNode c :: .of [.of []] ::
    if c.HasEnumValues then [checkNode c] else [])

theorem nullTokens_split (c : Column) :
    ∃ t more, Ruled t ∧ nullTokens c = t :: more := by
  unfold nullTokens
  split
  · exact ⟨_, _, .null, rfl⟩
  · exact ⟨_, _, .not, rfl⟩

/-- The null rule of a column as one of its constraints. -/
theorem columnConstraint_null (c : Column) :
    columnConstraint g (nullTokens c ++ rest) = some (some (.of [.of []]), rest) := by
  unfold nullTokens
  split
  · rfl
  · rfl

/-- A constraint is told by its first word. -/
theorem constraint_of {words : List String} {word : String} {n : Node}
    (opens : t.isWordOf words = true) (spelled : Text.upper t.text = word)
    (found : constraintOf g word ts = some (some n, rest)) :
    constraint g words (t :: ts) = some (some n, rest) := by
  apply attempt_of
  refine (bind_of (take?_of opens) _).trans ?_
  show constraintOf g (Text.upper t.text) ts = _
  rw [spelled, found]

theorem condition_member (hne : c.enumValues ≠ []) (closes : Closes t) :
    assignment (grammar (d + 1)) (memberTokens c ++ t :: rest) =
      some (some (memberNode c.name c.enumValues), t :: rest) :=
  assignment_alone closes (range_member closes c.name hne)

theorem columnConstraint_check (hne : c.enumValues ≠ []) (closes : Closes t) (rest : List Token) :
    columnConstraint (grammar (d + 1)) (.name "CHECK" :: .symbol "(" ::
      (memberTokens c ++ .symbol ")" :: t :: rest)) = some (some (checkNode c), t :: rest) := by
  have condition : require (assignment (grammar (d + 1)))
      (memberTokens c ++ .symbol ")" :: t :: rest) =
      some (memberNode c.name c.enumValues, .symbol ")" :: t :: rest) :=
    bind_of (condition_member hne .closing) _
  have enforced : Reader.word "ENFORCED" (t :: rest) = some (false, t :: rest) := by
    cases closes <;> rfl
  have check : constraintOf (grammar (d + 1)) "CHECK" (.symbol "(" ::
      (memberTokens c ++ .symbol ")" :: t :: rest)) =
      some (some (.of [memberNode c.name c.enumValues]), t :: rest) := by
    refine (bind_of rfl _).trans ?_
    refine (bind_of ((bind_of condition _).trans (bind_of rfl _)) _).trans ?_
    exact bind_of enforced _
  have found : constraint (grammar (d + 1)) constraintWords (.name "CHECK" :: .symbol "(" ::
      (memberTokens c ++ .symbol ")" :: t :: rest)) =
      some (some (.of [memberNode c.name c.enumValues]), t :: rest) :=
    constraint_of (by decide) (by decide) check
  have unnamed : keyword "CONSTRAINT" (.name "CHECK" :: .symbol "(" ::
      (memberTokens c ++ .symbol ")" :: t :: rest)) = some (false, _) := rfl
  apply attempt_of
  exact (bind_of unnamed _).trans ((bind_of rfl _).trans (bind_of found _))

theorem columnConstraint_none (unnamed : Token.isKeyword "CONSTRAINT" t = false)
    (free : Token.isWordOf constraintWords t = false) :
    columnConstraint g (t :: rest) = some (none, t :: rest) := by
  have named : keyword "CONSTRAINT" (t :: rest) = some (false, t :: rest) := accept_of_not unnamed
  have found : constraint g constraintWords (t :: rest) = some (none, t :: rest) :=
    attempt_nothing (bind_of (take?_of_not free) _)
  apply attempt_nothing
  exact (bind_of named _).trans ((bind_of rfl _).trans (bind_of found _))

theorem columnConstraint_closes (closes : Closes t) :
    columnConstraint g (t :: rest) = some (none, t :: rest) := by
  cases closes
  · exact columnConstraint_none rfl (by decide)
  · exact columnConstraint_none rfl (by decide)

theorem field_name (uncalled : Token.isSymbol "(" t = false) (name : String) :
    field g true false (.quotedName name :: t :: rest) =
      some (some (nameLeaf name), t :: rest) := by
  have called : call g true false true (.quotedName name :: t :: rest) =
      some (none, .quotedName name :: t :: rest) := by
    refine (bind_of rfl _).trans ((bind_of rfl _).trans ?_)
    rw [if_neg (by simp [uncalled])]
    rfl
  have literal : primary g (.quotedName name :: t :: rest) =
      some (none, .quotedName name :: t :: rest) := rfl
  exact (bind_of ((bind_of literal _).trans called) _).trans rfl

theorem tableConstraint_name (name : String) :
    tableConstraint g (.quotedName name :: rest) = some (none, .quotedName name :: rest) := rfl

theorem computation_none (unmarked : Token.isKeyword "AS" t = false)
    (apart : Token.isWordOf ["ALIAS", "MATERIALIZED"] t = false) (typed : Bool) :
    computation g typed (t :: rest) = some (none, t :: rest) := by
  have keyword : Reader.keyword "AS" (t :: rest) = some (false, t :: rest) :=
    accept_of_not unmarked
  have word : wordOf ["ALIAS", "MATERIALIZED"] (t :: rest) = some (false, t :: rest) :=
    accept_of_not apart
  cases typed with
  | false =>
    refine (bind_of rfl _).trans ?_
    exact (bind_of keyword _).trans ((bind_of word _).trans rfl)
  | true =>
    refine (bind_of rfl _).trans ?_
    dsimp only
    split
    · exact (bind_of keyword _).trans ((bind_of rfl _).trans ((bind_of word _).trans rfl))
    · exact (bind_of rfl _).trans ((bind_of word _).trans rfl)

theorem computation_ruled (ruled : Ruled t) (typed : Bool) :
    computation g typed (t :: rest) = some (none, t :: rest) := by
  cases ruled
  · exact computation_none rfl (by decide) typed
  · exact computation_none rfl (by decide) typed

/-- The constraints of a column are its null rule and its check. -/
theorem constraints_of_column (c : Column) (closes : Closes t) (rest : List Token) :
    many (columnConstraint (grammar (d + 1))) (nullTokens c ++ (checkTokens c ++ t :: rest)) =
      some (.of [.of []] :: if c.HasEnumValues then [checkNode c] else [], t :: rest) := by
  unfold checkTokens
  by_cases hc : c.HasEnumValues = true
  · have check := columnConstraint_check (d := d) (Column.enumValues_ne_nil hc) closes rest
    rw [if_pos hc, if_pos hc, List.cons_append, List.cons_append, List.append_assoc]
    exact many_of_items (.more (columnConstraint_null c)
      (.more check (.done (columnConstraint_closes closes))))
      (by simp only [List.length_append, List.length_cons, List.length_nil]; omega)
  · rw [if_neg hc, if_neg hc]
    exact many_of_items (.more (columnConstraint_null c) (.done (columnConstraint_closes closes)))
      (by simp)

theorem columnOf_column (typed : c.type ≠ .unset) (nonneg : ∀ n ∈ sizes c, 0 ≤ n)
    (closes : Closes t) (rest : List Token) (name : Node) :
    columnOf (grammar (d + 1)) (some name)
        (typeTokens c ++ (nullTokens c ++ (checkTokens c ++ t :: rest))) =
      some (some (.branch .columnDefinition (name :: typeNode c :: .of [.of []] ::
        if c.HasEnumValues then [checkNode c] else [])), t :: rest) := by
  obtain ⟨rule, more, ruled, hnull⟩ := nullTokens_split c
  have constraints := constraints_of_column (d := d) c closes rest
  rw [hnull, List.cons_append] at constraints ⊢
  have array {cs : List Token} : keyword "ARRAY" (rule :: cs) = some (false, rule :: cs) := by
    cases ruled <;> rfl
  refine (bind_of (dataType_typeTokens typed nonneg ruled) _).trans ?_
  refine (bind_of array _).trans ?_
  refine (bind_of (computation_ruled ruled _) _).trans ?_
  refine (bind_of constraints _).trans ?_
  split <;> rfl

/-- A column is read with its type, its null rule and its check. -/
theorem takes_column (typed : c.type ≠ .unset) (nonneg : ∀ n ∈ sizes c, 0 ≤ n) :
    Takes (tableItem (grammar (d + 1))) (columnTokens c) (columnNode c) := by
  intro mark rest hmark
  have tokens : columnTokens c ++ .symbol mark :: rest = .quotedName c.name ::
      (typeTokens c ++ (nullTokens c ++ (checkTokens c ++ .symbol mark :: rest))) := by
    simp [columnTokens]
  have definition := columnOf_column (d := d) typed nonneg (closes_of_mark hmark) rest
    (nameLeaf c.name)
  obtain ⟨word, others, htype⟩ : ∃ word others, typeTokens c = Token.ofWord word :: others :=
    ⟨_, _, rfl⟩
  rw [tokens]
  refine (bind_of (tableConstraint_name c.name) _).trans ?_
  rw [htype, List.cons_append] at definition ⊢
  exact (bind_of (field_name (Scanner.isSymbol_ofWord _ _) c.name) _).trans definition
/-- A name that nothing of a column follows. -/
theorem columnOf_bare (untyped : dataType g false true ts = some (none, ts))
    (stored : computation g false ts = some (none, ts))
    (free : columnConstraint g ts = some (none, ts)) (name : Option Node) :
    columnOf g name ts = some (name, ts) := by
  refine (bind_of untyped _).trans ((bind_of stored _).trans ?_)
  exact (bind_of (many_nil free) _).trans rfl

theorem columnOf_closes (closes : Closes t) (name : Option Node) :
    columnOf g name (t :: rest) = some (name, t :: rest) := by
  apply columnOf_bare
  · cases closes <;> rfl
  · cases closes
    · exact computation_none rfl (by decide) false
    · exact computation_none rfl (by decide) false
  · exact columnConstraint_closes closes

theorem takes_referenced (name : String) :
    Takes (tableItem g) [.quotedName name] (nameLeaf name) := by
  intro mark rest hmark
  have uncalled : Token.isSymbol "(" (.symbol mark) = false := by
    rcases hmark with rfl | rfl <;> rfl
  refine (bind_of (tableConstraint_name name) _).trans ?_
  refine (bind_of (field_name uncalled name) _).trans ?_
  exact columnOf_closes (closes_of_mark hmark) _

/-! ### Types that are not read -/

theorem isKeyword_of_plain {word : String} (plain : isPlainType t = true)
    (untyped : Keyword.isType word = false) : t.isKeyword word = false := by
  cases t with
  | keyword other text =>
    simp only [isPlainType, Bool.and_eq_true] at plain
    rw [Token.isKeyword, beq_eq_false_iff_ne]
    rintro rfl
    rw [plain.1.1.1] at untyped
    cases untyped
  | name | symbol | quotedName | string | markedString | number => rfl

theorem isWordOf_ofWord (words : List String) (word : String) :
    (Token.ofWord word).isWordOf words = words.contains (Text.upper word) := by
  unfold Token.ofWord
  split <;> rfl

theorem typeName_free (type : ColumnType) :
    ["ALIAS", "MATERIALIZED"].contains (Text.upper (Dialect.sqliteTypeName type)) = false ∧
      constraintWords.contains (Text.upper (Dialect.sqliteTypeName type)) = false := by
  have free : ∀ t ∈ ColumnType.all,
      ["ALIAS", "MATERIALIZED"].contains (Text.upper (Dialect.sqliteTypeName t)) = false ∧
        constraintWords.contains (Text.upper (Dialect.sqliteTypeName t)) = false := by
    decide +kernel
  exact free type type.mem_all

/-- A column whose type is not read stands there as a name, and its type is left over. -/
theorem tableItem_of_neg (typed : c.type ≠ .unset) (neg : ∃ n ∈ sizes c, n < 0)
    (rest : List Token) :
    tableItem (grammar (d + 1)) (columnTokens c ++ rest) =
      some (some (nameLeaf c.name), typeTokens c ++ (nullTokens c ++ (checkTokens c ++ rest))) := by
  have plain := isPlainType_typeName typed
  obtain ⟨unmarked, unconstrained⟩ := typeName_free c.type
  have tokens : columnTokens c ++ rest = .quotedName c.name ::
      (typeTokens c ++ (nullTokens c ++ (checkTokens c ++ rest))) := by
    simp [columnTokens]
  have untyped := dataType_of_neg (d := d) typed neg (nullTokens c ++ (checkTokens c ++ rest))
  obtain ⟨others, htype⟩ : ∃ others, typeTokens c =
      Token.ofWord (Dialect.sqliteTypeName c.type) :: others := ⟨_, rfl⟩
  rw [tokens]
  refine (bind_of (tableConstraint_name c.name) _).trans ?_
  rw [htype, List.cons_append] at untyped ⊢
  refine (bind_of (field_name (Scanner.isSymbol_ofWord _ _) c.name) _).trans ?_
  apply columnOf_bare untyped
  · exact computation_none (isKeyword_of_plain plain (by decide))
      ((isWordOf_ofWord _ _).trans unmarked) false
  · exact columnConstraint_none (isKeyword_of_plain plain (by decide))
      ((isWordOf_ofWord _ _).trans unconstrained)

end SchemaMigration.Sqlite
