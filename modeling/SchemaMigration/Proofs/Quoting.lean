import Mathlib.Data.List.Basic
import SchemaMigration.Statement.Text

/-!
Reading quoted names and values back. A quoted text ends at its own closing quote, whatever stands
in it and whatever follows, so the names of a list and the parts of a check are told apart.
-/

namespace SchemaMigration

namespace Text.Quoted

variable {opening close : Char} {text : String} {cs after : List Char}

/-- Reads one token with its quotes. Gives the text between them and what follows the token. -/
def token? (opening close : Char) : List Char → Option (String × List Char)
  | [] => none
  | c :: rest =>
    if c = opening then
      (scan close rest).map fun (text, after) => (String.ofList text, after)
    else none

theorem token?_quote (opening : Char) (s : String) (ends : after.head? ≠ some close) :
    token? opening close ((quote opening close s).toList ++ after) = some (s, after) := by
  have parts : (quote opening close s).toList ++ after =
      opening :: (encode close s.toList ++ close :: after) := by
    simp [quote]
  rw [parts, token?, if_pos rfl, scan_encode close s.toList after ends]
  simp

/-- Quoting tells texts apart. -/
theorem quote_injective (opening close : Char) : Function.Injective (quote opening close) := by
  intro s t h
  have ends : ([] : List Char).head? ≠ some close := nofun
  have first := token?_quote opening s ends
  rw [h, token?_quote opening t ends] at first
  exact congrArg Prod.fst (Option.some.inj first).symm

theorem length_lt_of_scan {found : List Char × List Char} (h : scan close cs = some found) :
    found.2.length < cs.length := by
  fun_induction scan close cs generalizing found with
  | case1 => cases h
  | case2 =>
    cases h
    exact Nat.zero_lt_one
  | case3 => cases h
  | case4 rest ih =>
    obtain ⟨_, hrest, rfl⟩ := Option.map_eq_some_iff.mp h
    have shorter := ih hrest
    exact Nat.lt_succ_of_lt (Nat.lt_succ_of_lt shorter)
  | case5 =>
    cases h
    exact Nat.lt_succ_self _
  | case6 c d rest _ ih =>
    obtain ⟨_, hrest, rfl⟩ := Option.map_eq_some_iff.mp h
    have shorter := ih hrest
    exact Nat.lt_succ_of_lt shorter

theorem length_lt_of_token {found : String × List Char}
    (h : token? opening close cs = some found) : found.2.length < cs.length := by
  cases cs with
  | nil => cases h
  | cons c rest =>
    rw [token?] at h
    split at h
    · obtain ⟨_, hscan, rfl⟩ := Option.map_eq_some_iff.mp h
      exact Nat.lt_succ_of_lt (length_lt_of_scan hscan)
    · cases h

/-! ### Lists of tokens -/

/-- Reads tokens between which there are a comma and a space. Gives their texts and what follows the
last of them. -/
def tokens (opening close : Char) (cs : List Char) : Option (List String × List Char) :=
  match _ : token? opening close cs with
  | none => none
  | some (text, ',' :: ' ' :: rest) =>
    (tokens opening close rest).map fun (texts, after) => (text :: texts, after)
  | some (text, after) => some ([text], after)
termination_by cs.length
decreasing_by
  have shorter := length_lt_of_token ‹token? opening close cs = _›
  simp only [List.length_cons] at shorter
  omega

def list? (opening close : Char) (cs : List Char) : Option (List String × List Char) :=
  if cs.head? = some opening then tokens opening close cs else some ([], cs)

theorem tokens_last (h : token? opening close cs = some (text, after))
    (ends : after.head? ≠ some ',') : tokens opening close cs = some ([text], after) := by
  rw [tokens.eq_def]
  split
  next none => cases h.symm.trans none
  next more =>
    cases h.symm.trans more
    exact absurd rfl ends
  next found =>
    cases h.symm.trans found
    rfl

theorem tokens_comma (h : token? opening close cs = some (text, ',' :: ' ' :: after)) :
    tokens opening close cs =
      (tokens opening close after).map fun (texts, after) => (text :: texts, after) := by
  rw [tokens.eq_def]
  split
  next none => cases h.symm.trans none
  next more =>
    cases h.symm.trans more
    rfl
  next single found => exact absurd (h.symm.trans found) (by rintro ⟨⟩; exact single _ rfl)

def written (opening close : Char) (texts : List String) : List Char :=
  (", ".intercalate (texts.map (quote opening close))).toList

theorem written_cons (opening close : Char) (text other : String) (texts : List String) :
    written opening close (text :: other :: texts) =
      (quote opening close text).toList ++
        ',' :: ' ' :: written opening close (other :: texts) := by
  simp [written, String.intercalate_cons_cons]

theorem head?_written (opening close : Char) (text : String) (texts : List String) :
    (written opening close (text :: texts) ++ after).head? = some opening := by
  cases texts with
  | nil => simp [written, quote]
  | cons other texts => simp [written_cons, quote]

theorem tokens_written (apart : close ≠ ',') (unquoted : after.head? ≠ some close)
    (unlisted : after.head? ≠ some ',') (texts : List String) (text : String) :
    tokens opening close (written opening close (text :: texts) ++ after) =
      some (text :: texts, after) := by
  induction texts generalizing text with
  | nil =>
    have single : written opening close [text] = (quote opening close text).toList := by
      simp [written]
    rw [single, tokens_last (token?_quote opening text unquoted) unlisted]
  | cons other texts ih =>
    have ends : ∀ rest : List Char, (',' :: rest).head? ≠ some close := by
      intro rest h
      exact apart (Option.some.inj h).symm
    rw [written_cons, List.append_assoc, List.cons_append, List.cons_append,
      tokens_comma (token?_quote opening text (ends _)), ih]
    rfl

/-- A list is read as the texts it was written for, up to what follows it. -/
theorem list?_written (apart : close ≠ ',') (unquoted : after.head? ≠ some close)
    (unlisted : after.head? ≠ some ',') (unopened : after.head? ≠ some opening)
    (texts : List String) :
    list? opening close (written opening close texts ++ after) = some (texts, after) := by
  cases texts with
  | nil =>
    have nothing : written opening close [] = [] := rfl
    rw [nothing, List.nil_append, list?, if_neg unopened]
  | cons text texts =>
    rw [list?, if_pos (head?_written opening close text texts),
      tokens_written apart unquoted unlisted]

end Text.Quoted

/-! ### Names and values of a dialect -/

namespace Dialect

open Text.Quoted

def opening : Dialect → Char
  | mysql => '\x60'
  | postgres | sqlite => '"'
  | sqlServer => '['

def closing : Dialect → Char
  | mysql => '\x60'
  | postgres | sqlite => '"'
  | sqlServer => ']'

def readName (d : Dialect) (text : String) : Option (String × String) :=
  (token? d.opening d.closing text.toList).map fun (name, after) => (name, String.ofList after)

def readLiteral (text : String) : Option (String × String) :=
  (token? '\'' '\'' text.toList).map fun (value, after) => (value, String.ofList after)

def readNames (d : Dialect) (text : String) : Option (List String) :=
  match list? d.opening d.closing text.toList with
  | some (names, []) => some names
  | _ => none

def readCheck (d : Dialect) (text : String) : Option (String × List String) := do
  let check ← text.toList.dropPrefix? "CHECK (".toList
  let (column, members) ← token? d.opening d.closing check
  let values ← members.dropPrefix? " IN (".toList
  match ← list? '\'' '\'' values with
  | (values, [')', ')']) => some (column, values)
  | _ => none

variable (d : Dialect)

theorem quote_eq : d.quote = Text.Quoted.quote d.opening d.closing := by
  cases d <;> rfl

theorem toList_quotedList (names : List String) :
    (d.quotedList names).toList = written d.opening d.closing names := by
  rw [quotedList, quote_eq, written]

theorem toList_checkClause (c : Column) :
    (d.checkClause c).toList = "CHECK (".toList ++ ((d.quote c.name).toList ++
      (" IN (".toList ++ (written '\'' '\'' c.enumValues ++ [')', ')']))) := by
  have values : written '\'' '\'' c.enumValues =
      (", ".intercalate (c.enumValues.map literal)).toList := rfl
  simp [checkClause, values, String.toList_append]

theorem readNames_quotedList (names : List String) :
    d.readNames (d.quotedList names) = some names := by
  have apart : d.closing ≠ ',' := by cases d <;> decide
  have done : ∀ c, ([] : List Char).head? ≠ some c := nofun
  have read := list?_written apart (done _) (done _) (done d.opening) names
  rw [List.append_nil] at read
  rw [readNames, toList_quotedList, read]

theorem readCheck_checkClause (c : Column) :
    d.readCheck (d.checkClause c) = some (c.name, c.enumValues) := by
  have column : token? d.opening d.closing ((d.quote c.name).toList ++
      (" IN (".toList ++ (written '\'' '\'' c.enumValues ++ [')', ')']))) =
      some (c.name, " IN (".toList ++ (written '\'' '\'' c.enumValues ++ [')', ')'])) := by
    have ends : some ' ' ≠ some d.closing := by cases d <;> decide
    rw [quote_eq]
    exact token?_quote d.opening c.name ends
  have values : list? '\'' '\'' (written '\'' '\'' c.enumValues ++ [')', ')']) =
      some (c.enumValues, [')', ')']) :=
    list?_written (by decide) (by decide) (by decide) (by decide) c.enumValues
  rw [readCheck, toList_checkClause, List.dropPrefix?_append_of_beq _ BEq.rfl, Option.bind_eq_bind,
    Option.bind_some, column, Option.bind_eq_bind, Option.bind_some]
  dsimp only
  rw [List.dropPrefix?_append_of_beq _ BEq.rfl, Option.bind_eq_bind, Option.bind_some, values]
  rfl

/-- Nothing in a name or a value ends its quotes: a quoted text is read as itself, up to whatever
follows it; different texts are quoted differently; and lists of names and checks of enumerations
are read as what they were written for. -/
theorem quoted_text_reads_back :
    (∀ name after : String, after.toList.head? ≠ some d.closing →
      d.readName (d.quote name ++ after) = some (name, after)) ∧
    (∀ value after : String, after.toList.head? ≠ some '\'' →
      readLiteral (literal value ++ after) = some (value, after)) ∧
    Function.Injective d.quote ∧ Function.Injective literal ∧
    (∀ names : List String, d.readNames (d.quotedList names) = some names) ∧
    ∀ c : Column, d.readCheck (d.checkClause c) = some (c.name, c.enumValues) := by
  refine ⟨?_, ?_, ?_, quote_injective '\'' '\'', d.readNames_quotedList, d.readCheck_checkClause⟩
  · intro name after ends
    rw [readName, quote_eq, String.toList_append, token?_quote d.opening name ends]
    simp
  · intro value after ends
    have scanned := token?_quote '\'' value ends
    rw [readLiteral, literal, String.toList_append, scanned]
    simp
  · rw [quote_eq]
    exact quote_injective d.opening d.closing

end Dialect

end SchemaMigration

/-! A name with brackets at its end, and a value with quotes at its beginning. -/

namespace SchemaMigration.Shop

/-- Neither the brackets of the name nor those after it end it too early or too late. -/
theorem bracketed_name_reads_back :
    Dialect.sqlServer.quote "a]]" = "[a]]]]]" ∧
    Dialect.sqlServer.readName ("[a]]]]]" ++ ".[b]") = some ("a]]", ".[b]") ∧
    Dialect.readLiteral (Dialect.literal "''it's" ++ ", '") = some ("''it's", ", '") := by
  obtain ⟨name, value, -⟩ := Dialect.sqlServer.quoted_text_reads_back
  have quoted : Dialect.sqlServer.quote "a]]" = "[a]]]]]" := by decide
  have read := name "a]]" ".[b]" (by decide)
  rw [quoted] at read
  exact ⟨quoted, read, value "''it's" ", '" (by decide)⟩

end SchemaMigration.Shop
