import Mathlib.Data.List.Basic
import SchemaMigration.Dialect.TypeName

/-!
The values of enumerations as MySQL reads them. Inside a literal a backslash and the character after
it stand for something else, and a quoted value doubles its quotes only. So a value with a backslash
is changed, or it takes the quote that should end it and runs into the next one.
-/

namespace SchemaMigration.Mysql

open Text

/-! ### Literals -/

/-- What a backslash and the character after it stand for in a literal: another character, or the
two of them. -/
structure Escapes where
  meaning : Char → List Char
  quote : meaning '\'' = ['\'']
  backslash : meaning '\\' = ['\\']
  meant : ∀ c, meaning c = ['\\', c] ∨ ∃ d, meaning c = [d] ∧ (d = '\\' → c = '\\')

def Escapes.plain : Escapes where
  meaning := fun c => [c]
  quote := rfl
  backslash := rfl
  meant := fun c => .inr ⟨c, rfl, id⟩

/-- The escapes of MySQL: some letters stand for control characters, and before the marks of
patterns a backslash is kept. -/
def Escapes.documented : Escapes where
  meaning
    | '0' => ['\u0000']
    | 'b' => ['\u0008']
    | 'n' => ['\n']
    | 'r' => ['\r']
    | 't' => ['\t']
    | 'Z' => ['\u001a']
    | '%' => ['\\', '%']
    | '_' => ['\\', '_']
    | c => [c]
  quote := rfl
  backslash := rfl
  meant := by
    intro c
    split
    all_goals first
      | exact .inl rfl
      | exact .inr ⟨_, rfl, by decide⟩
      | exact .inr ⟨_, rfl, id⟩

def prepend (front : List Char) (found : List Char × List Char) : List Char × List Char :=
  (front ++ found.1, found.2)

def scan (e : Escapes) : List Char → Option (List Char × List Char)
  | [] => none
  | '\'' :: '\'' :: rest => (scan e rest).map (prepend ['\''])
  | '\'' :: rest => some ([], rest)
  | '\\' :: c :: rest => (scan e rest).map (prepend (e.meaning c))
  | c :: rest => (scan e rest).map (prepend [c])

variable {e : Escapes} {c : Char} {text after after' : List Char}

theorem map_prepend_eq_some_iff {front : List Char} {found : Option (List Char × List Char)} :
    found.map (prepend front) = some (text, after) ↔
      ∃ more, found = some (more, after) ∧ front ++ more = text := by
  constructor
  · intro h
    obtain ⟨⟨more, _⟩, rfl, heq⟩ := Option.map_eq_some_iff.mp h
    cases heq
    exact ⟨more, rfl, rfl⟩
  · rintro ⟨more, rfl, rfl⟩
    rfl

theorem scan_close (ends : after.head? ≠ some '\'') :
    scan e ('\'' :: after) = some ([], after) := by
  cases after with
  | nil => rfl
  | cons d rest =>
    have single : d ≠ '\'' := fun hd => ends (congrArg some hd)
    simp [scan, single]

theorem scan_escape (d : Char) (rest : List Char) :
    scan e ('\\' :: d :: rest) = (scan e rest).map (prepend (e.meaning d)) :=
  rfl

theorem scan_plain (unescaped : c ≠ '\\') (unquoted : c ≠ '\'') (rest : List Char) :
    scan e (c :: rest) = (scan e rest).map (prepend [c]) := by
  simp [scan, unescaped, unquoted]

/-- A literal takes at least its last quote. -/
theorem length_lt_of_scan {cs : List Char} (h : scan e cs = some (text, after)) :
    after.length < cs.length := by
  induction cs using scan.induct generalizing text with
  | case1 => cases h
  | case2 rest ih =>
    obtain ⟨_, hrest, -⟩ := map_prepend_eq_some_iff.mp h
    exact Nat.lt_trans (ih hrest) (Nat.lt_succ_of_lt (Nat.lt_succ_self _))
  | case3 rest single =>
    rw [scan.eq_3 e rest single] at h
    cases h
    simp
  | case4 c rest ih =>
    obtain ⟨_, hrest, -⟩ := map_prepend_eq_some_iff.mp h
    exact Nat.lt_trans (ih hrest) (Nat.lt_succ_of_lt (Nat.lt_succ_self _))
  | case5 c rest doubled single escape ih =>
    rw [scan.eq_5 e c rest doubled single escape] at h
    obtain ⟨_, hrest, -⟩ := map_prepend_eq_some_iff.mp h
    exact Nat.lt_trans (ih hrest) (Nat.lt_succ_self _)

/-! ### Values in literals -/

/-- A value that a literal tells: it has backslashes only where they are kept. -/
inductive Survives (e : Escapes) : List Char → Prop where
  | nil : Survives e []
  | cons {c : Char} {rest : List Char} (unescaped : c ≠ '\\') (others : Survives e rest) :
      Survives e (c :: rest)
  | kept {c : Char} {rest : List Char} (kept : e.meaning c = ['\\', c])
      (others : Survives e rest) : Survives e ('\\' :: c :: rest)

theorem survives_of_not_mem {cs : List Char} (unescaped : '\\' ∉ cs) : Survives e cs := by
  induction cs with
  | nil => exact .nil
  | cons c rest ih =>
    rw [List.mem_cons, not_or] at unescaped
    exact .cons (Ne.symm unescaped.1) (ih unescaped.2)

theorem survives_plain_iff {cs : List Char} : Survives .plain cs ↔ '\\' ∉ cs := by
  refine ⟨fun h => ?_, survives_of_not_mem⟩
  induction h with
  | nil => exact List.not_mem_nil
  | cons unescaped _ ih =>
    rw [List.mem_cons, not_or]
    exact ⟨unescaped.symm, ih⟩
  | kept kept _ _ => cases kept

def opened (cs after : List Char) : List Char := Quoted.encode '\'' cs ++ '\'' :: after

theorem scan_opened_nil (ends : after.head? ≠ some '\'') :
    scan e (opened [] after) = some ([], after) :=
  scan_close ends

theorem scan_opened_cons (unescaped : c ≠ '\\') (rest after : List Char) :
    scan e (opened (c :: rest) after) = (scan e (opened rest after)).map (prepend [c]) := by
  by_cases quoted : c = '\''
  · subst quoted
    rfl
  · rw [opened, Quoted.encode, if_neg quoted, List.cons_append, scan_plain unescaped quoted, opened]

/-- A backslash takes the quote after it, be it one of the value or that which ends the literal. -/
theorem head?_of_scan_opened {rest : List Char} (last : rest = [] ∨ rest.head? = some '\'')
    (h : scan e (opened ('\\' :: rest) after) = some (text, after')) :
    text.head? = some '\'' := by
  obtain ⟨tail, htail⟩ : ∃ tail, opened ('\\' :: rest) after = '\\' :: '\'' :: tail := by
    cases rest with
    | nil => exact ⟨after, rfl⟩
    | cons d rest =>
      obtain rfl : d = '\'' := by simpa using last
      exact ⟨'\'' :: (Quoted.encode '\'' rest ++ '\'' :: after), rfl⟩
  rw [htail, scan_escape, e.quote] at h
  obtain ⟨_, -, rfl⟩ := map_prepend_eq_some_iff.mp h
  rfl

theorem scan_opened_escape (unquoted : c ≠ '\'') (rest after : List Char) :
    scan e (opened ('\\' :: c :: rest) after) =
      (scan e (opened rest after)).map (prepend (e.meaning c)) := by
  rw [opened, Quoted.encode, if_neg (by decide), Quoted.encode, if_neg unquoted, List.cons_append,
    List.cons_append, scan_escape, opened]

theorem scan_of_survives {cs : List Char} (h : Survives e cs) (ends : after.head? ≠ some '\'') :
    scan e (opened cs after) = some (cs, after) := by
  induction h with
  | nil => exact scan_opened_nil ends
  | cons unescaped _ ih =>
    rw [scan_opened_cons unescaped, ih]
    rfl
  | @kept c rest kept _ ih =>
    have unquoted : c ≠ '\'' := by
      rintro rfl
      rw [e.quote] at kept
      cases kept
    rw [scan_opened_escape unquoted, ih, kept]
    rfl

theorem replicate_append_cons (k : Nat) (c : Char) (cs : List Char) :
    List.replicate k c ++ c :: cs = c :: (List.replicate k c ++ cs) := by
  rw [← List.cons_append, ← List.replicate_succ, List.replicate_succ', List.append_assoc,
    List.singleton_append]

/-- Where a literal is read as its value with backslashes before it, there are none before it and
the value survives. Two backslashes in a row are read as one, so those before a value stand for what
the rest of the literal would have to make up for. -/
def Balanced (e : Escapes) (after after' cs : List Char) : Prop :=
  ∀ k, scan e (opened cs after) = some (List.replicate k '\\' ++ cs, after') →
    k = 0 ∧ Survives e cs

theorem balanced_nil (ends : after.head? ≠ some '\'') : Balanced e after after' [] := by
  intro k h
  rw [scan_opened_nil ends] at h
  cases k with
  | zero => exact ⟨rfl, .nil⟩
  | succ k => cases h

theorem balanced_cons (unescaped : c ≠ '\\') {rest : List Char}
    (ih : Balanced e after after' rest) : Balanced e after after' (c :: rest) := by
  intro k h
  rw [scan_opened_cons unescaped] at h
  obtain ⟨text, hscan, heq⟩ := map_prepend_eq_some_iff.mp h
  cases k with
  | zero =>
    obtain rfl : text = rest := (List.cons.inj heq).2
    exact ⟨rfl, .cons unescaped (ih 0 hscan).2⟩
  | succ k =>
    cases heq
    exact absurd rfl unescaped

/-- A value whose backslash takes a quote is never read. -/
theorem balanced_last {rest : List Char} (last : rest = [] ∨ rest.head? = some '\'') :
    Balanced e after after' ('\\' :: rest) := by
  intro k h
  rw [replicate_append_cons] at h
  cases head?_of_scan_opened last h

theorem balanced_escape (unquoted : c ≠ '\'') {rest : List Char}
    (ih : Balanced e after after' rest) : Balanced e after after' ('\\' :: c :: rest) := by
  intro k h
  rw [replicate_append_cons, scan_opened_escape unquoted] at h
  obtain ⟨text, hscan, heq⟩ := map_prepend_eq_some_iff.mp h
  rcases e.meant c with kept | ⟨d, meant, only⟩
  · rw [kept] at heq
    cases k with
    | zero =>
      cases heq
      exact ⟨rfl, .kept kept (ih 0 hscan).2⟩
    | succ k =>
      -- the character after the backslash would be one itself, and that is never kept
      cases heq
      rw [e.backslash] at kept
      cases kept
  · -- the only character that can stand for the first backslash is a second one
    rw [meant] at heq
    obtain rfl : d = '\\' := (List.cons.inj heq).1
    obtain rfl := only rfl
    rw [replicate_append_cons, ← List.cons_append, ← List.replicate_succ] at heq
    obtain rfl := (List.cons.inj heq).2
    cases (ih (k + 1) hscan).1

theorem balanced (ends : after.head? ≠ some '\'') (cs : List Char) :
    Balanced e after after' cs := by
  induction hlength : cs.length using Nat.strongRecOn generalizing cs with
  | ind n ih =>
    subst hlength
    cases cs with
    | nil => exact balanced_nil ends
    | cons c rest =>
      by_cases escaped : c = '\\'
      · subst escaped
        by_cases last : rest = [] ∨ rest.head? = some '\''
        · exact balanced_last last
        · obtain ⟨d, rest, rfl⟩ := List.exists_cons_of_ne_nil fun hnil => last (.inl hnil)
          have unquoted : d ≠ '\'' := fun hd => last (.inr (congrArg some hd))
          have shorter : rest.length < ('\\' :: d :: rest).length := by
            simp only [List.length_cons]
            omega
          exact balanced_escape unquoted (ih _ shorter rest rfl)
      · exact balanced_cons escaped (ih rest.length (Nat.lt_succ_self _) rest rfl)

theorem survives_of_scan {cs : List Char} (ends : after.head? ≠ some '\'')
    (h : scan e (opened cs after) = some (cs, after')) : Survives e cs :=
  (balanced ends cs 0 h).2

/-! ### Lists of values -/

def literal? (e : Escapes) (cs : List Char) : Option (String × List Char) :=
  match cs.dropWhile Char.isWhitespace with
  | '\'' :: rest => (scan e rest).map fun (text, after) =>
      (String.ofList text, after.dropWhile Char.isWhitespace)
  | _ => none

theorem length_lt_of_literal {cs : List Char} {value : String}
    (h : literal? e cs = some (value, after)) : after.length < cs.length := by
  unfold literal? at h
  split at h
  next rest hrest =>
    obtain ⟨⟨text, following⟩, hscan, heq⟩ := Option.map_eq_some_iff.mp h
    cases heq
    have scanned := length_lt_of_scan hscan
    have dropped := (List.dropWhile_suffix (l := following) Char.isWhitespace).length_le
    have skipped := (List.dropWhile_suffix (l := cs) Char.isWhitespace).length_le
    rw [hrest, List.length_cons] at skipped
    omega
  next => cases h

def literals (e : Escapes) (cs : List Char) : Option (List String) :=
  match _ : literal? e cs with
  | some (value, [')']) => some [value]
  | some (value, ',' :: rest) => (literals e rest).map (value :: ·)
  | _ => none
termination_by cs.length
decreasing_by
  have shorter := length_lt_of_literal ‹literal? e cs = _›
  rw [List.length_cons] at shorter
  omega

def readEnum (e : Escapes) (declared : String) : Option (List String) :=
  match declared.toList with
  | 'E' :: 'N' :: 'U' :: 'M' :: '(' :: rest => literals e rest
  | _ => none

variable {value : String} {cs rest : List Char}

theorem literals_last (h : literal? e cs = some (value, [')'])) : literals e cs = some [value] := by
  rw [literals.eq_def]
  split
  next hvalue =>
    cases h.symm.trans hvalue
    rfl
  next hvalue => cases h.symm.trans hvalue
  next none _ => exact (none _ h).elim

theorem literals_comma (h : literal? e cs = some (value, ',' :: rest)) :
    literals e cs = (literals e rest).map (value :: ·) := by
  rw [literals.eq_def]
  split
  next hvalue => cases h.symm.trans hvalue
  next hvalue =>
    cases h.symm.trans hvalue
    rfl
  next _ none => exact (none _ _ h).elim

/-- The first value of a list comes from its first literal. -/
theorem literal?_of_literals {values : List String} (h : literals e cs = some (value :: values)) :
    ∃ after, literal? e cs = some (value, after) := by
  unfold literals at h
  split at h
  next hvalue =>
    cases h
    exact ⟨_, hvalue⟩
  next hvalue =>
    obtain ⟨_, -, heq⟩ := Option.map_eq_some_iff.mp h
    cases heq
    exact ⟨_, hvalue⟩
  next => cases h

/-! ### Declared types -/

def declaredEnum (values : List String) : String :=
  "ENUM(" ++ ", ".intercalate (values.map Dialect.literal) ++ ")"

theorem typeOf?_enumeration {y : Column} (enumeration : y.type = .enumeration) :
    Dialect.mysql.typeOf? y = some (declaredEnum y.enumValues) := by
  rw [Dialect.typeOf?, enumeration]
  rfl

def written (values : List String) : List Char :=
  (", ".intercalate (values.map Dialect.literal)).toList ++ [')']

theorem readEnum_declaredEnum (e : Escapes) (values : List String) :
    readEnum e (declaredEnum values) = literals e (written values) := by
  have text : (declaredEnum values).toList = 'E' :: 'N' :: 'U' :: 'M' :: '(' :: written values := by
    simp [declaredEnum, written]
  rw [readEnum, text]
  rfl

theorem written_singleton (value : String) :
    written [value] = '\'' :: opened value.toList [')'] := by
  simp [written, opened, Dialect.literal, Quoted.quote]

theorem written_cons (value other : String) (values : List String) :
    written (value :: other :: values) =
      '\'' :: opened value.toList (',' :: ' ' :: written (other :: values)) := by
  simp [written, opened, Dialect.literal, Quoted.quote, String.intercalate_cons_cons]

theorem literal?_opened (e : Escapes) (cs after : List Char) :
    literal? e ('\'' :: opened cs after) = (scan e (opened cs after)).map
      fun (text, after) => (String.ofList text, after.dropWhile Char.isWhitespace) :=
  rfl

theorem literal?_of_survives (h : Survives e value.toList) (ends : after.head? ≠ some '\'') :
    literal? e ('\'' :: opened value.toList after) =
      some (value, after.dropWhile Char.isWhitespace) := by
  rw [literal?_opened, scan_of_survives h ends, Option.map_some]
  dsimp only
  rw [String.ofList_toList]

theorem survives_of_literal (ends : after.head? ≠ some '\'')
    (h : literal? e ('\'' :: opened value.toList after) = some (value, after')) :
    Survives e value.toList := by
  rw [literal?_opened] at h
  obtain ⟨⟨text, _⟩, hscan, heq⟩ := Option.map_eq_some_iff.mp h
  cases heq
  rw [String.toList_ofList] at hscan ⊢
  exact survives_of_scan ends hscan

theorem literals_blank (e : Escapes) (cs : List Char) :
    literals e (' ' :: cs) = literals e cs := by
  have same : literal? e (' ' :: cs) = literal? e cs := rfl
  rw [literals.eq_def, literals.eq_def e cs, same]

/-- A list is read as the values it was written for if each of them survives. -/
theorem literals_written_iff {values : List String} (given : values ≠ []) :
    literals e (written values) = some values ↔ ∀ value ∈ values, Survives e value.toList := by
  induction values with
  | nil => exact absurd rfl given
  | cons value values ih =>
    rw [List.forall_mem_cons]
    cases values with
    | nil =>
      have ends : [')'].head? ≠ some '\'' := by decide
      rw [written_singleton]
      constructor
      · intro h
        obtain ⟨after, hvalue⟩ := literal?_of_literals h
        exact ⟨survives_of_literal ends hvalue, List.forall_mem_nil _⟩
      · rintro ⟨survives, -⟩
        exact literals_last (literal?_of_survives survives ends)
    | cons other values =>
      have ends : (',' :: ' ' :: written (other :: values)).head? ≠ some '\'' := by simp
      have step : Survives e value.toList → literals e (written (value :: other :: values)) =
          (literals e (written (other :: values))).map (value :: ·) := by
        intro survives
        rw [written_cons, literals_comma (literal?_of_survives survives ends), literals_blank]
      constructor
      · intro h
        have survives : Survives e value.toList := by
          rw [written_cons] at h
          obtain ⟨after, hvalue⟩ := literal?_of_literals h
          exact survives_of_literal ends hvalue
        rw [step survives] at h
        obtain ⟨others, hothers, heq⟩ := Option.map_eq_some_iff.mp h
        cases heq
        exact ⟨survives, (ih (by simp)).mp hothers⟩
      · rintro ⟨survives, others⟩
        rw [step survives, (ih (by simp)).mpr others]
        rfl

/-- The values of an enumeration are read as they are exactly if a backslash stands in them only
where the server keeps it, whatever else its escapes mean; and where every character after a
backslash stands for itself, exactly if there is no backslash. -/
theorem enum_values_survive_iff {y : Column} (enumeration : y.type = .enumeration)
    (given : y.enumValues ≠ []) :
    ∃ declared, Dialect.mysql.typeOf? y = some declared ∧
      (∀ e, readEnum e declared = some y.enumValues ↔
        ∀ value ∈ y.enumValues, Survives e value.toList) ∧
      (readEnum .plain declared = some y.enumValues ↔
        ∀ value ∈ y.enumValues, '\\' ∉ value.toList) := by
  have survive : ∀ e, readEnum e (declaredEnum y.enumValues) = some y.enumValues ↔
      ∀ value ∈ y.enumValues, Survives e value.toList := by
    intro e
    rw [readEnum_declaredEnum, literals_written_iff given]
  refine ⟨_, typeOf?_enumeration enumeration, survive, ?_⟩
  rw [survive]
  simp only [survives_plain_iff]

end SchemaMigration.Mysql

/-! Answers with quotes, and drives whose names end in a backslash. -/

namespace SchemaMigration.Shop

open Mysql

def answer : Column :=
  ⟨"answer", .enumeration, none, none, true, none, ["it's on", "100\\%", "''"], none⟩

def drive : Column :=
  ⟨"drive", .enumeration, none, none, true, none, ["C:\\", "D:\\"], none⟩

/-- Quotes survive, and so does a backslash before the mark of a pattern, but only there. -/
theorem answers_survive : ∃ declared, Dialect.mysql.typeOf? answer = some declared ∧
    readEnum .documented declared = some answer.enumValues ∧
    readEnum .plain declared ≠ some answer.enumValues := by
  obtain ⟨declared, hdeclared, survive, plain⟩ :=
    enum_values_survive_iff (y := answer) rfl (by decide)
  have percent : Survives .documented "100\\%".toList :=
    .cons (by decide) (.cons (by decide) (.cons (by decide) (.kept rfl .nil)))
  have kept : ∀ value ∈ answer.enumValues, Survives .documented value.toList :=
    List.forall_mem_cons.mpr ⟨survives_of_not_mem (by decide),
      List.forall_mem_cons.mpr ⟨percent,
        List.forall_mem_singleton.mpr (survives_of_not_mem (by decide))⟩⟩
  refine ⟨declared, hdeclared, (survive .documented).mpr kept, fun h => ?_⟩
  exact plain.mp h "100\\%" (by decide) (by decide)

/-- The quote that should end the first drive becomes a part of it. -/
theorem drives_are_lost : drive.type = .enumeration ∧ drive.enumValues ≠ [] ∧
    Dialect.mysql.typeOf? drive = some "ENUM('C:\\', 'D:\\')" ∧
    readEnum .plain "ENUM('C:\\', 'D:\\')" = none ∧
    readEnum .documented "ENUM('C:\\', 'D:\\')" = none := by
  refine ⟨rfl, by decide, rfl, ?_, ?_⟩
  · cbv
  · cbv

end SchemaMigration.Shop
