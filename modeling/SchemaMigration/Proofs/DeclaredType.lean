import Mathlib.Data.List.TakeDrop
import Mathlib.Data.List.TakeWhile
import SchemaMigration.ColumnType.Declared
import SchemaMigration.Proofs.Integer

/-!
Which declared types can be taken apart: those with a name and, if a parenthesis opens after it, one
that closes at the end. A type with a name alone is taken apart into that, and what stands in the
parentheses into the arguments, whose quotes keep their commas and parentheses together.
-/

namespace SchemaMigration.DeclaredType

open Text

variable {declared : String} {head inner : List Char}

def Malformed (declared : String) : Prop :=
  ∃ head inner, declared.toList = head ++ '(' :: inner ∧ '(' ∉ head ∧
    (head = [] ∨ (trimEnd isBlank inner).getLast? ≠ some ')')

theorem not_malformed_empty : ¬ Malformed "" := by
  rintro ⟨head, inner, htext, -⟩
  cases head <;> cases htext

theorem nameOf?_eq_none_iff : nameOf? head = none ↔ head = [] := by
  unfold nameOf?
  split
  next => rw [Option.map_eq_none_iff, List.getLast?_eq_none_iff]
  next name hname =>
    refine ⟨nofun, ?_⟩
    rintro rfl
    exact absurd rfl hname

theorem argumentsOf?_eq_none_iff :
    argumentsOf? inner = none ↔ (trimEnd isBlank inner).getLast? ≠ some ')' := by
  unfold argumentsOf?
  rw [List.getLast?_eq_head?_reverse]
  split
  next rest h => simp [h]
  next h =>
    refine ⟨fun _ hlast => ?_, fun _ => rfl⟩
    obtain ⟨rest, hrest⟩ := List.head?_eq_some_iff.mp hlast
    exact h rest hrest

theorem ne_of_not_mem {cs : List Char} (hfree : '(' ∉ cs) : ∀ c ∈ cs, (c != '(') = true := by
  intro c hc
  rw [bne_iff_ne]
  rintro rfl
  exact hfree hc

theorem span_opening (hfree : '(' ∉ head) (inner : List Char) :
    (head ++ '(' :: inner).span (· != '(') = (head, '(' :: inner) := by
  rw [List.span_eq_takeWhile_dropWhile, List.takeWhile_append_of_pos (ne_of_not_mem hfree),
    List.dropWhile_append_of_pos (ne_of_not_mem hfree)]
  simp

theorem span_plain (hfree : '(' ∉ head) : head.span (· != '(') = (head, []) := by
  rw [List.span_eq_takeWhile_dropWhile, List.takeWhile_eq_self_iff.mpr (ne_of_not_mem hfree),
    List.dropWhile_eq_nil_iff.mpr (ne_of_not_mem hfree)]

theorem malformed_iff (htext : declared.toList = head ++ '(' :: inner) (hfree : '(' ∉ head) :
    Malformed declared ↔ nameOf? head = none ∨ argumentsOf? inner = none := by
  rw [nameOf?_eq_none_iff, argumentsOf?_eq_none_iff]
  constructor
  · rintro ⟨head', inner', htext', hfree', h⟩
    have same : head ++ '(' :: inner = head' ++ '(' :: inner' := htext.symm.trans htext'
    have span := span_opening hfree inner
    rw [same, span_opening hfree' inner'] at span
    cases span
    exact h
  · exact fun h => ⟨head, inner, htext, hfree, h⟩

/-- Only malformed types cannot be taken apart. -/
theorem split?_eq_none_iff (hdeclared : declared ≠ "") :
    split? declared = none ↔ Malformed declared := by
  unfold split?
  by_cases hopens : '(' ∈ declared.toList
  · obtain ⟨head, inner, htext, hfree⟩ := List.eq_append_cons_of_mem hopens
    rw [malformed_iff htext hfree, htext, span_opening hfree]
    dsimp only
    cases nameOf? head with
    | none => simp
    | some name =>
      cases argumentsOf? inner with
      | none => simp
      | some text => cases text <;> simp
  · rw [span_plain hopens]
    dsimp only
    constructor
    · intro h
      cases hname : nameOf? declared.toList with
      | none => exact absurd (String.toList_eq_nil_iff.mp (nameOf?_eq_none_iff.mp hname)) hdeclared
      | some name => simp [hname] at h
    · rintro ⟨head, inner, htext, -⟩
      exact absurd (htext ▸ List.mem_append_right _ List.mem_cons_self) hopens

/-! ### Types with and without arguments -/

def Plain (cs : List Char) : Prop :=
  ∀ c ∈ cs, isBlank c = false ∧ c ≠ '(' ∧ c ≠ ',' ∧ c ≠ '\''

theorem plain_of_all {cs : List Char}
    (h : cs.all (fun c => !isBlank c && c != '(' && c != ',' && c != '\'') = true) : Plain cs := by
  intro c hc
  have found := List.all_eq_true.mp h c hc
  simp only [Bool.and_eq_true, Bool.not_eq_true', bne_iff_ne] at found
  exact ⟨found.1.1.1, found.1.1.2, found.1.2, found.2⟩

theorem Plain.trim_eq {cs : List Char} (h : Plain cs) : trim isBlank cs = cs :=
  trim_of_unblank fun c hc => (h c hc).1

theorem Plain.unopened {cs : List Char} (h : Plain cs) : '(' ∉ cs := fun hmem =>
  (h _ hmem).2.1 rfl

theorem plain_toString (n : Int) : Plain (toString n).toList := by
  intro c hc
  refine ⟨unblank_toString n c hc, ?_⟩
  cases n with
  | ofNat k =>
    rw [Json.toList_ofNat] at hc
    have hdigit := isDigit_of_mem_toDigits hc
    refine ⟨?_, ?_, ?_⟩ <;> exact Json.ne_of_isDigit hdigit rfl
  | negSucc k =>
    rw [Json.toList_negSucc] at hc
    rcases List.mem_cons.mp hc with rfl | hc
    · decide
    · have hdigit := isDigit_of_mem_toDigits hc
      refine ⟨?_, ?_, ?_⟩ <;> exact Json.ne_of_isDigit hdigit rfl

/-- A text in which all commas are quoted and at whose end no quote is open; `quoted` tells whether
one is open before it. -/
def Unsplit (quoted : Bool) : List Char → Prop
  | [] => quoted = false
  | c :: rest => (c = ',' → quoted = true) ∧ Unsplit (if c = '\'' then !quoted else quoted) rest

theorem Plain.unsplit {cs : List Char} (h : Plain cs) : Unsplit false cs := by
  induction cs with
  | nil => rfl
  | cons c rest ih =>
    obtain ⟨-, -, hcomma, hquote⟩ := h c List.mem_cons_self
    refine ⟨fun comma => absurd comma hcomma, ?_⟩
    rw [if_neg hquote]
    exact ih fun d hd => h d (List.mem_cons_of_mem _ hd)

theorem splitArguments_of_unsplit {quoted : Bool} {cs : List Char} (h : Unsplit quoted cs) :
    splitArguments quoted cs = [cs] := by
  induction cs generalizing quoted with
  | nil => rfl
  | cons c rest ih =>
    obtain ⟨hcomma, hrest⟩ := h
    rw [splitArguments, if_neg fun unquoted => by simp [hcomma unquoted.1] at unquoted, ih hrest]

theorem splitArguments_comma {quoted : Bool} {cs : List Char} (h : Unsplit quoted cs)
    (rest : List Char) :
    splitArguments quoted (cs ++ ',' :: rest) = cs :: splitArguments false rest := by
  induction cs generalizing quoted with
  | nil =>
    obtain rfl : quoted = false := h
    rw [List.nil_append, splitArguments, if_pos ⟨rfl, rfl⟩]
  | cons c cs ih =>
    obtain ⟨hcomma, hcs⟩ := h
    rw [List.cons_append, splitArguments,
      if_neg fun unquoted => by simp [hcomma unquoted.1] at unquoted, ih hcs]

theorem nameOf?_of_named {name : List Char} (named : trim isBlank name ≠ []) :
    nameOf? name = some (trim isBlank name) := by
  unfold nameOf?
  split
  next none => exact absurd none named
  next => rfl

theorem argumentsOf?_closed (inner : List Char) {after : List Char} (blank : AllBlank after) :
    argumentsOf? (inner ++ ')' :: after) = some inner := by
  have closed : trimEnd isBlank (inner ++ ')' :: after) = inner ++ [')'] := by
    have shown : ∀ c ∈ (inner ++ [')']).getLast?, isBlank c = false := by
      rw [List.getLast?_concat]
      rintro c ⟨⟩
      decide
    rw [List.append_cons, trimEnd_append blank, trimEnd_of_last shown]
  rw [argumentsOf?, closed, List.reverse_append]
  simp

theorem split?_unopened {name : String} (unopened : '(' ∉ name.toList)
    (named : trim isBlank name.toList ≠ []) : split? name = some ⟨strip name, []⟩ := by
  rw [split?, span_plain unopened]
  simp only [nameOf?_of_named named]
  rfl

theorem split?_of_plain {name : String} (h : Plain name.toList) (nonempty : name ≠ "") :
    split? name = some ⟨name, []⟩ := by
  have named : trim isBlank name.toList ≠ [] := by
    rw [h.trim_eq]
    exact mt String.toList_eq_nil_iff.mp nonempty
  rw [split?_unopened h.unopened named, strip, h.trim_eq, String.ofList_toList]

/-- The arguments that a declared type is given with a text in parentheses. -/
def argumentsOf (text : String) : List String :=
  if text = "" then []
  else (splitArguments false text.toList).map fun part => String.ofList (trim isBlank part)

theorem split?_enclosed {name text after : String} (unopened : '(' ∉ name.toList)
    (named : trim isBlank name.toList ≠ []) (blank : AllBlank after.toList) :
    split? (name ++ "(" ++ text ++ ")" ++ after) = some ⟨strip name, argumentsOf text⟩ := by
  have parts : (name ++ "(" ++ text ++ ")" ++ after).toList =
      name.toList ++ '(' :: (text.toList ++ ')' :: after.toList) := by
    simp [String.toList_append]
  rw [split?, parts, span_opening unopened]
  simp only [nameOf?_of_named named, argumentsOf?_closed _ blank]
  cases hinner : text.toList with
  | nil =>
    obtain rfl := String.toList_eq_nil_iff.mp hinner
    rfl
  | cons c rest =>
    have given : text ≠ "" := by
      rintro rfl
      cases hinner
    rw [argumentsOf, if_neg given, hinner]
    rfl

theorem split?_parenthesized {name text : String} (unopened : '(' ∉ name.toList)
    (named : trim isBlank name.toList ≠ []) :
    split? (name ++ "(" ++ text ++ ")") = some ⟨strip name, argumentsOf text⟩ := by
  have nothing : AllBlank "".toList := nofun
  rw [← split?_enclosed unopened named nothing, String.append_empty]

theorem split?_closed {name arguments : String} (h : Plain name.toList) (nonempty : name ≠ "")
    (given : arguments ≠ "") :
    split? (name ++ "(" ++ arguments ++ ")") = some ⟨name,
      (splitArguments false arguments.toList).map
        fun part => String.ofList (trim isBlank part)⟩ := by
  have named : trim isBlank name.toList ≠ [] := by
    rw [h.trim_eq]
    exact mt String.toList_eq_nil_iff.mp nonempty
  rw [split?_parenthesized h.unopened named, strip, h.trim_eq, String.ofList_toList, argumentsOf,
    if_neg given]

/-! ### Names and arguments as they are written -/

structure IsName (name : String) : Prop where
  trimmed : Trimmed name.toList
  nonempty : name ≠ ""
  unopened : '(' ∉ name.toList

/-- What can stand between two commas of a declared type: its quotes are closed, and commas in it
are quoted. -/
structure IsArgument (argument : String) : Prop where
  trimmed : Trimmed argument.toList
  closed : argument.toList.count '\'' % 2 = 0
  quoted : ∀ before after, argument.toList = before ++ ',' :: after → before.count '\'' % 2 = 1

/-- A text with some arguments, between which there are a comma and any blanks. -/
inductive Lists : List String → String → Prop where
  | single (argument : String) : Lists [argument] argument
  | cons (argument : String) {others : List String} {before after text : String}
      (hbefore : AllBlank before.toList) (hafter : AllBlank after.toList)
      (rest : Lists others text) :
      Lists (argument :: others) (argument ++ before ++ "," ++ after ++ text)

theorem not_mem_of_allBlank {cs : List Char} (blank : AllBlank cs) {c : Char}
    (shown : isBlank c = false) : c ∉ cs := by
  intro hmem
  rw [blank c hmem] at shown
  cases shown

theorem unsplit_blank_append {before cs : List Char} {quoted : Bool} (blank : AllBlank before)
    (h : Unsplit quoted cs) : Unsplit quoted (before ++ cs) := by
  induction before with
  | nil => exact h
  | cons c before ih =>
    have hc : isBlank c = true := blank c List.mem_cons_self
    refine ⟨fun comma => absurd (comma ▸ hc) (by decide), ?_⟩
    rw [if_neg fun quote => absurd (quote ▸ hc) (by decide)]
    exact ih fun d hd => blank d (List.mem_cons_of_mem _ hd)

theorem unsplit_append_blank {cs after : List Char} {quoted : Bool} (h : Unsplit quoted cs)
    (blank : AllBlank after) : Unsplit quoted (cs ++ after) := by
  induction cs generalizing quoted with
  | nil =>
    have none : Unsplit quoted (after ++ []) := unsplit_blank_append blank h
    rwa [List.append_nil] at none
  | cons c cs ih => exact ⟨h.1, ih h.2⟩

theorem isOpen_cons (count : Nat) (c : Char) :
    (if c = '\'' then !(count % 2 == 1) else count % 2 == 1) =
      ((count + [c].count '\'') % 2 == 1) := by
  by_cases quote : c = '\''
  · subst quote
    rcases Nat.mod_two_eq_zero_or_one count with h | h <;> simp [h, Nat.add_mod]
  · simp [quote]

/-- A quote is open where the number of quotes so far is odd; `count` of them stand before. -/
theorem unsplit_iff (count : Nat) (cs : List Char) :
    Unsplit (count % 2 == 1) cs ↔ (count + cs.count '\'') % 2 = 0 ∧
      ∀ before after, cs = before ++ ',' :: after → (count + before.count '\'') % 2 = 1 := by
  induction cs generalizing count with
  | nil => simp [Unsplit]
  | cons c rest ih =>
    have shift : ∀ before : List Char, count + [c].count '\'' + before.count '\'' =
        count + (c :: before).count '\'' := by
      intro before
      rw [Nat.add_assoc, ← List.count_append, List.singleton_append]
    rw [Unsplit, isOpen_cons, ih, shift]
    constructor
    · rintro ⟨comma, closed, quoted⟩
      refine ⟨closed, fun before after heq => ?_⟩
      cases before with
      | nil =>
        obtain ⟨rfl, rfl⟩ := List.cons.inj heq
        simpa using comma rfl
      | cons d before =>
        obtain ⟨rfl, hrest⟩ := List.cons.inj heq
        rw [← shift]
        exact quoted before after hrest
    · rintro ⟨closed, quoted⟩
      refine ⟨?_, closed, ?_⟩
      · rintro rfl
        simpa using quoted [] rest rfl
      · rintro before after rfl
        rw [shift]
        exact quoted (c :: before) after rfl

theorem isArgument_iff {argument : String} :
    IsArgument argument ↔ Trimmed argument.toList ∧ Unsplit false argument.toList := by
  have even := unsplit_iff 0 argument.toList
  simp only [Nat.zero_add] at even
  exact ⟨fun h => ⟨h.trimmed, even.mpr ⟨h.closed, h.quoted⟩⟩,
    fun h => ⟨h.1, (even.mp h.2).1, (even.mp h.2).2⟩⟩

instance decidableUnsplit : (quoted : Bool) → (cs : List Char) → Decidable (Unsplit quoted cs)
  | quoted, [] => inferInstanceAs (Decidable (quoted = false))
  | quoted, c :: rest =>
    have := decidableUnsplit (if c = '\'' then !quoted else quoted) rest
    inferInstanceAs (Decidable (_ ∧ _))

instance (argument : String) : Decidable (IsArgument argument) :=
  decidable_of_iff _ isArgument_iff.symm

instance (name : String) : Decidable (IsName name) :=
  decidable_of_iff (Trimmed name.toList ∧ name ≠ "" ∧ '(' ∉ name.toList)
    ⟨fun ⟨trimmed, nonempty, unopened⟩ => ⟨trimmed, nonempty, unopened⟩,
      fun ⟨trimmed, nonempty, unopened⟩ => ⟨trimmed, nonempty, unopened⟩⟩

/-- Arguments are cut out of a text as they were put into it, also if blanks stand before it. -/
theorem splitArguments_of_lists {arguments : List String} {text : String}
    (listed : Lists arguments text) (areArguments : ∀ a ∈ arguments, IsArgument a)
    {blanks : List Char} (blank : AllBlank blanks) :
    (splitArguments false (blanks ++ text.toList)).map
      (fun part => String.ofList (trim isBlank part)) = arguments := by
  -- the blanks after a comma stand before the next argument
  induction listed generalizing blanks with
  | single argument =>
    obtain ⟨trimmed, unsplit⟩ := isArgument_iff.mp (areArguments argument List.mem_cons_self)
    have part : trim isBlank (blanks ++ (argument.toList ++ [])) = argument.toList :=
      trim_padded blank trimmed nofun
    rw [List.append_nil] at part
    rw [splitArguments_of_unsplit (unsplit_blank_append blank unsplit), List.map_singleton, part,
      String.ofList_toList]
  | @cons argument others before after text hbefore hafter _ ih =>
    obtain ⟨trimmed, unsplit⟩ := isArgument_iff.mp (areArguments argument List.mem_cons_self)
    have whole : blanks ++ (argument ++ before ++ "," ++ after ++ text).toList =
        blanks ++ (argument.toList ++ before.toList) ++ ',' :: (after.toList ++ text.toList) := by
      simp [String.toList_append]
    have padded : Unsplit false (blanks ++ (argument.toList ++ before.toList)) :=
      unsplit_blank_append blank (unsplit_append_blank unsplit hbefore)
    rw [whole, splitArguments_comma padded, List.map_cons, trim_padded blank trimmed hbefore,
      String.ofList_toList,
      ih (fun a ha => areArguments a (List.mem_cons_of_mem _ ha)) hafter]

theorem argumentsOf_of_lists {arguments : List String} {text : String}
    (listed : Lists arguments text) (areArguments : ∀ a ∈ arguments, IsArgument a)
    (given : text ≠ "") : argumentsOf text = arguments := by
  have nothing : AllBlank [] := nofun
  rw [argumentsOf, if_neg given]
  exact splitArguments_of_lists listed areArguments nothing

section

variable {name before after : String} (isName : IsName name) (hbefore : AllBlank before.toList)
  (hafter : AllBlank after.toList)
include isName hbefore hafter

theorem IsName.trim_eq : trim isBlank (before ++ name ++ after).toList = name.toList := by
  rw [String.toList_append, String.toList_append, List.append_assoc,
    trim_padded hbefore isName.trimmed hafter]

theorem IsName.trim_ne_nil : trim isBlank (before ++ name ++ after).toList ≠ [] := by
  rw [isName.trim_eq hbefore hafter]
  exact mt String.toList_eq_nil_iff.mp isName.nonempty

theorem IsName.strip_eq : strip (before ++ name ++ after) = name := by
  rw [strip, isName.trim_eq hbefore hafter, String.ofList_toList]

theorem IsName.not_mem : '(' ∉ (before ++ name ++ after).toList := by
  simp only [String.toList_append, List.mem_append, not_or]
  exact ⟨⟨not_mem_of_allBlank hbefore (by decide), isName.unopened⟩,
    not_mem_of_allBlank hafter (by decide)⟩

end

/-- A declared type is taken apart into the name and the arguments that it was put together from,
whatever stands in the quotes of the arguments; a name alone has no arguments. -/
theorem split?_written {name : String} {arguments : List String} (isName : IsName name)
    (areArguments : ∀ a ∈ arguments, IsArgument a) :
    (∀ before gap text after : String, AllBlank before.toList → AllBlank gap.toList →
      AllBlank after.toList → Lists arguments text → text ≠ "" →
      split? (before ++ name ++ gap ++ "(" ++ text ++ ")" ++ after) = some ⟨name, arguments⟩) ∧
    ∀ before after : String, AllBlank before.toList → AllBlank after.toList →
      split? (before ++ name ++ after) = some ⟨name, []⟩ := by
  constructor
  · intro before gap text after hbefore hgap hafter listed given
    rw [split?_enclosed (isName.not_mem hbefore hgap) (isName.trim_ne_nil hbefore hgap) hafter,
      isName.strip_eq hbefore hgap, argumentsOf_of_lists listed areArguments given]
  · intro before after hbefore hafter
    rw [split?_unopened (isName.not_mem hbefore hafter) (isName.trim_ne_nil hbefore hafter),
      isName.strip_eq hbefore hafter]

end SchemaMigration.DeclaredType

/-! A type of several words, with an argument that holds what stands between arguments. -/

namespace SchemaMigration.Shop

open DeclaredType Text

/-- The comma and the parentheses in quotes belong to the first argument, and the two quotes in a
row to the second one. -/
theorem ticket_type_is_taken_apart :
    split? "\tlong enum ('open, (new)' ,\n'it''s',10) " =
      some ⟨"long enum", ["'open, (new)'", "'it''s'", "10"]⟩ ∧
    split? "long enum" = some ⟨"long enum", []⟩ := by
  have isName : IsName "long enum" := by decide
  have areArguments : ∀ a ∈ ["'open, (new)'", "'it''s'", "10"], IsArgument a := by decide
  have none : AllBlank "".toList := by decide
  have space : AllBlank " ".toList := by decide
  have listed : Lists ["'open, (new)'", "'it''s'", "10"]
      ("'open, (new)'" ++ " " ++ "," ++ "\n" ++ ("'it''s'" ++ "" ++ "," ++ "" ++ "10")) :=
    .cons _ space (by decide) (.cons _ none none (.single _))
  have whole : "\tlong enum ('open, (new)' ,\n'it''s',10) " = "\t" ++ "long enum" ++ " " ++ "(" ++
      ("'open, (new)'" ++ " " ++ "," ++ "\n" ++ ("'it''s'" ++ "" ++ "," ++ "" ++ "10")) ++ ")" ++
        " " := by simp
  obtain ⟨apart, bare⟩ := split?_written isName areArguments
  rw [whole, apart "\t" " " _ " " (by decide) space space listed (by decide)]
  refine ⟨rfl, ?_⟩
  simpa using bare "" "" none none

end SchemaMigration.Shop
