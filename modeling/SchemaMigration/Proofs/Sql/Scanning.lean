import SchemaMigration.Proofs.Integer
import SchemaMigration.Sql.Scanner

/-!
Texts and their tokens, piece by piece. A piece of a text stands for the same tokens wherever it
ends with the word that it ends with; the tokens of a text are those of its pieces.
-/

namespace SchemaMigration.Sql.Scanner

open Text

variable {c : Char} {rest after cs : List Char} {t : Token} {ts : List Token} {text : String}

/-! ### Blanks -/

theorem afterBlanks_of_unblank (fuel : Nat) (blank : isBlank c = false) (slash : c ≠ '/')
    (brace : c ≠ '\x7b') (minus : c = '-' → rest.head? ≠ some '-') :
    afterBlanks (fuel + 1) (c :: rest) = .ok (c :: rest) := by
  unfold afterBlanks
  split
  · cases ‹_ + 1 = 0›
  · next heq =>
    obtain ⟨rfl, rfl⟩ := List.cons.inj heq
    exact absurd rfl (minus rfl)
  · next heq => exact absurd (List.cons.inj heq).1 slash
  · next heq => exact absurd (List.cons.inj heq).1 brace
  · next heq =>
    obtain ⟨rfl, rfl⟩ := List.cons.inj heq
    rw [if_neg (by simp [blank])]
  · next heq => cases heq

/-! ### The tokens of a text -/

/-- A text has some tokens, however much fuel there is for them. -/
def Scans (cs : List Char) (ts : List Token) : Prop :=
  ∀ fuel, cs.length < fuel → scan fuel false cs = .ok ts

theorem Scans.nil : Scans [] [] := by
  intro fuel hfuel
  obtain ⟨fuel, rfl⟩ := Nat.exists_eq_add_of_lt hfuel
  rfl

theorem Scans.cons (start : afterBlanks (rest.length + 2) (c :: rest) = .ok (c :: rest))
    (first : token false c rest = .ok (t, after)) (shorter : after.length ≤ rest.length)
    (unmarked : t.isSymbol "@" = false) (h : Scans after ts) : Scans (c :: rest) (t :: ts) := by
  intro fuel hfuel
  rw [List.length_cons] at hfuel
  obtain ⟨fuel, rfl⟩ : ∃ n, fuel = n + 1 := ⟨fuel - 1, by omega⟩
  rw [scan, List.length_cons, start]
  show (token false c rest).bind _ = _
  rw [first]
  show (scan fuel (t.isSymbol "@") after).bind _ = _
  rw [unmarked, h fuel (by omega)]
  rfl

theorem Scans.blank (skipped : ∀ fuel, afterBlanks (fuel + 1) (c :: cs) = afterBlanks fuel cs)
    (h : Scans cs ts) : Scans (c :: cs) ts := by
  intro fuel hfuel
  rw [List.length_cons] at hfuel
  obtain ⟨fuel, rfl⟩ : ∃ n, fuel = n + 1 := ⟨fuel - 1, by omega⟩
  rw [← h (fuel + 1) (by omega), scan, List.length_cons, skipped, scan]

theorem Scans.space (h : Scans cs ts) : Scans (' ' :: cs) ts := .blank (fun _ => rfl) h

theorem Scans.newline (h : Scans cs ts) : Scans ('\n' :: cs) ts := .blank (fun _ => rfl) h

theorem tokens_of_scans (h : Scans text.toList ts) : tokens text = .ok ts := by
  rw [tokens, h _ (Nat.lt_succ_self _)]
  rfl

/-! ### Marks -/

theorem Scans.opening (h : Scans cs ts) : Scans ('(' :: cs) (.symbol "(" :: ts) :=
  .cons rfl rfl (Nat.le_refl _) rfl h

theorem Scans.closing (h : Scans cs ts) : Scans (')' :: cs) (.symbol ")" :: ts) :=
  .cons rfl rfl (Nat.le_refl _) rfl h

theorem Scans.comma (h : Scans cs ts) : Scans (',' :: cs) (.symbol "," :: ts) :=
  .cons rfl rfl (Nat.le_refl _) rfl h

inductive Stops : List Char → Prop
  | nil : Stops []
  | space (cs : List Char) : Stops (' ' :: cs)
  | newline (cs : List Char) : Stops ('\n' :: cs)
  | comma (cs : List Char) : Stops (',' :: cs)
  | opening (cs : List Char) : Stops ('(' :: cs)
  | closing (cs : List Char) : Stops (')' :: cs)

theorem Stops.not_quote (h : Stops cs) : cs.head? ≠ some '"' ∧ cs.head? ≠ some '\'' := by
  cases h <;> simp

/-! ### Quoted texts -/

theorem length_le_of_quote (c : Char) (text : List Char) (after : List Char) :
    after.length ≤ (Quoted.encode c text ++ c :: after).length := by
  rw [List.length_append, List.length_cons]
  omega

theorem toList_quote (c : Char) (s : String) (after : List Char) :
    (Quoted.quote c c s).toList ++ after = c :: (Quoted.encode c s.toList ++ c :: after) := by
  simp [Quoted.quote]

theorem quoted_encode {c : Char} (s : String) {after : List Char} (h : after.head? ≠ some c) :
    quoted c (Quoted.encode c s.toList ++ c :: after) = .ok (s, after) := by
  rw [quoted, Quoted.scan_encode c s.toList after h]
  simp

theorem Scans.quotedName (s : String) (stops : Stops cs) (h : Scans cs ts) :
    Scans ((Quoted.quote '"' '"' s).toList ++ cs) (.quotedName s :: ts) := by
  rw [toList_quote]
  refine .cons rfl ?_ (length_le_of_quote _ _ _) rfl h
  show (quoted '"' _).bind _ = _
  rw [quoted_encode s stops.not_quote.1]
  rfl

theorem Scans.string (s : String) (stops : Stops cs) (h : Scans cs ts) :
    Scans ((Quoted.quote '\'' '\'' s).toList ++ cs) (.string s :: ts) := by
  rw [toList_quote]
  refine .cons rfl ?_ (length_le_of_quote _ _ _) rfl h
  show (quoted '\'' _).bind _ = _
  rw [quoted_encode s stops.not_quote.2]
  rfl

/-! ### Numbers -/

theorem Stops.number (h : Stops cs) : number false false false cs = ([], cs) := by
  cases h <;> rfl

theorem number_of_isDigit {ds : List Char} (digits : ∀ d ∈ ds, d.isDigit = true)
    (stops : Stops cs) :
    number false false false (ds ++ cs) = (ds, cs) := by
  induction ds with
  | nil => exact stops.number
  | cons d ds ih =>
    have hd := digits d List.mem_cons_self
    rw [List.cons_append, number]
    simp only [hd, if_true, ih fun e he => digits e (List.mem_cons_of_mem _ he)]

/-- A number in decimal digits has no mark of another base. -/
theorem unmarked_of_isDigit {ds : List Char} (digits : ∀ d ∈ ds, d.isDigit = true)
    (stops : Stops cs) : (ds ++ cs).head? ≠ some 'x' ∧ (ds ++ cs).head? ≠ some 'X' := by
  cases ds with
  | nil => cases stops <;> simp
  | cons d ds =>
    have hd := digits d List.mem_cons_self
    simp only [List.cons_append, List.head?_cons, ne_eq, Option.some.injEq]
    exact ⟨Json.ne_of_isDigit hd rfl, Json.ne_of_isDigit hd rfl⟩

theorem numeral_of_isDigit {ds : List Char} (digits : ∀ d ∈ ds, d.isDigit = true)
    (stops : Stops cs) : numeral c (ds ++ cs) = (.number (String.ofList (c :: ds)), cs) := by
  obtain ⟨lower, upper⟩ := unmarked_of_isDigit digits stops
  simp only [numeral, number_of_isDigit digits stops]
  refine if_neg ?_
  simp only [Bool.and_eq_true, Bool.or_eq_true, beq_iff_eq]
  exact fun marked => marked.2.elim lower upper

theorem Scans.number (n : Nat) (stops : Stops cs) (h : Scans cs ts) :
    Scans ((toString n).toList ++ cs) (.number (toString n) :: ts) := by
  have text : (toString n).toList = Nat.toDigits 10 n := Nat.toList_repr
  obtain ⟨c, ds, hdigits, hc⟩ := Json.digit_head n
  have digits : ∀ d ∈ ds, d.isDigit = true := by
    intro d hd
    refine isDigit_of_mem_toDigits (n := n) ?_
    rw [hdigits]
    exact List.mem_cons_of_mem _ hd
  have value : toString n = String.ofList (c :: ds) := by
    rw [← hdigits, ← text, String.ofList_toList]
  have first : token false c (ds ++ cs) = .ok (.number (toString n), cs) := by
    rw [token, hc, if_pos rfl, numeral_of_isDigit digits stops, value]
    rfl
  rw [text, hdigits, List.cons_append]
  refine .cons ?_ first (by simp) rfl h
  exact afterBlanks_of_unblank _ (isBlank_of_isDigit hc) (Json.ne_of_isDigit hc rfl)
    (Json.ne_of_isDigit hc rfl) fun heq => absurd heq (Json.ne_of_isDigit hc rfl)

/-- A minus before a digit neither opens a comment nor belongs to an operator. -/
theorem Scans.minus {d : Char} (digit : d.isDigit = true) (h : Scans (d :: cs) ts) :
    Scans ('-' :: d :: cs) (.symbol "-" :: ts) := by
  have bar : '|' ≠ d := (Json.ne_of_isDigit digit rfl).symm
  have angle : '>' ≠ d := (Json.ne_of_isDigit digit rfl).symm
  have minus : '-' ≠ d := (Json.ne_of_isDigit digit rfl).symm
  refine .cons ?_ ?_ (Nat.le_refl _) rfl h
  · exact afterBlanks_of_unblank _ rfl (by decide) (by decide) fun _ heq =>
      minus (Option.some.inj heq).symm
  · have single : operator? ('-' :: d :: cs) = none := by
      simp [operator?, operators, after?, bar, angle]
    show Except.ok ((operator? ('-' :: d :: cs)).getD _) = _
    rw [single]
    rfl

/-! ### Words -/

def letters : List Char := "ABCDEFGHIJKLMNOPQRSTUVWXYZ".toList

def Lettered (w : List Char) : Prop := ∀ c ∈ w, c ∈ letters

instance (w : List Char) : Decidable (Lettered w) := List.decidableBAll (· ∈ letters) w

structure Letter (c : Char) : Prop where
  inside : isWordEnd c = false
  upper : upperChar c = [c]
  digit : c.isDigit = false
  closing : closing? c = none

theorem letter_of_mem (h : c ∈ letters) : Letter c := by
  have all : letters.all (fun c => isWordEnd c = false ∧ upperChar c = [c] ∧ c.isDigit = false ∧
      closing? c = none) = true := by decide
  obtain ⟨inside, upper, digit, closing⟩ := of_decide_eq_true (List.all_eq_true.mp all c h)
  exact ⟨inside, upper, digit, closing⟩

/-- No mark and no blank is part of a word. -/
theorem Letter.ne (h : Letter c) {d : Char} (hd : isWordEnd d = true) : c ≠ d := by
  rintro rfl
  rw [h.inside] at hd
  cases hd

theorem Stops.not_letter (h : Stops (c :: cs)) : upperChar c = [c] ∧ c ∉ letters := by
  cases h <;> decide

variable {f w : List Char}

theorem afterWord?_append (hf : Lettered f) (hw : Lettered w)
    (stops : Stops cs) :
    afterWord? f (w ++ cs) = if f <+: w then some (w.drop f.length ++ cs) else none := by
  induction f generalizing w with
  | nil => simp [afterWord?]
  | cons a f ih =>
    have ha := hf a List.mem_cons_self
    cases w with
    | nil =>
      cases cs with
      | nil => simp [afterWord?]
      | cons c cs =>
        obtain ⟨upper, apart⟩ := stops.not_letter
        have hne : c ≠ a := fun heq => apart (heq ▸ ha)
        simp [afterWord?, upper, hne]
    | cons b w =>
      have hb := letter_of_mem (hw b List.mem_cons_self)
      have ih := ih (fun c hc => hf c (List.mem_cons_of_mem _ hc))
        (fun c hc => hw c (List.mem_cons_of_mem _ hc))
      by_cases heq : b = a
      · subst heq
        simp [afterWord?, hb.upper, ih]
      · simp [afterWord?, hb.upper, heq, Ne.symm heq]

theorem afterWord?_eq_none (h : f.head?.all (upperChar c ≠ [·]) = true) (nonempty : f ≠ []) :
    afterWord? f (c :: cs) = none := by
  cases f with
  | nil => exact absurd rfl nonempty
  | cons a f =>
    have hne : ¬ upperChar c = [a] := by simpa using h
    simp [afterWord?, hne]

theorem afterPhrase?_cons_eq_none {first : String} {more : List String}
    (h : afterWord? first.toList cs = none) : afterPhrase? (first :: more) cs = none := by
  cases more <;> simp [afterPhrase?, h]

def openers : List String := Keyword.phrases.filterMap List.head?

/-- After a word that a phrase may start with comes one that is in no phrase. -/
def Alone (word : String) (after : List Char) : Prop :=
  word ∈ openers → ∃ rest, after = '(' :: rest ∨ after = ' ' :: 'N' :: rest

theorem phrase?_word {word : String} (hw : Lettered word.toList) (stops : Stops cs)
    (alone : Alone word cs) : phrase? (word.toList ++ cs) = none := by
  have long : ∀ p ∈ Keyword.phrases, 2 ≤ p.length := by decide
  have upper : ∀ p ∈ Keyword.phrases, ∀ w ∈ p, Lettered w.toList := by decide +kernel
  have other : ∀ p ∈ Keyword.phrases, ∀ w ∈ p,
      w.toList.head?.all (upperChar 'N' ≠ [·]) = true ∧ w.toList ≠ [] := by decide +kernel
  rw [phrase?, List.findSome?_eq_none_iff]
  intro p hp
  obtain ⟨first, second, more, rfl⟩ : ∃ first second more, p = first :: second :: more := by
    match p, long p hp with
    | first :: second :: more, _ => exact ⟨first, second, more, rfl⟩
  suffices h : afterPhrase? (first :: second :: more) (word.toList ++ cs) = none by rw [h]; rfl
  have hf := upper _ hp first List.mem_cons_self
  have hs := upper _ hp second (by simp)
  rw [afterPhrase?, afterWord?_append hf hw stops]
  swap
  · exact List.cons_ne_nil _ _
  split
  · next isPrefix =>
    obtain ⟨left, hleft⟩ := isPrefix
    rw [← hleft, List.drop_left]
    cases left with
    | nil =>
      -- the whole word opens the phrase, and what follows does not go on with it
      have same : first = word := by simpa [String.toList_inj] using hleft
      have opens : word ∈ openers :=
        List.mem_filterMap.mpr ⟨_, hp, by rw [same]; rfl⟩
      obtain ⟨rest, rfl | rfl⟩ := alone opens
      · rfl
      · show afterPhrase? (second :: more) ('N' :: rest) = none
        obtain ⟨hother, nonempty⟩ := other _ hp second (by simp)
        exact afterPhrase?_cons_eq_none (afterWord?_eq_none hother nonempty)
    | cons c left =>
      have hc : c ∈ letters := hw c (by rw [← hleft]; simp)
      obtain ⟨blank, -⟩ := Bool.or_eq_false_iff.mp (letter_of_mem hc).inside
      simp [blank]
  · rfl

theorem word_append {word : String} (hw : Lettered word.toList) (stops : Stops cs) :
    Scanner.word false (word.toList ++ cs) = (Token.ofWord word, cs) := by
  have inside : ∀ c ∈ word.toList, (!isWordEnd c) = true := by
    intro c hc
    rw [(letter_of_mem (hw c hc)).inside]
    rfl
  have left : cs.takeWhile (fun c => !isWordEnd c) = [] ∧
      cs.dropWhile (fun c => !isWordEnd c) = cs := by
    cases stops <;> exact ⟨rfl, rfl⟩
  simp only [Scanner.word, List.span_eq_takeWhile_dropWhile, List.takeWhile_append_of_pos inside,
    List.dropWhile_append_of_pos inside, left, List.append_nil, String.ofList_toList,
    Bool.false_eq_true, if_false]

theorem not_quote_of_letters (hw : Lettered w) (stops : Stops cs) :
    (w ++ cs).head? ≠ some '\'' := by
  cases w with
  | nil => exact stops.not_quote.2
  | cons c w =>
    rw [List.cons_append, List.head?_cons]
    intro heq
    exact (letter_of_mem (hw c List.mem_cons_self)).ne (d := '\'') rfl (Option.some.inj heq)

theorem token_word {word : String} {w : List Char} (split : word.toList = c :: w)
    (hw : Lettered word.toList) (stops : Stops cs) (alone : Alone word cs) :
    token false c (w ++ cs) = .ok (Token.ofWord word, cs) := by
  have hc : c ∈ letters := hw c (by rw [split]; exact List.mem_cons_self)
  have hrest : Lettered w := by
    intro d hd
    apply hw d
    rw [split]
    exact List.mem_cons_of_mem _ hd
  have traits := letter_of_mem hc
  have unquoted := not_quote_of_letters hrest stops
  have quote : c ≠ '\'' := traits.ne rfl
  obtain ⟨-, mark⟩ := Bool.or_eq_false_iff.mp traits.inside
  have whole : c :: (w ++ cs) = word.toList ++ cs := by rw [split]; rfl
  rw [token, traits.digit, if_neg Bool.false_ne_true]
  simp only [traits.closing, quote, unquoted, mark, whole, phrase?_word hw stops alone,
    word_append hw stops, if_false, and_false, Bool.false_eq_true, Option.getD_none]
  rfl

theorem isSymbol_ofWord (word mark : String) : (Token.ofWord word).isSymbol mark = false := by
  unfold Token.ofWord
  split <;> rfl

/-- A word of upper case letters. -/
theorem Scans.word {word : String} (nonempty : word ≠ "") (hw : Lettered word.toList)
    (stops : Stops cs) (alone : Alone word cs) (h : Scans cs ts) :
    Scans (word.toList ++ cs) (Token.ofWord word :: ts) := by
  obtain ⟨c, w, split⟩ := List.exists_cons_of_ne_nil (mt String.toList_eq_nil_iff.mp nonempty)
  have traits := letter_of_mem (hw c (by rw [split]; exact List.mem_cons_self))
  obtain ⟨blank, -⟩ := Bool.or_eq_false_iff.mp traits.inside
  rw [split, List.cons_append]
  refine .cons ?_ (token_word split hw stops alone) (by simp) (isSymbol_ofWord _ _) h
  exact afterBlanks_of_unblank _ blank (traits.ne rfl) (traits.ne rfl) fun heq =>
    absurd heq (traits.ne rfl)

theorem Scans.primaryKey (h : Scans (' ' :: cs) ts) :
    Scans ("PRIMARY KEY".toList ++ ' ' :: cs) (.keyword "PRIMARY KEY" "PRIMARY KEY" :: ts) := by
  have whole : "PRIMARY KEY".toList = 'P' :: "RIMARY KEY".toList := rfl
  rw [whole, List.cons_append]
  exact .cons rfl rfl (by simp) rfl h

theorem Scans.foreignKey (h : Scans (' ' :: cs) ts) :
    Scans ("FOREIGN KEY".toList ++ ' ' :: cs) (.keyword "FOREIGN KEY" "FOREIGN KEY" :: ts) := by
  have whole : "FOREIGN KEY".toList = 'F' :: "OREIGN KEY".toList := rfl
  rw [whole, List.cons_append]
  exact .cons rfl rfl (by simp) rfl h

/-! ### Pieces of a text -/

/-- A piece of a text stands for some tokens wherever its last word ends with it. -/
def Spells (text : String) (block : List Token) : Prop :=
  ∀ cs ts, Stops cs → Scans cs ts → Scans (text.toList ++ cs) (block ++ ts)

variable {a b : String} {x y : List Token}

theorem Spells.quotedName (s : String) : Spells (Quoted.quote '"' '"' s) [.quotedName s] :=
  fun _ _ stops h => .quotedName s stops h

theorem Spells.string (s : String) : Spells (Quoted.quote '\'' '\'' s) [.string s] :=
  fun _ _ stops h => .string s stops h

/-- A word of upper case letters that no phrase starts with. -/
theorem Spells.word {word : String}
    (h : word ≠ "" ∧ Lettered word.toList ∧ word ∉ openers)
    (ht : Token.ofWord word = t) : Spells word [t] := by
  obtain ⟨nonempty, hw, closed⟩ := h
  subst ht
  exact fun _ _ stops h => .word nonempty hw stops (fun opens => absurd opens closed) h

theorem Spells.spaced (ha : Spells a x) (hb : Spells b y) : Spells (a ++ " " ++ b) (x ++ y) := by
  intro cs ts stops h
  rw [String.toList_append, String.toList_append, List.append_assoc, List.append_assoc,
    List.append_assoc]
  exact ha _ _ (.space _) (.space (hb _ _ stops h))

section Lists

variable {ι : Type} {items : List ι} {text : ι → String} {block : ι → List Token}

theorem Spells.intercalate (separator : String)
    (stop : ∀ cs, Stops (separator.toList ++ cs))
    (comma : ∀ {cs ts}, Scans cs ts → Scans (separator.toList ++ cs) (.symbol "," :: ts))
    (h : ∀ i ∈ items, Spells (text i) (block i)) :
    Spells (separator.intercalate (items.map text))
      ([Token.symbol ","].intercalate (items.map block)) := by
  induction items with
  | nil => exact fun _ _ _ h => h
  | cons i items ih =>
    have hi := h i List.mem_cons_self
    cases items with
    | nil => simpa using hi
    | cons j items =>
      have rest := ih fun k hk => h k (List.mem_cons_of_mem _ hk)
      have texts : separator.intercalate ((i :: j :: items).map text) =
          text i ++ separator ++ separator.intercalate ((j :: items).map text) :=
        String.intercalate_cons_of_ne_nil (List.cons_ne_nil _ _)
      have blocks : [Token.symbol ","].intercalate ((i :: j :: items).map block) =
          block i ++ [Token.symbol ","] ++
            [Token.symbol ","].intercalate ((j :: items).map block) :=
        List.intercalate_cons_of_ne_nil (List.cons_ne_nil _ _)
      intro cs ts stops hcs
      rw [texts, blocks, String.toList_append, String.toList_append, List.append_assoc,
        List.append_assoc, List.append_assoc, List.append_assoc]
      exact hi _ _ (stop _) (comma (rest _ _ stops hcs))

def enclosed (items : List (List Token)) : List Token :=
  .symbol "(" :: ([Token.symbol ","].intercalate items ++ [.symbol ")"])

theorem enclosed_append (items : List (List Token)) (rest : List Token) :
    enclosed items ++ rest =
      .symbol "(" :: ([Token.symbol ","].intercalate items ++ .symbol ")" :: rest) := by
  simp [enclosed]

/-- A list in parentheses ends with its parenthesis, whatever follows. -/
theorem Scans.enclosed (items : List ι) (h : ∀ i ∈ items, Spells (text i) (block i))
    (hcs : Scans cs ts) :
    Scans ('(' :: ((", ".intercalate (items.map text)).toList ++ ')' :: cs))
      (enclosed (items.map block) ++ ts) := by
  have inside := Spells.intercalate ", " (fun _ => .comma _) (fun h => .comma (.space h)) h
  rw [enclosed_append]
  exact .opening (inside _ _ (.closing _) (.closing hcs))

end Lists

end SchemaMigration.Sql.Scanner
