import SchemaMigration.Proofs.Sql.Scanning
import SchemaMigration.Sql.Reader

/-!
What readers find. A reader that is made of others finds what they find one after the other, and a
proof follows it with one `bind_of` for each of them; lists, chains and repetitions are told from
what their items are read as.
-/

namespace SchemaMigration.Sql.Reader

open Scanner

variable {α β : Type} {ts rest after : List Token} {t : Token} {a : α} {b : β}

theorem bind_of {x : Reader α} (h : x ts = some (a, rest)) (f : α → Reader β) :
    (x >>= f) ts = f a rest := by
  show (x ts).bind _ = _
  rw [h]
  rfl

theorem map_of {x : Reader α} (h : x ts = some (a, rest)) (f : α → β) :
    (f <$> x) ts = some (f a, rest) := by
  show (x ts).bind _ = _
  rw [h]
  rfl

theorem bind_none {x : Reader α} (h : x ts = none) (f : α → Reader β) : (x >>= f) ts = none := by
  show (x ts).bind _ = _
  rw [h]
  rfl

theorem attempt_of {x : Reader (Option α)} (h : x ts = some (some a, rest)) :
    attempt x ts = some (some a, rest) := by
  rw [attempt, h]

theorem attempt_nothing {x : Reader (Option α)} (h : x ts = some (none, rest)) :
    attempt x ts = some (none, ts) := by
  rw [attempt, h]

/-! ### Single tokens -/

theorem all_cons_of_not {p : Token → Bool} (ps : List (Token → Bool)) (h : p t = false) :
    all (p :: ps) (t :: rest) = some (false, t :: rest) := by
  unfold all
  simp [h]

theorem all_pair (p q : Token → Bool) (t u : Token) (rest : List Token) :
    all [p, q] (t :: u :: rest) =
      if p t && q u then some (true, rest) else some (false, t :: u :: rest) := by
  unfold all
  simp

theorem take?_of {p : Token → Bool} (h : p t = true) :
    take? p (t :: rest) = some (some t, rest) := by
  simp [take?, h]

theorem take?_of_not {p : Token → Bool} (h : p t = false) :
    take? p (t :: rest) = some (none, t :: rest) := by
  simp [take?, h]

theorem accept_of_not {p : Token → Bool} (h : p t = false) :
    accept p (t :: rest) = some (false, t :: rest) := by
  show (take? p (t :: rest)).bind _ = _
  simp [take?, h]

theorem accept_of {p : Token → Bool} (h : p t = true) :
    accept p (t :: rest) = some (true, rest) := by
  show (take? p (t :: rest)).bind _ = _
  simp [take?, h]

/-! ### Repetitions -/

inductive Steps (step : α → Reader (Option α)) : α → List Token → Nat → α → List Token → Prop
  | done {a : α} {ts rest : List Token} (h : step a ts = some (none, rest)) :
    Steps step a ts 0 a rest
  | more {a b c : α} {ts rest after : List Token} {n : Nat} (h : step a ts = some (some b, rest))
    (hrest : Steps step b rest n c after) : Steps step a ts (n + 1) c after

theorem continuedFrom_of_steps {step : α → Reader (Option α)} {c : α} {n fuel : Nat}
    (h : Steps step a ts n c after) (enough : n < fuel) :
    continuedFrom step fuel a ts = some (c, after) := by
  induction h generalizing fuel with
  | done h =>
    obtain ⟨fuel, rfl⟩ : ∃ m, fuel = m + 1 := ⟨fuel - 1, by omega⟩
    exact bind_of h _
  | more h hrest ih =>
    obtain ⟨fuel, rfl⟩ : ∃ m, fuel = m + 1 := ⟨fuel - 1, by omega⟩
    exact (bind_of h _).trans (ih (by omega))

theorem continued_of_steps {step : α → Reader (Option α)} {c : α} {n : Nat}
    (h : Steps step a ts n c after) (enough : n < ts.length + 2) :
    continued step a ts = some (c, after) :=
  continuedFrom_of_steps h enough

theorem continued_done {step : α → Reader (Option α)} (h : step a ts = some (none, rest)) :
    continued step a ts = some (a, rest) :=
  continued_of_steps (.done h) (by omega)

/-- An operand that no operator follows. -/
theorem chain_alone {operator : Reader Bool} {first next : Reader (Option Node)} {n : Node}
    (found : first ts = some (some n, rest)) (last : operator rest = some (false, rest)) :
    chain operator first next ts = some (some n, rest) := by
  unfold chain
  rw [bind_of found]
  refine (bind_of (continued_done ?_) _).trans rfl
  exact bind_of last _

inductive Items (item : Reader (Option α)) : List Token → List α → List Token → Prop
  | done {ts rest : List Token} (h : item ts = some (none, rest)) : Items item ts [] rest
  | more {a : α} {as : List α} {ts rest after : List Token} (h : item ts = some (some a, rest))
    (hrest : Items item rest as after) : Items item ts (a :: as) after

/-- A step that puts the next item in front of those found before. -/
theorem steps_of_items {item : Reader (Option α)} {step : List α → Reader (Option (List α))}
    (one : ∀ found ts a rest, item ts = some (some a, rest) →
      step found ts = some (some (a :: found), rest))
    (last : ∀ found ts rest, item ts = some (none, rest) → step found ts = some (none, rest))
    {as : List α} (h : Items item ts as after) (found : List α) :
    Steps step found ts as.length (as.reverse ++ found) after := by
  induction h generalizing found with
  | done h => exact .done (last found _ _ h)
  | more h hrest ih =>
    rw [List.reverse_cons, List.append_assoc]
    exact .more (one found _ _ _ h) (ih _)

theorem many_of_items {item : Reader (Option α)} {as : List α} (h : Items item ts as after)
    (enough : as.length < ts.length + 2) : many item ts = some (as, after) := by
  unfold many
  refine (bind_of (continued_of_steps (steps_of_items ?_ ?_ h []) enough) _).trans ?_
  · exact fun _ _ _ _ h => bind_of h _
  · exact fun _ _ _ h => bind_of h _
  · rw [List.append_nil, List.reverse_reverse]
    rfl

theorem many_nil {item : Reader (Option α)} (h : item ts = some (none, rest)) :
    many item ts = some ([], rest) :=
  many_of_items (.done h) (by simp)

/-! ### Lists -/

inductive Slots (item : Reader (Option α)) :
    List Token → List (Option α) → List Token → Prop
  | last {x : Option α} {ts rest : List Token} (h : item ts = some (x, rest))
    (stop : symbol "," rest = some (false, rest)) : Slots item ts [x] rest
  | more {x : Option α} {xs : List (Option α)} {ts rest after : List Token}
    (h : item ts = some (x, .symbol "," :: rest)) (hrest : Slots item rest xs after) :
    Slots item ts (x :: xs) after

theorem slotsFrom_of_slots {item : Reader (Option α)} {xs : List (Option α)} {fuel : Nat}
    (h : Slots item ts xs after) (enough : xs.length ≤ fuel) :
    slotsFrom item fuel ts = some (xs, after) := by
  induction h generalizing fuel with
  | last h stop =>
    obtain ⟨fuel, rfl⟩ : ∃ m, fuel = m + 1 := ⟨fuel - 1, by simp at enough; omega⟩
    exact (bind_of h _).trans (bind_of stop _)
  | more h hrest ih =>
    rw [List.length_cons] at enough
    obtain ⟨fuel, rfl⟩ : ∃ m, fuel = m + 1 := ⟨fuel - 1, by omega⟩
    exact (bind_of h _).trans ((bind_of rfl _).trans ((bind_of (ih (by omega)) _).trans rfl))

theorem list_of_slots {item : Reader (Option α)} {xs : List (Option α)}
    (h : Slots item ts xs after) (enough : xs.length ≤ ts.length + 1) :
    list item ts = some (xs.filterMap id, after) := by
  have found : slots item ts = some (xs, after) := slotsFrom_of_slots h enough
  exact bind_of found _

/-- An item that ends where the next comma or the closing parenthesis stands. -/
def Takes (item : Reader (Option α)) (block : List Token) (a : α) : Prop :=
  ∀ mark rest, mark = "," ∨ mark = ")" →
    item (block ++ .symbol mark :: rest) = some (some a, .symbol mark :: rest)

variable {ι : Type} {items : List ι} {block : ι → List Token} {result : ι → α}

theorem separated_cons_cons (block : ι → List Token) (i j : ι) (items : List ι)
    (rest : List Token) :
    [Token.symbol ","].intercalate ((i :: j :: items).map block) ++ rest =
      block i ++ .symbol "," ::
        ([Token.symbol ","].intercalate ((j :: items).map block) ++ rest) := by
  have split : [Token.symbol ","].intercalate ((i :: j :: items).map block) =
      block i ++ [Token.symbol ","] ++ [Token.symbol ","].intercalate ((j :: items).map block) :=
    List.intercalate_cons_of_ne_nil (List.cons_ne_nil _ _)
  rw [split]
  simp

theorem separated_cons (block : ι → List Token) (i : ι) (items : List ι) (rest : List Token) :
    ∃ after, [Token.symbol ","].intercalate ((i :: items).map block) ++ rest =
      block i ++ after := by
  cases items with
  | nil => exact ⟨rest, by rw [List.map_cons, List.map_nil, List.intercalate_singleton]⟩
  | cons j items => exact ⟨_, separated_cons_cons block i j items rest⟩

/-- What a list in parentheses starts with: its first item, or its closing parenthesis. -/
theorem separated_head {p : Token → Prop} (closing : p (.symbol ")"))
    (opens : ∀ i ∈ items, ∃ t more, block i = t :: more ∧ p t) (rest : List Token) :
    ∃ t more, [Token.symbol ","].intercalate (items.map block) ++ .symbol ")" :: rest = t :: more ∧
      p t := by
  cases items with
  | nil => exact ⟨_, _, rfl, closing⟩
  | cons i items =>
    obtain ⟨t, more, hi, ht⟩ := opens i List.mem_cons_self
    obtain ⟨after, split⟩ := separated_cons block i items (.symbol ")" :: rest)
    rw [split, hi]
    exact ⟨t, _, rfl, ht⟩

/-- There is a comma for each item but the last. -/
theorem length_le_separated (block : ι → List Token) (items : List ι) :
    items.length ≤ ([Token.symbol ","].intercalate (items.map block)).length + 1 := by
  induction items with
  | nil => exact Nat.zero_le _
  | cons i items ih =>
    cases items with
    | nil => simp
    | cons j items =>
      have split := congrArg List.length (separated_cons_cons block i j items [])
      simp only [List.append_nil, List.length_append, List.length_cons] at split ih ⊢
      omega

theorem slots_of_takes {item : Reader (Option α)} (hne : items ≠ [])
    (takes : ∀ i ∈ items, Takes item (block i) (result i)) :
    Slots item ([Token.symbol ","].intercalate (items.map block) ++ .symbol ")" :: rest)
      (items.map fun i => some (result i)) (.symbol ")" :: rest) := by
  induction items with
  | nil => exact absurd rfl hne
  | cons i items ih =>
    have first := takes i List.mem_cons_self
    cases items with
    | nil =>
      simp only [List.map_cons, List.map_nil, List.intercalate_singleton]
      exact .last (first ")" rest (.inr rfl)) rfl
    | cons j items =>
      rw [separated_cons_cons]
      exact .more (first "," _ (.inl rfl))
        (ih (List.cons_ne_nil _ _) fun k hk => takes k (List.mem_cons_of_mem _ hk))

theorem list_of_takes {item : Reader (Option α)} (hne : items ≠ [])
    (takes : ∀ i ∈ items, Takes item (block i) (result i)) :
    list item ([Token.symbol ","].intercalate (items.map block) ++ .symbol ")" :: rest) =
      some (items.map result, .symbol ")" :: rest) := by
  refine (list_of_slots (slots_of_takes hne takes) ?_).trans ?_
  · have := length_le_separated block items
    rw [List.length_map, List.length_append]
    omega
  · simp

/-- An item that is not read to its end: what is left starts with neither a comma nor a closing
parenthesis. -/
def Breaks (item : Reader (Option α)) (block : List Token) : Prop :=
  ∀ rest, ∃ x t more, item (block ++ rest) = some (x, t :: more) ∧
    t.isSymbol "," = false ∧ t.isSymbol ")" = false

/-- A list is read up to its first item that is not read to its end. -/
theorem slots_of_breaks {item : Reader (Option α)} {sound : ι → Prop}
    (takes : ∀ i ∈ items, sound i → Takes item (block i) (result i))
    (breaks : ∀ i ∈ items, ¬ sound i → Breaks item (block i))
    (unsound : ∃ i ∈ items, ¬ sound i) (rest : List Token) :
    ∃ xs t more, Slots item
      ([Token.symbol ","].intercalate (items.map block) ++ .symbol ")" :: rest) xs (t :: more) ∧
        t.isSymbol ")" = false ∧ xs.length ≤ items.length := by
  induction items with
  | nil => simp at unsound
  | cons i items ih =>
    by_cases hi : sound i
    · have left : ∃ j ∈ items, ¬ sound j := by
        obtain ⟨j, hj, hnot⟩ := unsound
        rcases List.mem_cons.mp hj with rfl | hj
        · exact absurd hi hnot
        · exact ⟨j, hj, hnot⟩
      obtain ⟨xs, t, more, slots, unclosed, short⟩ :=
        ih (fun j hj => takes j (List.mem_cons_of_mem _ hj))
          (fun j hj => breaks j (List.mem_cons_of_mem _ hj)) left
      obtain ⟨j, items, rfl⟩ := List.exists_cons_of_ne_nil (List.ne_nil_of_mem left.choose_spec.1)
      have first := takes i List.mem_cons_self hi
      rw [separated_cons_cons]
      refine ⟨_ :: xs, t, more, .more (first "," _ (.inl rfl)) slots, unclosed, ?_⟩
      simp only [List.length_cons] at short ⊢
      omega
    · obtain ⟨after, split⟩ := separated_cons block i items (.symbol ")" :: rest)
      obtain ⟨x, t, more, broken, unseparated, unclosed⟩ := breaks i List.mem_cons_self hi after
      rw [split]
      exact ⟨[x], t, more, .last broken (accept_of_not unseparated), unclosed, by simp⟩

theorem list_of_breaks {item : Reader (Option α)} {sound : ι → Prop}
    (takes : ∀ i ∈ items, sound i → Takes item (block i) (result i))
    (breaks : ∀ i ∈ items, ¬ sound i → Breaks item (block i))
    (unsound : ∃ i ∈ items, ¬ sound i) (rest : List Token) :
    ∃ as t more, list item
      ([Token.symbol ","].intercalate (items.map block) ++ .symbol ")" :: rest) =
        some (as, t :: more) ∧ t.isSymbol ")" = false := by
  obtain ⟨xs, t, more, slots, unclosed, short⟩ := slots_of_breaks takes breaks unsound rest
  have enough := length_le_separated block items
  have found := list_of_slots slots (by rw [List.length_append]; omega)
  exact ⟨_, t, more, found, unclosed⟩

/-- A list up to its closing parenthesis, which may be empty if nothing is read in its place. -/
theorem closed_of_takes {item : Reader (Option α)} (items : List ι)
    (takes : ∀ i ∈ items, Takes item (block i) (result i))
    (empty : items = [] → item (.symbol ")" :: rest) = some (none, .symbol ")" :: rest)) :
    closed (list item) ([Token.symbol ","].intercalate (items.map block) ++ .symbol ")" :: rest) =
      some (items.map result, rest) := by
  have found : list item ([Token.symbol ","].intercalate (items.map block) ++ .symbol ")" :: rest) =
      some (items.map result, .symbol ")" :: rest) := by
    by_cases hne : items = []
    · subst hne
      exact list_of_slots (.last (empty rfl) rfl) (by simp)
    · exact list_of_takes hne takes
  exact bind_of found _

theorem wrapped_of_takes {item : Reader (Option α)} (items : List ι)
    (takes : ∀ i ∈ items, Takes item (block i) (result i))
    (empty : items = [] → item (.symbol ")" :: rest) = some (none, .symbol ")" :: rest)) :
    wrapped (list item) (enclosed (items.map block) ++ rest) = some (items.map result, rest) := by
  rw [enclosed_append]
  exact (bind_of rfl _).trans (closed_of_takes items takes empty)

end SchemaMigration.Sql.Reader
