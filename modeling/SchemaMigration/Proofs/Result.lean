import Mathlib.Data.List.Basic

/-!
Results that may be errors. A step in a row, or a list that is made item by item, succeeds if all of
it does, and fails with the first error.
-/

namespace SchemaMigration

variable {α β ε κ : Type}

/-! ### Steps in a row -/

theorem bind_eq_ok_iff {x : Except ε α} {f : α → Except ε β} {b : β} :
    (x >>= f) = .ok b ↔ ∃ a, x = .ok a ∧ f a = .ok b := by
  cases x with
  | error e =>
    constructor
    · intro h
      cases h
    · rintro ⟨a, h, -⟩
      cases h
  | ok a =>
    constructor
    · intro h
      exact ⟨a, rfl, h⟩
    · rintro ⟨a', heq, h⟩
      cases heq
      exact h

theorem bind_eq_error_iff {x : Except ε α} {f : α → Except ε β} {e : ε} :
    (x >>= f) = .error e ↔ x = .error e ∨ ∃ a, x = .ok a ∧ f a = .error e := by
  cases x with
  | error e' =>
    constructor
    · intro h
      cases h
      exact .inl rfl
    · rintro (h | ⟨a, h, -⟩) <;> cases h
      rfl
  | ok a =>
    constructor
    · intro h
      exact .inr ⟨a, rfl, h⟩
    · rintro (h | ⟨_, h, hf⟩) <;> cases h
      exact hf

theorem eq_ok_of_mapError {ε' : Type} {f : ε → ε'} {x : Except ε α} {a : α}
    (h : x.mapError f = .ok a) : x = .ok a := by
  cases x with
  | error e => cases h
  | ok b =>
    cases h
    rfl

/-! ### Lists -/

variable {f : α → Except ε β} {a : α} {as : List α} {bs : List β}

theorem of_forM_eq_ok {f : α → Except ε Unit} (h : as.forM f = .ok ()) :
    ∀ a ∈ as, f a = .ok () := by
  induction as with
  | nil => exact List.forall_mem_nil _
  | cons a as ih =>
    obtain ⟨_, first, others⟩ := bind_eq_ok_iff.mp h
    exact List.forall_mem_cons.mpr ⟨first, ih others⟩

theorem mapM_cons_eq_ok_iff :
    (a :: as).mapM f = .ok bs ↔
      ∃ b rest, f a = .ok b ∧ as.mapM f = .ok rest ∧ bs = b :: rest := by
  rw [List.mapM_cons, bind_eq_ok_iff]
  constructor
  · rintro ⟨b, hb, h⟩
    obtain ⟨rest, hrest, h⟩ := bind_eq_ok_iff.mp h
    cases h
    exact ⟨b, rest, hb, hrest, rfl⟩
  · rintro ⟨b, rest, hb, hrest, rfl⟩
    exact ⟨b, hb, bind_eq_ok_iff.mpr ⟨rest, hrest, rfl⟩⟩

theorem exists_mapM (h : ∀ a ∈ as, ∃ b, f a = .ok b) : ∃ bs, as.mapM f = .ok bs := by
  induction as with
  | nil => exact ⟨[], rfl⟩
  | cons a as ih =>
    obtain ⟨⟨b, hb⟩, others⟩ := List.forall_mem_cons.mp h
    obtain ⟨bs, hbs⟩ := ih others
    exact ⟨b :: bs, mapM_cons_eq_ok_iff.mpr ⟨b, bs, hb, hbs, rfl⟩⟩

/-- A list whose items are all made is made, with their keys. -/
theorem mapM_eq_ok {key : α → κ} {key' : β → κ} {p : β → Prop}
    (h : ∀ a ∈ as, ∃ b, f a = .ok b ∧ key' b = key a ∧ p b) :
    ∃ bs, as.mapM f = .ok bs ∧ bs.map key' = as.map key ∧ ∀ b ∈ bs, p b := by
  induction as with
  | nil => exact ⟨[], rfl, rfl, List.forall_mem_nil p⟩
  | cons a as ih =>
    obtain ⟨⟨b, hb, hkey, hp⟩, hothers⟩ := List.forall_mem_cons.mp h
    obtain ⟨bs, hbs, hkeys, hps⟩ := ih hothers
    refine ⟨b :: bs, ?_, ?_, List.forall_mem_cons.mpr ⟨hp, hps⟩⟩
    · exact mapM_cons_eq_ok_iff.mpr ⟨b, bs, hb, hbs, rfl⟩
    · rw [List.map_cons, List.map_cons, hkey, hkeys]

/-- What is made of a list is made of its items, and of each of them something. -/
theorem of_mapM_eq_ok (h : as.mapM f = .ok bs) :
    (∀ b ∈ bs, ∃ a ∈ as, f a = .ok b) ∧ ∀ a ∈ as, ∃ b ∈ bs, f a = .ok b := by
  induction as generalizing bs with
  | nil =>
    cases h
    exact ⟨List.forall_mem_nil _, List.forall_mem_nil _⟩
  | cons a as ih =>
    obtain ⟨b, rest, hb, hrest, rfl⟩ := mapM_cons_eq_ok_iff.mp h
    obtain ⟨origins, results⟩ := ih hrest
    constructor
    · refine List.forall_mem_cons.mpr ⟨⟨a, List.mem_cons_self, hb⟩, fun b' hb' => ?_⟩
      obtain ⟨a', ha', hmade⟩ := origins b' hb'
      exact ⟨a', List.mem_cons_of_mem _ ha', hmade⟩
    · refine List.forall_mem_cons.mpr ⟨⟨b, List.mem_cons_self, hb⟩, fun a' ha' => ?_⟩
      obtain ⟨b', hb', hmade⟩ := results a' ha'
      exact ⟨b', List.mem_cons_of_mem _ hb', hmade⟩

theorem map_of_mapM_eq_ok {key : α → κ} {key' : β → κ}
    (hkey : ∀ a ∈ as, ∀ b, f a = .ok b → key' b = key a) (h : as.mapM f = .ok bs) :
    bs.map key' = as.map key := by
  induction as generalizing bs with
  | nil =>
    cases h
    rfl
  | cons a as ih =>
    obtain ⟨b, rest, hb, hrest, rfl⟩ := mapM_cons_eq_ok_iff.mp h
    obtain ⟨first, others⟩ := List.forall_mem_cons.mp hkey
    rw [List.map_cons, List.map_cons, first b hb, ih others hrest]

/-- What is made of a list in another order is the same in another order. -/
theorem mapM_perm {as' : List α} (perm : as.Perm as') (h : as.mapM f = .ok bs) :
    ∃ bs', as'.mapM f = .ok bs' ∧ bs.Perm bs' := by
  induction perm generalizing bs with
  | nil => exact ⟨bs, h, .refl bs⟩
  | cons a _ ih =>
    obtain ⟨b, rest, hb, hrest, rfl⟩ := mapM_cons_eq_ok_iff.mp h
    obtain ⟨rest', hrest', perm⟩ := ih hrest
    exact ⟨b :: rest', mapM_cons_eq_ok_iff.mpr ⟨b, rest', hb, hrest', rfl⟩, perm.cons b⟩
  | swap a b as =>
    obtain ⟨y, others, hy, hothers, rfl⟩ := mapM_cons_eq_ok_iff.mp h
    obtain ⟨x, rest, hx, hrest, rfl⟩ := mapM_cons_eq_ok_iff.mp hothers
    refine ⟨x :: y :: rest, mapM_cons_eq_ok_iff.mpr ⟨x, y :: rest, hx, ?_, rfl⟩, .swap x y rest⟩
    exact mapM_cons_eq_ok_iff.mpr ⟨y, rest, hy, hrest, rfl⟩
  | trans _ _ first second =>
    obtain ⟨middle, hmiddle, perm⟩ := first h
    obtain ⟨bs', hbs', perm'⟩ := second hmiddle
    exact ⟨bs', hbs', perm.trans perm'⟩

/-- Making the items of a list fails with the first that cannot be made. -/
theorem mapM_eq_error_iff {e : ε} :
    as.mapM f = .error e ↔ ∃ before a after, as = before ++ a :: after ∧
      (∀ b ∈ before, ∃ made, f b = .ok made) ∧ f a = .error e := by
  induction as with
  | nil =>
    constructor
    · intro h
      cases h
    · rintro ⟨before, a, after, h, -⟩
      cases before <;> cases h
  | cons a as ih =>
    rw [List.mapM_cons, bind_eq_error_iff]
    constructor
    · rintro (h | ⟨made, hmade, h⟩)
      · exact ⟨[], a, as, rfl, List.forall_mem_nil _, h⟩
      · rcases bind_eq_error_iff.mp h with h | ⟨_, -, h⟩
        · obtain ⟨before, b, after, rfl, hbefore, hb⟩ := ih.mp h
          exact ⟨a :: before, b, after, rfl, List.forall_mem_cons.mpr ⟨⟨made, hmade⟩, hbefore⟩, hb⟩
        · cases h
    · rintro ⟨_ | ⟨b, before⟩, c, after, heq, hbefore, hc⟩ <;> cases heq
      · exact .inl hc
      · obtain ⟨⟨made, hmade⟩, hothers⟩ := List.forall_mem_cons.mp hbefore
        refine .inr ⟨made, hmade, bind_eq_error_iff.mpr (.inl ?_)⟩
        exact ih.mpr ⟨before, c, after, rfl, hothers, hc⟩

end SchemaMigration
