import SchemaMigration.Proofs.Decoder

/-!
Members that are hidden by others. Where a record gives a field under both of its names, the member
with the second one can be dropped: the same value is read, or the same problems are found in the
same places, although another object may be shown with them.
-/

namespace SchemaMigration

/-- What is wrong and where, without the value that is shown. -/
def Problem.finding (p : Problem) : List String × Mismatch := (p.path, p.mismatch)

def Problem.line (found : List String × Mismatch) : String :=
  ".".intercalate found.1 ++ ": " ++ found.2.message

theorem Problem.map_text_of_findings {ps qs : List Problem}
    (same : ps.map finding = qs.map finding) : ps.map text = qs.map text := by
  have texts : text = line ∘ finding := rfl
  rw [texts, ← List.map_map, same, List.map_map]

theorem Problem.findings_within (step : String) (ps : List Problem) :
    (ps.map fun p => { p with path := step :: p.path }).map finding =
      (ps.map finding).map fun found => (step :: found.1, found.2) := by
  rw [List.map_map, List.map_map]
  rfl

namespace Validated

variable {α β : Type} {v w : Validated α} {f g : Validated (α → β)}

inductive Agree : Validated α → Validated α → Prop where
  | valid (a : α) : Agree (.valid a) (.valid a)
  | invalid {ps qs : List Problem} (same : ps.map Problem.finding = qs.map Problem.finding) :
      Agree (.invalid ps) (.invalid qs)

theorem Agree.refl (v : Validated α) : Agree v v := by
  cases v with
  | valid a => exact .valid a
  | invalid ps => exact .invalid rfl

theorem Agree.map (f : α → β) (h : Agree v w) : Agree (f <$> v) (f <$> w) := by
  cases h with
  | valid a => exact .valid (f a)
  | invalid same => exact .invalid same

theorem Agree.seq (hf : Agree f g) (h : Agree v w) : Agree (f <*> v) (g <*> w) := by
  cases hf with
  | valid f =>
    cases h with
    | valid a => exact .valid (f a)
    | invalid same => exact .invalid same
  | invalid before =>
    cases h with
    | valid a => exact .invalid before
    | invalid same => exact .invalid (by rw [List.map_append, List.map_append, before, same])

theorem Agree.within (step : String) (h : Agree v w) : Agree (v.within step) (w.within step) := by
  cases h with
  | valid a => exact .valid a
  | invalid same =>
    exact .invalid (by rw [Problem.findings_within, same, Problem.findings_within])

end Validated

namespace Json.Decoder

open Validated

variable {α : Type} {decode : Decoder α} {drops : Json → Json → Prop}

structure Layout where
  fields : List FieldName
  nested : List (FieldName × (Json → Json → Prop))
  apart : fields.Pairwise FieldName.Apart
  known : ∀ p ∈ nested, p.1 ∈ fields

inductive DropsInItem (drops : Json → Json → Prop) : Json → Json → Prop where
  | item (before after : List Json) {v v' : Json} (dropped : drops v v') :
      DropsInItem drops (.array (before ++ v :: after)) (.array (before ++ v' :: after))

/-- A member is dropped whose field is also given under its first name, in an object or in the value
of one of its members. -/
inductive DropsHidden (layout : Layout) : Json → Json → Prop where
  | here {field : FieldName} (before after : List (String × Json)) (v : Json)
      (known : field ∈ layout.fields) (two : field.first ≠ field.second)
      (given : field.first ∈ (before ++ after).map Prod.fst) :
      DropsHidden layout (.object (before ++ (field.second, v) :: after))
        (.object (before ++ after))
  | inside {field : FieldName} {drops : Json → Json → Prop} {name : String}
      (before after : List (String × Json)) {v v' : Json}
      (known : (field, drops) ∈ layout.nested) (named : field.Names name) (dropped : drops v v') :
      DropsHidden layout (.object (before ++ (name, v) :: after))
        (.object (before ++ (name, v') :: after))

/-- What is dropped makes no difference to the outcome. -/
def Ignores (decode : Decoder α) (drops : Json → Json → Prop) : Prop :=
  ∀ v v', drops v v' → Agree (decode v) (decode v')

theorem items_agree (ignores : Ignores decode drops) {v v' : Json} (dropped : drops v v')
    (before after : List Json) (position : Nat) :
    Agree (items decode position (before ++ v :: after))
      (items decode position (before ++ v' :: after)) := by
  induction before generalizing position with
  | nil => exact (((ignores v v' dropped).within _).map List.cons).seq (.refl _)
  | cons first before ih => exact (Agree.refl _).seq (ih (position + 1))

theorem Ignores.list (h : Ignores decode drops) : Ignores (list decode) (DropsInItem drops) := by
  rintro _ _ ⟨before, after, dropped⟩
  exact items_agree h dropped before after 0

/-! ### Where the fields of an object are found -/

variable {key name : String} {v v' : Json} {before after members members' : List (String × Json)}

theorem lookup_without (other : name ≠ key) :
    (before ++ (key, v) :: after).lookup name = (before ++ after).lookup name := by
  rw [List.lookup_append, List.lookup_append, List.lookup_cons, beq_false_of_ne other]

theorem lookup_replaced (name key : String) (v v' : Json) (before after : List (String × Json)) :
    (before ++ (key, v) :: after).lookup name = (before ++ (key, v') :: after).lookup name ∨
      name = key ∧ (before ++ (key, v) :: after).lookup name = some v ∧
        (before ++ (key, v') :: after).lookup name = some v' := by
  by_cases same : name = key
  · subst same
    rw [List.lookup_append, List.lookup_append, List.lookup_cons_self, List.lookup_cons_self]
    cases before.lookup name with
    | none => exact .inr ⟨rfl, rfl, rfl⟩
    | some w => exact .inl rfl
  · rw [lookup_without same, lookup_without same]
    exact .inl rfl

theorem exists_lookup (given : name ∈ members.map Prod.fst) :
    ∃ v, members.lookup name = some v := by
  cases h : members.lookup name with
  | some v => exact ⟨v, rfl⟩
  | none =>
    obtain ⟨m, hm, rfl⟩ := List.mem_map.mp given
    have other := List.lookup_eq_none_iff.mp h m hm
    simp at other

variable {layout : Layout} {field : FieldName}

/-- A field is found as before, or its value has something dropped. -/
theorem DropsHidden.given? (h : DropsHidden layout (.object members) (.object members'))
    (known : field ∈ layout.fields) :
    field.given? members = field.given? members' ∨
      ∃ drops name v v', (field, drops) ∈ layout.nested ∧ drops v v' ∧
        field.given? members = some (name, v) ∧ field.given? members' = some (name, v') := by
  cases h with
  | @here hidden before after v hknown two given =>
    by_cases same : field = hidden
    · subst same
      obtain ⟨w, found⟩ := exists_lookup given
      exact .inl (by rw [FieldName.given?, FieldName.given?, lookup_without two, found])
    · have apart := layout.apart.forall known hknown same
      exact .inl (by rw [FieldName.given?, FieldName.given?, lookup_without apart.1.2,
        lookup_without apart.2.2])
  | @inside other drops name before after v v' hnested named dropped =>
    -- only the field whose value is changed has the name of the changed member
    have own : field.Names name → (field, drops) ∈ layout.nested := by
      intro hnamed
      by_cases same : field = other
      · rwa [same]
      · have apart := layout.apart.forall known (layout.known _ hnested) same
        exact absurd named (apart.not_names hnamed)
    rw [FieldName.given?, FieldName.given?]
    rcases lookup_replaced field.first name v v' before after with same | ⟨rfl, old, new⟩
    · rw [same]
      cases (before ++ (name, v') :: after).lookup field.first with
      | some w => exact .inl rfl
      | none =>
        rcases lookup_replaced field.second name v v' before after with same | ⟨rfl, old, new⟩
        · exact .inl (by rw [same])
        · exact .inr ⟨drops, _, v, v', own (.inr rfl), dropped, by rw [old]; rfl, by rw [new]; rfl⟩
    · exact .inr ⟨drops, _, v, v', own (.inl rfl), dropped, by rw [old], by rw [new]⟩

theorem DropsHidden.required (h : DropsHidden layout (.object members) (.object members'))
    (known : field ∈ layout.fields)
    (ignores : ∀ drops, (field, drops) ∈ layout.nested → Ignores decode drops) :
    Agree (required field decode members) (required field decode members') := by
  rw [Decoder.required, Decoder.required]
  rcases h.given? known with same | ⟨drops, name, v, v', hnested, dropped, old, new⟩
  · rw [same]
    cases field.given? members' with
    | none => exact .invalid rfl
    | some found => exact .refl _
  · rw [old, new]
    exact (ignores drops hnested v v' dropped).within name

theorem DropsHidden.withDefault (h : DropsHidden layout (.object members) (.object members'))
    (known : field ∈ layout.fields) (default : α)
    (ignores : ∀ drops, (field, drops) ∈ layout.nested → Ignores decode drops) :
    Agree (withDefault field default decode members)
      (withDefault field default decode members') := by
  rw [Decoder.withDefault, Decoder.withDefault]
  rcases h.given? known with same | ⟨drops, name, v, v', hnested, dropped, old, new⟩
  · rw [same]
    exact .refl _
  · rw [old, new]
    exact (ignores drops hnested v v' dropped).within name

theorem ignores_record {name : String} {read : List (String × Json) → Validated α}
    (h : ∀ {members members'}, DropsHidden layout (.object members) (.object members') →
      Agree (read members) (read members')) : Ignores (record name read) (DropsHidden layout) := by
  rintro v v' dropped
  have objects : ∃ members members', v = .object members ∧ v' = .object members' := by
    cases dropped <;> exact ⟨_, _, rfl, rfl⟩
  obtain ⟨members, members', rfl, rfl⟩ := objects
  exact h dropped

end Json.Decoder

end SchemaMigration
