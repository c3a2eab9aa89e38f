import Mathlib.Data.List.Forall2
import Mathlib.Data.List.Pairwise
import SchemaMigration.Snapshot.Document

/-!
What decoders read. A value is read as what was written, in whatever way the records in it give
their fields: under either name, in any order, among other members, or not at all if the value is
the default.
-/

namespace SchemaMigration.Json.Decoder

/-! ### Values -/

variable {α : Type} {encode : α → Json} {decode : Decoder α}

def Inverts (decode : Decoder α) (encode : α → Json) : Prop := ∀ a, decode (encode a) = .valid a

theorem inverts_text : Inverts text .text := fun _ => rfl

theorem inverts_integer : Inverts integer .int := fun _ => rfl

theorem inverts_flag : Inverts flag .bool := by
  intro b
  cases b <;> rfl

theorem Inverts.optional (h : Inverts decode encode) (hnull : ∀ a, encode a ≠ .null) :
    Inverts (optional decode) (.ofOption encode) := by
  intro o
  cases o with
  | none => rfl
  | some a =>
    have hmap : Decoder.optional decode (encode a) = (decode (encode a)).map some := by
      rw [Decoder.optional]
      exact hnull a
    rw [ofOption, hmap, h]
    rfl

theorem items_map (h : Inverts decode encode) (as : List α) (position : Nat) :
    items decode position (as.map encode) = .valid as := by
  induction as generalizing position with
  | nil => rfl
  | cons a as ih =>
    rw [List.map_cons, items, h, ih]
    rfl

theorem Inverts.sequence (mismatch : Mismatch) (h : Inverts decode encode) :
    Inverts (sequence mismatch decode) fun as => .array (as.map encode) := fun as =>
  items_map h as 0

theorem Inverts.tuple (h : Inverts decode encode) :
    Inverts (tuple decode) fun as => .array (as.map encode) := h.sequence .notTuple

theorem Inverts.dictionary (h : Inverts decode encode) :
    Inverts (dictionary decode) fun ms => .object (ms.map fun m => (m.1, encode m.2)) := by
  intro ms
  induction ms with
  | nil => rfl
  | cons m ms ih =>
    rw [Decoder.dictionary] at ih ⊢
    rw [List.map_cons, entries, h, ih]
    rfl

theorem inverts_texts : Inverts (tuple text) .texts := inverts_text.tuple

theorem inverts_optional_text : Inverts (optional text) (.ofOption .text) := by
  refine inverts_text.optional ?_
  intro s h
  cases h

theorem inverts_optional_integer : Inverts (optional integer) (.ofOption .int) := by
  refine inverts_integer.optional ?_
  intro n h
  cases h

variable {members : List (String × Json)} {name : String} {a : α}

theorem Inverts.required (h : Inverts decode encode)
    (hm : members.lookup name = some (encode a)) :
    required (named name) decode members = .valid a := by
  simp only [Decoder.required, FieldName.given?, named, hm, h a]
  rfl

theorem Inverts.withDefault (h : Inverts decode encode) (default : α)
    (hm : members.lookup name = some (encode a)) :
    withDefault (named name) default decode members = .valid a := by
  simp only [Decoder.withDefault, FieldName.given?, named, hm, h a]
  rfl

/-! ### Values with several spellings -/

def Recovers (decode : Decoder α) (Spells : α → Json → Prop) : Prop :=
  ∀ a v, Spells a v → decode v = .valid a

def Exactly (encode : α → Json) (a : α) (v : Json) : Prop := v = encode a

def Items (Spells : α → Json → Prop) (as : List α) (v : Json) : Prop :=
  ∃ vs, v = .array vs ∧ List.Forall₂ Spells as vs

variable {Spells : α → Json → Prop}

theorem Inverts.recovers (h : Inverts decode encode) : Recovers decode (Exactly encode) := by
  rintro a _ rfl
  exact h a

theorem items_of_forall₂ (h : Recovers decode Spells) {as : List α} {vs : List Json}
    (spelled : List.Forall₂ Spells as vs) (position : Nat) :
    items decode position vs = .valid as := by
  induction spelled generalizing position with
  | nil => rfl
  | cons first _ ih =>
    rw [items, h _ _ first, ih]
    rfl

theorem Recovers.list (h : Recovers decode Spells) : Recovers (list decode) (Items Spells) := by
  rintro as _ ⟨vs, rfl, spelled⟩
  exact items_of_forall₂ h spelled 0

theorem exists_items (h : ∀ a, ∃ v, Spells a v) (as : List α) : ∃ v, Items Spells as v := by
  have spelled : ∃ vs, List.Forall₂ Spells as vs := by
    induction as with
    | nil => exact ⟨[], .nil⟩
    | cons a as ih =>
      obtain ⟨v, first⟩ := h a
      obtain ⟨vs, others⟩ := ih
      exact ⟨v :: vs, .cons first others⟩
  obtain ⟨vs, spelled⟩ := spelled
  exact ⟨.array vs, vs, rfl, spelled⟩

/-! ### Names of fields -/

def FieldName.Names (field : FieldName) (name : String) : Prop :=
  name = field.first ∨ name = field.second

instance (field : FieldName) (name : String) : Decidable (field.Names name) :=
  inferInstanceAs (Decidable (_ ∨ _))

/-- Fields without a name in common. -/
def FieldName.Apart (f g : FieldName) : Prop :=
  (f.first ≠ g.first ∧ f.first ≠ g.second) ∧ f.second ≠ g.first ∧ f.second ≠ g.second

instance (f g : FieldName) : Decidable (f.Apart g) := inferInstanceAs (Decidable ((_ ∧ _) ∧ _ ∧ _))

variable {f g field : FieldName}

theorem FieldName.Apart.symm (h : f.Apart g) : g.Apart f :=
  ⟨⟨h.1.1.symm, h.2.1.symm⟩, h.1.2.symm, h.2.2.symm⟩

theorem FieldName.Apart.not_names (h : f.Apart g) (named : f.Names name) : ¬ g.Names name := by
  rcases named with rfl | rfl
  · rintro (h' | h')
    · exact h.1.1 h'
    · exact h.1.2 h'
  · rintro (h' | h')
    · exact h.2.1 h'
    · exact h.2.2 h'

instance : Std.Symm FieldName.Apart := ⟨fun _ _ h => h.symm⟩

/-! ### Records with several spellings -/

structure FieldForm where
  field : FieldName
  Value : Json → Prop
  Omissible : Prop

def FieldForm.required (field : FieldName) (Spells : α → Json → Prop) (a : α) : FieldForm :=
  ⟨field, Spells a, False⟩

def FieldForm.withDefault (field : FieldName) (default : α) (Spells : α → Json → Prop) (a : α) :
    FieldForm :=
  ⟨field, Spells a, a = default⟩

inductive FieldForm.Given (form : FieldForm) : List (String × Json) → Prop where
  | first {v : Json} (value : form.Value v) : Given form [(form.field.first, v)]
  | second {v : Json} (value : form.Value v) : Given form [(form.field.second, v)]
  | omitted (omissible : form.Omissible) : Given form []

inductive Fields : List FieldForm → List (String × Json) → Prop where
  | nil : Fields [] []
  | cons {form : FieldForm} {forms : List FieldForm} {part members : List (String × Json)}
      (given : form.Given part) (others : Fields forms members) :
      Fields (form :: forms) (part ++ members)

/-- The objects with some fields, in any order and among members of other names. -/
inductive SpellsRecord (forms : List FieldForm) : Json → Prop where
  | object {members given unknown : List (String × Json)} (fields : Fields forms given)
      (strange : ∀ m ∈ unknown, ∀ form ∈ forms, ¬ form.field.Names m.1)
      (order : members.Perm (given ++ unknown)) : SpellsRecord forms (.object members)

def FieldForm.Found (form : FieldForm) (members : List (String × Json)) : Prop :=
  (∃ name v, form.field.given? members = some (name, v) ∧ form.Value v) ∨
    form.field.given? members = none ∧ form.Omissible

variable {form : FieldForm} {forms : List FieldForm} {given : List (String × Json)}

theorem Fields.first {v : Json} (value : form.Value v) (others : Fields forms given) :
    Fields (form :: forms) ((form.field.first, v) :: given) := .cons (.first value) others

theorem Fields.second {v : Json} (value : form.Value v) (others : Fields forms given) :
    Fields (form :: forms) ((form.field.second, v) :: given) := .cons (.second value) others

theorem Fields.omitted (omissible : form.Omissible) (others : Fields forms given) :
    Fields (form :: forms) given := .cons (.omitted omissible) others

theorem lookup_filter {p : String × Json → Bool} (h : ∀ v, p (name, v) = true)
    (members : List (String × Json)) : (members.filter p).lookup name = members.lookup name := by
  induction members with
  | nil => rfl
  | cons m members ih =>
    obtain ⟨key, v⟩ := m
    by_cases same : name = key
    · subst same
      rw [List.filter_cons_of_pos (h v), List.lookup_cons_self, List.lookup_cons_self]
    · have other : (name == key) = false := beq_false_of_ne same
      rw [List.lookup_cons, other, ← ih]
      by_cases kept : p (key, v) = true
      · rw [List.filter_cons_of_pos kept, List.lookup_cons, other]
      · rw [List.filter_cons_of_neg kept]

/-- Where a field is found depends only on the members with its names. -/
theorem FieldName.given?_filter (field : FieldName) (members : List (String × Json)) :
    field.given? (members.filter fun m => field.Names m.1) = field.given? members := by
  rw [given?, given?, lookup_filter fun v => decide_eq_true (.inl rfl),
    lookup_filter fun v => decide_eq_true (.inr rfl)]

theorem FieldForm.Given.names (h : form.Given given) : ∀ m ∈ given, form.field.Names m.1 := by
  cases h with
  | first value =>
    intro m hm
    rw [List.mem_singleton.mp hm]
    exact .inl rfl
  | second value =>
    intro m hm
    rw [List.mem_singleton.mp hm]
    exact .inr rfl
  | omitted omissible => exact List.forall_mem_nil _

theorem FieldForm.Given.found (h : form.Given given) : form.Found given := by
  cases h with
  | @first v value =>
    refine .inl ⟨form.field.first, v, ?_, value⟩
    rw [FieldName.given?, List.lookup_cons_self]
  | @second v value =>
    by_cases same : form.field.first = form.field.second
    · refine .inl ⟨form.field.first, v, ?_, value⟩
      rw [FieldName.given?, same, List.lookup_cons_self]
    · refine .inl ⟨form.field.second, v, ?_, value⟩
      have other : (form.field.first == form.field.second) = false := beq_false_of_ne same
      rw [FieldName.given?, List.lookup_cons, other, List.lookup_cons_self]
      rfl
  | omitted omissible => exact .inr ⟨rfl, omissible⟩

theorem Fields.names (h : Fields forms given) :
    ∀ m ∈ given, ∃ form ∈ forms, form.field.Names m.1 := by
  induction h with
  | nil => exact List.forall_mem_nil _
  | cons part _ ih =>
    intro m hm
    rcases List.mem_append.mp hm with hm | hm
    · exact ⟨_, List.mem_cons_self, part.names m hm⟩
    · obtain ⟨form, hform, named⟩ := ih m hm
      exact ⟨form, List.mem_cons_of_mem _ hform, named⟩

theorem filter_eq_nil_of_strange (strange : ∀ m ∈ members, ¬ field.Names m.1) :
    members.filter (fun m => field.Names m.1) = [] := by
  rw [List.filter_eq_nil_iff]
  intro m hm
  rw [decide_eq_true_eq]
  exact strange m hm

/-- Of the members that give some fields, those with the names of one field give that field. -/
theorem Fields.part (h : Fields forms given)
    (apart : (forms.map FieldForm.field).Pairwise FieldName.Apart) (hform : form ∈ forms) :
    form.Given (given.filter fun m => form.field.Names m.1) := by
  induction h with
  | nil => cases hform
  | @cons first forms part members hpart others ih =>
    obtain ⟨firstApart, restApart⟩ := List.pairwise_cons.mp apart
    rw [List.filter_append]
    rcases List.mem_cons.mp hform with rfl | hform
    · have own : part.filter (fun m => form.field.Names m.1) = part := by
        rw [List.filter_eq_self]
        intro m hm
        exact decide_eq_true (hpart.names m hm)
      have strange : ∀ m ∈ members, ¬ form.field.Names m.1 := by
        intro m hm
        obtain ⟨other, hother, named⟩ := others.names m hm
        exact (firstApart _ (List.mem_map_of_mem hother)).symm.not_names named
      rwa [own, filter_eq_nil_of_strange strange, List.append_nil]
    · have strange : ∀ m ∈ part, ¬ form.field.Names m.1 := by
        intro m hm
        exact (firstApart _ (List.mem_map_of_mem hform)).not_names (hpart.names m hm)
      rw [filter_eq_nil_of_strange strange, List.nil_append]
      exact ih restApart hform

theorem FieldForm.Given.of_perm {part : List (String × Json)} (h : form.Given part)
    (order : given.Perm part) : given = part := by
  cases h with
  | first value => exact List.perm_singleton.mp order
  | second value => exact List.perm_singleton.mp order
  | omitted omissible => exact List.perm_nil.mp order

/-- A spelled record is an object in which every field is found, or left out with its default. -/
theorem SpellsRecord.found {v : Json} (h : SpellsRecord forms v)
    (apart : (forms.map FieldForm.field).Pairwise FieldName.Apart) :
    ∃ members, v = .object members ∧ forms.Forall fun form => form.Found members := by
  cases h with
  | @object members given unknown fields strange order =>
    refine ⟨members, rfl, ?_⟩
    rw [List.forall_iff_forall_mem]
    intro form hform
    have part := fields.part apart hform
    -- at most one member has a name of the field, so their order does not matter
    have kept := order.filter fun m => decide (form.field.Names m.1)
    have unnamed : ∀ m ∈ unknown, ¬ form.field.Names m.1 := fun m hm => strange m hm form hform
    rw [List.filter_append, filter_eq_nil_of_strange unnamed, List.append_nil] at kept
    have found := part.found
    rwa [← part.of_perm kept, FieldForm.Found, FieldName.given?_filter] at found

theorem FieldForm.Found.required {Spells : α → Json → Prop}
    (h : (FieldForm.required field Spells a).Found members) (recovers : Recovers decode Spells) :
    Decoder.required field decode members = .valid a := by
  rcases h with ⟨name, v, found, value⟩ | ⟨-, omissible⟩
  · change field.given? members = some (name, v) at found
    rw [Decoder.required, found]
    dsimp only
    rw [recovers a v value]
    rfl
  · exact omissible.elim

theorem FieldForm.Found.withDefault {Spells : α → Json → Prop} {default : α}
    (h : (FieldForm.withDefault field default Spells a).Found members)
    (recovers : Recovers decode Spells) :
    Decoder.withDefault field default decode members = .valid a := by
  rcases h with ⟨name, v, found, value⟩ | ⟨absent, rfl⟩
  · change field.given? members = some (name, v) at found
    rw [Decoder.withDefault, found]
    dsimp only
    rw [recovers a v value]
    rfl
  · change field.given? members = none at absent
    rw [Decoder.withDefault, absent]

/-- A record can be spelled if the values of its fields can. -/
theorem exists_spelling (h : ∀ form ∈ forms, ∃ v, form.Value v) : ∃ v, SpellsRecord forms v := by
  have fields : ∃ given, Fields forms given := by
    induction forms with
    | nil => exact ⟨[], .nil⟩
    | cons form forms ih =>
      obtain ⟨v, value⟩ := h form List.mem_cons_self
      obtain ⟨given, others⟩ := ih fun form hform => h form (List.mem_cons_of_mem _ hform)
      exact ⟨(form.field.first, v) :: given, .first value others⟩
  obtain ⟨given, fields⟩ := fields
  exact ⟨.object given, .object fields (List.forall_mem_nil _) (by rw [List.append_nil])⟩

end SchemaMigration.Json.Decoder
