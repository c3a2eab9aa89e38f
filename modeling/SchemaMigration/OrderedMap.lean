/-!
Maps that remember the order in which their keys were first inserted. A key that is inserted again
keeps its place and takes the new value.
-/

namespace SchemaMigration

/-- Keys with their values, in the order of the first insertion of each key. -/
structure OrderedMap (α β : Type) where
  entries : List (α × β)
  distinct : (entries.map Prod.fst).Nodup
  deriving DecidableEq, Repr

namespace OrderedMap

variable {α β : Type}

def empty : OrderedMap α β := ⟨[], List.Pairwise.nil⟩

instance : Inhabited (OrderedMap α β) := ⟨empty⟩

def keys (m : OrderedMap α β) : List α := m.entries.map Prod.fst

def values (m : OrderedMap α β) : List β := m.entries.map Prod.snd

def size (m : OrderedMap α β) : Nat := m.entries.length

theorem nodup_keys (m : OrderedMap α β) : m.keys.Nodup := m.distinct

variable [DecidableEq α]

def lookup (key : α) : List (α × β) → Option β
  | [] => none
  | (k, v) :: rest => if k = key then some v else lookup key rest

def find? (m : OrderedMap α β) (key : α) : Option β := lookup key m.entries

def contains (m : OrderedMap α β) (key : α) : Bool := (m.find? key).isSome

/-- Puts a value at the place of its key, or at the end for a new key. -/
def place (key : α) (value : β) : List (α × β) → List (α × β)
  | [] => [(key, value)]
  | (k, v) :: rest => if k = key then (key, value) :: rest else (k, v) :: place key value rest

theorem keys_place (key : α) (value : β) (entries : List (α × β)) :
    (place key value entries).map Prod.fst =
      if key ∈ entries.map Prod.fst then entries.map Prod.fst
      else entries.map Prod.fst ++ [key] := by
  induction entries with
  | nil => rfl
  | cons entry rest ih =>
    obtain ⟨k, v⟩ := entry
    by_cases h : k = key
    · simp [place, h]
    · have h' : ¬ key = k := fun e => h e.symm
      simp only [place, h, if_false, List.map_cons, ih, List.mem_cons, h', false_or]
      split <;> simp

theorem nodup_place (key : α) (value : β) {entries : List (α × β)}
    (distinct : (entries.map Prod.fst).Nodup) :
    ((place key value entries).map Prod.fst).Nodup := by
  rw [keys_place]
  split
  · exact distinct
  · next absent =>
    refine List.pairwise_append.2 ⟨distinct, by simp, ?_⟩
    intro a ha b hb e
    simp only [List.mem_singleton] at hb
    exact absent (hb ▸ e ▸ ha)

def insert (m : OrderedMap α β) (key : α) (value : β) : OrderedMap α β :=
  ⟨place key value m.entries, nodup_place key value m.distinct⟩

def ofList (entries : List (α × β)) : OrderedMap α β :=
  entries.foldl (fun m entry => m.insert entry.1 entry.2) empty

def erase (m : OrderedMap α β) (key : α) : OrderedMap α β :=
  ⟨m.entries.filter (fun entry => entry.1 ≠ key),
    m.distinct.sublist (List.filter_sublist.map Prod.fst)⟩

theorem lookup_place (key other : α) (value : β) (entries : List (α × β)) :
    lookup other (place key value entries) =
      if key = other then some value else lookup other entries := by
  induction entries with
  | nil => rfl
  | cons entry rest ih =>
    obtain ⟨k, v⟩ := entry
    by_cases h : k = key
    · subst h
      by_cases h' : k = other <;> simp [place, lookup, h']
    · by_cases h' : k = other
      · subst h'
        have h'' : ¬ key = k := fun e => h e.symm
        simp [place, lookup, h, h'']
      · simp [place, lookup, h, h', ih]

@[simp] theorem find?_insert (m : OrderedMap α β) (key other : α) (value : β) :
    (m.insert key value).find? other = if key = other then some value else m.find? other :=
  lookup_place key other value m.entries

theorem keys_insert (m : OrderedMap α β) (key : α) (value : β) :
    (m.insert key value).keys = if key ∈ m.keys then m.keys else m.keys ++ [key] :=
  keys_place key value m.entries

theorem lookup_eq_none_iff {key : α} {entries : List (α × β)} :
    lookup key entries = none ↔ key ∉ entries.map Prod.fst := by
  induction entries with
  | nil => simp [lookup]
  | cons entry rest ih =>
    obtain ⟨k, v⟩ := entry
    by_cases h : k = key
    · simp [lookup, h]
    · have h' : ¬ key = k := fun e => h e.symm
      simpa [lookup, h, h'] using ih

theorem lookup_eq_some_iff {key : α} {value : β} {entries : List (α × β)}
    (distinct : (entries.map Prod.fst).Nodup) :
    lookup key entries = some value ↔ (key, value) ∈ entries := by
  induction entries with
  | nil => simp [lookup]
  | cons entry rest ih =>
    obtain ⟨k, v⟩ := entry
    rw [List.map_cons, List.nodup_cons] at distinct
    by_cases h : k = key
    · subst h
      have absent : (k, value) ∉ rest := fun mem => distinct.1 (List.mem_map.2 ⟨_, mem, rfl⟩)
      simp [lookup, absent, eq_comm]
    · have h' : ¬ key = k := fun e => h e.symm
      simpa [lookup, h, h'] using ih distinct.2

theorem find?_eq_none_iff {m : OrderedMap α β} {key : α} :
    m.find? key = none ↔ key ∉ m.keys := lookup_eq_none_iff

theorem find?_eq_some_iff {m : OrderedMap α β} {key : α} {value : β} :
    m.find? key = some value ↔ (key, value) ∈ m.entries := lookup_eq_some_iff m.distinct

@[simp] theorem find?_empty (key : α) : (empty : OrderedMap α β).find? key = none := rfl

@[simp] theorem find?_erase (m : OrderedMap α β) (key other : α) :
    (m.erase key).find? other = if key = other then none else m.find? other := by
  split
  · next h =>
    rw [find?_eq_none_iff, ← h]
    simp [keys, erase]
  · next h =>
    apply Option.ext
    intro value
    have h' : ¬ other = key := fun e => h e.symm
    rw [find?_eq_some_iff, find?_eq_some_iff]
    simp [erase, h']

theorem lookup_map {γ : Type} (f : β → γ) (key : α) (entries : List (α × β)) :
    lookup key (entries.map fun entry => (entry.1, f entry.2)) = (lookup key entries).map f := by
  induction entries with
  | nil => rfl
  | cons entry rest ih =>
    obtain ⟨k, v⟩ := entry
    by_cases h : k = key <;> simp [lookup, h, ih]

theorem place_of_not_mem {key : α} (value : β) {entries : List (α × β)}
    (h : key ∉ entries.map Prod.fst) : place key value entries = entries ++ [(key, value)] := by
  induction entries with
  | nil => rfl
  | cons entry rest ih =>
    obtain ⟨k, v⟩ := entry
    rw [List.map_cons, List.mem_cons, not_or] at h
    have h' : ¬ k = key := fun e => h.1 e.symm
    simp [place, h', ih h.2]

theorem entries_ofList {entries : List (α × β)} (distinct : (entries.map Prod.fst).Nodup) :
    (ofList entries).entries = entries := by
  have fold : ∀ (m : OrderedMap α β), (m.keys ++ entries.map Prod.fst).Nodup →
      (entries.foldl (fun m entry => m.insert entry.1 entry.2) m).entries =
        m.entries ++ entries := by
    clear distinct
    induction entries with
    | nil => simp
    | cons entry rest ih =>
      intro m h
      have absent : entry.1 ∉ m.keys := fun mem =>
        (List.nodup_append.1 h).2.2 _ mem _ List.mem_cons_self rfl
      have step : (m.insert entry.1 entry.2).entries = m.entries ++ [entry] :=
        place_of_not_mem entry.2 absent
      rw [List.foldl_cons, ih, step, List.append_assoc, List.singleton_append]
      simpa [keys_insert, absent] using h
  simpa [ofList, empty] using fold empty distinct

theorem mem_keys_ofList {key : α} {entries : List (α × β)} :
    key ∈ (ofList entries).keys ↔ key ∈ entries.map Prod.fst := by
  have fold : ∀ (m : OrderedMap α β),
      key ∈ (entries.foldl (fun m entry => m.insert entry.1 entry.2) m).keys ↔
        key ∈ m.keys ∨ key ∈ entries.map Prod.fst := by
    induction entries with
    | nil => simp
    | cons entry rest ih =>
      intro m
      have step : key ∈ (m.insert entry.1 entry.2).keys ↔ key ∈ m.keys ∨ key = entry.1 := by
        rw [keys_insert]
        split
        · next known => exact ⟨Or.inl, fun h => h.elim id fun heq => heq ▸ known⟩
        · rw [List.mem_append, List.mem_singleton]
      rw [List.foldl_cons, ih, step, List.map_cons, List.mem_cons, or_assoc]
  simpa [ofList, empty, keys] using fold empty

/-- Of several entries with one key the last counts. -/
theorem find?_ofList (key : α) (entries : List (α × β)) :
    (ofList entries).find? key =
      (entries.reverse.find? fun entry => entry.1 = key).map Prod.snd := by
  have fold : ∀ (m : OrderedMap α β),
      (entries.foldl (fun m entry => m.insert entry.1 entry.2) m).find? key =
        ((entries.reverse.find? fun entry => entry.1 = key).map Prod.snd).or (m.find? key) := by
    induction entries with
    | nil =>
      intro m
      rfl
    | cons entry rest ih =>
      intro m
      rw [List.foldl_cons, ih, List.reverse_cons, List.find?_append, find?_insert]
      cases rest.reverse.find? fun entry => decide (entry.1 = key) with
      | some found => rfl
      | none => by_cases h : entry.1 = key <;> simp [h]
  rw [ofList, fold, find?_empty, Option.or_none]

theorem contains_iff {m : OrderedMap α β} {key : α} : m.contains key = true ↔ key ∈ m.keys := by
  rw [contains, Option.isSome_iff_ne_none, Ne, find?_eq_none_iff, Classical.not_not]

/-- Same keys with the same values, in whatever order. -/
def SameAs [DecidableEq β] (a b : OrderedMap α β) : Bool :=
  a.size == b.size && a.entries.all fun entry => b.find? entry.1 == some entry.2

end OrderedMap

end SchemaMigration
