import SchemaMigration.Disk

/-!
What was put at a path is read there.
-/

namespace SchemaMigration

namespace Path

theorem slash_not_mem_splitOn (cs : List Char) : ∀ piece ∈ cs.splitOn '/', '/' ∉ piece := by
  induction cs with
  | nil =>
    intro piece hpiece
    rw [List.splitOn_nil, List.mem_singleton] at hpiece
    rw [hpiece]
    exact List.not_mem_nil
  | cons c cs ih =>
    rw [List.splitOn_cons_eq_if_modifyHead]
    by_cases hc : c = '/'
    · rw [if_pos (beq_iff_eq.mpr hc)]
      intro piece hpiece
      rcases List.mem_cons.mp hpiece with rfl | hpiece
      · exact List.not_mem_nil
      · exact ih piece hpiece
    · rw [if_neg (fun h => hc (beq_iff_eq.mp h))]
      obtain ⟨first, others, hsplit⟩ := List.exists_cons_of_ne_nil (List.splitOn_ne_nil '/' cs)
      rw [hsplit, List.forall_mem_cons] at ih
      rw [hsplit, List.modifyHead_cons, List.forall_mem_cons, List.mem_cons, not_or]
      exact ⟨⟨Ne.symm hc, ih.1⟩, ih.2⟩

theorem steps_eq (path : String) : steps path = (path.toList.splitOn '/').map String.ofList :=
  String.toList_split_char

theorem slash_not_mem_steps {path step : String} (h : step ∈ steps path) : '/' ∉ step.toList := by
  rw [steps_eq] at h
  obtain ⟨piece, hpiece, rfl⟩ := List.mem_map.mp h
  rw [String.toList_ofList]
  exact slash_not_mem_splitOn _ piece hpiece

/-- Steps are found again in the path that they are joined to. -/
theorem steps_intercalate {ss : List String} (hss : ∀ s ∈ ss, '/' ∉ s.toList) (hne : ss ≠ []) :
    steps ("/".intercalate ss) = ss := by
  have split := String.toList_split_intercalate hss
  rwa [if_neg hne] at split

theorem mem_properSteps {path step : String} (h : step ∈ properSteps path) :
    '/' ∉ step.toList ∧ step ≠ "" ∧ step ≠ "." := by
  rw [properSteps, List.mem_filter, Bool.and_eq_true, bne_iff_ne, bne_iff_ne] at h
  exact ⟨slash_not_mem_steps h.1, h.2⟩

theorem opening_cases (cs : List Char) :
    opening cs = "" ∨ opening cs = "/" ∨ opening cs = "//" := by
  unfold opening
  split
  · exact .inr (.inr rfl)
  · split
    · exact .inr (.inl rfl)
    · exact .inr (.inr rfl)
  · exact .inr (.inl rfl)
  · exact .inl rfl

/-- An opening stands for empty steps before the others. -/
theorem opening_intercalate (cs : List Char) {ss : List String} (hne : ss ≠ []) :
    ∃ stays, (∀ s ∈ stays, s = "") ∧
      opening cs ++ "/".intercalate ss = "/".intercalate (stays ++ ss) := by
  have root {others : List String} (h : others ≠ []) :
      "/" ++ "/".intercalate others = "/".intercalate ("" :: others) := by
    rw [String.intercalate_cons_of_ne_nil h, String.empty_append]
  rcases opening_cases cs with h | h | h
  · exact ⟨[], by simp, by rw [h, String.empty_append, List.nil_append]⟩
  · exact ⟨[""], by simp, by rw [h, root hne, List.singleton_append]⟩
  · refine ⟨["", ""], by simp, ?_⟩
    calc opening cs ++ "/".intercalate ss
      _ = "/" ++ ("/" ++ "/".intercalate ss) := by rw [h, ← String.append_assoc]; rfl
      _ = "/".intercalate ("" :: "" :: ss) := by rw [root hne, root (List.cons_ne_nil _ _)]

/-- The steps of a normalized path: those of the path that do not stay, after empty ones. -/
theorem steps_normalized {path : String} (hne : properSteps path ≠ []) :
    ∃ stays, (∀ s ∈ stays, s = "") ∧ steps (normalized path) = stays ++ properSteps path := by
  obtain ⟨stays, hstays, htext⟩ := opening_intercalate path.toList hne
  have noSlash : ∀ s ∈ stays ++ properSteps path, '/' ∉ s.toList := by
    intro s hs
    rcases List.mem_append.mp hs with hs | hs
    · rw [hstays s hs]
      decide
    · exact (mem_properSteps hs).1
  have split : steps (opening path.toList ++ "/".intercalate (properSteps path)) =
      stays ++ properSteps path := by
    rw [htext, steps_intercalate noSlash (List.append_ne_nil_of_right_ne_nil _ hne)]
  refine ⟨stays, hstays, ?_⟩
  have whole : opening path.toList ++ "/".intercalate (properSteps path) ≠ "" := by
    intro hempty
    obtain ⟨step, hstep⟩ := List.exists_mem_of_ne_nil _ hne
    have hmem : step ∈ steps "" := by
      rw [← hempty, split]
      exact List.mem_append_right stays hstep
    rw [steps_eq] at hmem
    exact (mem_properSteps hstep).2.1 (List.mem_singleton.mp hmem)
  rw [normalized, ofSteps, if_neg whole, split]

theorem normalized_ne_empty (path : String) : normalized path ≠ "" := by
  rw [normalized, ofSteps]
  split
  · decide
  · assumption

theorem properSteps_normalized (path : String) :
    properSteps (normalized path) = properSteps path := by
  by_cases hne : properSteps path = []
  · rw [hne, normalized, ofSteps, hne, String.intercalate_nil, String.append_empty]
    rcases opening_cases path.toList with h | h | h
    all_goals
      rw [h, properSteps, steps_eq]
      decide
  · obtain ⟨stays, hstays, hsteps⟩ := steps_normalized hne
    have none : stays.filter (fun step => step != "" && step != ".") = [] := by
      rw [List.filter_eq_nil_iff]
      intro step hstep
      rw [hstays step hstep]
      decide
    have all : (properSteps path).filter (fun step => step != "" && step != ".") =
        properSteps path := by
      rw [properSteps, List.filter_filter]
      simp only [Bool.and_self]
    rw [properSteps, hsteps, List.filter_append, none, all, List.nil_append]

end Path

namespace Disk

variable {d d' : Disk} {p q place : Place} {path text : String}

def holding (d : Disk) (place : Place) (text : String) : Disk :=
  { d with files := d.files.insert place text }

theorem mem_keys_holding {inner : Place} (h : inner ∈ d.files.keys) :
    inner ∈ (d.holding place text).files.keys := by
  rw [holding, OrderedMap.keys_insert]
  split
  · exact h
  · exact List.mem_append_left _ h

/-- Whether a place is a directory for what lies in it, or for where it lies itself. -/
theorem outside_holding (h : (p.isOuter || d.directories.contains p ||
      (d.files.keys ++ d.directories).any fun inner => inner.isInside p) = true) :
    (p.isOuter || (d.holding place text).directories.contains p ||
      ((d.holding place text).files.keys ++ (d.holding place text).directories).any
        fun inner => inner.isInside p) = true := by
  rw [Bool.or_eq_true, List.any_eq_true] at h ⊢
  rcases h with h | ⟨inner, hinner, hinside⟩
  · exact .inl h
  · refine .inr ⟨inner, ?_, hinside⟩
    rcases List.mem_append.mp hinner with hfile | hdirectory
    · exact List.mem_append_left _ (mem_keys_holding hfile)
    · exact List.mem_append_right _ hdirectory

theorem directory_stays (hplace : d.entry? place ≠ some .directory)
    (h : d.entry? p = some .directory) :
    Disk.entry? (d.holding place text) p = some .directory := by
  have hne : place ≠ p := by
    rintro rfl
    exact hplace h
  have same : (d.holding place text).files.find? p = d.files.find? p := by
    rw [holding, OrderedMap.find?_insert, if_neg hne]
  unfold entry? at h ⊢
  rw [same]
  cases hfile : d.files.find? p with
  | some old =>
    rw [hfile] at h
    exact h
  | none =>
    rw [hfile] at h
    dsimp only at h ⊢
    split at h
    next houtside => rw [if_pos (outside_holding houtside)]
    next => cases h

theorem entry?_holding (hplace : d.entry? place ≠ some .directory) :
    Disk.entry? (d.holding place text) place = some (.file text) := by
  have inner : place.isOuter = false := by
    rw [← Bool.not_eq_true]
    intro houter
    exact hplace (entry?_of_isOuter houter)
  have found : (d.holding place text).files.find? place = some text := by
    rw [holding, OrderedMap.find?_insert, if_pos rfl]
  unfold entry?
  rw [found]
  simp [inner]

theorem follow_holding (hplace : d.entry? place ≠ some .directory) {steps : List String}
    (h : d.follow p steps = .ok q) : (d.holding place text).follow p steps = .ok q := by
  induction steps generalizing p with
  | nil => exact h
  | cons step rest ih =>
    rw [follow] at h ⊢
    cases hentry : d.entry? p with
    | none =>
      rw [hentry] at h
      cases h
    | some entry =>
      cases entry with
      | file old =>
        rw [hentry] at h
        cases h
      | directory =>
        rw [hentry] at h
        rw [directory_stays hplace hentry]
        dsimp only at h ⊢
        split at h
        · cases h
        · next hshort =>
          rw [if_neg hshort]
          exact ih h

theorem follow_stays (h : d.entry? p = some .directory) {stays : List String}
    (hstays : ∀ s ∈ stays, s = "") (rest : List String) :
    d.follow p (stays ++ rest) = d.follow p rest := by
  induction stays with
  | nil => rfl
  | cons stay stays ih =>
    obtain ⟨rfl, hothers⟩ := List.forall_mem_cons.mp hstays
    rw [List.cons_append, follow, h, Place.step_empty]
    exact ih hothers

theorem put_eq_ok_iff : d.put path text = .ok d' ↔
    ∃ place, (Path.normalized path).utf8ByteSize ≤ pathLimit ∧
      d.follow (.start (Path.origin (Path.normalized path))) (Path.properSteps path) = .ok place ∧
      d.entry? place ≠ some .directory ∧ d' = d.holding place text := by
  unfold put
  dsimp only
  rw [Path.properSteps_normalized]
  constructor
  · intro h
    split at h
    next => cases h
    next hshort =>
    split at h
    next => cases h
    next place hfollow =>
    split at h
    next => cases h
    next hplace =>
    cases h
    exact ⟨place, Nat.le_of_not_lt hshort, hfollow, hplace, rfl⟩
  · rintro ⟨place, hshort, hfollow, hplace, rfl⟩
    rw [if_neg (Nat.not_lt.mpr hshort), hfollow]
    dsimp only
    split
    next hdirectory => exact absurd hdirectory hplace
    next => rfl

/-- What was put at a path is read there. -/
theorem read?_put (h : d.put path text = .ok d') : d'.read? (Path.normalized path) =
    .ok (some (String.ofList (Text.normalizeLineEnds text.toList))) := by
  obtain ⟨place, hshort, hfollow, hplace, rfl⟩ := put_eq_ok_iff.mp h
  have start : d.entry? (.start (Path.origin (Path.normalized path))) = some .directory :=
    entry?_of_isOuter (Place.isOuter_start _)
  have proper : Path.properSteps path ≠ [] := by
    intro hnone
    rw [hnone, follow] at hfollow
    cases hfollow
    exact hplace start
  obtain ⟨stays, hstays, hsteps⟩ := Path.steps_normalized proper
  have reached : (d.holding place text).follow (.start (Path.origin (Path.normalized path)))
      (Path.steps (Path.normalized path)) = .ok place := by
    rw [hsteps, follow_stays (directory_stays hplace start) hstays]
    exact follow_holding hplace hfollow
  have seen : (d.holding place text).look (Path.normalized path) = .ok (.file text) := by
    rw [look, if_neg (Path.normalized_ne_empty path), if_neg (Nat.not_lt.mpr hshort), reached]
    dsimp only
    rw [entry?_holding hplace]
  rw [read?, seen]

end Disk

end SchemaMigration
