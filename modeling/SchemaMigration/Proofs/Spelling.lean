import SchemaMigration.ColumnType
import SchemaMigration.Proofs.Blank

/-!
The spellings of types. Blanks around a spelling do not matter, and a character that no accepted
spelling has stands in no spelling of a type.
-/

namespace SchemaMigration

namespace Text

/-! ### Case -/

theorem isBlank_of_code {c : Char} (low : 65 ≤ c.toNat) (high : c.toNat ≤ 122) :
    isBlank c = false := by
  simp only [isBlank, isWhiteSpace, Bool.or_eq_false_iff, Bool.and_eq_false_iff,
    beq_eq_false_iff_ne, decide_eq_false_iff_not]
  omega

/-- Only letters have another lower case, and it is one. -/
theorem toLower_cases (c : Char) :
    c.toLower = c ∨ (65 ≤ c.toNat ∧ c.toNat ≤ 90) ∧ c.toLower.toNat = c.toNat + 32 := by
  unfold Char.toLower
  split
  next upper =>
    have low : 65 ≤ c.val.toNat := upper.1
    have high : c.val.toNat ≤ 90 := upper.2
    refine .inr ⟨⟨low, high⟩, ?_⟩
    show (c.val + 32).toNat = c.val.toNat + 32
    rw [UInt32.toNat_add]
    have gap : (32 : UInt32).toNat = 32 := rfl
    omega
  next => exact .inl rfl

theorem isBlank_lowerChar (c : Char) : isBlank (lowerChar c) = isBlank c := by
  unfold lowerChar
  split
  next kelvin =>
    obtain rfl : c = '\u212a' := by simpa using kelvin
    decide
  next =>
    rcases toLower_cases c with h | ⟨⟨low, high⟩, h⟩
    · rw [h]
    · rw [isBlank_of_code low (by omega), isBlank_of_code (by omega) (by omega)]

theorem mem_intercalate_of_mem {separator : List Char} {parts : List (List Char)} {part : List Char}
    {c : Char} (hpart : part ∈ parts) (hc : c ∈ part) : c ∈ separator.intercalate parts := by
  induction parts with
  | nil => cases hpart
  | cons first rest ih =>
    cases rest with
    | nil =>
      obtain rfl := List.mem_singleton.mp hpart
      rwa [List.intercalate_singleton]
    | cons second rest =>
      rw [List.intercalate_cons_cons]
      rcases List.mem_cons.mp hpart with rfl | hpart
      · exact List.mem_append_left _ (List.mem_append_left _ hc)
      · exact List.mem_append_right _ (ih hpart)

end Text

namespace ColumnType

open Text

variable {spelling : String} {t : ColumnType}

theorem normalized_strip (spelling : String) :
    normalized (strip spelling) = normalized spelling := by
  have same : words (lower (strip spelling)).toList = words (lower spelling).toList := by
    rw [lower, lower, strip, String.toList_ofList, String.toList_ofList, String.toList_ofList,
      ← trim_map isBlank_lowerChar, words_trim]
  rw [normalized, same, normalized]

/-- Blanks around a spelling do not matter. -/
theorem ofSpelling?_strip (spelling : String) :
    ofSpelling? (strip spelling) = ofSpelling? spelling := by
  rw [ofSpelling?, normalized_strip, ofSpelling?]

/-- What is not blank in a spelling stands in lower case in its normal form. -/
theorem mem_normalized {c : Char} (hc : c ∈ spelling.toList) (shown : isBlank c = false) :
    lowerChar c ∈ (normalized spelling).toList := by
  have kept : lowerChar c ∈ (words (lower spelling).toList).flatten := by
    rw [flatten_words, lower, String.toList_ofList]
    exact List.mem_filter.mpr
      ⟨List.mem_map_of_mem hc, by rw [isBlank_lowerChar, shown]; rfl⟩
  obtain ⟨word, hword, hmem⟩ := List.mem_flatten.mp kept
  have same : (words (lower spelling).toList).map (String.toList ∘ String.ofList) =
      words (lower spelling).toList :=
    List.map_id'' (fun _ => String.toList_ofList) _
  rw [normalized, String.toList_intercalate, List.map_map, same]
  exact mem_intercalate_of_mem hword hmem

theorem mem_spellings (spelled : ofSpelling? spelling = some t) :
    (normalized spelling, t) ∈ spellings := by
  obtain ⟨before, after, heq, -⟩ := List.lookup_eq_some_iff.mp spelled
  rw [heq]
  exact List.mem_append_right _ List.mem_cons_self

/-- No spelling has a parenthesis. -/
theorem not_mem_of_spelled (spelled : ofSpelling? spelling = some t) : '(' ∉ spelling.toList := by
  intro hmem
  have found := mem_normalized hmem (by decide)
  have lowered : lowerChar '(' = '(' := by decide
  rw [lowered] at found
  have unopened : ∀ entry ∈ spellings, '(' ∉ entry.1.toList := by decide
  have apart := unopened _ (mem_spellings spelled)
  dsimp only at apart
  exact apart found

theorem trim_ne_nil_of_spelled (spelled : ofSpelling? spelling = some t) :
    trim isBlank spelling.toList ≠ [] := by
  intro hnil
  have empty : strip spelling = "" := congrArg String.ofList hnil
  rw [← ofSpelling?_strip, empty] at spelled
  cases spelled

end ColumnType

end SchemaMigration
