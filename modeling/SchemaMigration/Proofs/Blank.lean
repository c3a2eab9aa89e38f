import Mathlib.Data.List.Induction
import Mathlib.Data.List.TakeWhile
import SchemaMigration.Text.Blank

/-!
Blanks around and in a text. They are trimmed at its ends, and nothing else is; its words hold all
that is not blank.
-/

namespace SchemaMigration.Text

/-! ### Trimming -/

theorem trim_of_unblank {blank : Char → Bool} {cs : List Char} (h : ∀ c ∈ cs, blank c = false) :
    trim blank cs = cs := by
  have kept : ∀ {l : List Char}, (∀ c ∈ l, blank c = false) → l.dropWhile blank = l := by
    intro l hl
    cases l with
    | nil => rfl
    | cons c rest => rw [List.dropWhile_cons_of_neg (by simp [hl c List.mem_cons_self])]
  rw [trim, trimStart, kept h, trimEnd, kept (by simpa using h), List.reverse_reverse]

theorem trim_map {f : Char → Char} {blank : Char → Bool} (h : ∀ c, blank (f c) = blank c)
    (cs : List Char) : trim blank (cs.map f) = (trim blank cs).map f := by
  have same : blank ∘ f = blank := funext h
  simp only [trim, trimStart, trimEnd, List.dropWhile_map, same, ← List.map_reverse]

def AllBlank (cs : List Char) : Prop := ∀ c ∈ cs, isBlank c = true

structure Trimmed (cs : List Char) : Prop where
  first : ∀ c ∈ cs.head?, isBlank c = false
  last : ∀ c ∈ cs.getLast?, isBlank c = false

instance (cs : List Char) : Decidable (AllBlank cs) :=
  decidable_of_iff (cs.all isBlank = true) List.all_eq_true

theorem any_eq_false_iff {blank : Char → Bool} {c? : Option Char} :
    c?.any blank = false ↔ ∀ c ∈ c?, blank c = false := by
  cases c? <;> simp

theorem trimmed_iff {cs : List Char} :
    Trimmed cs ↔ cs.head?.any isBlank = false ∧ cs.getLast?.any isBlank = false := by
  rw [any_eq_false_iff, any_eq_false_iff]
  exact ⟨fun ⟨first, last⟩ => ⟨first, last⟩, fun ⟨first, last⟩ => ⟨first, last⟩⟩

instance (cs : List Char) : Decidable (Trimmed cs) := decidable_of_iff _ trimmed_iff.symm

theorem trimEnd_append {after : List Char} (blank : AllBlank after) (cs : List Char) :
    trimEnd isBlank (cs ++ after) = trimEnd isBlank cs := by
  have reversed : ∀ c ∈ after.reverse, isBlank c = true := fun c hc =>
    blank c (List.mem_reverse.mp hc)
  rw [trimEnd, List.reverse_append, List.dropWhile_append_of_pos reversed, trimEnd]

theorem trimEnd_of_last {cs : List Char} (h : ∀ c ∈ cs.getLast?, isBlank c = false) :
    trimEnd isBlank cs = cs := by
  rw [List.getLast?_eq_head?_reverse] at h
  rw [trimEnd]
  cases hcs : cs.reverse with
  | nil => rw [List.reverse_eq_nil_iff.mp hcs]; rfl
  | cons c rest =>
    have shown : ¬ isBlank c = true := by simp [h c (by simp [hcs])]
    rw [List.dropWhile_cons_of_neg shown, ← hcs, List.reverse_reverse]

/-- Blanks around a text are trimmed, and nothing else is. -/
theorem trim_padded {before cs after : List Char} (hbefore : AllBlank before) (h : Trimmed cs)
    (hafter : AllBlank after) : trim isBlank (before ++ (cs ++ after)) = cs := by
  rw [trim, trimStart, List.dropWhile_append_of_pos hbefore]
  cases cs with
  | nil => rw [List.nil_append, List.dropWhile_eq_nil_iff.mpr hafter]; rfl
  | cons c rest =>
    have shown : ¬ isBlank c = true := by simp [h.first c rfl]
    rw [List.cons_append, List.dropWhile_cons_of_neg shown, ← List.cons_append,
      trimEnd_append hafter, trimEnd_of_last h.last]

/-! ### Words -/

theorem words_cons (c : Char) (rest : List Char) :
    words (c :: rest) =
      if isBlank c then words rest
      else match rest, words rest with
        | [], _ => [[c]]
        | _ :: _, [] => [[c]]
        | d :: _, word :: others =>
          if isBlank d then [c] :: word :: others else (c :: word) :: others :=
  rfl

theorem words_blank {b : Char} (h : isBlank b = true) (cs : List Char) :
    words (b :: cs) = words cs := by
  rw [words_cons, if_pos h]

theorem words_trimStart (cs : List Char) : words (trimStart isBlank cs) = words cs := by
  unfold trimStart
  induction cs with
  | nil => rfl
  | cons c rest ih =>
    by_cases h : isBlank c = true
    · rw [List.dropWhile_cons_of_pos h, ih, words_blank h]
    · rw [List.dropWhile_cons_of_neg h]

theorem words_append_blank {b : Char} (h : isBlank b = true) (cs : List Char) :
    words (cs ++ [b]) = words cs := by
  induction cs with
  | nil => exact words_blank h []
  | cons c rest ih =>
    rw [List.cons_append, words_cons, words_cons, ih]
    by_cases hc : isBlank c = true
    · rw [if_pos hc, if_pos hc]
    · rw [if_neg hc, if_neg hc]
      cases rest with
      | nil => rfl
      | cons d rest =>
        cases words (d :: rest) with
        | nil => rfl
        | cons word others => rfl

theorem words_trimEnd (cs : List Char) : words (trimEnd isBlank cs) = words cs := by
  unfold trimEnd
  induction cs using List.reverseRec with
  | nil => rfl
  | append_singleton rest c ih =>
    rw [List.reverse_append, List.reverse_singleton, List.singleton_append]
    by_cases h : isBlank c = true
    · rw [List.dropWhile_cons_of_pos h, ih, words_append_blank h]
    · rw [List.dropWhile_cons_of_neg h, List.reverse_cons, List.reverse_reverse]

theorem words_trim (cs : List Char) : words (trim isBlank cs) = words cs := by
  rw [trim, words_trimEnd, words_trimStart]

/-- The words of a text hold all that is not blank. -/
theorem flatten_words (cs : List Char) : (words cs).flatten = cs.filter fun c => !isBlank c := by
  induction cs with
  | nil => rfl
  | cons c rest ih =>
    by_cases h : isBlank c = true
    · rw [words_blank h, ih, List.filter_cons_of_neg (by simp [h])]
    · rw [List.filter_cons_of_pos (by simpa using h), ← ih, words_cons, if_neg h]
      cases rest with
      | nil => rfl
      | cons d rest =>
        cases words (d :: rest) with
        | nil => rfl
        | cons word others =>
          dsimp only
          split <;> rfl

end SchemaMigration.Text
