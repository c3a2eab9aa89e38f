import SchemaMigration.Proofs.Blank
import SchemaMigration.Proofs.Json
import SchemaMigration.Text.Integer

/-!
Integers are read back from the digits that they are written with, unless these are too many.
-/

namespace SchemaMigration.Text

/-! ### Digits -/

theorem code_of_isDigit {c : Char} (h : c.isDigit = true) : 48 ≤ c.toNat ∧ c.toNat ≤ 57 := by
  simp only [Char.isDigit, Bool.and_eq_true, decide_eq_true_eq] at h
  exact ⟨h.1, h.2⟩

theorem digitValue?_of_isDigit {c : Char} (h : c.isDigit = true) :
    digitValue? c = some (c.toNat - '0'.toNat) := by
  obtain ⟨low, high⟩ := code_of_isDigit h
  have found : zeroDigits.find? (fun first => first ≤ c.toNat && c.toNat ≤ first + 9) =
      some 0x30 := by
    rw [zeroDigits, List.find?_cons_of_pos (by simp; omega)]
  rw [digitValue?, found]
  rfl

theorem isBlank_of_isDigit {c : Char} (h : c.isDigit = true) : isBlank c = false := by
  obtain ⟨low, high⟩ := code_of_isDigit h
  simp only [isBlank, isWhiteSpace, Bool.or_eq_false_iff, Bool.and_eq_false_iff,
    beq_eq_false_iff_ne, decide_eq_false_iff_not]
  omega

variable {cs : List Char} {n : Nat}

theorem leadingDigits_of_isDigit (h : ∀ c ∈ cs, c.isDigit = true) :
    leadingDigits digitValue? cs = (cs.length, []) := by
  induction cs with
  | nil => rfl
  | cons c rest ih =>
    have hc : c.isDigit = true := h c List.mem_cons_self
    rw [leadingDigits, digitValue?_of_isDigit hc, ih fun d hd => h d (List.mem_cons_of_mem _ hd)]
    · rfl
    · rintro _ _ rfl
      cases hc

theorem readDigits_of_isDigit (h : ∀ c ∈ cs, c.isDigit = true) (value : Nat) :
    readDigits digitValue? value cs = some (Nat.ofDigitChars 10 cs value) := by
  induction cs generalizing value with
  | nil => rfl
  | cons c rest ih =>
    have hc : c.isDigit = true := h c List.mem_cons_self
    rw [readDigits, digitValue?_of_isDigit hc]
    · exact ih (fun d hd => h d (List.mem_cons_of_mem _ hd)) _
    · rintro _ _ rfl
      cases hc

theorem isDigit_of_mem_toDigits {c : Char} (h : c ∈ Nat.toDigits 10 n) : c.isDigit = true :=
  Nat.isDigit_of_mem_toDigits (by decide) (by decide) h

theorem readNat_toDigits (n : Nat) : readNat digitValue? (Nat.toDigits 10 n) = some n := by
  have value : Nat.ofDigitChars 10 (Nat.toDigits 10 n) 0 = n := Nat.ofDigitChars_ten_toDigits
  have isDigits := fun c => isDigit_of_mem_toDigits (c := c) (n := n)
  cases hdigits : Nat.toDigits 10 n with
  | nil => exact absurd hdigits Nat.toDigits_ne_nil
  | cons c rest =>
    rw [hdigits] at value isDigits
    rw [readNat, digitValue?_of_isDigit (isDigits c List.mem_cons_self)]
    rw [← value]
    refine (readDigits_of_isDigit (fun d hd => isDigits d (List.mem_cons_of_mem _ hd)) _).trans ?_
    simp [Nat.ofDigitChars]

/-! ### Integers -/

theorem unblank_toString (n : Int) : ∀ c ∈ (toString n).toList, isBlank c = false := by
  intro c hc
  cases n with
  | ofNat k =>
    rw [Json.toList_ofNat] at hc
    exact isBlank_of_isDigit (isDigit_of_mem_toDigits hc)
  | negSucc k =>
    rw [Json.toList_negSucc] at hc
    rcases List.mem_cons.mp hc with rfl | hc
    · decide
    · exact isBlank_of_isDigit (isDigit_of_mem_toDigits hc)

/-- The digits of a number are read with or without a sign. -/
theorem readSigned_toDigits (n : Nat) :
    readSigned digitValue? (Nat.toDigits 10 n) = some (n : Int) ∧
      readSigned digitValue? ('-' :: Nat.toDigits 10 n) = some (-(n : Int)) := by
  have value := readNat_toDigits n
  constructor
  · obtain ⟨c, rest, hdigits, hc⟩ := Json.digit_head n
    rw [hdigits] at value ⊢
    rw [readSigned, value]
    · rfl
    · exact fun _ heq => Json.ne_of_isDigit hc rfl (List.cons.inj heq).1
    · exact fun _ heq => Json.ne_of_isDigit hc rfl (List.cons.inj heq).1
  · rw [readSigned, value]
    rfl

theorem excessDigits?_toDigits (n : Nat) :
    excessDigits? digitValue? (Nat.toDigits 10 n) =
        (if digitLimit < (Nat.toDigits 10 n).length then some (Nat.toDigits 10 n).length
        else none) ∧
      excessDigits? digitValue? ('-' :: Nat.toDigits 10 n) =
        if digitLimit < (Nat.toDigits 10 n).length then some (Nat.toDigits 10 n).length
        else none := by
  have all := leadingDigits_of_isDigit (fun c => isDigit_of_mem_toDigits (c := c) (n := n))
  obtain ⟨c, rest, hdigits, hc⟩ := Json.digit_head n
  rw [hdigits] at all ⊢
  have apart {d : Char} (hd : d.isDigit = false) : c ≠ d := Json.ne_of_isDigit hc hd
  constructor
  · unfold excessDigits?
    split
    · next heq => exact absurd (List.cons.inj heq).1 (apart rfl)
    · next heq => exact absurd (List.cons.inj heq).1 (apart rfl)
    · simp [all, apart]
  · unfold excessDigits?
    simp [all, apart]

theorem readInteger_of_signed {text : String} {n : Int}
    (unblank : ∀ c ∈ text.toList, isBlank c = false)
    (excess : excessDigits? digitValue? text.toList =
      if digitLimit < (Nat.toDigits 10 n.natAbs).length then
        some (Nat.toDigits 10 n.natAbs).length
      else none)
    (value : readSigned digitValue? text.toList = some n) :
    readInteger text = if isWritable n then .ok n
      else .error (.tooManyDigits (Nat.toDigits 10 n.natAbs).length) := by
  rw [readInteger, trim_of_unblank unblank, excess, value]
  by_cases many : digitLimit < (Nat.toDigits 10 n.natAbs).length
  · simp [isWritable, many]
  · simp [isWritable, many]

/-- An integer is read as it was written if its digits are not too many. -/
theorem readInteger_toString (n : Int) :
    readInteger (toString n) = if isWritable n then .ok n
      else .error (.tooManyDigits (Nat.toDigits 10 n.natAbs).length) := by
  refine readInteger_of_signed (unblank_toString n) ?_ ?_
  · cases n with
    | ofNat k =>
      rw [Json.toList_ofNat]
      exact (excessDigits?_toDigits k).1
    | negSucc k =>
      rw [Json.toList_negSucc]
      exact (excessDigits?_toDigits (k + 1)).2
  · cases n with
    | ofNat k =>
      rw [Json.toList_ofNat]
      exact (readSigned_toDigits k).1
    | negSucc k =>
      rw [Json.toList_negSucc]
      exact (readSigned_toDigits (k + 1)).2

end SchemaMigration.Text
