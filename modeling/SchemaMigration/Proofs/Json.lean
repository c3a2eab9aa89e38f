import Mathlib.Data.List.TakeDrop
import SchemaMigration.Json.Reader
import SchemaMigration.Json.Writer

/-!
A JSON text is read as the value that it was written from, if its keys are distinct, its integers
have few enough digits, and there is room for its depth.
-/

namespace SchemaMigration.Json

open Reader

/-! ### Strings -/

theorem hexValue?_digitChar {n : Nat} (h : n < 16) : hexValue? n.digitChar = some n := by
  revert n
  decide

theorem hex_succ {width : Nat} (h : 0 < width) (n : Nat) :
    Text.hex (width + 1) n = Text.hex width (n / 16) ++ [(n % 16).digitChar] := by
  unfold Text.hex
  dsimp only
  by_cases hn : n < 16
  · have hzero : n / 16 = 0 := Nat.div_eq_of_lt hn
    have hmod : n % 16 = n := Nat.mod_eq_of_lt hn
    obtain ⟨k, rfl⟩ : ∃ k, width = k + 1 := ⟨width - 1, by omega⟩
    rw [hzero, hmod, Nat.toDigits_of_lt_base hn, Nat.toDigits_zero]
    simp [List.replicate_succ']
  · rw [Nat.toDigits_of_base_le (by decide) (by omega : 16 ≤ n)]
    simp

theorem hex_four {n : Nat} (h : n < 0x10000) :
    Text.hex 4 n = [(n / 16 / 16 / 16).digitChar, (n / 16 / 16 % 16).digitChar,
      (n / 16 % 16).digitChar, (n % 16).digitChar] := by
  have first : Text.hex 1 (n / 16 / 16 / 16) = [(n / 16 / 16 / 16).digitChar] := by
    simp [Text.hex, Nat.toDigits_of_lt_base (by omega : n / 16 / 16 / 16 < 16)]
  rw [hex_succ (by decide), hex_succ (by decide), hex_succ (by decide), first]
  rfl

/-- A code unit is read as it was written. -/
theorem unit?_hex {n : Nat} (h : n < 0x10000) :
    ∃ a b c d, Text.hex 4 n = [a, b, c, d] ∧ unit? a b c d = some n := by
  refine ⟨_, _, _, _, hex_four h, ?_⟩
  have last (k : Nat) : k % 16 < 16 := Nat.mod_lt _ (by decide)
  simp only [unit?, hexValue?_digitChar (by omega : n / 16 / 16 / 16 < 16),
    hexValue?_digitChar (last _), Option.bind_eq_bind, Option.bind_some]
  congr 1
  omega

theorem escaped_unit (start : List Char) {n : Nat} (h : n < 0x10000)
    (whole : isHighSurrogate n = false) {more : List Char} (hmore : more ≠ []) :
    ∃ e, Writer.unitEscape n = '\\' :: e ∧
      escaped start (e ++ more) = .ok (unitChar n, e.length) := by
  obtain ⟨a, b, c, d, hhex, hunit⟩ := unit?_hex h
  obtain ⟨e, after, rfl⟩ := List.exists_cons_of_ne_nil hmore
  refine ⟨['u', a, b, c, d], by rw [Writer.unitEscape, hhex], ?_⟩
  simp [escaped, hunit, whole]

theorem escaped_pair (start : List Char) {high low : Nat} (hhigh : isHighSurrogate high = true)
    (hlow : isLowSurrogate low = true) {more : List Char} (hmore : more ≠ []) :
    ∃ e, Writer.unitEscape high ++ Writer.unitEscape low = '\\' :: e ∧
      escaped start (e ++ more) = .ok (pairChar high low, e.length) := by
  have hhigh' : high < 0x10000 := by
    simp [isHighSurrogate] at hhigh
    omega
  have hlow' : low < 0x10000 := by
    simp [isLowSurrogate] at hlow
    omega
  obtain ⟨a, b, c, d, hhex, hunit⟩ := unit?_hex hhigh'
  obtain ⟨a', b', c', d', hhex', hunit'⟩ := unit?_hex hlow'
  obtain ⟨e, after, rfl⟩ := List.exists_cons_of_ne_nil hmore
  refine ⟨['u', a, b, c, d, '\\', 'u', a', b', c', d'], ?_, ?_⟩
  · rw [Writer.unitEscape, Writer.unitEscape, hhex, hhex']
    rfl
  · simp [escaped, hunit, hunit', hhigh, hlow]

theorem surrogates {n : Nat} (h : 0x10000 ≤ n) (hlast : n < 0x110000) :
    isHighSurrogate (0xD800 + (n - 0x10000) / 0x400) = true ∧
      isLowSurrogate (0xDC00 + (n - 0x10000) % 0x400) = true ∧
      0x10000 + (0xD800 + (n - 0x10000) / 0x400 - 0xD800) * 0x400 +
        (0xDC00 + (n - 0x10000) % 0x400 - 0xDC00) = n := by
  simp only [isHighSurrogate, isLowSurrogate, Bool.and_eq_true, decide_eq_true_eq]
  omega

theorem toNat_valid (c : Char) : c.toNat < 0xD800 ∨ 0xDFFF < c.toNat ∧ c.toNat < 0x110000 :=
  c.valid

theorem not_surrogate (c : Char) :
    isHighSurrogate c.toNat = false ∧ isLowSurrogate c.toNat = false := by
  have valid := toNat_valid c
  simp only [isHighSurrogate, isLowSurrogate, Bool.and_eq_false_iff, decide_eq_false_iff_not]
  omega

theorem escaped_letter (start more : List Char) {letter c : Char} (hu : letter ≠ 'u')
    (h : escape? letter = some c) : escaped start ([letter] ++ more) = .ok (c, 1) := by
  rw [List.singleton_append, escaped.eq_def]
  split
  · contradiction
  · simp_all
  · simp_all
  · simp_all

/-- A character is written with a letter that stands for it, as itself, or as its code units. -/
theorem escapeChar_cases (c : Char) :
    (∃ letter, Writer.escapeChar c = ['\\', letter] ∧ letter ≠ 'u' ∧ escape? letter = some c) ∨
      (Writer.escapeChar c = [c] ∧ c ≠ '"' ∧ c ≠ '\\' ∧ 0x20 ≤ c.toNat) ∨
      (Writer.escapeChar c = Writer.unitEscape c.toNat ∧ c.toNat < 0x10000) ∨
      (Writer.escapeChar c = Writer.unitEscape (0xD800 + (c.toNat - 0x10000) / 0x400) ++
        Writer.unitEscape (0xDC00 + (c.toNat - 0x10000) % 0x400) ∧ 0x10000 ≤ c.toNat) := by
  by_cases h : c ∈ ['"', '\\', '\n', '\r', '\t', '\x08', '\x0c']
  · left
    simp only [List.mem_cons, List.not_mem_nil, or_false] at h
    rcases h with rfl | rfl | rfl | rfl | rfl | rfl | rfl
    all_goals exact ⟨_, rfl, by decide, rfl⟩
  · right
    simp only [List.mem_cons, List.not_mem_nil, or_false, not_or] at h
    obtain ⟨hquote, hslash, hline, hreturn, htab, hback, hfeed⟩ := h
    rw [Writer.escapeChar, if_neg (mt eq_of_beq hquote), if_neg (mt eq_of_beq hslash),
      if_neg (mt eq_of_beq hline), if_neg (mt eq_of_beq hreturn), if_neg (mt eq_of_beq htab),
      if_neg (mt eq_of_beq hback), if_neg (mt eq_of_beq hfeed)]
    by_cases hplain : (0x20 ≤ c.toNat && c.toNat < 0x7F) = true
    · rw [if_pos hplain]
      rw [Bool.and_eq_true, decide_eq_true_eq] at hplain
      exact .inl ⟨rfl, hquote, hslash, hplain.1⟩
    · right
      rw [if_neg hplain]
      by_cases hunit : c.toNat < 0x10000
      · rw [if_pos hunit]
        exact .inl ⟨rfl, hunit⟩
      · rw [if_neg hunit]
        exact .inr ⟨rfl, Nat.le_of_not_lt hunit⟩

theorem string_escape {e more : List Char} {c : Char} {start : List Char}
    (h : escaped start (e ++ more) = .ok (c, e.length)) :
    string start ('\\' :: e ++ more) =
      (string start more).map fun (cs, after) => (c :: cs, after) := by
  rw [List.cons_append, string, if_neg (by decide), if_pos rfl, h]
  simp only [List.drop_left]

theorem string_escapeChar (start : List Char) (c : Char) {more : List Char} (hmore : more ≠ []) :
    string start (Writer.escapeChar c ++ more) =
      (string start more).map fun (cs, after) => (c :: cs, after) := by
  rcases escapeChar_cases c with ⟨letter, hwrite, hu, hletter⟩ | ⟨hwrite, hquote, hslash, hplain⟩ |
    ⟨hwrite, hunit⟩ | ⟨hwrite, hpair⟩
  · rw [hwrite]
    exact string_escape (e := [letter]) (escaped_letter start more hu hletter)
  · rw [hwrite, List.singleton_append, string, if_neg hquote, if_neg hslash,
      if_neg (Nat.not_lt.mpr hplain)]
  · obtain ⟨e, hescape, hread⟩ := escaped_unit start hunit (not_surrogate c).1 hmore
    have whole : unitChar c.toNat = c := by
      simp [unitChar, not_surrogate c]
    rw [whole] at hread
    rw [hwrite, hescape, string_escape hread]
  · have hlast : c.toNat < 0x110000 := by
      have valid := toNat_valid c
      omega
    obtain ⟨hhigh, hlow, hsum⟩ := surrogates hpair hlast
    obtain ⟨e, hescape, hread⟩ := escaped_pair start hhigh hlow hmore
    have whole : pairChar (0xD800 + (c.toNat - 0x10000) / 0x400)
        (0xDC00 + (c.toNat - 0x10000) % 0x400) = c := by
      rw [pairChar, hsum, Char.ofNat_toNat]
    rw [whole] at hread
    rw [hwrite, hescape, string_escape hread]

/-- A string is read as it was written. -/
theorem string_written (start : List Char) (cs rest : List Char) :
    string start (cs.flatMap Writer.escapeChar ++ '"' :: rest) = .ok (cs, rest) := by
  induction cs with
  | nil => simp [string]
  | cons c cs ih =>
    rw [List.flatMap_cons, List.append_assoc, string_escapeChar start c (by simp), ih]
    rfl

/-! ### Numbers -/

/-- What follows a value: nothing, space, or what ends the value. -/
def Ends (rest : List Char) : Prop :=
  ∀ c ∈ rest.head?, isSpace c = true ∨ c = ',' ∨ c = ']' ∨ c = '}'

theorem digits_append {ds rest : List Char} (hds : ∀ c ∈ ds, c.isDigit) (hrest : Ends rest) :
    digits (ds ++ rest) = (ds, rest) := by
  have stops : rest.span Char.isDigit = ([], rest) := by
    cases rest with
    | nil => rfl
    | cons c rest =>
      have hc : c.isDigit = false := by
        rcases hrest c rfl with hspace | rfl | rfl | rfl
        · simp only [isSpace, Bool.or_eq_true, beq_iff_eq] at hspace
          rcases hspace with ((rfl | rfl) | rfl) | rfl <;> rfl
        all_goals rfl
      simp [List.span_eq_takeWhile_dropWhile, hc]
  rw [List.span_eq_takeWhile_dropWhile, Prod.mk.injEq] at stops
  rw [digits, List.span_eq_takeWhile_dropWhile, List.takeWhile_append_of_pos hds,
    List.dropWhile_append_of_pos hds, stops.1, stops.2, List.append_nil]

theorem head_toDigits (n : Nat) (h : 0 < n) :
    ∃ c cs, Nat.toDigits 10 n = c :: cs ∧ c ≠ '0' := by
  induction n using Nat.strongRecOn with
  | ind n ih =>
    by_cases hn : n < 10
    · refine ⟨n.digitChar, [], Nat.toDigits_of_lt_base hn, ?_⟩
      rw [Ne, Nat.digitChar_eq_zero]
      omega
    · obtain ⟨c, cs, hcs, hc⟩ := ih (n / 10) (by omega) (by omega)
      refine ⟨c, cs ++ [(n % 10).digitChar], ?_, hc⟩
      rw [Nat.toDigits_of_base_le (by decide) (Nat.le_of_not_lt hn), hcs]
      rfl

theorem no_fraction {rest : List Char} (h : Ends rest) : fraction? rest = none := by
  unfold fraction?
  split
  · next c _ =>
    rcases h '.' rfl with hspace | hcomma | hbracket | hbrace
    · cases hspace
    all_goals contradiction
  · rfl

theorem no_exponent {rest : List Char} (h : Ends rest) : exponent? rest = none := by
  cases rest with
  | nil => rfl
  | cons c rest =>
    have letter : (c == 'e' || c == 'E') = false := by
      rw [Bool.or_eq_false_iff, beq_eq_false_iff_ne, beq_eq_false_iff_ne]
      constructor
      · rintro rfl
        rcases h 'e' rfl with hspace | hcomma | hbracket | hbrace
        · cases hspace
        all_goals contradiction
      · rintro rfl
        rcases h 'E' rfl with hspace | hcomma | hbracket | hbrace
        · cases hspace
        all_goals contradiction
    simp [exponent?, letter]

/-- The digits of a number are read without a sign. -/
theorem number_digits (n : Nat) (h : (Nat.toDigits 10 n).length ≤ Text.digitLimit)
    {rest : List Char} (hrest : Ends rest) :
    number (Nat.toDigits 10 n ++ rest) = .ok (.int n, rest) ∧
      number ('-' :: (Nat.toDigits 10 n ++ rest)) = .ok (.int (-n), rest) := by
  have few : ¬ Text.digitLimit < (Nat.toDigits 10 n).length := Nat.not_lt.mpr h
  have value : natOfDigits (Nat.toDigits 10 n) = n := Nat.ofDigitChars_ten_toDigits
  have isDigits : ∀ c ∈ Nat.toDigits 10 n, c.isDigit := fun c hc =>
    Nat.isDigit_of_mem_toDigits (by decide) (by decide) hc
  have all := digits_append isDigits hrest
  rcases Nat.eq_zero_or_pos n with rfl | hpos
  · have one : ¬ Text.digitLimit = 0 := by decide
    constructor <;> simp [number, no_fraction hrest, no_exponent hrest, natOfDigits, one]
  · obtain ⟨c, cs, hcs, hc⟩ := head_toDigits n hpos
    rw [hcs] at all isDigits few value ⊢
    have hdigit : c.isDigit = true := isDigits c List.mem_cons_self
    have hminus : c ≠ '-' := by
      rintro rfl
      cases hdigit
    rw [List.cons_append] at all ⊢
    rw [List.length_cons] at few
    constructor <;>
      simp [number, no_fraction hrest, no_exponent hrest, all, few, value, hdigit, hminus]

theorem toList_ofNat (k : Nat) : (toString (Int.ofNat k)).toList = Nat.toDigits 10 k :=
  Nat.toList_repr

theorem toList_negSucc (k : Nat) :
    (toString (Int.negSucc k)).toList = '-' :: Nat.toDigits 10 (k + 1) := by
  rw [Int.toString_eq_repr, Int.repr, String.toList_append, Nat.toList_repr]
  rfl

/-- An integer is read as it was written. -/
theorem number_written (n : Int) (h : Text.isWritable n = true) {rest : List Char}
    (hrest : Ends rest) : number ((toString n).toList ++ rest) = .ok (.int n, rest) := by
  have few : (Nat.toDigits 10 n.natAbs).length ≤ Text.digitLimit := of_decide_eq_true h
  obtain ⟨positive, negative⟩ := number_digits n.natAbs few hrest
  cases n with
  | ofNat k =>
    rw [toList_ofNat]
    exact positive
  | negSucc k =>
    rw [toList_negSucc]
    exact negative

/-! ### Values -/

structure Spaced (layout : Writer.Layout) : Prop where
  line : ∀ depth, ∀ c ∈ layout.line depth, isSpace c = true
  comma : ∃ spaces, layout.comma = ',' :: spaces ∧ ∀ c ∈ spaces, isSpace c = true
  colon : ∃ spaces, layout.colon = ':' :: spaces ∧ ∀ c ∈ spaces, isSpace c = true

theorem spaced_indented : Spaced Writer.indented where
  line depth c hc := by
    rcases List.mem_cons.mp hc with rfl | hc
    · rfl
    · rw [List.eq_of_mem_replicate hc]
      rfl
  comma := ⟨[], rfl, by simp⟩
  colon := ⟨[' '], rfl, by simp [isSpace]⟩

mutual

/-- Whether a value is read as it was written: there is `room` for its depth, its integers have few
enough digits, its keys are distinct, and it has no numbers with a point. -/
def Keeps (room : Nat) : Json → Prop
  | .null | .bool _ | .text _ => True
  | .int n => Text.isWritable n = true
  | .real _ => False
  | .array vs => 0 < room ∧ AllKeep (room - 1) vs
  | .object ms => 0 < room ∧ (ms.map Prod.fst).Nodup ∧ MembersKeep (room - 1) ms

def AllKeep (room : Nat) : List Json → Prop
  | [] => True
  | v :: vs => Keeps room v ∧ AllKeep room vs

def MembersKeep (room : Nat) : List (String × Json) → Prop
  | [] => True
  | (_, v) :: ms => Keeps room v ∧ MembersKeep room ms

end

theorem skipSpace_append {spaces : List Char} (h : ∀ c ∈ spaces, isSpace c = true)
    (rest : List Char) : skipSpace (spaces ++ rest) = skipSpace rest :=
  List.dropWhile_append_of_pos h

theorem skipSpace_cons {c : Char} (h : isSpace c = false) (rest : List Char) :
    skipSpace (c :: rest) = c :: rest := List.dropWhile_cons_of_neg (by simp [h])

theorem Ends.closing {c : Char} (h : c = ',' ∨ c = ']' ∨ c = '}') {spaces : List Char}
    (hspaces : ∀ c ∈ spaces, isSpace c = true) (rest : List Char) :
    Ends (spaces ++ c :: rest) := by
  intro d hd
  cases spaces with
  | nil =>
    cases hd
    exact .inr h
  | cons space spaces =>
    obtain rfl : space = d := Option.some.inj hd
    exact .inl (hspaces space List.mem_cons_self)

theorem digit_head (n : Nat) : ∃ c cs, Nat.toDigits 10 n = c :: cs ∧ c.isDigit = true := by
  obtain ⟨c, cs, hcs⟩ := List.exists_cons_of_ne_nil (Nat.toDigits_ne_nil (n := n) (b := 10))
  have hmem : c ∈ Nat.toDigits 10 n := by rw [hcs]; exact List.mem_cons_self
  exact ⟨c, cs, hcs, Nat.isDigit_of_mem_toDigits (by decide) (by decide) hmem⟩

theorem ne_of_isDigit {c d : Char} (h : c.isDigit = true) (hd : d.isDigit = false) : c ≠ d := by
  rintro rfl
  rw [h] at hd
  cases hd

/-- A value starts neither with space, nor with what closes an array, nor with a byte order mark. -/
theorem value_head (layout : Writer.Layout) (depth : Nat) {room : Nat} {j : Json}
    (h : Keeps room j) : ∃ c cs, Writer.value layout depth j = c :: cs ∧
      isSpace c = false ∧ c ≠ ']' ∧ c ≠ '\ufeff' := by
  cases j with
  | null => exact ⟨'n', _, rfl, by decide⟩
  | bool b =>
    cases b with
    | false => exact ⟨'f', _, rfl, by decide⟩
    | true => exact ⟨'t', _, rfl, by decide⟩
  | int n =>
    cases n with
    | ofNat k =>
      obtain ⟨c, cs, hcs, hc⟩ := digit_head k
      have apart {d : Char} (hd : d.isDigit = false) : c ≠ d := ne_of_isDigit hc hd
      refine ⟨c, cs, (toList_ofNat k).trans hcs, ?_, apart rfl, apart rfl⟩
      simp [isSpace, apart]
    | negSucc k => exact ⟨'-', _, toList_negSucc k, by decide⟩
  | real r => cases h
  | text s => exact ⟨'"', _, rfl, by decide⟩
  | array vs => cases vs <;> exact ⟨'[', _, rfl, by decide⟩
  | object ms => cases ms <;> exact ⟨'{', _, rfl, by decide⟩

theorem scalar_of_digit {c : Char} (h : c.isDigit = true) (rest : List Char) :
    scalar (c :: rest) = number (c :: rest) ∧
      scalar ('-' :: c :: rest) = number ('-' :: c :: rest) := by
  constructor
  all_goals
    rw [scalar]
    all_goals
      intro after heq
      cases heq
    all_goals cases h

theorem value_of_digit {c : Char} (h : c.isDigit = true) (room fuel : Nat) (rest : List Char) :
    Reader.value room (fuel + 1) (c :: rest) = number (c :: rest) ∧
      Reader.value room (fuel + 1) ('-' :: c :: rest) = number ('-' :: c :: rest) := by
  have hquote : c ≠ '"' := ne_of_isDigit h rfl
  have hbracket : c ≠ '[' := ne_of_isDigit h rfl
  have hbrace : c ≠ '{' := ne_of_isDigit h rfl
  obtain ⟨positive, negative⟩ := scalar_of_digit h rest
  constructor
  · rw [← positive, Reader.value.eq_def]
    dsimp only
    split <;> simp_all
  · rw [← negative, Reader.value.eq_def]
    dsimp only
    split <;> simp_all

theorem value_int {n : Int} (h : Text.isWritable n = true) (room fuel : Nat) {rest : List Char}
    (hrest : Ends rest) :
    Reader.value room (fuel + 1) ((toString n).toList ++ rest) = .ok (.int n, rest) := by
  rw [← number_written n h hrest]
  cases n with
  | ofNat k =>
    obtain ⟨c, cs, hcs, hc⟩ := digit_head k
    rw [toList_ofNat, hcs]
    exact (value_of_digit hc room fuel (cs ++ rest)).1
  | negSucc k =>
    obtain ⟨c, cs, hcs, hc⟩ := digit_head (k + 1)
    rw [toList_negSucc, hcs]
    exact (value_of_digit hc room fuel (cs ++ rest)).2

theorem value_text (s : String) (room fuel : Nat) (rest : List Char) :
    Reader.value room (fuel + 1) (Writer.string s ++ rest) = .ok (.text s, rest) := by
  rw [Writer.string, List.cons_append, Reader.value, List.append_assoc, List.singleton_append,
    string_written]
  simp [Except.map]

variable {room fuel : Nat} {cs rest after : List Char} {v : Json} {vs : List Json} {k : String}
  {ms : List (String × Json)}

theorem value_bracket : Reader.value (room + 1) (fuel + 1) ('[' :: rest) =
    match skipSpace rest with
    | ']' :: after => .ok (.array [], after)
    | items => (elements room fuel items).map fun (vs, after) => (.array vs, after) := by
  rw [Reader.value.eq_def]
  rfl

theorem value_brace : Reader.value (room + 1) (fuel + 1) ('{' :: rest) =
    match skipSpace rest with
    | '}' :: after => .ok (.object [], after)
    | items =>
      (members room fuel items).map fun (ms, after) => (.object (distinctMembers ms), after) := by
  rw [Reader.value.eq_def]
  rfl

theorem value_array {c : Char} (h : skipSpace rest = c :: cs) (hc : c ≠ ']') :
    Reader.value (room + 1) (fuel + 1) ('[' :: rest) =
      (elements room fuel (c :: cs)).map fun (vs, after) => (.array vs, after) := by
  rw [value_bracket, h]
  split <;> simp_all

theorem value_object {c : Char} (h : skipSpace rest = c :: cs) (hc : c ≠ '}') :
    Reader.value (room + 1) (fuel + 1) ('{' :: rest) = (members room fuel (c :: cs)).map
      fun (ms, after) => (.object (distinctMembers ms), after) := by
  rw [value_brace, h]
  split <;> simp_all

theorem elements_last (hv : Reader.value room fuel cs = .ok (v, rest))
    (hrest : skipSpace rest = ']' :: after) :
    elements room (fuel + 1) cs = .ok ([v], after) := by
  rw [elements, hv]
  dsimp only
  rw [hrest]
  rfl

theorem elements_next (hv : Reader.value room fuel cs = .ok (v, ',' :: rest)) :
    elements room (fuel + 1) cs =
      (elements room fuel (skipSpace rest)).map fun (vs, after) => (v :: vs, after) := by
  rw [elements, hv]
  rfl

theorem members_last (hv : member room fuel cs = .ok ((k, v), rest))
    (hrest : skipSpace rest = '}' :: after) :
    members room (fuel + 1) cs = .ok ([(k, v)], after) := by
  rw [members, hv]
  dsimp only
  rw [hrest]
  rfl

theorem members_next (hv : member room fuel cs = .ok ((k, v), ',' :: rest)) :
    members room (fuel + 1) cs =
      (members room fuel (skipSpace rest)).map fun (ms, after) => ((k, v) :: ms, after) := by
  rw [members, hv]
  rfl

theorem member_quote : member room (fuel + 1) ('"' :: cs) =
    match string ('"' :: cs) cs with
    | .error e => .error e
    | .ok (key, rest) =>
      match skipSpace rest with
      | ':' :: rest =>
        (Reader.value room fuel (skipSpace rest)).map fun (v, after) =>
          ((String.ofList key, v), after)
      | rest => .error (.fault .expectingColon rest) := by
  rw [member.eq_def]
  rfl

theorem member_written {spaces : List Char} (hspaces : ∀ c ∈ spaces, isSpace c = true)
    (k : String) (hcs : skipSpace cs = cs) (hv : Reader.value room fuel cs = .ok (v, rest)) :
    member room (fuel + 1) (Writer.string k ++ (':' :: (spaces ++ cs))) = .ok ((k, v), rest) := by
  have after : skipSpace (spaces ++ cs) = cs := (skipSpace_append hspaces cs).trans hcs
  rw [Writer.string, List.cons_append, member_quote, List.append_assoc, List.singleton_append,
    string_written]
  change (Reader.value room fuel (skipSpace (spaces ++ cs))).map _ = _
  rw [after, hv, Except.map, String.ofList_toList]

theorem skipSpace_value (layout : Writer.Layout) (depth : Nat) (hv : Keeps room v)
    (rest : List Char) : skipSpace (Writer.value layout depth v ++ rest) =
      Writer.value layout depth v ++ rest := by
  obtain ⟨c, cs, hcs, hc, -⟩ := value_head layout depth hv
  rw [hcs]
  exact skipSpace_cons hc _

theorem skipSpace_string (k : String) (rest : List Char) :
    skipSpace (Writer.string k ++ rest) = Writer.string k ++ rest := skipSpace_cons rfl _

def IsRead (layout : Writer.Layout) (j : Json) : Prop :=
  ∀ (depth : Nat) {room fuel : Nat} {rest : List Char}, Keeps room j →
    3 * (Writer.value layout depth j).length ≤ fuel → Ends rest →
    Reader.value room fuel (Writer.value layout depth j ++ rest) = .ok (j, rest)

variable {layout : Writer.Layout}

theorem Spaced.gap (hl : Spaced layout) (depth : Nat) :
    ∃ gap, layout.comma ++ layout.line depth = ',' :: gap ∧ ∀ c ∈ gap, isSpace c = true := by
  obtain ⟨between, hcomma, hbetween⟩ := hl.comma
  refine ⟨between ++ layout.line depth, by rw [hcomma, List.cons_append], fun c hc => ?_⟩
  rcases List.mem_append.mp hc with hc | hc
  · exact hbetween c hc
  · exact hl.line depth c hc

-- Every reader hands on one unit less of fuel than it has. Three units for each character are
-- enough at every level: commas, brackets and keys pay for the calls around a value.

/-- The elements of an array are read up to its closing bracket. -/
theorem elements_written (hl : Spaced layout) (depth : Nat) {spaces : List Char}
    (hspaces : ∀ c ∈ spaces, isSpace c = true) (rest : List Char) (vs : List Json) :
    ∀ {v fuel}, (∀ w ∈ v :: vs, IsRead layout w) → AllKeep room (v :: vs) →
      3 * ((Writer.value layout depth v).length +
        (Writer.elements layout depth vs).length) + 1 ≤ fuel →
      elements room fuel (Writer.value layout depth v ++ (Writer.elements layout depth vs ++
        (spaces ++ ']' :: rest))) = .ok (v :: vs, rest) := by
  induction vs with
  | nil =>
    intro v fuel hread ⟨hv, _⟩ hfuel
    obtain ⟨fuel, rfl⟩ : ∃ k, fuel = k + 1 := ⟨fuel - 1, by omega⟩
    have first : Reader.value room fuel (Writer.value layout depth v ++ (spaces ++ ']' :: rest)) =
        .ok (v, spaces ++ ']' :: rest) :=
      hread v List.mem_cons_self depth hv (by omega) (Ends.closing (.inr (.inl rfl)) hspaces rest)
    refine elements_last first ?_
    exact (skipSpace_append hspaces _).trans (skipSpace_cons rfl rest)
  | cons w ws ih =>
    intro v fuel hread ⟨hv, hws⟩ hfuel
    obtain ⟨fuel, rfl⟩ : ∃ k, fuel = k + 1 := ⟨fuel - 1, by omega⟩
    obtain ⟨gap, hgap, spaced⟩ := hl.gap depth
    let others := Writer.value layout depth w ++
      (Writer.elements layout depth ws ++ (spaces ++ ']' :: rest))
    have text : Writer.elements layout depth (w :: ws) ++ (spaces ++ ']' :: rest) =
        ',' :: (gap ++ others) := by
      simp [others, Writer.elements, hgap]
    have first : Reader.value room fuel (Writer.value layout depth v ++ ',' :: (gap ++ others)) =
        .ok (v, ',' :: (gap ++ others)) :=
      hread v List.mem_cons_self depth hv (by omega)
        (Ends.closing (.inl rfl) (List.forall_mem_nil _) _)
    have next : elements room fuel others = .ok (w :: ws, rest) := by
      refine ih (fun u hu => hread u (List.mem_cons_of_mem v hu)) hws ?_
      simp only [Writer.elements, hgap, List.length_cons, List.length_append] at hfuel
      omega
    have start : skipSpace (gap ++ others) = others :=
      (skipSpace_append spaced _).trans (skipSpace_value layout depth hws.1 _)
    rw [text, elements_next first, start, next]
    rfl

/-- The members of an object are read up to its closing brace. -/
theorem members_written (hl : Spaced layout) {colon : List Char}
    (hcolon : layout.colon = ':' :: colon) (hafter : ∀ c ∈ colon, isSpace c = true) (depth : Nat)
    {spaces : List Char} (hspaces : ∀ c ∈ spaces, isSpace c = true) (rest : List Char)
    (ms : List (String × Json)) :
    ∀ {k v fuel}, (∀ m ∈ (k, v) :: ms, IsRead layout m.2) → MembersKeep room ((k, v) :: ms) →
      3 * ((Writer.value layout depth v).length +
        (Writer.members layout depth ms).length) + 2 ≤ fuel →
      members room fuel (Writer.string k ++ (':' :: (colon ++ (Writer.value layout depth v ++
        (Writer.members layout depth ms ++ (spaces ++ '}' :: rest)))))) =
          .ok ((k, v) :: ms, rest) := by
  induction ms with
  | nil =>
    intro k v fuel hread ⟨hv, _⟩ hfuel
    have hfirst : IsRead layout v := hread (k, v) List.mem_cons_self
    obtain ⟨fuel, rfl⟩ : ∃ k, fuel = k + 2 := ⟨fuel - 2, by omega⟩
    have first : Reader.value room fuel (Writer.value layout depth v ++ (spaces ++ '}' :: rest)) =
        .ok (v, spaces ++ '}' :: rest) :=
      hfirst depth hv (by omega) (Ends.closing (.inr (.inr rfl)) hspaces rest)
    refine members_last (member_written hafter k (skipSpace_value layout depth hv _) first) ?_
    exact (skipSpace_append hspaces _).trans (skipSpace_cons rfl rest)
  | cons m ms ih =>
    obtain ⟨l, w⟩ := m
    intro k v fuel hread ⟨hv, hws⟩ hfuel
    have hfirst : IsRead layout v := hread (k, v) List.mem_cons_self
    obtain ⟨fuel, rfl⟩ : ∃ k, fuel = k + 2 := ⟨fuel - 2, by omega⟩
    obtain ⟨gap, hgap, spaced⟩ := hl.gap depth
    let others := Writer.string l ++ (':' :: (colon ++ (Writer.value layout depth w ++
      (Writer.members layout depth ms ++ (spaces ++ '}' :: rest)))))
    have text : Writer.members layout depth ((l, w) :: ms) ++ (spaces ++ '}' :: rest) =
        ',' :: (gap ++ others) := by
      simp [others, Writer.members, hgap, hcolon]
    have first : Reader.value room fuel (Writer.value layout depth v ++ ',' :: (gap ++ others)) =
        .ok (v, ',' :: (gap ++ others)) :=
      hfirst depth hv (by omega) (Ends.closing (.inl rfl) (List.forall_mem_nil _) _)
    have next : members room (fuel + 1) others = .ok ((l, w) :: ms, rest) := by
      refine ih (fun u hu => hread u (List.mem_cons_of_mem _ hu)) hws ?_
      simp only [Writer.members, hgap, List.length_cons, List.length_append] at hfuel
      omega
    have start : skipSpace (gap ++ others) = others :=
      (skipSpace_append spaced _).trans (skipSpace_string l _)
    rw [text, members_next (member_written hafter k (skipSpace_value layout depth hv _) first),
      start, next]
    rfl

theorem array_written (hl : Spaced layout) {vs : List Json} (hread : ∀ v ∈ vs, IsRead layout v) :
    IsRead layout (.array vs) := by
  intro depth room fuel rest ⟨hroom, hvs⟩ hfuel hrest
  obtain ⟨room, rfl⟩ : ∃ k, room = k + 1 := ⟨room - 1, by omega⟩
  rw [Nat.add_sub_cancel] at hvs
  cases vs with
  | nil =>
    obtain ⟨fuel, rfl⟩ : ∃ k, fuel = k + 1 := by
      simp only [Writer.value, List.length_cons] at hfuel
      exact ⟨fuel - 1, by omega⟩
    exact value_bracket
  | cons v vs =>
    let items := Writer.value layout (depth + 1) v ++
      (Writer.elements layout (depth + 1) vs ++ (layout.line depth ++ ']' :: rest))
    have text : Writer.value layout depth (.array (v :: vs)) ++ rest =
        '[' :: (layout.line (depth + 1) ++ items) := by
      simp [items, Writer.value]
    simp only [Writer.value, List.length_cons, List.length_append] at hfuel
    obtain ⟨fuel, rfl⟩ : ∃ k, fuel = k + 1 := ⟨fuel - 1, by omega⟩
    have inside : elements room fuel items = .ok (v :: vs, rest) :=
      elements_written hl (depth + 1) (hl.line depth) rest vs hread hvs (by omega)
    obtain ⟨c, cs, hcs, hc, hne, -⟩ := value_head layout (depth + 1) hvs.1
    have start : skipSpace (layout.line (depth + 1) ++ items) = items :=
      (skipSpace_append (hl.line _) _).trans (skipSpace_value layout (depth + 1) hvs.1 _)
    have first : items = c :: (cs ++
        (Writer.elements layout (depth + 1) vs ++ (layout.line depth ++ ']' :: rest))) := by
      rw [← List.cons_append, ← hcs]
    rw [text, value_array (start.trans first) hne, ← first, inside]
    rfl

theorem object_written (hl : Spaced layout) {ms : List (String × Json)}
    (hread : ∀ m ∈ ms, IsRead layout m.2) : IsRead layout (.object ms) := by
  intro depth room fuel rest ⟨hroom, distinct, hms⟩ hfuel hrest
  obtain ⟨room, rfl⟩ : ∃ k, room = k + 1 := ⟨room - 1, by omega⟩
  rw [Nat.add_sub_cancel] at hms
  cases ms with
  | nil =>
    obtain ⟨fuel, rfl⟩ : ∃ k, fuel = k + 1 := by
      simp only [Writer.value, List.length_cons] at hfuel
      exact ⟨fuel - 1, by omega⟩
    exact value_brace
  | cons m ms =>
    obtain ⟨k, v⟩ := m
    obtain ⟨colon, hcolon, hafter⟩ := hl.colon
    let items := Writer.string k ++ (':' :: (colon ++ (Writer.value layout (depth + 1) v ++
      (Writer.members layout (depth + 1) ms ++ (layout.line depth ++ '}' :: rest)))))
    have text : Writer.value layout depth (.object ((k, v) :: ms)) ++ rest =
        '{' :: (layout.line (depth + 1) ++ items) := by
      simp [items, Writer.value, hcolon]
    simp only [Writer.value, List.length_cons, List.length_append] at hfuel
    obtain ⟨fuel, rfl⟩ : ∃ k, fuel = k + 1 := ⟨fuel - 1, by omega⟩
    have inside : members room fuel items = .ok ((k, v) :: ms, rest) :=
      members_written hl hcolon hafter (depth + 1) (hl.line depth) rest ms hread hms (by omega)
    have start : skipSpace (layout.line (depth + 1) ++ items) = items :=
      (skipSpace_append (hl.line _) _).trans (skipSpace_string k _)
    have kept : distinctMembers ((k, v) :: ms) = (k, v) :: ms :=
      OrderedMap.entries_ofList distinct
    rw [text, value_object start (by decide : '"' ≠ '}')]
    change (members room fuel items).map _ = _
    rw [inside]
    change Except.ok (Json.object (distinctMembers ((k, v) :: ms)), rest) = _
    rw [kept]

theorem fuel_ne_zero (layout : Writer.Layout) (depth : Nat) {j : Json} (h : Keeps room j)
    (hfuel : 3 * (Writer.value layout depth j).length ≤ fuel) : ∃ k, fuel = k + 1 := by
  obtain ⟨c, cs, hcs, -⟩ := value_head layout depth h
  rw [hcs, List.length_cons] at hfuel
  exact ⟨fuel - 1, by omega⟩

/-- A value is read as it was written. -/
theorem value_written (hl : Spaced layout) (j : Json) : IsRead layout j := by
  match j with
  | .array vs => exact array_written hl fun v _ => value_written hl v
  | .object ms => exact object_written hl fun m _ => value_written hl m.2
  | .null =>
    intro depth room fuel rest hj hfuel _
    obtain ⟨fuel, rfl⟩ := fuel_ne_zero layout depth hj hfuel
    rw [Reader.value.eq_def]
    rfl
  | .bool b =>
    intro depth room fuel rest hj hfuel _
    obtain ⟨fuel, rfl⟩ := fuel_ne_zero layout depth hj hfuel
    cases b <;> (rw [Reader.value.eq_def]; rfl)
  | .int n =>
    intro depth room fuel rest hj hfuel hrest
    obtain ⟨fuel, rfl⟩ := fuel_ne_zero layout depth hj hfuel
    exact value_int hj room fuel hrest
  | .real r =>
    intro _ _ _ _ hj
    cases hj
  | .text s =>
    intro depth room fuel rest hj hfuel _
    obtain ⟨fuel, rfl⟩ := fuel_ne_zero layout depth hj hfuel
    exact value_text s room fuel rest
termination_by sizeOf j
decreasing_by
  · rename_i h
    have := List.sizeOf_lt_of_mem h
    simp
    omega
  · rename_i h
    have := List.sizeOf_lt_of_mem h
    cases m
    simp_all
    omega

theorem document_of_ne {c : Char} (hc : c ≠ '\ufeff') (cs : List Char) :
    document (c :: cs) = match Reader.value depthLimit (3 * (c :: cs).length + 3)
        (skipSpace (c :: cs)) with
      | .error e => .error e
      | .ok (v, rest) =>
        match skipSpace rest with
        | [] => .ok v
        | rest => .error (.fault .extraData rest) := by
  rw [document.eq_def]
  split
  · simp_all
  · rfl

theorem document_written (hl : Spaced layout) {j : Json} (h : Keeps depthLimit j) :
    document (Writer.value layout 0 j) = .ok j := by
  obtain ⟨c, cs, hcs, hspace, hne⟩ := value_head layout 0 h
  have whole : Reader.value depthLimit (3 * (c :: cs).length + 3) (c :: cs) = .ok (j, []) := by
    have nothing : Ends [] := fun c hc => by cases hc
    rw [← hcs, ← value_written hl j 0 h (Nat.le_add_right _ 3) nothing, List.append_nil]
  rw [hcs, document_of_ne hne.2, skipSpace_cons hspace, whole]
  rfl

/-- The text of a value is read as the value. -/
theorem parse_pretty {j : Json} (h : Keeps depthLimit j) : parse j.pretty = .ok j := by
  rw [parse, pretty, String.toList_ofList]
  rw [document_written spaced_indented h]

/-! ### Carriage returns -/

theorem digitChar_ne_return {n : Nat} (h : n < 16) : n.digitChar ≠ '\r' := by
  revert n
  decide

theorem return_not_mem_digits (n : Nat) : '\r' ∉ Nat.toDigits 10 n := by
  intro h
  exact absurd (Nat.isDigit_of_mem_toDigits (by decide) (by decide) h) (by decide)

theorem return_not_mem_toString (n : Int) : '\r' ∉ (toString n).toList := by
  cases n with
  | ofNat k =>
    rw [toList_ofNat]
    exact return_not_mem_digits k
  | negSucc k =>
    rw [toList_negSucc, List.mem_cons, not_or]
    exact ⟨by decide, return_not_mem_digits (k + 1)⟩

theorem return_not_mem_unitEscape {n : Nat} (h : n < 0x10000) :
    '\r' ∉ Writer.unitEscape n := by
  have last (k : Nat) : (k % 16).digitChar ≠ '\r' :=
    digitChar_ne_return (Nat.mod_lt _ (by decide))
  have first : (n / 16 / 16 / 16).digitChar ≠ '\r' := digitChar_ne_return (by omega)
  simp [Writer.unitEscape, hex_four h, (last _).symm, first.symm]

theorem return_not_mem_escapeChar (c : Char) : '\r' ∉ Writer.escapeChar c := by
  have valid := toNat_valid c
  rcases escapeChar_cases c with ⟨letter, hwrite, -, hletter⟩ | ⟨hwrite, -, -, hplain⟩ |
    ⟨hwrite, hunit⟩ | ⟨hwrite, hpair⟩
  · have hreturn : letter ≠ '\r' := by
      rintro rfl
      cases hletter
    simp [hwrite, hreturn.symm]
  · rw [hwrite, List.mem_singleton]
    rintro rfl
    exact absurd hplain (by decide)
  · rw [hwrite]
    exact return_not_mem_unitEscape hunit
  · rw [hwrite, List.mem_append, not_or]
    exact ⟨return_not_mem_unitEscape (by omega), return_not_mem_unitEscape (by omega)⟩

theorem return_not_mem_string (s : String) : '\r' ∉ Writer.string s := by
  simp [Writer.string, return_not_mem_escapeChar]

theorem return_not_mem_real (r : Real) : '\r' ∉ Writer.real r := by
  cases r with
  | scientific negative coefficient exponent =>
    have digits := return_not_mem_digits coefficient
    have power := return_not_mem_toString exponent
    cases negative <;> simp_all [Writer.real]
  | infinite negative => cases negative <;> decide
  | notANumber => decide

structure Returnless (layout : Writer.Layout) : Prop where
  line : ∀ depth, '\r' ∉ layout.line depth
  comma : '\r' ∉ layout.comma
  colon : '\r' ∉ layout.colon

theorem returnless_indented : Returnless Writer.indented where
  line depth := by simp [Writer.indented]
  comma := by decide
  colon := by decide

mutual

theorem return_not_mem_value (hl : Returnless layout) (depth : Nat) :
    ∀ j, '\r' ∉ Writer.value layout depth j
  | .null => by simp [Writer.value]
  | .bool b => by cases b <;> simp [Writer.value]
  | .int n => return_not_mem_toString n
  | .real r => return_not_mem_real r
  | .text s => return_not_mem_string s
  | .array [] | .object [] => by simp [Writer.value]
  | .array (v :: vs) => by
    simp [Writer.value, hl.line, return_not_mem_value hl (depth + 1) v,
      return_not_mem_elements hl (depth + 1) vs]
  | .object ((k, v) :: ms) => by
    simp [Writer.value, hl.line, hl.colon, return_not_mem_string,
      return_not_mem_value hl (depth + 1) v, return_not_mem_members hl (depth + 1) ms]

theorem return_not_mem_elements (hl : Returnless layout) (depth : Nat) :
    ∀ vs, '\r' ∉ Writer.elements layout depth vs
  | [] => by simp [Writer.elements]
  | v :: vs => by
    simp [Writer.elements, hl.line, hl.comma, return_not_mem_value hl depth v,
      return_not_mem_elements hl depth vs]

theorem return_not_mem_members (hl : Returnless layout) (depth : Nat) :
    ∀ ms, '\r' ∉ Writer.members layout depth ms
  | [] => by simp [Writer.members]
  | (k, v) :: ms => by
    simp [Writer.members, hl.line, hl.comma, hl.colon, return_not_mem_string,
      return_not_mem_value hl depth v, return_not_mem_members hl depth ms]

end

end SchemaMigration.Json
