/-!
Blanks, trimming, words and lines. A blank is a character that separates words in a schema file
or a type name; the lines of a comment end at every kind of line boundary.
-/

namespace SchemaMigration.Text

def isWhiteSpace (c : Char) : Bool :=
  let n := c.toNat
  (9 ≤ n && n ≤ 13) || n == 0x20 || n == 0x85 || n == 0xA0 || n == 0x1680 ||
    (0x2000 ≤ n && n ≤ 0x200A) || n == 0x2028 || n == 0x2029 || n == 0x202F ||
    n == 0x205F || n == 0x3000

/-- White space and the four information separators. -/
def isBlank (c : Char) : Bool :=
  isWhiteSpace c || (0x1C ≤ c.toNat && c.toNat ≤ 0x1F)

def trimStart (blank : Char → Bool) (cs : List Char) : List Char := cs.dropWhile blank

def trimEnd (blank : Char → Bool) (cs : List Char) : List Char :=
  (cs.reverse.dropWhile blank).reverse

def trim (blank : Char → Bool) (cs : List Char) : List Char := trimEnd blank (trimStart blank cs)

def strip (s : String) : String := String.ofList (trim isBlank s.toList)

def stripEnd (s : String) : String := String.ofList (trimEnd isBlank s.toList)

def words : List Char → List (List Char)
  | [] => []
  | c :: rest =>
    if isBlank c then words rest
    else match rest, words rest with
      | [], _ => [[c]]
      | _ :: _, [] => [[c]]
      | d :: _, word :: others =>
        if isBlank d then [c] :: word :: others else (c :: word) :: others

def isLineBoundary (c : Char) : Bool :=
  let n := c.toNat
  (10 ≤ n && n ≤ 13) || (0x1C ≤ n && n ≤ 0x1E) || n == 0x85 || n == 0x2028 || n == 0x2029

/-- The lines of a text without their boundaries. A carriage return and the line feed after it are
one boundary, and no line follows the last boundary. -/
def lines : List Char → List (List Char)
  | [] => []
  | '\r' :: '\n' :: rest => [] :: lines rest
  | c :: rest =>
    if isLineBoundary c then [] :: lines rest
    else match lines rest with
      | [] => [[c]]
      | line :: others => (c :: line) :: others

/-- Every kind of line end as a line feed. -/
def normalizeLineEnds : List Char → List Char
  | [] => []
  | '\r' :: '\n' :: rest => '\n' :: normalizeLineEnds rest
  | '\r' :: rest => '\n' :: normalizeLineEnds rest
  | c :: rest => c :: normalizeLineEnds rest

def nonempty? : Option String → Option String
  | some s => if s = "" then none else some s
  | none => none

theorem nonempty?_eq_some_iff {given : Option String} {s : String} :
    nonempty? given = some s ↔ given = some s ∧ s ≠ "" := by
  cases given with
  | none => simp [nonempty?]
  | some t =>
    by_cases h : t = ""
    · simp only [nonempty?, h, if_true, Option.some.injEq]
      constructor
      · intro none
        cases none
      · rintro ⟨rfl, hne⟩
        exact absurd rfl hne
    · simp only [nonempty?, h, if_false, Option.some.injEq]
      constructor
      · rintro rfl
        exact ⟨rfl, h⟩
      · exact And.left

end SchemaMigration.Text
