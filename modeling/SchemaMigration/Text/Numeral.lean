import SchemaMigration.Text.Blank
import SchemaMigration.Text.Integer

/-!
Numerals: the spellings of an integer that a document may use in the place of the integer itself.
Blanks around it, a plus sign, zeros in front, a fraction of zeros, and single underscores between
digits change nothing. Only ASCII digits are read.
-/

namespace SchemaMigration.Text

inductive NumeralFault
  | malformed
  | tooLong
  deriving DecidableEq, Repr

namespace Numeral

def isNonzeroDigit (c : Char) : Bool := c.isDigit && c != '0'

/-- A text that starts with a zero, without the zeros and underscores in front; the last zero
stays if no other digit follows. -/
def afterZeros? (last : Char) : List Char → Option (List Char)
  | [] => some [last]
  | c :: rest =>
    if c = '0' ∨ c = '_' then afterZeros? c rest
    else if c = '.' then some (last :: c :: rest)
    else if isNonzeroDigit c ∨ c = '-' then some (c :: rest)
    else none

def withoutZeros? : List Char → Option (List Char)
  | [] => none
  | c :: rest =>
    if c = '0' then afterZeros? c rest
    else if isNonzeroDigit c ∨ c = '-' then some (c :: rest)
    else none

def withoutPlus? : List Char → Option (List Char)
  | '+' :: '-' :: _ => none
  | '+' :: rest => some rest
  | cs => some cs

/-- A text without a decimal point that only zeros follow, at least one. -/
def withoutFraction (cs : List Char) : List Char :=
  match cs.span (· != '.') with
  | (whole, '.' :: '0' :: zeros) => if zeros.all (· == '0') then whole else cs
  | _ => cs

def hasSingleUnderscores : List Char → Bool
  | [] => true
  | ['_'] => false
  | '_' :: '_' :: _ => false
  | _ :: rest => hasSingleUnderscores rest

def withoutUnderscores (cs : List Char) : List Char :=
  if cs.head? ≠ some '_' ∧ hasSingleUnderscores cs then cs.filter (· != '_') else cs

def value (digits : List Char) : Nat :=
  digits.foldl (fun n c => 10 * n + (c.toNat - '0'.toNat)) 0

/-- An optional minus sign and digits, no zero before another digit. More characters than the limit
are not read, whatever follows them. -/
def readDigits (cs : List Char) : Except NumeralFault Int :=
  let (negative, unsigned) : Bool × List Char :=
    match cs with
    | '-' :: rest => (true, rest)
    | _ => (false, cs)
  let (digits, rest) := unsigned.span Char.isDigit
  if digits = [] ∨ (digits.head? = some '0' ∧ digits ≠ ['0']) then .error .malformed
  else if digitLimit < digits.length + (if negative then 1 else 0) then .error .tooLong
  else if rest ≠ [] then .error .malformed
  else
    let n : Int := value digits
    .ok (if negative then -n else n)

end Numeral

def readNumeral (s : String) : Except NumeralFault Int :=
  match Numeral.withoutPlus? (trim isWhiteSpace s.toList) >>= Numeral.withoutZeros? with
  | none => .error .malformed
  | some cs => Numeral.readDigits (Numeral.withoutUnderscores (Numeral.withoutFraction cs))

end SchemaMigration.Text
