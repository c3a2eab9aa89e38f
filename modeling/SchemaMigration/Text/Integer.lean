import SchemaMigration.Text.Blank
import SchemaMigration.Text.Shown

/-!
Reading integers. A decimal integer has an optional sign and digits, between which a single
underscore may stand; which characters count as digits is a parameter. A text with more digits than
the limit is not read, and an integer with more digits is not written.
-/

namespace SchemaMigration.Text

/-- The code points of the digit zero of every script, by the Unicode 14 database; the other nine
digits follow each of them. -/
def zeroDigits : List Nat :=
  [0x30, 0x660, 0x6F0, 0x7C0, 0x966, 0x9E6, 0xA66, 0xAE6, 0xB66, 0xBE6, 0xC66, 0xCE6, 0xD66,
   0xDE6, 0xE50, 0xED0, 0xF20, 0x1040, 0x1090, 0x17E0, 0x1810, 0x1946, 0x19D0, 0x1A80, 0x1A90,
   0x1B50, 0x1BB0, 0x1C40, 0x1C50, 0xA620, 0xA8D0, 0xA900, 0xA9D0, 0xA9F0, 0xAA50, 0xABF0,
   0xFF10, 0x104A0, 0x10D30, 0x11066, 0x110F0, 0x11136, 0x111D0, 0x112F0, 0x11450, 0x114D0,
   0x11650, 0x116C0, 0x11730, 0x118E0, 0x11950, 0x11C50, 0x11D50, 0x11DA0, 0x16A60, 0x16AC0,
   0x16B50, 0x1D7CE, 0x1D7D8, 0x1D7E2, 0x1D7EC, 0x1D7F6, 0x1E140, 0x1E2F0, 0x1E950, 0x1FBF0]

def digitValue? (c : Char) : Option Nat :=
  (zeroDigits.find? fun first => first ≤ c.toNat && c.toNat ≤ first + 9).map (c.toNat - ·)

/-- Digits with single underscores between them, after a digit; `value` is what was read so far. -/
def readDigits (digit? : Char → Option Nat) (value : Nat) : List Char → Option Nat
  | [] => some value
  | '_' :: c :: rest =>
    match digit? c with
    | some d => readDigits digit? (10 * value + d) rest
    | none => none
  | c :: rest =>
    match digit? c with
    | some d => readDigits digit? (10 * value + d) rest
    | none => none

def readNat (digit? : Char → Option Nat) : List Char → Option Nat
  | [] => none
  | c :: rest =>
    match digit? c with
    | some d => readDigits digit? d rest
    | none => none

def readSigned (digit? : Char → Option Nat) : List Char → Option Int
  | '-' :: rest => (readNat digit? rest).map fun n => - (n : Int)
  | '+' :: rest => (readNat digit? rest).map fun n => (n : Int)
  | cs => (readNat digit? cs).map fun n => (n : Int)

def digitLimit : Nat := 4300

def isWritable (n : Int) : Bool := decide ((Nat.toDigits 10 n.natAbs).length ≤ digitLimit)

inductive IntegerFault
  | malformed (text : String)
  | tooManyDigits (count : Nat)
  | unwritable
  deriving DecidableEq, Repr

/-- How many digits a text starts with, between which single underscores may stand, and what
follows them. -/
def leadingDigits (digit? : Char → Option Nat) : List Char → Nat × List Char
  | [] => (0, [])
  | '_' :: c :: rest =>
    if (digit? c).isSome then
      let (count, after) := leadingDigits digit? rest
      (count + 1, after)
    else (0, '_' :: c :: rest)
  | c :: rest =>
    if (digit? c).isSome then
      let (count, after) := leadingDigits digit? rest
      (count + 1, after)
    else (0, c :: rest)

/-- Whether a text starts with more digits than the limit, and how many they are. Those that an
underscore follows without another digit do not count. -/
def excessDigits? (digit? : Char → Option Nat) (cs : List Char) : Option Nat :=
  let unsigned := match cs with
    | '-' :: rest => rest
    | '+' :: rest => rest
    | _ => cs
  let (count, after) := leadingDigits digit? unsigned
  if digitLimit < count ∧ after.head? ≠ some '_' ∧ unsigned.head? ≠ some '_' then some count
  else none

def readInteger (s : String) : Except IntegerFault Int :=
  let cs := trim isBlank s.toList
  match excessDigits? digitValue? cs with
  | some count => .error (.tooManyDigits count)
  | none =>
    match readSigned digitValue? cs with
    | some n => .ok n
    | none => .error (.malformed s)

def tooManyDigits (count : Nat) : String :=
  "Exceeds the limit (" ++ toString digitLimit ++
    " digits) for integer string conversion: value has " ++ toString count ++
    " digits; use sys.set_int_max_str_digits() to increase the limit"

def unwritableInteger : String :=
  "Exceeds the limit (" ++ toString digitLimit ++
    " digits) for integer string conversion; use sys.set_int_max_str_digits() to increase the limit"

def shownLimit : Nat := 200

def IntegerFault.message : IntegerFault → String
  | malformed text =>
    "invalid literal for int() with base 10: " ++
      String.ofList ((shown text).toList.take shownLimit)
  | tooManyDigits count => Text.tooManyDigits count
  | unwritable => unwritableInteger

end SchemaMigration.Text
