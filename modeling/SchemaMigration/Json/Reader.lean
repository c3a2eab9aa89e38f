import SchemaMigration.OrderedMap
import SchemaMigration.Json.Basic
import SchemaMigration.Text.Integer

/-!
Reading JSON text. A fault is reported with the place where reading stopped: its line, its column
and the number of characters before it. Of members with the same key the last value counts, at
the place of the first. Besides the numbers of the standard, `NaN`, `Infinity` and `-Infinity` are
read. There is a limit to the digits of an integer and to the depth of a value.
-/

namespace SchemaMigration.Json

inductive Fault
  | byteOrderMark
  | expectingValue
  | expectingName
  | expectingColon
  | expectingComma
  | extraData
  | unterminatedString
  | controlCharacter
  | invalidEscape
  | invalidUnicodeEscape
  deriving DecidableEq, Repr

def Fault.text : Fault → String
  | byteOrderMark => "Unexpected UTF-8 BOM (decode using utf-8-sig)"
  | expectingValue => "Expecting value"
  | expectingName => "Expecting property name enclosed in double quotes"
  | expectingColon => "Expecting ':' delimiter"
  | expectingComma => "Expecting ',' delimiter"
  | extraData => "Extra data"
  | unterminatedString => "Unterminated string starting at"
  | controlCharacter => "Invalid control character at"
  | invalidEscape => "Invalid \\escape"
  | invalidUnicodeEscape => "Invalid \\uXXXX escape"

/-- A fault and its place: lines and columns count from one, the offset from zero. -/
structure SyntaxError where
  fault : Fault
  line : Nat
  column : Nat
  offset : Nat
  deriving DecidableEq, Repr

def SyntaxError.message (e : SyntaxError) : String :=
  e.fault.text ++ ": line " ++ toString e.line ++ " column " ++ toString e.column ++
    " (char " ++ toString e.offset ++ ")"

inductive Excess
  | digits (count : Nat)
  | depth (isArray : Bool)
  deriving DecidableEq, Repr

def Excess.message : Excess → String
  | digits count => Text.tooManyDigits count
  | depth isArray =>
    "maximum recursion depth exceeded while decoding a JSON " ++
      (if isArray then "array" else "object") ++ " from a unicode string"

inductive Unreadable
  | fault (error : SyntaxError)
  | excess (excess : Excess)
  deriving DecidableEq, Repr

def depthLimit : Nat := 980

namespace Reader

/-- Where reading stopped: at a fault and the rest of the text at its place, or at something that
is too large. -/
inductive Stop
  | fault (fault : Fault) (rest : List Char)
  | excess (excess : Excess)
  deriving DecidableEq, Repr

abbrev Result (α : Type) := Except Stop (α × List Char)

def isSpace (c : Char) : Bool := c == ' ' || c == '\t' || c == '\n' || c == '\r'

def skipSpace (cs : List Char) : List Char := cs.dropWhile isSpace

def hexValue? (c : Char) : Option Nat :=
  if c.isDigit then some (c.toNat - '0'.toNat)
  else if 'a' ≤ c ∧ c ≤ 'f' then some (c.toNat - 'a'.toNat + 10)
  else if 'A' ≤ c ∧ c ≤ 'F' then some (c.toNat - 'A'.toNat + 10)
  else none

/-- The number of four hexadecimal digits. -/
def unit? (a b c d : Char) : Option Nat := do
  let a ← hexValue? a
  let b ← hexValue? b
  let c ← hexValue? c
  let d ← hexValue? d
  return ((a * 16 + b) * 16 + c) * 16 + d

def isHighSurrogate (n : Nat) : Bool := 0xD800 ≤ n && n ≤ 0xDBFF

def isLowSurrogate (n : Nat) : Bool := 0xDC00 ≤ n && n ≤ 0xDFFF

/-- The character of a code unit; a surrogate without its partner becomes the replacement
character. -/
def unitChar (n : Nat) : Char :=
  if isHighSurrogate n || isLowSurrogate n then '\ufffd' else Char.ofNat n

def pairChar (high low : Nat) : Char :=
  Char.ofNat (0x10000 + (high - 0xD800) * 0x400 + (low - 0xDC00))

def escape? : Char → Option Char
  | '"' => some '"'
  | '\\' => some '\\'
  | '/' => some '/'
  | 'b' => some '\x08'
  | 'f' => some '\x0c'
  | 'n' => some '\n'
  | 'r' => some '\r'
  | 't' => some '\t'
  | _ => none

/-- The character that the text after a backslash stands for, and how many characters it takes.
Two escapes that are the halves of a surrogate pair are one character. -/
def escaped (start : List Char) : List Char → Except Stop (Char × Nat)
  | [] => .error (.fault .unterminatedString start)
  | 'u' :: a :: b :: c :: d :: e :: after =>
    match unit? a b c d with
    | none => .error (.fault .invalidUnicodeEscape ('u' :: a :: b :: c :: d :: e :: after))
    | some high =>
      match isHighSurrogate high, e, after with
      | true, '\\', 'u' :: a' :: b' :: c' :: d' :: _ :: _ =>
        match unit? a' b' c' d' with
        | none => .error (.fault .invalidUnicodeEscape after)
        | some low =>
          if isLowSurrogate low then .ok (pairChar high low, 11) else .ok (unitChar high, 5)
      | _, _, _ => .ok (unitChar high, 5)
  | 'u' :: rest => .error (.fault .invalidUnicodeEscape ('u' :: rest))
  | c :: rest =>
    match escape? c with
    | some c' => .ok (c', 1)
    | none => .error (.fault .invalidEscape ('\\' :: c :: rest))

/-- The characters of a string after its opening quote; `start` is the text from that quote on. -/
def string (start : List Char) : List Char → Result (List Char)
  | [] => .error (.fault .unterminatedString start)
  | c :: rest =>
    if c = '"' then .ok ([], rest)
    else if c = '\\' then
      match escaped start rest with
      | .error e => .error e
      | .ok (c', taken) =>
        (string start (rest.drop taken)).map fun (cs, after) => (c' :: cs, after)
    else if c.toNat < 0x20 then .error (.fault .controlCharacter (c :: rest))
    else (string start rest).map fun (cs, after) => (c :: cs, after)
  termination_by cs => cs.length
  decreasing_by all_goals simp_wf; try omega

def digits (cs : List Char) : List Char × List Char := cs.span Char.isDigit

def natOfDigits (cs : List Char) : Nat := cs.foldl (fun n c => 10 * n + (c.toNat - '0'.toNat)) 0

def fraction? : List Char → Option (List Char × List Char)
  | '.' :: c :: rest => if c.isDigit then some (digits (c :: rest)) else none
  | _ => none

def exponent? : List Char → Option (Int × List Char)
  | e :: rest =>
    if e == 'e' || e == 'E' then
      let (negative, unsigned) : Bool × List Char :=
        match rest with
        | '-' :: after => (true, after)
        | '+' :: after => (false, after)
        | _ => (false, rest)
      match digits unsigned with
      | ([], _) => none
      | (ds, after) =>
        let n : Int := natOfDigits ds
        some (if negative then -n else n, after)
    else none
  | [] => none

def number (start : List Char) : Result Json :=
  let (negative, cs) : Bool × List Char :=
    match start with
    | '-' :: rest => (true, rest)
    | _ => (false, start)
  let whole : Option (List Char × List Char) :=
    match cs with
    | '0' :: rest => some (['0'], rest)
    | c :: _ => if c.isDigit then some (digits cs) else none
    | [] => none
  match whole with
  | none => .error (.fault .expectingValue start)
  | some (ds, rest) =>
    match fraction? rest, exponent? rest with
    | none, none =>
      if Text.digitLimit < ds.length then .error (.excess (.digits ds.length))
      else
        let n : Int := natOfDigits ds
        .ok (.int (if negative then -n else n), rest)
    | some (fs, rest'), _ =>
      let (e, rest'') := (exponent? rest').getD (0, rest')
      .ok (.real (.scientific negative (natOfDigits (ds ++ fs)) (e - fs.length)), rest'')
    | none, some (e, rest') => .ok (.real (.scientific negative (natOfDigits ds) e), rest')

def scalar : List Char → Result Json
  | 'n' :: 'u' :: 'l' :: 'l' :: rest => .ok (.null, rest)
  | 't' :: 'r' :: 'u' :: 'e' :: rest => .ok (.bool true, rest)
  | 'f' :: 'a' :: 'l' :: 's' :: 'e' :: rest => .ok (.bool false, rest)
  | 'N' :: 'a' :: 'N' :: rest => .ok (.real .notANumber, rest)
  | 'I' :: 'n' :: 'f' :: 'i' :: 'n' :: 'i' :: 't' :: 'y' :: rest =>
    .ok (.real (.infinite false), rest)
  | '-' :: 'I' :: 'n' :: 'f' :: 'i' :: 'n' :: 'i' :: 't' :: 'y' :: rest =>
    .ok (.real (.infinite true), rest)
  | cs => number cs

/-- The members of an object with every key once. -/
def distinctMembers (members : List (String × Json)) : List (String × Json) :=
  (OrderedMap.ofList members).entries

mutual

/-- A value inside of which arrays and objects may be up to `room` deep. Every call of the four
readers takes one unit of fuel and a value takes at least one character, so three units a character
are never used up. -/
def value (room : Nat) : Nat → List Char → Result Json
  | 0, cs => .error (.fault .expectingValue cs)
  | fuel + 1, cs =>
    match cs with
    | '"' :: rest => (string cs rest).map fun (s, after) => (.text (String.ofList s), after)
    | '[' :: rest =>
      match room with
      | 0 => .error (.excess (.depth true))
      | room + 1 =>
        match skipSpace rest with
        | ']' :: after => .ok (.array [], after)
        | items => (elements room fuel items).map fun (vs, after) => (.array vs, after)
    | '{' :: rest =>
      match room with
      | 0 => .error (.excess (.depth false))
      | room + 1 =>
        match skipSpace rest with
        | '}' :: after => .ok (.object [], after)
        | items =>
          (members room fuel items).map fun (ms, after) => (.object (distinctMembers ms), after)
    | _ => scalar cs

def elements (room : Nat) : Nat → List Char → Result (List Json)
  | 0, cs => .error (.fault .expectingValue cs)
  | fuel + 1, cs =>
    match value room fuel cs with
    | .error e => .error e
    | .ok (v, rest) =>
      match skipSpace rest with
      | ']' :: after => .ok ([v], after)
      | ',' :: after =>
        (elements room fuel (skipSpace after)).map fun (vs, after) => (v :: vs, after)
      | rest => .error (.fault .expectingComma rest)

def members (room : Nat) : Nat → List Char → Result (List (String × Json))
  | 0, cs => .error (.fault .expectingName cs)
  | fuel + 1, cs =>
    match member room fuel cs with
    | .error e => .error e
    | .ok (m, rest) =>
      match skipSpace rest with
      | '}' :: after => .ok ([m], after)
      | ',' :: after =>
        (members room fuel (skipSpace after)).map fun (ms, after) => (m :: ms, after)
      | rest => .error (.fault .expectingComma rest)

def member (room : Nat) : Nat → List Char → Result (String × Json)
  | 0, cs => .error (.fault .expectingName cs)
  | fuel + 1, cs =>
    match cs with
    | '"' :: rest =>
      match string cs rest with
      | .error e => .error e
      | .ok (key, rest) =>
        match skipSpace rest with
        | ':' :: rest =>
          (value room fuel (skipSpace rest)).map fun (v, after) => ((String.ofList key, v), after)
        | rest => .error (.fault .expectingColon rest)
    | _ => .error (.fault .expectingName cs)

end

def document (cs : List Char) : Except Stop Json :=
  match cs with
  | '\ufeff' :: _ => .error (.fault .byteOrderMark cs)
  | _ =>
    match value depthLimit (3 * cs.length + 3) (skipSpace cs) with
    | .error e => .error e
    | .ok (v, rest) =>
      match skipSpace rest with
      | [] => .ok v
      | rest => .error (.fault .extraData rest)

def locate (cs : List Char) (fault : Fault) (offset : Nat) : SyntaxError :=
  let before := cs.take offset
  { fault
    line := before.count '\n' + 1
    column := (before.reverse.takeWhile (· != '\n')).length + 1
    offset }

end Reader

def parse (s : String) : Except Unreadable Json :=
  let cs := s.toList
  match Reader.document cs with
  | .ok v => .ok v
  | .error (.fault fault rest) =>
    .error (.fault (Reader.locate cs fault (cs.length - rest.length)))
  | .error (.excess excess) => .error (.excess excess)

end SchemaMigration.Json
