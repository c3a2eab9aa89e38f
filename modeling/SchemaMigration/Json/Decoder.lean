import SchemaMigration.Problem
import SchemaMigration.Text.Case
import SchemaMigration.Text.Numeral

/-!
Decoding JSON values into typed ones. A decoder reports every problem it finds, in the order of the
fields, each with its location in the document.
-/

namespace SchemaMigration

/-- A value, or all the problems that stand in its way. -/
inductive Validated (α : Type) where
  | valid (value : α)
  | invalid (problems : List Problem)
  deriving Repr

namespace Validated

variable {α β : Type}

def map (f : α → β) : Validated α → Validated β
  | valid a => valid (f a)
  | invalid ps => invalid ps

/-- Problems of both sides are kept, those of the function first. -/
def apply : Validated (α → β) → Validated α → Validated β
  | valid f, valid a => valid (f a)
  | valid _, invalid ps => invalid ps
  | invalid ps, valid _ => invalid ps
  | invalid ps, invalid qs => invalid (ps ++ qs)

instance : Applicative Validated where
  pure := valid
  map := map
  seq f a := apply f (a ())

def within (step : String) : Validated α → Validated α
  | valid a => valid a
  | invalid ps => invalid (ps.map fun p => { p with path := step :: p.path })

end Validated

namespace Json

abbrev Decoder (α : Type) := Json → Validated α

namespace Decoder

variable {α β : Type}

def refuse (mismatch : Mismatch) (value : Json) : Validated α :=
  .invalid [.ofValue mismatch value]

def text : Decoder String
  | .text s => .valid s
  | v => refuse .notText v

def truthOf? (s : String) : Option Bool :=
  if ["0", "off", "f", "false", "n", "no"].contains s then some false
  else if ["1", "on", "t", "true", "y", "yes"].contains s then some true
  else none

/-- The truth value of a number. Only numbers of 64 bits are read as one at all. -/
def flagOfInt (n : Int) : Except Mismatch Bool :=
  if n = 0 then .ok false
  else if n = 1 then .ok true
  else if -9223372036854775808 ≤ n ∧ n < 9223372036854775808 then .error .unclearTruth
  else .error .notTruth

/-- A truth value, one of the numbers 0 and 1, or one of its spellings. -/
def flag : Decoder Bool := fun v =>
  let read : Except Mismatch Bool :=
    match v with
    | .bool b => .ok b
    | .int n => flagOfInt n
    | .real r =>
      match r.toInt with
      | .ok n => flagOfInt n
      | .error _ => .error .notTruth
    | .text s =>
      match truthOf? (Text.lower s) with
      | some b => .ok b
      | none => .error .unclearTruth
    | _ => .error .notTruth
  match read with
  | .ok b => .valid b
  | .error mismatch => refuse mismatch v

/-- An integer, a truth value as 1 or 0, a whole number, or a text that spells an integer. -/
def integer : Decoder Int
  | .int n => .valid n
  | .bool b => .valid (if b then 1 else 0)
  | .real r =>
    match r.toInt with
    | .ok n => .valid n
    | .error .notFinite => refuse .notFinite (.real r)
    | .error .fractional => refuse .fractional (.real r)
    | .error .tooLarge => refuse .oversizedInteger (.real r)
  | .text s =>
    match Text.readNumeral s with
    | .ok n => .valid n
    | .error .malformed => refuse .unclearInteger (.text s)
    | .error .tooLong => refuse .oversizedInteger (.text s)
  | v => refuse .notInteger v

def optional (decode : Decoder α) : Decoder (Option α)
  | .null => .valid none
  | v => (decode v).map some

def items (decode : Decoder α) (position : Nat) : List Json → Validated (List α)
  | [] => .valid []
  | v :: vs =>
    List.cons <$> (decode v).within (toString position) <*> items decode (position + 1) vs

def sequence (mismatch : Mismatch) (decode : Decoder α) : Decoder (List α)
  | .array vs => items decode 0 vs
  | v => refuse mismatch v

def list (decode : Decoder α) : Decoder (List α) := sequence .notList decode

def tuple (decode : Decoder α) : Decoder (List α) := sequence .notTuple decode

def entries (decode : Decoder α) : List (String × Json) → Validated (List (String × α))
  | [] => .valid []
  | (key, v) :: rest =>
    (fun a more => (key, a) :: more) <$> (decode v).within key <*> entries decode rest

def dictionary (decode : Decoder α) : Decoder (List (String × α))
  | .object members => entries decode members
  | v => refuse .notDictionary v

def choice (ofName? : String → Option α) (names : List String) : Decoder α
  | .text s =>
    match ofName? s with
    | some a => .valid a
    | none => refuse (.notAmong names) (.text s)
  | v => refuse (.notAmong names) v

/-- The two names under which a field is looked up. The first counts when both are given, and is
shown when neither is. -/
structure FieldName where
  first : String
  second : String
  deriving DecidableEq, Repr

def named (name : String) : FieldName := ⟨name, name⟩

/-- The value of a field and the name it was given under. -/
def FieldName.given? (field : FieldName) (members : List (String × Json)) :
    Option (String × Json) :=
  match members.lookup field.first with
  | some v => some (field.first, v)
  | none => (members.lookup field.second).map fun v => (field.second, v)

def required (field : FieldName) (decode : Decoder α) (members : List (String × Json)) :
    Validated α :=
  match field.given? members with
  | some (name, v) => (decode v).within name
  | none => (refuse .missing (.object members)).within field.first

def withDefault (field : FieldName) (default : α) (decode : Decoder α)
    (members : List (String × Json)) : Validated α :=
  match field.given? members with
  | some (name, v) => (decode v).within name
  | none => .valid default

def record (name : String) (read : List (String × Json) → Validated α) : Decoder α
  | .object members => read members
  | v => refuse (.notRecord name) v

end Decoder

end Json

end SchemaMigration
