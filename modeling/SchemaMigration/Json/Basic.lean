/-!
JSON values. Objects keep the order of their members, and integers are told apart from numbers
that are written with a fraction or an exponent.
-/

namespace SchemaMigration

inductive Json.Real
  /-- The number `coefficient * 10 ^ exponent`, as its digits were written. -/
  | scientific (negative : Bool) (coefficient : Nat) (exponent : Int)
  | infinite (negative : Bool)
  | notANumber
  deriving DecidableEq, Repr

inductive Json
  | null
  | bool (value : Bool)
  | int (value : Int)
  | real (value : Json.Real)
  | text (value : String)
  | array (items : List Json)
  | object (members : List (String × Json))
  deriving Inhabited, Repr, BEq

namespace Json

inductive Real.NotIntegral
  | notFinite
  | fractional
  | tooLarge
  deriving DecidableEq, Repr

/-- The nearest double. Beyond 400 places before or after the point nothing is left to round. -/
def Real.toFloat : Real → Float
  | .scientific negative coefficient exponent =>
    let places := exponent + (Nat.toDigits 10 coefficient).length
    let magnitude :=
      if coefficient = 0 ∨ places < -400 then 0.0
      else if 400 < places then 1.0 / 0.0
      else Float.ofScientific coefficient (exponent < 0) exponent.natAbs
    if negative then -magnitude else magnitude
  | .infinite negative => if negative then -1.0 / 0.0 else 1.0 / 0.0
  | .notANumber => 0.0 / 0.0

/-- The integer that a number equals once it is rounded to a double. -/
def Real.toInt (r : Real) : Except Real.NotIntegral Int :=
  let f := r.toFloat
  if f.isNaN || f.isInf then .error .notFinite
  else if f.floor != f then .error .fractional
  else if f.abs < 9223372036854775808.0 then
    let n : Int := f.abs.toUInt64.toNat
    .ok (if f < 0.0 then -n else n)
  else .error .tooLarge

def member? (key : String) : Json → Option Json
  | .object members => (members.find? fun m => m.1 == key).map Prod.snd
  | _ => none

end Json

end SchemaMigration
