/-!
The shortest decimal of a float: of the decimals that read back as the float the one with the fewest
digits, and of several such ones the nearest. It is written with a point between the digits, or with
an exponent if the point would stand far from them.
-/

namespace SchemaMigration.Text

/-- A positive decimal `0.digits * 10 ^ point`. -/
structure Decimal where
  digits : Nat
  point : Int
  deriving DecidableEq, Repr

namespace Decimal

def fractionOf (f : Float) : Nat × Nat :=
  let hidden := 1 <<< 52
  let bits := f.toBits.toNat % (1 <<< 63)
  let stored := bits / hidden
  let mantissa := if stored = 0 then bits % hidden else bits % hidden + hidden
  let exponent : Int := (max stored 1 : Nat) - 1075
  if 0 ≤ exponent then (mantissa <<< exponent.toNat, 1) else (mantissa, 1 <<< exponent.natAbs)

def tenTo (n : Nat) : Nat := Nat.pow 10 n

/-- The power of ten just above a fraction, so that the fraction is less than it and not less than
its tenth. Every step takes one unit of fuel. -/
def placeFrom (numerator denominator : Nat) : Nat → Int → Int
  | 0, place => place
  | fuel + 1, place =>
    let below := if 0 ≤ place then denominator * tenTo place.toNat else denominator
    let value := if 0 ≤ place then numerator else numerator * tenTo place.natAbs
    if below ≤ value then placeFrom numerator denominator fuel (place + 1) else place

/-- The float that some digits before a power of ten read as. -/
def read (digits : Nat) (exponent : Int) : Float :=
  Float.ofScientific digits (exponent < 0) exponent.natAbs

/-- The decimal with `count` digits before the power of ten `place` that is nearest to a fraction
among the two next to it, if one of them reads as the float. -/
def ofCount? (f : Float) (numerator denominator : Nat) (place : Int) (count : Nat) :
    Option Decimal :=
  let exponent := place - count
  let above := if exponent < 0 then numerator * tenTo exponent.natAbs else numerator
  let below := if exponent < 0 then denominator else denominator * tenTo exponent.toNat
  let low := above / below
  let nearest := if 2 * (above % below) < below then [low, low + 1] else [low + 1, low]
  (nearest.find? fun digits => read digits exponent == f).map fun digits =>
    if digits = tenTo count then ⟨tenTo (count - 1), place + 1⟩ else ⟨digits, place⟩

def ofFloat (f : Float) : Decimal :=
  let (numerator, denominator) := fractionOf f
  let place := placeFrom numerator denominator 700 (-330)
  ((List.range 17).findSome? fun k => ofCount? f numerator denominator place (k + 1)).getD ⟨0, 0⟩

def shownDigits (d : Decimal) : List Char :=
  ((Nat.toDigits 10 d.digits).reverse.dropWhile (· == '0')).reverse

/-- A decimal in text: with an exponent if its first digit stands more than four places behind the
point or more than sixteen before it. -/
def text (d : Decimal) : String :=
  let digits := d.shownDigits
  let whole := String.ofList digits
  if -4 < d.point ∧ d.point ≤ 16 then
    if d.point ≤ 0 then "0." ++ String.ofList (List.replicate d.point.natAbs '0') ++ whole
    else
      let before := digits.take d.point.toNat
      let zeros := List.replicate (d.point.toNat - digits.length) '0'
      let after := digits.drop d.point.toNat
      String.ofList (before ++ zeros ++ '.' :: (if after.isEmpty then ['0'] else after))
  else
    let exponent := d.point - 1
    let power := toString exponent.natAbs
    let sign := if exponent < 0 then "-" else "+"
    let fraction := if digits.length ≤ 1 then "" else "." ++ String.ofList (digits.drop 1)
    String.ofList (digits.take 1) ++ fraction ++ "e" ++ sign ++
      (if power.length < 2 then "0" ++ power else power)

end Decimal

def shownFloat (f : Float) : String :=
  let sign := if f < 0.0 ∨ (f == 0.0 ∧ 1.0 / f < 0.0) then "-" else ""
  if f.isNaN then "nan"
  else if f.isInf then sign ++ "inf"
  else if f == 0.0 then sign ++ "0.0"
  else sign ++ (Decimal.ofFloat f.abs).text

end SchemaMigration.Text
