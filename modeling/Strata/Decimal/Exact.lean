import Strata.Basic

/-! Binary64 numbers by their exact value, a whole number times a power of two, and the numbers that
decimal literals stand for. -/
namespace Strata.Decimal

/-- A finite number: `mantissa * 2 ^ scale`, below zero when `negative`. -/
structure Exact where
  negative : Bool
  mantissa : Nat
  scale : Int
  /-- The neighbour below is only half as far away as the neighbour above. -/
  narrowBelow : Bool
deriving DecidableEq, Repr

/-- The value of a finite number. Infinities and NaN have none and are told apart beforehand. -/
def Exact.ofFloat (x : Float) : Exact :=
  let bits := x.toBits.toNat
  let biased := bits / Nat.pow 2 52 % 2048
  let fraction := bits % Nat.pow 2 52
  let negative := decide (Nat.pow 2 63 ≤ bits)
  if biased = 0 then ⟨negative, fraction, -1074, false⟩
  else ⟨negative, Nat.pow 2 52 + fraction, (biased : Int) - 1075, fraction = 0 && 1 < biased⟩

def Exact.numerator (e : Exact) : Nat := e.mantissa * Nat.pow 2 e.scale.toNat
def Exact.denominator (e : Exact) : Nat := Nat.pow 2 (-e.scale).toNat

def Exact.truncate (e : Exact) : Int :=
  let n : Int := (e.numerator / e.denominator : Nat)
  if e.negative then -n else n

def Exact.ceilMagnitude (e : Exact) : Nat :=
  (e.numerator + (e.denominator - 1)) / e.denominator

/-- The whole number nearest to the magnitude; a half goes up. -/
def Exact.roundMagnitude (e : Exact) : Nat :=
  (2 * e.numerator + e.denominator) / (2 * e.denominator)

example : (Exact.ofFloat 2.5).roundMagnitude = 3 := by decide +kernel

/-- The number nearest to `digits * 10 ^ exponent`, a tie going to the even mantissa. Values beyond
the reach of the format are infinite or zero without the power of ten being computed. -/
def nearest (digits : Nat) (exponent : Int) : Float :=
  let lead := ((toString digits).length : Int) + exponent
  if digits = 0 ∨ lead < -400 then 0
  else if 400 < lead then Float.ofBits 0x7FF0000000000000
  else Float.ofScientific digits (exponent < 0) exponent.natAbs

def splitDigits (s : List Char) : List Char × List Char :=
  (s.takeWhile Text.isDigit, s.dropWhile Text.isDigit)

def exponent? (s : List Char) : Option Int :=
  let (negative, digits) := match s with
    | '-' :: r => (true, r)
    | '+' :: r => (false, r)
    | r => (false, r)
  if digits.isEmpty ∨ !digits.all Text.isDigit then none
  else
    let n : Int := Text.value 10 digits
    some (if negative then -n else n)

/-- Digits with at most one point, at least one digit on either side of it, and an optional
exponent. -/
def unsigned? (s : List Char) : Option Float :=
  let (whole, rest) := splitDigits s
  let (fraction, rest) := match rest with
    | '.' :: r => splitDigits r
    | r => ([], r)
  if whole.isEmpty ∧ fraction.isEmpty then none
  else
    let exponent := match rest with
      | [] => some 0
      | 'e' :: r | 'E' :: r => exponent? r
      | _ => none
    exponent.map fun e => nearest (Text.value 10 (whole ++ fraction)) (e - fraction.length)

/-- A literal: an optional sign, then digits, or one of the words for NaN and infinity in any
case. -/
def literal? (s : String) : Option Float :=
  let (negative, body) := match s.toList with
    | '-' :: r => (true, r)
    | '+' :: r => (false, r)
    | r => (false, r)
  let word := String.ofList body
  let magnitude :=
    if Text.equalIgnoringCase word "inf" ∨ Text.equalIgnoringCase word "infinity" then
      some (Float.ofBits 0x7FF0000000000000)
    else if Text.equalIgnoringCase word "nan" then some (Float.ofBits 0x7FF8000000000000)
    else unsigned? body
  magnitude.map fun x => if negative then -x else x

example : (literal? "1_0").isNone ∧ (literal? "").isNone ∧ (literal? "e1").isNone := by
  decide +kernel

end Strata.Decimal
