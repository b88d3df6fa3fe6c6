import Strata.Decimal.Exact

/-! Binary64 numbers as decimal text, in the fewest digits that identify them or with a set count of
places. A decimal identifies a number when it lies between the midpoints to the two neighbours; the
midpoints themselves count exactly when the mantissa is even. Each grid `10 ^ g` is tried from
coarse to fine, and on it only the two points around the value. With a set count of places a half
goes to the even neighbour, and a negative value keeps its sign even when it rounds to zero. -/
namespace Strata.Decimal

structure Digits where
  digits : Nat
  exponent : Int
deriving DecidableEq, Repr

/-- Which of two equally near candidates is taken. -/
inductive Tie where
  | up
  | even
deriving DecidableEq, Repr

/-- The point of the grid `10 ^ g` that identifies the value: of two the nearer. -/
def Exact.gridPoint? (e : Exact) (tie : Tie) (g : Int) : Option Nat :=
  -- four units per mantissa step, so that the midpoints are whole
  let unit := Nat.pow 2 (e.scale - 2).toNat * Nat.pow 10 (-g).toNat
  let step := Nat.pow 2 (2 - e.scale).toNat * Nat.pow 10 g.toNat
  let value := 4 * e.mantissa * unit
  let low := (4 * e.mantissa - if e.narrowBelow then 1 else 2) * unit
  let high := (4 * e.mantissa + 2) * unit
  let below := value / step
  let closed := e.mantissa % 2 = 0
  let takesBelow := low < below * step ∨ closed ∧ low = below * step
  let takesAbove := (below + 1) * step < high ∨ closed ∧ (below + 1) * step = high
  let nearerAbove := (2 * below + 1) * step < 2 * value ∨
    (2 * below + 1) * step = 2 * value ∧ (tie = .up ∨ below % 2 = 1)
  if takesBelow then some (if takesAbove ∧ nearerAbove then below + 1 else below)
  else if takesAbove then some (below + 1)
  else none

/-- The decimal exponent of the leading digit of a positive value: an estimate from the binary
logarithm, which is never above and at most three below, raised by comparison. -/
def Exact.leadingExponent (e : Exact) : Int :=
  let estimate := Int.fdiv (((e.mantissa.log2 : Int) + e.scale) * 1233) 4096 - 2
  let reached (k : Int) : Bool :=
    Nat.pow 10 k.toNat * e.denominator ≤ e.numerator * Nat.pow 10 (-k).toNat
  (([3, 2, 1].find? fun j : Nat => reached (estimate + j)).map fun j : Nat => estimate + j).getD
    estimate

def Digits.strip (d : Digits) : Digits :=
  if h : d.digits ≠ 0 ∧ d.digits % 10 = 0 then
    Digits.strip ⟨d.digits / 10, d.exponent + 1⟩
  else d
termination_by d.digits
decreasing_by omega

/-- The fewest digits that identify the magnitude of the value; seventeen always do. -/
def Exact.shortest (e : Exact) (tie : Tie) : Digits :=
  if e.mantissa = 0 then ⟨0, 0⟩
  else
    let lead := e.leadingExponent
    let found := (List.range 17).findSome? fun (n : Nat) =>
      (e.gridPoint? tie (lead - n)).map fun d => Digits.mk d (lead - n)
    (found.getD ⟨e.numerator, 0⟩).strip

example : (Exact.ofFloat 2.98023223876953125e-8).shortest .up = ⟨29802322387695313, -24⟩ := by
  decide +kernel
example : (Exact.ofFloat 2.98023223876953125e-8).shortest .even = ⟨29802322387695312, -24⟩ := by
  decide +kernel

structure Form where
  tie : Tie
  /-- Whole values end in a point and a zero. -/
  pointZero : Bool
  /-- The exponents of the leading digit that are written positionally, from the first up to but
  without the second; every exponent when absent. -/
  positional : Option (Int × Int)

/-- Always positional, a whole number without a point. -/
def plain : Form := ⟨.up, false, none⟩

/-- Positional from 0.00001 up to 10 to the 16th, otherwise with a signed exponent. -/
def json : Form := ⟨.even, true, some (-5, 16)⟩

def zeros (n : Nat) : String := "".pushn '0' n

def Form.layoutPositional (f : Form) (digits : String) (exponent : Int) : String :=
  let whole := (digits.length : Int) + exponent
  if 0 ≤ exponent then digits ++ zeros exponent.toNat ++ (if f.pointZero then ".0" else "")
  else if 0 < whole then
    String.ofList (digits.toList.take whole.toNat) ++ "." ++
      String.ofList (digits.toList.drop whole.toNat)
  else "0." ++ zeros (-whole).toNat ++ digits

def layoutScientific (digits : String) (exponent : Int) : String :=
  let lead := (digits.length : Int) + exponent - 1
  let mark := if lead < 0 then "e-" else "e+"
  let rest := digits.toList.drop 1
  let fraction := if rest.isEmpty then "" else "." ++ String.ofList rest
  String.ofList (digits.toList.take 1) ++ fraction ++ mark ++ toString lead.natAbs

def Form.layout (f : Form) (d : Digits) : String :=
  let digits := toString d.digits
  let lead := (digits.length : Int) + d.exponent - 1
  match f.positional with
  | none => f.layoutPositional digits d.exponent
  | some (first, limit) =>
    if d.digits = 0 ∨ first ≤ lead ∧ lead < limit then f.layoutPositional digits d.exponent
    else layoutScientific digits d.exponent

def Form.render (f : Form) (x : Float) : String :=
  if x.isNaN then "NaN"
  else
    let e := Exact.ofFloat x
    let sign := if e.negative then "-" else ""
    sign ++ if x.isFinite then f.layout (e.shortest f.tie) else "inf"

example : plain.render 0.1 = "0.1" ∧ plain.render (-0.0) = "-0" := by decide +kernel
example : json.render 1e16 = "1e+16" ∧ json.render 1.5e-6 = "1.5e-6" := by decide +kernel

def roundHalfEven (numerator denominator : Nat) : Nat :=
  let quotient := numerator / denominator
  let twice := 2 * (numerator % denominator)
  if denominator < twice ∨ twice = denominator ∧ quotient % 2 = 1 then quotient + 1 else quotient

def withPoint (places units : Nat) : String :=
  let digits := (toString units).toList
  let padded := List.replicate (places + 1 - digits.length) '0' ++ digits
  let whole := padded.length - places
  String.ofList (padded.take whole) ++
    if places = 0 then "" else "." ++ String.ofList (padded.drop whole)

def fixed (places : Nat) (x : Float) : String :=
  if x.isNaN then "NaN"
  else
    let e := Exact.ofFloat x
    let sign := if e.negative then "-" else ""
    sign ++ if x.isFinite then
      withPoint places (roundHalfEven (e.numerator * Nat.pow 10 places) e.denominator)
    else "inf"

example : fixed 2 0.125 = "0.12" ∧ fixed 2 0.375 = "0.38" := by decide +kernel
example : fixed 2 (-0.001) = "-0.00" ∧ fixed 0 2.5 = "2" := by decide +kernel

end Strata.Decimal
