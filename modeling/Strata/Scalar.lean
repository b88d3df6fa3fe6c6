import Strata.Decimal.Exact

/-! The numbers that drawings are computed with. Geometry is written once over this class; it runs
on binary64 numbers and makes sense over any field with square roots. -/
namespace Strata

class Scalar (α : Type) extends Add α, Sub α, Mul α, Div α, OfScientific α where
  ofNat : Nat → α
  sqrt : α → α
  hypot : α → α → α
  ceil : α → α
  min : α → α → α
  max : α → α → α
  lt : α → α → Bool
  le : α → α → Bool
  isFinite : α → Bool

namespace Binary64

/-- The lesser number, of equal ones the second; one that is no number gives way to the other. -/
def min (x y : Float) : Float :=
  if x.isNaN then y else if y.isNaN then x else if x < y then x else y

/-- The greater number, of equal ones the second; one that is no number gives way to the other. -/
def max (x y : Float) : Float :=
  if x.isNaN then y else if y.isNaN then x else if y < x then x else y

def ceil (x : Float) : Float :=
  if !x.isFinite then x
  else
    let e := Decimal.Exact.ofFloat x
    if e.negative then -Float.ofNat (e.numerator / e.denominator) else Float.ofNat e.ceilMagnitude

/-- What is left of a finite number when a finite divisor is taken off as often as it goes, exactly.
The sign is that of the number. -/
def remainder (x y : Float) : Float :=
  let a := Decimal.Exact.ofFloat x
  let b := Decimal.Exact.ofFloat y
  let scale := if a.scale < b.scale then a.scale else b.scale
  let m := a.mantissa * Nat.pow 2 (a.scale - scale).toNat
  let n := b.mantissa * Nat.pow 2 (b.scale - scale).toNat
  let r := (Float.ofNat (m % n)).scaleB scale
  if a.negative then -r else r

def far : Float := Float.ofBits 0x6570000000000000

def near : Float := Float.ofBits 0x1A70000000000000

/-- The length of a vector. Coordinates whose squares would leave the format are scaled by a power
of two first; an infinite coordinate makes the length infinite whatever the other is. -/
def hypot (x y : Float) : Float :=
  let norm (x y : Float) : Float := (x * x + y * y).sqrt
  let a := max x.abs y.abs
  if x.isInf || y.isInf then Float.ofBits 0x7FF0000000000000
  else if a < 1e-140 then norm (x * far) (y * far) * near
  else if 1e150 < a then norm (x * near) (y * near) * far
  else norm x y

end Binary64

instance : Scalar Float where
  ofNat := Float.ofNat
  sqrt := Float.sqrt
  hypot := Binary64.hypot
  ceil := Binary64.ceil
  min := Binary64.min
  max := Binary64.max
  lt x y := x < y
  le x y := x ≤ y
  isFinite := Float.isFinite

/-- A point; what grows with `y` is for its user to say. -/
structure Point (α : Type) where
  x : α
  y : α
deriving DecidableEq, Repr

structure Rect (α : Type) where
  x : α
  y : α
  width : α
  height : α
deriving DecidableEq, Repr

end Strata
