import Mathlib.Analysis.Real.Sqrt
import Mathlib.Tactic.NormNum
import Strata.Drawing.Painting
import Strata.Scalar

/-! Exact arithmetic. Over the real numbers every rule of the geometry is the formula that it looks
like, so what is proved of it holds up to the rounding of the numbers that are drawn with. In the
checked numbers a division by zero has no result, nor has anything that is computed from one: a
drawing that has all its numbers there was computed without such a division. -/
namespace Strata

noncomputable instance : Scalar ℝ where
  ofNat n := n
  sqrt := Real.sqrt
  hypot x y := √(x ^ 2 + y ^ 2)
  ceil x := ⌈x⌉
  min := Min.min
  max := Max.max
  lt x y := decide (x < y)
  le x y := decide (x ≤ y)
  isFinite _ := true

namespace Scalar

@[simp] theorem ofNat_real (n : ℕ) : (ofNat n : ℝ) = n := rfl

@[simp] theorem sqrt_real (x : ℝ) : sqrt x = √x := rfl

@[simp] theorem hypot_real (x y : ℝ) : hypot x y = √(x ^ 2 + y ^ 2) := rfl

@[simp] theorem ceil_real (x : ℝ) : ceil x = ⌈x⌉ := rfl

@[simp] theorem min_real (x y : ℝ) : min x y = Min.min x y := rfl

@[simp] theorem max_real (x y : ℝ) : max x y = Max.max x y := rfl

@[simp] theorem lt_real (x y : ℝ) : lt x y = decide (x < y) := rfl

@[simp] theorem le_real (x y : ℝ) : le x y = decide (x ≤ y) := rfl

@[simp] theorem isFinite_real (x : ℝ) : isFinite x = true := rfl

end Scalar

/-- A real number, unless it comes from a division by zero. -/
structure Checked where
  value? : Option ℝ

namespace Checked

def of (x : ℝ) : Checked := ⟨some x⟩

def lift (f : ℝ → ℝ) (a : Checked) : Checked := ⟨a.value?.map f⟩

def lift₂ (f : ℝ → ℝ → ℝ) (a b : Checked) : Checked :=
  ⟨a.value?.bind fun x => b.value?.map fun y => f x y⟩

/-- A comparison of numbers; it fails where there is none. -/
noncomputable def compare (r : ℝ → ℝ → Prop) [DecidableRel r] (a b : Checked) : Bool :=
  (a.value?.bind fun x => b.value?.map fun y => decide (r x y)).getD false

noncomputable def div (a b : Checked) : Checked :=
  ⟨a.value?.bind fun x => b.value?.bind fun y => if y = 0 then none else some (x / y)⟩

noncomputable instance : Scalar Checked where
  add := lift₂ (· + ·)
  sub := lift₂ (· - ·)
  mul := lift₂ (· * ·)
  div := div
  ofScientific m negative e := of (OfScientific.ofScientific m negative e)
  ofNat n := of n
  sqrt := lift Real.sqrt
  hypot := lift₂ Scalar.hypot
  ceil := lift Scalar.ceil
  min := lift₂ Min.min
  max := lift₂ Max.max
  lt := compare (· < ·)
  le := compare (· ≤ ·)
  isFinite a := a.value?.isSome

@[simp] theorem add_of (x y : ℝ) : of x + of y = of (x + y) := rfl

@[simp] theorem sub_of (x y : ℝ) : of x - of y = of (x - y) := rfl

@[simp] theorem mul_of (x y : ℝ) : of x * of y = of (x * y) := rfl

theorem div_of (x : ℝ) {y : ℝ} (apart : y ≠ 0) : of x / of y = of (x / y) :=
  congrArg Checked.mk (if_neg apart)

theorem div_zero (x : ℝ) : of x / of 0 = ⟨none⟩ := congrArg Checked.mk (if_pos rfl)

@[simp] theorem hypot_of (x y : ℝ) : Scalar.hypot (of x) (of y) = of (Scalar.hypot x y) := rfl

@[simp] theorem le_of (x y : ℝ) : Scalar.le (of x) (of y) = Scalar.le x y := rfl

@[simp] theorem ofScientific_eq (m : ℕ) (negative : Bool) (e : ℕ) :
    (OfScientific.ofScientific m negative e : Checked) =
      of (OfScientific.ofScientific m negative e) := rfl

end Checked

/-- A point with both coordinates. -/
def Point.checked (p : Point ℝ) : Point Checked := ⟨.of p.x, .of p.y⟩

/-- A course with all coordinates. -/
def EdgePath.checked : EdgePath ℝ → EdgePath Checked
  | .curve start control finish => .curve start.checked control.checked finish.checked
  | .loop start control₁ control₂ finish =>
    .loop start.checked control₁.checked control₂.checked finish.checked

end Strata
