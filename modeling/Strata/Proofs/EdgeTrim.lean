import Strata.Proofs.EdgeExtent
import Strata.Proofs.RealScalar

/-! Where bent edges end, in exact arithmetic. Each end lies on the way to the control point, at the
distance of the cut from its own node and no nearer to the other one, and between them the curve
advances along its chord. Edges that lead back and forth mirror each other in the chord. -/
namespace Strata

namespace Point

def segment (p q : Point ℝ) : Set (Point ℝ) :=
  {r | ∃ t ∈ Set.Icc (0 : ℝ) 1, r = ⟨p.x + t * (q.x - p.x), p.y + t * (q.y - p.y)⟩}

noncomputable def middle (p q : Point ℝ) : Point ℝ := ⟨(p.x + q.x) / 2.0, (p.y + q.y) / 2.0⟩

/-- The product of the ways from `p` to `q` and to `r`: zero where they are at a right angle. -/
def dot (p q r : Point ℝ) : ℝ := (q.x - p.x) * (r.x - p.x) + (q.y - p.y) * (r.y - p.y)

/-- Its sign tells on which side of the way from `p` to `q` the point `r` lies. -/
def cross (p q r : Point ℝ) : ℝ := (q.x - p.x) * (r.y - p.y) - (q.y - p.y) * (r.x - p.x)

/-- How far along the way from `p` to `q` the point next to `r` lies. -/
noncomputable def projection (p q r : Point ℝ) : ℝ := p.dot q r / p.distance q

/-- Two points are mirror images in the line through `p` and `q`. -/
structure Mirrored (p q r s : Point ℝ) : Prop where
  along : p.dot q r = p.dot q s
  across : p.cross q r = -p.cross q s

theorem distance_sq (p q : Point ℝ) : p.distance q ^ 2 = (q.x - p.x) ^ 2 + (q.y - p.y) ^ 2 :=
  Real.sq_sqrt (by positivity)

theorem distance_comm (p q : Point ℝ) : p.distance q = q.distance p := by
  unfold distance
  congr 1
  ring

theorem distance_pos {p q : Point ℝ} (apart : p ≠ q) : 0 < p.distance q := by
  refine Real.sqrt_pos.mpr ?_
  by_contra! none
  have x : q.x - p.x = 0 := by nlinarith [sq_nonneg (q.x - p.x), sq_nonneg (q.y - p.y)]
  have y : q.y - p.y = 0 := by nlinarith [sq_nonneg (q.x - p.x), sq_nonneg (q.y - p.y)]
  apply apart
  cases p
  cases q
  simp only [mk.injEq]
  exact ⟨(sub_eq_zero.mp x).symm, (sub_eq_zero.mp y).symm⟩

theorem distance_share (p q : Point ℝ) {t : ℝ} (nonneg : 0 ≤ t) :
    p.distance ⟨p.x + t * (q.x - p.x), p.y + t * (q.y - p.y)⟩ = t * p.distance q := by
  unfold distance
  rw [← Real.sqrt_sq nonneg, ← Real.sqrt_mul (sq_nonneg t), Real.sqrt_sq nonneg]
  congr 1
  ring

theorem projection_le_distance (p q r : Point ℝ) : p.projection q r ≤ p.distance r := by
  have product : p.dot q r ≤ p.distance r * p.distance q := by
    unfold distance
    rw [← Real.sqrt_mul (by positivity)]
    refine Real.le_sqrt_of_sq_le ?_
    unfold dot
    nlinarith [sq_nonneg ((q.x - p.x) * (r.y - p.y) - (q.y - p.y) * (r.x - p.x))]
  exact div_le_of_le_mul₀ (Real.sqrt_nonneg _) (Real.sqrt_nonneg _) product

/-- What is left of a chord is how far along it a point is from the other end. -/
theorem projection_comm {p q : Point ℝ} (apart : 0 < p.distance q) (r : Point ℝ) :
    q.projection p r = p.distance q - p.projection q r := by
  unfold projection
  rw [distance_comm q p, eq_sub_iff_add_eq, ← add_div, div_eq_iff apart.ne', ← sq, distance_sq]
  unfold dot
  ring

end Point

namespace EdgePath

open Point

theorem distance_middle_bendPoint (start finish : Point ℝ) (curvature : ℝ) :
    (start.middle finish).distance (bendPoint start finish curvature) =
      |curvature| * start.distance finish := by
  unfold Point.distance
  rw [← Real.sqrt_sq_eq_abs, ← Real.sqrt_mul (sq_nonneg _)]
  congr 1
  norm_num [bendPoint, middle]
  ring

theorem dot_bendPoint (start finish : Point ℝ) (curvature : ℝ) :
    (start.middle finish).dot finish (bendPoint start finish curvature) = 0 := by
  norm_num [bendPoint, middle, dot]
  ring

theorem cross_bendPoint (start finish : Point ℝ) (curvature : ℝ) :
    start.cross finish (bendPoint start finish curvature) =
      curvature * start.distance finish ^ 2 := by
  rw [distance_sq]
  norm_num [bendPoint, cross]
  ring

theorem cross_bendPoint_reverse (start finish : Point ℝ) (curvature : ℝ) :
    start.cross finish (bendPoint finish start curvature) =
      -(curvature * start.distance finish ^ 2) := by
  rw [distance_sq]
  norm_num [bendPoint, cross]
  ring

theorem point_curve_ends (start control finish : Point ℝ) :
    (curve start control finish).point 0 = start ∧
      (curve start control finish).point 1 = finish := by
  simp [point]

section

variable (start finish : Point ℝ) {trim : ℝ} (trims : 0 ≤ trim) (curvature t : ℝ)

include trims

theorem dot_between : start.dot finish ((between start finish trim curvature).point t) =
    along (cut (start.distance finish) trim curvature) t * start.distance finish ^ 2 := by
  rw [point_between start finish trims, distance_sq]
  unfold dot
  ring

theorem cross_between : start.cross finish ((between start finish trim curvature).point t) =
    curvature * off (cut (start.distance finish) trim curvature) t * start.distance finish ^ 2 := by
  rw [point_between start finish trims, distance_sq]
  unfold cross
  ring

/-- An edge that leads back runs through the mirror images, in the opposite order. -/
theorem mirrored_between : start.Mirrored finish
    ((between start finish trim curvature).point t)
    ((between finish start trim curvature).point (1 - t)) := by
  have alongs (share : ℝ) : along share (1 - t) = 1 - along share t := by unfold along; ring
  have offs (share : ℝ) : off share (1 - t) = off share t := by unfold off; ring
  constructor
  · rw [dot_between start finish trims, point_between finish start trims, distance_comm finish,
      alongs, distance_sq]
    unfold dot
    ring
  · rw [cross_between start finish trims, point_between finish start trims, distance_comm finish,
      alongs, offs, distance_sq]
    unfold cross
    ring

end

/-- Both ends are cut back on the way to the control point, clear of the other node, and the curve
between them advances along the chord. -/
structure IsTrimmed (start finish : Point ℝ) (trim : ℝ) (tail control tip : Point ℝ) : Prop where
  tail_mem : tail ∈ start.segment control
  tip_mem : tip ∈ finish.segment control
  distance_tail : start.distance tail = trim
  distance_tip : finish.distance tip = trim
  projection_tail : start.projection finish tail ≤ trim
  disjoint : trim < start.distance finish - trim
  projection_tip : start.distance finish - trim ≤ start.projection finish tip
  tail_outside : trim < finish.distance tail
  tip_outside : trim < start.distance tip
  advances : StrictMonoOn
    (fun t => start.projection finish ((curve tail control tip).point t)) (Set.Icc 0 1)

section

variable {start finish : Point ℝ} {trim : ℝ} (trims : 0 ≤ trim) (curvature : ℝ)
  (long : 2 * trim < start.distance finish)

include trims long

theorem projection_between (t : ℝ) :
    start.projection finish ((between start finish trim curvature).point t) =
      along (cut (start.distance finish) trim curvature) t * start.distance finish := by
  have length : 0 < start.distance finish := by linarith
  rw [projection, dot_between start finish trims, sq, ← mul_assoc, mul_div_cancel_right₀ _ length.ne']

/-- The share of the way to the control point by which an end is cut back is the cut's length, and
the control point is half a chord away or more. -/
theorem cut_mul : cut (start.distance finish) trim curvature *
      (start.distance finish * √(1 / 4 + curvature ^ 2)) = trim ∧
    cut (start.distance finish) trim curvature * start.distance finish / 2 ≤ trim := by
  have length : 0 < start.distance finish := by linarith
  have half := half_le_sqrt curvature
  have far : 0 < start.distance finish * √(1 / 4 + curvature ^ 2) := by positivity
  have shares := (cut_mem (start.distance finish) curvature trims).1
  have whole : cut (start.distance finish) trim curvature *
      (start.distance finish * √(1 / 4 + curvature ^ 2)) = trim := by
    rw [cut, if_neg long.not_ge, div_mul_cancel₀ _ far.ne']
  refine ⟨whole, ?_⟩
  calc cut (start.distance finish) trim curvature * start.distance finish / 2
      = cut (start.distance finish) trim curvature * (start.distance finish * (1 / 2)) := by ring
    _ ≤ cut (start.distance finish) trim curvature *
        (start.distance finish * √(1 / 4 + curvature ^ 2)) := by gcongr
    _ = trim := whole

theorem isTrimmed_between {tail control tip : Point ℝ}
    (course : between start finish trim curvature = .curve tail control tip) :
    IsTrimmed start finish trim tail control tip := by
  let share := cut (start.distance finish) trim curvature
  have length : 0 < start.distance finish := by linarith
  have shares : 0 ≤ share ∧ share < 1 := cut_mem (start.distance finish) curvature trims
  obtain ⟨whole, half⟩ := cut_mul trims curvature long
  obtain ⟨fromStart, fromFinish⟩ := distance_bendPoint start finish curvature
  have projections := projection_between trims curvature long
  rw [course] at projections
  have first : start.projection finish tail = share * start.distance finish / 2 := by
    rw [← (point_curve_ends tail control tip).1, projections 0]
    unfold along
    ring
  have last : start.projection finish tip =
      start.distance finish - share * start.distance finish / 2 := by
    rw [← (point_curve_ends tail control tip).2, projections 1]
    unfold along
    ring
  rw [between_real start finish trims] at course
  obtain ⟨rfl, rfl, rfl⟩ := EdgePath.curve.inj course
  constructor
  case tail_mem => exact ⟨share, ⟨shares.1, shares.2.le⟩, rfl⟩
  case tip_mem => exact ⟨share, ⟨shares.1, shares.2.le⟩, rfl⟩
  case distance_tail => rw [distance_share _ _ shares.1, fromStart, whole]
  case distance_tip => rw [distance_share _ _ shares.1, fromFinish, whole]
  case projection_tail => rwa [first]
  case disjoint => linarith
  case projection_tip =>
    rw [last]
    linarith
  -- seen from the other node an end is at least as far away as it is along the chord
  case tail_outside =>
    refine lt_of_lt_of_le ?_ (finish.projection_le_distance start _)
    rw [projection_comm length, first]
    linarith
  case tip_outside =>
    refine lt_of_lt_of_le ?_ (start.projection_le_distance finish _)
    rw [last]
    linarith
  case advances =>
    intro t _ u _ less
    simp only [projections]
    refine mul_lt_mul_of_pos_right ?_ length
    unfold along
    nlinarith

end

theorem toward_checked (p q : Point ℝ) (distance : ℝ) :
    p.checked.toward q.checked (.of distance) = (p.toward q distance).checked := by
  have asks : Scalar.le (Scalar.hypot (q.checked.x - p.checked.x) (q.checked.y - p.checked.y)) 0.0 =
      Scalar.le (Scalar.hypot (q.x - p.x) (q.y - p.y)) 0.0 := rfl
  by_cases close : Scalar.le (Scalar.hypot (q.x - p.x) (q.y - p.y)) 0.0 = true
  · simp only [Point.toward, asks, close, ↓reduceIte]
  · have length : Scalar.hypot (q.x - p.x) (q.y - p.y) ≠ 0 := by
      intro none
      norm_num [none] at close
    simp only [Point.toward, asks, close, Bool.false_eq_true, ↓reduceIte]
    simp only [Point.checked, Checked.sub_of, Checked.hypot_of, Checked.div_of _ length,
      Checked.mul_of, Checked.add_of]

theorem bendPoint_checked (start finish : Point ℝ) (curvature : ℝ) :
    bendPoint start.checked finish.checked (.of curvature) =
      (bendPoint start finish curvature).checked := by
  have two : (2.0 : ℝ) ≠ 0 := by norm_num
  simp only [bendPoint, Point.checked, Checked.sub_of, Checked.add_of, Checked.mul_of,
    Checked.ofScientific_eq, Checked.div_of _ two]

theorem between_checked (start finish : Point ℝ) (trim curvature : ℝ) :
    between start.checked finish.checked (.of trim) (.of curvature) =
      (between start finish trim curvature).checked := by
  have asks : Scalar.le (Scalar.hypot (finish.checked.x - start.checked.x)
      (finish.checked.y - start.checked.y)) (2.0 * Checked.of trim) =
        Scalar.le (Scalar.hypot (finish.x - start.x) (finish.y - start.y)) (2.0 * trim) := rfl
  simp only [between, bendPoint_checked, toward_checked, asks]
  rw [apply_ite checked]
  rfl

/-- A course between two places: cut back at both ends where they are far enough apart, and bent by
a fraction of their distance at a right angle to the chord. -/
structure IsBent (start finish : Point ℝ) (trim curvature : ℝ) (tail control tip : Point ℝ) :
    Prop where
  trimmed : 2 * trim < start.distance finish → IsTrimmed start finish trim tail control tip
  untrimmed : start.distance finish ≤ 2 * trim → tail = start ∧ tip = finish
  bend : (start.middle finish).distance control = |curvature| * start.distance finish
  perpendicular : (start.middle finish).dot finish control = 0

theorem exists_between (start finish : Point ℝ) {trim : ℝ} (trims : 0 ≤ trim) (curvature : ℝ) :
    ∃ tail tip, between start finish trim curvature =
        .curve tail (bendPoint start finish curvature) tip ∧
      IsBent start finish trim curvature tail (bendPoint start finish curvature) tip := by
  have course := between_real start finish trims curvature
  refine ⟨_, _, course, fun long => isTrimmed_between trims curvature long course, ?_,
    distance_middle_bendPoint start finish curvature, dot_bendPoint start finish curvature⟩
  intro close
  simp [cut, close]

/-- Edges between two places, one in either direction: each is bent and cut back as it should be, is
computed without a division by zero, and they are mirror images that lie on opposite sides of the
chord. -/
theorem between_opposite (start finish : Point ℝ) {trim : ℝ} (trims : 0 ≤ trim) (curvature : ℝ) :
    ∃ tail control tip tail' control' tip',
      between start finish trim curvature = .curve tail control tip ∧
      between finish start trim curvature = .curve tail' control' tip' ∧
      IsBent start finish trim curvature tail control tip ∧
      between start.checked finish.checked (.of trim) (.of curvature) =
        (EdgePath.curve tail control tip).checked ∧
      start.Mirrored finish control control' ∧
      (∀ t, start.Mirrored finish ((curve tail control tip).point t)
        ((curve tail' control' tip').point (1 - t))) ∧
      (curvature ≠ 0 → start ≠ finish →
        start.cross finish control * start.cross finish control' < 0) := by
  obtain ⟨tail, tip, course, bent⟩ := exists_between start finish trims curvature
  obtain ⟨tail', tip', course', _⟩ := exists_between finish start trims curvature
  have mirrored := mirrored_between start finish trims curvature
  rw [course, course'] at mirrored
  refine ⟨_, _, _, _, _, _, course, course', bent, ?_, ?_, mirrored, ?_⟩
  · rw [← course]
    exact between_checked start finish trim curvature
  · constructor
    · norm_num [bendPoint, dot]
      ring
    · rw [cross_bendPoint, cross_bendPoint_reverse, neg_neg]
  · intro bends apart
    have length := distance_pos apart
    rw [cross_bendPoint, cross_bendPoint_reverse, mul_neg, neg_lt_zero]
    exact mul_self_pos.mpr (mul_ne_zero bends (pow_ne_zero 2 length.ne'))

theorem between_opposite_slanted :
    let start : Point ℝ := ⟨0, 0⟩
    let finish : Point ℝ := ⟨30, 40⟩
    (0 : ℝ) ≤ 10 ∧ ∃ tail control tip, between start finish 10 (3 / 8) = .curve tail control tip ∧
      start.distance tail = 10 ∧ 10 < start.distance tip ∧
      (start.middle finish).distance control = 75 / 4 := by
  intro start finish
  have trims : (0 : ℝ) ≤ 10 := by norm_num
  have length : start.distance finish = 50 := by
    rw [Point.distance, Real.sqrt_eq_iff_eq_sq (by positivity) (by norm_num)]
    norm_num [start, finish]
  obtain ⟨tail, control, tip, _, _, _, course, _, bent, _⟩ :=
    between_opposite start finish trims (3 / 8)
  have trimmed := bent.trimmed (by rw [length]; norm_num)
  refine ⟨trims, tail, control, tip, course, trimmed.distance_tail, trimmed.tip_outside, ?_⟩
  rw [bent.bend, length]
  norm_num [abs_of_pos]

end EdgePath

end Strata
