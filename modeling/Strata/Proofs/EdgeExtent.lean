import Mathlib.Tactic.LinearCombination
import Strata.Proofs.ExactFrame

/-! How far edges reach on the canvas, in exact arithmetic. The frame leaves room around the nodes,
not around the edges: a bent edge may bow out of the margin by a fraction of its length, and a loop
rises above its node by more than the margin has. -/
namespace Strata

def EdgePath.point : EdgePath ℝ → ℝ → Point ℝ
  | .curve start control finish, t =>
    ⟨(1 - t) ^ 2 * start.x + 2 * t * (1 - t) * control.x + t ^ 2 * finish.x,
      (1 - t) ^ 2 * start.y + 2 * t * (1 - t) * control.y + t ^ 2 * finish.y⟩
  | .loop start control₁ control₂ finish, t =>
    ⟨(1 - t) ^ 3 * start.x + 3 * t * (1 - t) ^ 2 * control₁.x + 3 * t ^ 2 * (1 - t) * control₂.x +
        t ^ 3 * finish.x,
      (1 - t) ^ 3 * start.y + 3 * t * (1 - t) ^ 2 * control₁.y + 3 * t ^ 2 * (1 - t) * control₂.y +
        t ^ 3 * finish.y⟩

noncomputable def Point.distance (p q : Point ℝ) : ℝ := √((q.x - p.x) ^ 2 + (q.y - p.y) ^ 2)

namespace EdgePath

/-- By which share of the way to the control point the ends of a bent edge are cut back. Ends that
are too close together are not. -/
noncomputable def cut (length trim curvature : ℝ) : ℝ :=
  if length ≤ 2 * trim then 0 else trim / (length * √(1 / 4 + curvature ^ 2))

/-- How far a bent edge comes from the line between its places, as a fraction of their distance. -/
noncomputable def bow (length trim curvature : ℝ) : ℝ :=
  |curvature| * (1 + cut length trim curvature) / 2

theorem half_le_sqrt (curvature : ℝ) : 1 / 2 ≤ √(1 / 4 + curvature ^ 2) := by
  refine Real.le_sqrt_of_sq_le ?_
  linarith [sq_nonneg curvature]

theorem cut_mem (length : ℝ) {trim : ℝ} (curvature : ℝ) (trims : 0 ≤ trim) :
    0 ≤ cut length trim curvature ∧ cut length trim curvature < 1 := by
  unfold cut
  split
  · exact ⟨le_rfl, one_pos⟩
  · next long =>
    -- the control point is half the length away or more, so the ends do not come to it
    have half := half_le_sqrt curvature
    have far : trim < length * √(1 / 4 + curvature ^ 2) := by nlinarith
    exact ⟨div_nonneg trims (trims.trans far.le), (div_lt_one (trims.trans_lt far)).mpr far⟩

theorem bow_le {length trim : ℝ} (curvature : ℝ) (trims : 0 ≤ trim) :
    bow length trim curvature ≤ |curvature| := by
  have share := (cut_mem length curvature trims).2
  unfold bow
  nlinarith [abs_nonneg curvature]

theorem half_le_bow {length trim : ℝ} (curvature : ℝ) (trims : 0 ≤ trim) :
    |curvature| / 2 ≤ bow length trim curvature := by
  have share := (cut_mem length curvature trims).1
  unfold bow
  nlinarith [abs_nonneg curvature]

theorem distance_bendPoint (start finish : Point ℝ) (curvature : ℝ) :
    start.distance (bendPoint start finish curvature) =
        start.distance finish * √(1 / 4 + curvature ^ 2) ∧
      finish.distance (bendPoint start finish curvature) =
        start.distance finish * √(1 / 4 + curvature ^ 2) := by
  have nonneg : 0 ≤ (finish.x - start.x) ^ 2 + (finish.y - start.y) ^ 2 := by positivity
  simp only [Point.distance, ← Real.sqrt_mul nonneg]
  constructor
  · congr 1
    norm_num [bendPoint]
    ring
  · congr 1
    norm_num [bendPoint]
    ring

theorem toward_real {p q : Point ℝ} (apart : 0 < p.distance q) (distance : ℝ) :
    p.toward q distance = ⟨p.x + distance / p.distance q * (q.x - p.x),
      p.y + distance / p.distance q * (q.y - p.y)⟩ := by
  have far : ¬ p.distance q ≤ 0 := apart.not_ge
  unfold Point.distance at *
  norm_num [Point.toward, far]
  constructor <;> ring

theorem between_real (start finish : Point ℝ) {trim : ℝ} (trims : 0 ≤ trim) (curvature : ℝ) :
    let control := bendPoint start finish curvature
    let share := cut (start.distance finish) trim curvature
    between start finish trim curvature =
      .curve ⟨start.x + share * (control.x - start.x), start.y + share * (control.y - start.y)⟩
        control
        ⟨finish.x + share * (control.x - finish.x), finish.y + share * (control.y - finish.y)⟩ := by
  intro control share
  have asks : Scalar.le (Scalar.hypot (finish.x - start.x) (finish.y - start.y)) (2.0 * trim) =
      true ↔ start.distance finish ≤ 2 * trim := by
    norm_num [Point.distance]
  simp only [between]
  by_cases close : start.distance finish ≤ 2 * trim
  · have uncut : share = 0 := if_pos close
    rw [if_pos (asks.mpr close)]
    simp [uncut, control]
  · have length : 0 < start.distance finish := by linarith
    have far : 0 < start.distance finish * √(1 / 4 + curvature ^ 2) :=
      mul_pos length (one_half_pos.trans_le (half_le_sqrt curvature))
    have share_eq : share = trim / (start.distance finish * √(1 / 4 + curvature ^ 2)) :=
      if_neg close
    obtain ⟨fromStart, fromFinish⟩ := distance_bendPoint start finish curvature
    rw [if_neg (close ∘ asks.mp), toward_real (fromStart ▸ far), toward_real (fromFinish ▸ far),
      fromStart, fromFinish, ← share_eq]

/-- How far along its chord the point of a bent edge is. -/
noncomputable def along (share t : ℝ) : ℝ := t + share * (1 - 2 * t) / 2

/-- How far the point of a bent edge is off its chord, as a multiple of the curvature. -/
noncomputable def off (share t : ℝ) : ℝ := 2 * t * (1 - t) + share * (1 - 2 * t * (1 - t))

theorem along_mem {share t : ℝ} (shares : 0 ≤ share ∧ share < 1) (inside : t ∈ Set.Icc 0 1) :
    along share t ∈ Set.Icc 0 1 := by
  obtain ⟨low, high⟩ := inside
  unfold along
  constructor <;> nlinarith

theorem off_mem {share t : ℝ} (shares : 0 ≤ share ∧ share < 1) (inside : t ∈ Set.Icc 0 1) :
    off share t ∈ Set.Icc 0 ((1 + share) / 2) := by
  obtain ⟨low, high⟩ := inside
  have product : 0 ≤ t * (1 - t) := mul_nonneg low (by linarith)
  have half : 2 * t * (1 - t) ≤ 1 / 2 := by nlinarith [sq_nonneg (t - 1 / 2)]
  unfold off
  constructor <;> nlinarith

theorem off_half (share : ℝ) : off share (1 / 2) = (1 + share) / 2 := by
  unfold off
  ring

theorem point_between (start finish : Point ℝ) {trim : ℝ} (trims : 0 ≤ trim) (curvature t : ℝ) :
    let share := cut (start.distance finish) trim curvature
    (between start finish trim curvature).point t =
      ⟨(1 - along share t) * start.x + along share t * finish.x -
          curvature * off share t * (finish.y - start.y),
        (1 - along share t) * start.y + along share t * finish.y +
          curvature * off share t * (finish.x - start.x)⟩ := by
  intro share
  rw [between_real start finish trims]
  norm_num [point, bendPoint, along, off]
  constructor <;> ring

theorem point_half_between {start finish : Point ℝ} {trim : ℝ} (trims : 0 ≤ trim)
    {curvature height : ℝ} (source : start.y = height) (target : finish.y = height)
    (upwards : curvature * (finish.x - start.x) ≤ 0) :
    ((between start finish trim curvature).point (1 / 2)).y =
      height - bow (start.distance finish) trim curvature * |finish.x - start.x| := by
  have bent : |curvature| * |finish.x - start.x| = -(curvature * (finish.x - start.x)) := by
    rw [← abs_mul, abs_of_nonpos upwards]
  simp only [point_between _ _ trims, off_half, source, target, bow]
  linear_combination (1 + cut (start.distance finish) trim curvature) / 2 * bent

theorem point_between_mem {start finish : Point ℝ} {trim : ℝ} (trims : 0 ≤ trim) (curvature : ℝ)
    {t : ℝ} (inside : t ∈ Set.Icc 0 1) {left right top bottom : ℝ}
    (horizontal : start.x ∈ Set.Icc left right ∧ finish.x ∈ Set.Icc left right)
    (vertical : start.y ∈ Set.Icc top bottom ∧ finish.y ∈ Set.Icc top bottom) :
    let p := (between start finish trim curvature).point t
    let far := bow (start.distance finish) trim curvature
    p.x ∈ Set.Icc (left - far * |finish.y - start.y|) (right + far * |finish.y - start.y|) ∧
      p.y ∈ Set.Icc (top - far * |finish.x - start.x|) (bottom + far * |finish.x - start.x|) := by
  intro p far
  have shares := cut_mem (start.distance finish) curvature trims
  obtain ⟨near, beyond⟩ := along_mem shares inside
  have offs := off_mem shares inside
  have deviation (d : ℝ) : |curvature * off (cut (start.distance finish) trim curvature) t * d| ≤
      far * |d| := by
    rw [abs_mul, abs_mul, abs_of_nonneg offs.1]
    refine mul_le_mul_of_nonneg_right ?_ (abs_nonneg d)
    calc |curvature| * off (cut (start.distance finish) trim curvature) t
        ≤ |curvature| * ((1 + cut (start.distance finish) trim curvature) / 2) := by
          gcongr
          exact offs.2
      _ = far := by rw [mul_div_assoc']; rfl
  have across := abs_le.mp (deviation (finish.y - start.y))
  have down := abs_le.mp (deviation (finish.x - start.x))
  simp only [p, point_between start finish trims]
  refine ⟨⟨?_, ?_⟩, ?_, ?_⟩
  · nlinarith [horizontal.1.1, horizontal.2.1]
  · nlinarith [horizontal.1.2, horizontal.2.2]
  · nlinarith [vertical.1.1, vertical.2.1]
  · nlinarith [vertical.1.2, vertical.2.2]

end EdgePath

namespace Scene

section

variable {g : Graph} (graph : g.Valid) {s : Settings ℝ} (valid : s.isValid = true)
  (roomy : s.figure.IsRoomy) {e : Edge} (member : e ∈ g.edges)

noncomputable def bow (s : Scene ℝ) (f : Figure ℝ) (e : Edge) : ℝ :=
  EdgePath.bow ((s.place f e.source).distance (s.place f e.target))
    (f.nodeRadius + f.pixels f.borderWidth / 2.0) f.curvature

include graph valid roomy member

theorem course_mem (apart : e.source ≠ e.target) {t : ℝ} (inside : t ∈ Set.Icc 0 1) :
    let scene := ofGraph g s.spacing s.palette
    let f := s.figure
    let a := scene.place f e.source
    let b := scene.place f e.target
    let p := (scene.course f e).point t
    p.x ∈ Set.Icc (2 * f.nodeRadius - scene.bow f e * |b.y - a.y|)
        (f.plotWidth - 2 * f.nodeRadius + scene.bow f e * |b.y - a.y|) ∧
      p.y ∈ Set.Icc (2 * f.nodeRadius - scene.bow f e * |b.x - a.x|)
        (f.plotHeight - 2 * f.nodeRadius + scene.bow f e * |b.x - a.x|) := by
  intro scene f a b p
  obtain ⟨source, target⟩ := graph.ends e member
  have trims : 0 ≤ f.nodeRadius + f.pixels f.borderWidth / 2.0 := Settings.trim_nonneg valid
  obtain ⟨sourceX, sourceY⟩ := place_margin graph roomy source
  obtain ⟨targetX, targetY⟩ := place_margin graph roomy target
  simp only [p, course, if_neg apart]
  exact EdgePath.point_between_mem trims f.curvature inside ⟨sourceX, targetX⟩ ⟨sourceY, targetY⟩

theorem holds_course (apart : e.source ≠ e.target) {t : ℝ} (inside : t ∈ Set.Icc 0 1) :
    let scene := ofGraph g s.spacing s.palette
    let f := s.figure
    let a := scene.place f e.source
    let b := scene.place f e.target
    scene.bow f e * |b.x - a.x| ≤ 2 * f.nodeRadius →
      scene.bow f e * |b.y - a.y| ≤ 2 * f.nodeRadius →
        (scene.frame f).Holds ((scene.course f e).point t) := by
  intro scene f a b across down
  obtain ⟨⟨left, right⟩, top, bottom⟩ := course_mem graph valid roomy member apart inside
  have wide : f.plotWidth ≤ (scene.frame f).width := Frame.plotWidth_le_width _ _ _ valid
  have high : f.plotHeight ≤ (scene.frame f).height := Frame.plotHeight_le_height _ _ _ f
  exact ⟨by linarith, by linarith, by linarith, by linarith⟩

/-- A curve along the upper margin that bows upwards is on the canvas exactly where its bow fits
into the margin. -/
theorem holds_course_top_iff (apart : e.source ≠ e.target) :
    let scene := ofGraph g s.spacing s.palette
    let f := s.figure
    let a := scene.place f e.source
    let b := scene.place f e.target
    a.y = 2 * f.nodeRadius → b.y = 2 * f.nodeRadius → f.curvature * (b.x - a.x) ≤ 0 →
      ((∀ t ∈ Set.Icc (0 : ℝ) 1, (scene.frame f).Holds ((scene.course f e).point t)) ↔
        scene.bow f e * |b.x - a.x| ≤ 2 * f.nodeRadius) := by
  intro scene f a b source target upwards
  have radius : 0 < f.nodeRadius := Settings.nodeRadius_pos valid
  have trims : 0 ≤ f.nodeRadius + f.pixels f.borderWidth / 2.0 := Settings.trim_nonneg valid
  constructor
  · intro holds
    have summit := (holds (1 / 2) ⟨by norm_num, by norm_num⟩).top
    rw [course, if_neg apart, EdgePath.point_half_between trims source target upwards] at summit
    exact sub_nonneg.mp summit
  · intro fits t inside
    refine holds_course graph valid roomy member apart inside fits ?_
    rw [source, target, sub_self, abs_zero, mul_zero]
    positivity

end

/-- The course of an edge between two nodes is drawn, and leaves the margin of two radii by no more
than its bow; the bow is a fraction of the extent of the edge across, and no larger a one than the
curvature. Where the bow fits into the margin the whole course is on the canvas, and a course along
the upper margin that bows upwards is not on it otherwise. -/
theorem curve_extent {nodes : List NodeRecord} {edges : List EdgeRecord} {g : Graph}
    (built : Graph.build nodes edges = .ok g) {s : Settings ℝ} (valid : s.isValid = true)
    (roomy : s.figure.IsRoomy) {e : Edge} (member : e ∈ g.edges) (apart : e.source ≠ e.target) :
    let scene := ofGraph g s.spacing s.palette
    let f := s.figure
    let a := scene.place f e.source
    let b := scene.place f e.target
    let point := (scene.course f e).point
    (scene.course f e, scene.edgeStyle f e.relation) ∈ (scene.paint f).edges ∧
      scene.bow f e ≤ |f.curvature| ∧
      (∀ t ∈ Set.Icc (0 : ℝ) 1,
        (point t).x ∈ Set.Icc (2 * f.nodeRadius - scene.bow f e * |b.y - a.y|)
          (f.plotWidth - 2 * f.nodeRadius + scene.bow f e * |b.y - a.y|) ∧
        (point t).y ∈ Set.Icc (2 * f.nodeRadius - scene.bow f e * |b.x - a.x|)
          (f.plotHeight - 2 * f.nodeRadius + scene.bow f e * |b.x - a.x|)) ∧
      (scene.bow f e * |b.x - a.x| ≤ 2 * f.nodeRadius →
        scene.bow f e * |b.y - a.y| ≤ 2 * f.nodeRadius →
          ∀ t ∈ Set.Icc (0 : ℝ) 1, (scene.frame f).Holds (point t)) ∧
      (a.y = 2 * f.nodeRadius → b.y = 2 * f.nodeRadius → f.curvature * (b.x - a.x) ≤ 0 →
        ((∀ t ∈ Set.Icc (0 : ℝ) 1, (scene.frame f).Holds (point t)) ↔
          scene.bow f e * |b.x - a.x| ≤ 2 * f.nodeRadius)) := by
  intro scene f a b point
  have graph := Graph.valid_of_build built
  have trims : 0 ≤ f.nodeRadius + f.pixels f.borderWidth / 2.0 := Settings.trim_nonneg valid
  refine ⟨?_, EdgePath.bow_le f.curvature trims, ?_, ?_, ?_⟩
  · exact mem_edges_paint graph s.spacing s.palette f member
  · intro t inside
    exact course_mem graph valid roomy member apart inside
  · intro across down t inside
    exact holds_course graph valid roomy member apart inside across down
  · exact holds_course_top_iff graph valid roomy member apart

theorem curve_extent_neighbours :
    let nodes : List NodeRecord := [⟨"a", none, none, none⟩, ⟨"b", none, none, none⟩,
      ⟨"c", none, none, none⟩, ⟨"d", none, none, none⟩, ⟨"e", none, none, none⟩,
      ⟨"f", none, some 1, none⟩]
    let s : Settings ℝ := .default
    ∃ g, Graph.build nodes [⟨none, "b", "a", none⟩] = .ok g ∧ ∃ e ∈ g.edges,
      let scene := ofGraph g s.spacing s.palette
      ∀ t ∈ Set.Icc (0 : ℝ) 1,
        (scene.frame s.figure).Holds ((scene.course s.figure e).point t) := by
  intro nodes s
  have named : ∀ r ∈ nodes, ¬ r.LacksId := by simp [nodes, NodeRecord.LacksId]
  let g := Graph.ofRecords nodes [⟨none, "b", "a", none⟩]
  have built : Graph.build nodes [⟨none, "b", "a", none⟩] = .ok g :=
    Graph.build_eq_ok_iff.mpr ⟨named, rfl⟩
  let e : Edge := ⟨none, "b", "a", "depends_on"⟩
  have member : e ∈ g.edges := by decide +kernel
  have row : (g.nodesIn 0).length = 5 := by decide +kernel
  have ends {i : Nat} {n : Node} := place_first_row_default (Graph.valid_of_build built) (i := i)
    (n := n) (by decide +kernel) (by decide +kernel) (by decide +kernel)
  obtain ⟨targetX, targetY⟩ := ends (i := 0) (n := ⟨"a", "a", 0, "unknown"⟩) (by decide +kernel)
  obtain ⟨sourceX, sourceY⟩ := ends (i := 1) (n := ⟨"b", "b", 0, "unknown"⟩) (by decide +kernel)
  norm_num [row] at targetX targetY sourceX sourceY
  have curvature : s.figure.curvature = 8 / 100 := by norm_num [s, Settings.default, Figure.default]
  obtain ⟨big, small⟩ : 27 ≤ s.figure.nodeRadius ∧ s.figure.nodeRadius ≤ 29 :=
    Figure.nodeRadius_default
  have extent : ((ofGraph g s.spacing s.palette).place s.figure "a").x -
      ((ofGraph g s.spacing s.palette).place s.figure "b").x = -(560 - s.figure.nodeRadius) := by
    rw [targetX, sourceX]
    ring
  obtain ⟨_, bowed, _, _, top⟩ := curve_extent built (s := s) Settings.isValid_default
    Figure.isRoomy_default member (by decide)
  refine ⟨g, built, e, member, (top sourceY targetY ?_).mpr ?_⟩
  · rw [extent, curvature]
    linarith
  · rw [curvature, abs_of_pos (by norm_num)] at bowed
    rw [extent, abs_neg, abs_of_nonneg (by linarith)]
    nlinarith

/-- An edge from the right end of the upper row to its left end leaves the canvas in the middle. -/
theorem curve_leaves_canvas :
    let nodes : List NodeRecord :=
      [⟨"a", none, none, none⟩, ⟨"b", none, none, none⟩, ⟨"c", none, some 1, none⟩]
    let s : Settings ℝ := .default
    s.isValid = true ∧ s.figure.IsRoomy ∧ |s.figure.curvature| ≤ 8 / 100 ∧
      ∃ g, Graph.build nodes [⟨none, "b", "a", none⟩] = .ok g ∧ ∃ e ∈ g.edges,
        e.source ≠ e.target ∧
          let scene := ofGraph g s.spacing s.palette
          (scene.course s.figure e, scene.edgeStyle s.figure e.relation) ∈
              (scene.paint s.figure).edges ∧
            ∃ t ∈ Set.Icc (0 : ℝ) 1,
              ¬ (scene.frame s.figure).Holds ((scene.course s.figure e).point t) := by
  intro nodes s
  have named : ∀ r ∈ nodes, ¬ r.LacksId := by simp [nodes, NodeRecord.LacksId]
  let g := Graph.ofRecords nodes [⟨none, "b", "a", none⟩]
  have built : Graph.build nodes [⟨none, "b", "a", none⟩] = .ok g :=
    Graph.build_eq_ok_iff.mpr ⟨named, rfl⟩
  have graph : g.Valid := Graph.valid_of_build built
  let e : Edge := ⟨none, "b", "a", "depends_on"⟩
  have member : e ∈ g.edges := by decide +kernel
  have row : (g.nodesIn 0).length = 2 := by decide +kernel
  have ends {i : Nat} {n : Node} := place_first_row_default graph (i := i) (n := n)
    (by decide +kernel) (by decide +kernel) (by decide +kernel)
  obtain ⟨targetX, targetY⟩ := ends (i := 0) (n := ⟨"a", "a", 0, "unknown"⟩) (by decide +kernel)
  obtain ⟨sourceX, sourceY⟩ := ends (i := 1) (n := ⟨"b", "b", 0, "unknown"⟩) (by decide +kernel)
  norm_num [row] at targetX targetY sourceX sourceY
  have valid : s.isValid = true := Settings.isValid_default
  have roomy : s.figure.IsRoomy := Figure.isRoomy_default
  have curvature : s.figure.curvature = 8 / 100 := by norm_num [s, Settings.default, Figure.default]
  have small : s.figure.nodeRadius ≤ 29 := Figure.nodeRadius_default.2
  refine ⟨valid, roomy, by norm_num [curvature, abs_of_pos], g, built, e, member, by decide,
    mem_edges_paint graph s.spacing s.palette s.figure member, ?_⟩
  let scene := ofGraph g s.spacing s.palette
  have extent : (scene.place s.figure "a").x - (scene.place s.figure "b").x =
      -(2240 - 4 * s.figure.nodeRadius) := by
    rw [targetX, sourceX]
    ring
  have upwards : s.figure.curvature *
      ((scene.place s.figure "a").x - (scene.place s.figure "b").x) ≤ 0 := by
    rw [extent, curvature]
    linarith
  by_contra! holds
  have fits := (holds_course_top_iff graph valid roomy member (by decide) sourceY targetY
    upwards).mp holds
  rw [extent, abs_neg, abs_of_nonneg (by linarith)] at fits
  have bow : 4 / 100 ≤ scene.bow s.figure e :=
    calc (4 : ℝ) / 100 = |s.figure.curvature| / 2 := by norm_num [curvature, abs_of_pos]
      _ ≤ scene.bow s.figure e := EdgePath.half_le_bow _ (Settings.trim_nonneg valid)
  nlinarith

end Scene

namespace EdgePath

theorem point_around (center : Point ℝ) (radius t : ℝ) :
    (around center radius).point t =
      ⟨center.x + radius * (2 * t - 1) * (1 / 2 + 43 / 10 * (t * (1 - t))),
        center.y - radius * (17 / 20 + 141 / 20 * (t * (1 - t)))⟩ := by
  norm_num [around, point]
  constructor <;> ring

theorem point_around_mem (center : Point ℝ) {radius t : ℝ} (size : 0 < radius)
    (inside : t ∈ Set.Icc 0 1) :
    let p := (around center radius).point t
    p.x ∈ Set.Icc (center.x - 3 / 4 * radius) (center.x + 3 / 4 * radius) ∧
      p.y ∈ Set.Icc (center.y - 209 / 80 * radius) (center.y - 17 / 20 * radius) := by
  intro p
  obtain ⟨low, high⟩ := inside
  have product : t * (1 - t) ∈ Set.Icc (0 : ℝ) (1 / 4) :=
    ⟨mul_nonneg low (by linarith), by nlinarith [sq_nonneg (t - 1 / 2)]⟩
  -- the cubic in `2 * t - 1` is close to touching the bound at seven tenths
  have width : (2 * t - 1) * (1 / 2 + 43 / 10 * (t * (1 - t))) ∈
      Set.Icc (-(3 / 4) : ℝ) (3 / 4) := by
    constructor
    · nlinarith [mul_nonneg (sq_nonneg (2 * t - 1 + 7 / 10)) (by linarith : 0 ≤ 12 / 5 - 2 * t)]
    · nlinarith [mul_nonneg (sq_nonneg (2 * t - 1 - 7 / 10)) (by linarith : 0 ≤ 2 / 5 + 2 * t)]
  simp only [p, point_around]
  refine ⟨⟨?_, ?_⟩, ?_, ?_⟩
  · nlinarith [width.1]
  · nlinarith [width.2]
  · nlinarith [product.2]
  · nlinarith [product.1]

theorem point_half_around (center : Point ℝ) (radius : ℝ) :
    ((around center radius).point (1 / 2)).y = center.y - 209 / 80 * radius := by
  rw [point_around]
  ring

end EdgePath

namespace Scene

/-- The loop of an edge from a node to itself is drawn. It keeps to the canvas but for its upper
side, and comes 209/80 radii above the middle of the node: a loop is on the canvas exactly where the
node is as far from its upper side. In the first of several layers a node is two radii away from it,
so the loop leaves the canvas there. -/
theorem loop_extent {nodes : List NodeRecord} {edges : List EdgeRecord} {g : Graph}
    (built : Graph.build nodes edges = .ok g) {s : Settings ℝ} (valid : s.isValid = true)
    (roomy : s.figure.IsRoomy) {e : Edge} (member : e ∈ g.edges) (back : e.source = e.target) :
    let scene := ofGraph g s.spacing s.palette
    let f := s.figure
    let a := scene.place f e.source
    let point := (scene.course f e).point
    (scene.course f e, scene.edgeStyle f e.relation) ∈ (scene.paint f).edges ∧
      scene.course f e = .around a f.nodeRadius ∧
      (∀ t ∈ Set.Icc (0 : ℝ) 1, (point t).x ∈ Set.Icc 0 (scene.frame f).width ∧
        (point t).y ∈ Set.Icc (a.y - 209 / 80 * f.nodeRadius) (scene.frame f).height) ∧
      ((∀ t ∈ Set.Icc (0 : ℝ) 1, (scene.frame f).Holds (point t)) ↔
        209 / 80 * f.nodeRadius ≤ a.y) ∧
      ∀ n, g.node? e.source = some n → IsLeast {layer | layer ∈ g.layers} n.layer →
        (∃ layer ∈ g.layers, n.layer < layer) →
          (point (1 / 2)).y = -(49 / 80 * f.nodeRadius) := by
  intro scene f a point
  have graph := Graph.valid_of_build built
  have size : 0 < f.nodeRadius := Settings.nodeRadius_pos valid
  have looped : scene.course f e = .around a f.nodeRadius := if_pos back
  obtain ⟨⟨left, right⟩, above, below⟩ := place_margin graph roomy (graph.ends e member).1
  have wide : f.plotWidth ≤ (scene.frame f).width := Frame.plotWidth_le_width _ _ _ valid
  have high : f.plotHeight ≤ (scene.frame f).height := Frame.plotHeight_le_height _ _ _ f
  have within {t : ℝ} (inside : t ∈ Set.Icc 0 1) : (point t).x ∈ Set.Icc 0 (scene.frame f).width ∧
      (point t).y ∈ Set.Icc (a.y - 209 / 80 * f.nodeRadius) (scene.frame f).height := by
    obtain ⟨x, y⟩ := EdgePath.point_around_mem a size inside
    simp only [point, looped]
    exact ⟨⟨by linarith [x.1], by linarith [x.2]⟩, y.1, by linarith [y.2]⟩
  have summit : (point (1 / 2)).y = a.y - 209 / 80 * f.nodeRadius := by
    simp only [point, looped]
    exact EdgePath.point_half_around a f.nodeRadius
  refine ⟨?_, looped, fun t => within, ⟨?_, ?_⟩, ?_⟩
  · exact mem_edges_paint graph s.spacing s.palette f member
  · intro holds
    have top := (holds (1 / 2) ⟨by norm_num, by norm_num⟩).top
    rw [summit] at top
    linarith
  · intro room t inside
    obtain ⟨⟨left, right⟩, top, bottom⟩ := within inside
    exact ⟨left, right, by linarith, bottom⟩
  · rintro n found least ⟨deeper, present, less⟩
    have upper := place_y_of_first graph valid roomy (graph.mem_nodeList.mpr
      ((graph.keyed found).symm ▸ found)) least present less
    rw [graph.keyed found] at upper
    rw [summit, show a.y = 2 * f.nodeRadius from upper]
    ring

theorem loop_extent_layers :
    let nodes : List NodeRecord := [⟨"a", none, none, none⟩, ⟨"b", none, some 1, none⟩]
    let edges : List EdgeRecord := [⟨none, "a", "a", none⟩, ⟨none, "b", "b", none⟩]
    let s : Settings ℝ := .default
    ∃ g, Graph.build nodes edges = .ok g ∧ ∃ upper ∈ g.edges, ∃ lower ∈ g.edges,
      let scene := ofGraph g s.spacing s.palette
      ((scene.course s.figure upper).point (1 / 2)).y = -(49 / 80 * s.figure.nodeRadius) ∧
        ∀ t ∈ Set.Icc (0 : ℝ) 1,
          (scene.frame s.figure).Holds ((scene.course s.figure lower).point t) := by
  intro nodes edges s
  have named : ∀ r ∈ nodes, ¬ r.LacksId := by simp [nodes, NodeRecord.LacksId]
  let g := Graph.ofRecords nodes edges
  have built : Graph.build nodes edges = .ok g := Graph.build_eq_ok_iff.mpr ⟨named, rfl⟩
  have valid : s.isValid = true := Settings.isValid_default
  have roomy : s.figure.IsRoomy := Figure.isRoomy_default
  let upper : Edge := ⟨none, "a", "a", "depends_on"⟩
  let lower : Edge := ⟨none, "b", "b", "depends_on"⟩
  have members : upper ∈ g.edges ∧ lower ∈ g.edges := by decide +kernel
  have layers : g.layers = [0, 1] := by decide +kernel
  have least : IsLeast {layer | layer ∈ g.layers} 0 := by simp [layers, IsLeast, lowerBounds]
  have greatest : IsGreatest {layer | layer ∈ g.layers} 1 := by
    simp [layers, IsGreatest, upperBounds]
  obtain ⟨_, _, _, _, leaves⟩ := loop_extent built valid roomy members.1 rfl
  obtain ⟨_, _, _, stays, _⟩ := loop_extent built valid roomy members.2 rfl
  refine ⟨g, built, upper, members.1, lower, members.2, ?_, stays.mpr ?_⟩
  · exact leaves ⟨"a", "a", 0, "unknown"⟩ (by decide +kernel) least ⟨1, by simp [layers], one_pos⟩
  · have deep := place_y (Graph.valid_of_build built) valid roomy (n := ⟨"b", "b", 1, "unknown"⟩)
      (by decide +kernel) least greatest one_pos
    have plot : s.figure.plotHeight = 1440 := Figure.plot_default.2
    have small : s.figure.nodeRadius ≤ 29 := Figure.nodeRadius_default.2
    norm_num [plot] at deep
    linarith

/-- A loop in the upper row leaves the canvas. -/
theorem loop_leaves_canvas :
    let nodes : List NodeRecord := [⟨"a", none, none, none⟩, ⟨"b", none, some 1, none⟩]
    let s : Settings ℝ := .default
    s.isValid = true ∧ s.figure.IsRoomy ∧
      ∃ g, Graph.build nodes [⟨none, "a", "a", none⟩] = .ok g ∧ ∃ e ∈ g.edges,
        e.source = e.target ∧
          let scene := ofGraph g s.spacing s.palette
          scene.course s.figure e = .around (scene.place s.figure e.source) s.figure.nodeRadius ∧
            (scene.course s.figure e, scene.edgeStyle s.figure e.relation) ∈
              (scene.paint s.figure).edges ∧
            ∃ t ∈ Set.Icc (0 : ℝ) 1,
              ¬ (scene.frame s.figure).Holds ((scene.course s.figure e).point t) := by
  intro nodes s
  have named : ∀ r ∈ nodes, ¬ r.LacksId := by simp [nodes, NodeRecord.LacksId]
  let g := Graph.ofRecords nodes [⟨none, "a", "a", none⟩]
  have built : Graph.build nodes [⟨none, "a", "a", none⟩] = .ok g :=
    Graph.build_eq_ok_iff.mpr ⟨named, rfl⟩
  have valid : s.isValid = true := Settings.isValid_default
  have roomy : s.figure.IsRoomy := Figure.isRoomy_default
  let e : Edge := ⟨none, "a", "a", "depends_on"⟩
  have member : e ∈ g.edges := by decide +kernel
  have layers : g.layers = [0, 1] := by decide +kernel
  have deeper : 1 ∈ g.layers := by simp [layers]
  have graph : g.Valid := Graph.valid_of_build built
  have upper := place_y_of_first graph valid roomy
    (n := ⟨"a", "a", 0, "unknown"⟩) (by decide +kernel)
    (by simp [layers, IsLeast, lowerBounds]) deeper one_pos
  have size : 0 < s.figure.nodeRadius := Settings.nodeRadius_pos valid
  refine ⟨valid, roomy, g, built, e, member, rfl, if_pos rfl,
    mem_edges_paint graph s.spacing s.palette s.figure member, 1 / 2,
    ⟨by norm_num, by norm_num⟩, ?_⟩
  intro holds
  have top := holds.top
  rw [course, if_pos rfl, EdgePath.point_half_around, upper] at top
  linarith

end Scene

end Strata
