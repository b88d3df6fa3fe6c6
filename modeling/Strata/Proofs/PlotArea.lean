import Strata.Proofs.EdgeExtent
import Strata.Proofs.LayerRows

/-! The plot in exact arithmetic. The disk of every node lies inside of the plot as soon as the plot
is a pixel larger than one, with a margin of a radius where there is room for it, and the canvas
shows the arrangement of the layout, also where all nodes lie on one line or in one point. -/
namespace Strata

def Rect.points (r : Rect ℝ) : Set (Point ℝ) :=
  {p | p.x ∈ Set.Icc r.x (r.x + r.width) ∧ p.y ∈ Set.Icc r.y (r.y + r.height)}

/-- What is left of a rectangle inside of a margin on all sides. -/
noncomputable def Rect.within (r : Rect ℝ) (margin : ℝ) : Rect ℝ :=
  ⟨r.x + margin, r.y + margin, r.width - 2.0 * margin, r.height - 2.0 * margin⟩

def Point.disk (center : Point ℝ) (radius : ℝ) : Set (Point ℝ) :=
  {p | center.distance p ≤ radius}

theorem Rect.within_zero (r : Rect ℝ) : r.within 0 = r := by simp [within]

theorem Point.abs_sub_le_distance (p q : Point ℝ) :
    |q.x - p.x| ≤ p.distance q ∧ |q.y - p.y| ≤ p.distance q :=
  ⟨Real.abs_le_sqrt (le_add_of_nonneg_right (sq_nonneg _)),
    Real.abs_le_sqrt (le_add_of_nonneg_left (sq_nonneg _))⟩

theorem Point.disk_subset {center : Point ℝ} {radius : ℝ} {r : Rect ℝ}
    (across : center.x ∈ Set.Icc (r.x + radius) (r.x + r.width - radius))
    (down : center.y ∈ Set.Icc (r.y + radius) (r.y + r.height - radius)) :
    center.disk radius ⊆ r.points := by
  intro p near
  obtain ⟨x, y⟩ := center.abs_sub_le_distance p
  obtain ⟨left, right⟩ := abs_le.mp (x.trans near)
  obtain ⟨above, below⟩ := abs_le.mp (y.trans near)
  exact ⟨⟨by linarith [across.1], by linarith [across.2]⟩,
    by linarith [down.1], by linarith [down.2]⟩

namespace Frame

def plot (f : Frame ℝ) : Rect ℝ := ⟨0, 0, f.plotWidth, f.plotHeight⟩

/-- With a pixel to spare the layout has no more room than lets the disks stay inside. -/
theorem inner_le {plot radius : ℝ} (positive : 0 < radius) (room : 2 * radius + 1 ≤ plot) :
    inner plot (2.0 * radius) ≤ plot - 2 * radius := by
  norm_num [inner]
  constructor <;> linarith

section

variable {l : Layout ℝ} {b : Bounds ℝ} (bounded : l.bounds? = some b) (labels : List String)
  (title : String) (f : Figure ℝ)

include bounded

/-- Where the room for the layout leaves a radius and a margin at either end, so do the disks. -/
theorem disk_subset_plot (tight : b.IsTight l.points) {p : Point ℝ} (placed : p ∈ l.points)
    {margin : ℝ}
    (wide : inner f.plotWidth (2.0 * f.nodeRadius) ≤ f.plotWidth - 2 * (f.nodeRadius + margin))
    (high : inner f.plotHeight (2.0 * f.nodeRadius) ≤ f.plotHeight - 2 * (f.nodeRadius + margin)) :
    let frame := ofLayout l labels title f
    (frame.toCanvas p).disk f.nodeRadius ⊆ (frame.plot.within margin).points := by
  intro frame
  obtain ⟨⟨left, right⟩, above, below⟩ := toCanvas_mem bounded labels title f tight placed
  have plot : frame.plot = ⟨0, 0, f.plotWidth, f.plotHeight⟩ := rfl
  apply Point.disk_subset <;> rw [plot, Rect.within] <;> constructor <;> linarith

theorem toCanvas_x_lt (tight : b.IsTight l.points) {p q : Point ℝ} (hp : p ∈ l.points)
    (hq : q ∈ l.points) (less : p.x < q.x) :
    let frame := ofLayout l labels title f
    (frame.toCanvas p).x < (frame.toCanvas q).x := by
  have room : 0 < inner f.plotWidth (2.0 * f.nodeRadius) := zero_lt_one.trans_le (one_le_inner ..)
  simp only [toCanvas_ofLayout bounded]
  exact add_lt_add_right (mul_axisScale_lt room (tight.minX.2 ⟨p, hp, rfl⟩) less
    (tight.maxX.2 ⟨q, hq, rfl⟩)) _

theorem toCanvas_y_lt (tight : b.IsTight l.points) {p q : Point ℝ} (hp : p ∈ l.points)
    (hq : q ∈ l.points) (lower : q.y < p.y) :
    let frame := ofLayout l labels title f
    (frame.toCanvas p).y < (frame.toCanvas q).y := by
  have room : 0 < inner f.plotHeight (2.0 * f.nodeRadius) := zero_lt_one.trans_le (one_le_inner ..)
  simp only [toCanvas_ofLayout bounded]
  exact sub_lt_sub_left (mul_axisScale_lt room (tight.minY.2 ⟨q, hq, rfl⟩) lower
    (tight.maxY.2 ⟨p, hp, rfl⟩)) _

theorem toCanvas_corners :
    let frame := ofLayout l labels title f
    let first := frame.toCanvas ⟨b.minX, b.maxY⟩
    let last := frame.toCanvas ⟨b.maxX, b.minY⟩
    first.x = f.plotWidth - last.x ∧ first.y = f.plotHeight - last.y := by
  simp only [toCanvas_ofLayout bounded]
  constructor <;> ring

end

/-- On the canvas larger ids of a layer lie farther right and deeper layers farther down. -/
structure KeepsArrangement (frame : Frame ℝ) (l : Layout ℝ) (g : Graph) : Prop where
  rightward : ∀ {m n p q}, l.Places g m p → l.Places g n q → m.layer = n.layer →
    Text.utf8 m.id < Text.utf8 n.id → (frame.toCanvas p).x < (frame.toCanvas q).x
  downward : ∀ {m n p q}, l.Places g m p → l.Places g n q → m.layer < n.layer →
    (frame.toCanvas p).y < (frame.toCanvas q).y
  apart : ∀ {m n p q}, l.Places g m p → l.Places g n q → m ≠ n →
    frame.toCanvas p ≠ frame.toCanvas q

end Frame

theorem Layout.Places.mem_points {l : Layout ℝ} {g : Graph} {n : Node} {p : Point ℝ}
    (placed : l.Places g n p) : p ∈ l.points := ⟨n.id, placed.found⟩

namespace Graph

variable {g : Graph} (valid : g.Valid) {spacing : Spacing ℝ} (xGap : 0 < spacing.xGap)
  (yGap : 0 < spacing.yGap)

include valid xGap yGap

theorem Valid.x_lt {m n : Node} {p q : Point ℝ} (hm : (g.layout spacing).Places g m p)
    (hn : (g.layout spacing).Places g n q) (same : m.layer = n.layer)
    (less : Text.utf8 m.id < Text.utf8 n.id) : p.x < q.x := by
  have layered := valid.isLayered xGap yGap
  obtain rfl := Option.some.inj (hm.found.symm.trans (layered.position m hm.member))
  obtain rfl := Option.some.inj (hn.found.symm.trans (layered.position n hn.member))
  have ranks : (g.rankInLayer m : ℝ) < g.rankInLayer n :=
    Nat.cast_lt.mpr (valid.rankInLayer_lt hm.member hn.member same less)
  simp only [same]
  gcongr

theorem Valid.keepsArrangement {b : Bounds ℝ} (bounded : (g.layout spacing).bounds? = some b)
    (tight : b.IsTight (g.layout spacing).points) (labels : List String) (title : String)
    (f : Figure ℝ) :
    (Frame.ofLayout (g.layout spacing) labels title f).KeepsArrangement (g.layout spacing) g := by
  have layered := valid.isLayered xGap yGap
  have rightward {m n p q} (hm : (g.layout spacing).Places g m p)
      (hn : (g.layout spacing).Places g n q) (same : m.layer = n.layer)
      (less : Text.utf8 m.id < Text.utf8 n.id) :=
    Frame.toCanvas_x_lt bounded labels title f tight hm.mem_points hn.mem_points
      (valid.x_lt xGap yGap hm hn same less)
  have downward {m n p q} (hm : (g.layout spacing).Places g m p)
      (hn : (g.layout spacing).Places g n q) (less : m.layer < n.layer) :=
    Frame.toCanvas_y_lt bounded labels title f tight hm.mem_points hn.mem_points
      (layered.lower hm hn less)
  refine ⟨rightward, downward, ?_⟩
  intro m n p q hm hn other same
  -- nodes of two layers differ in height, nodes of one layer in their ids and so from left to right
  rcases Nat.lt_trichotomy m.layer n.layer with less | level | greater
  · exact (downward hm hn less).ne (congrArg Point.y same)
  · rcases Std.lt_trichotomy m.id n.id with less | equal | greater
    · exact (rightward hm hn level ((Text.lt_iff_utf8_lt _ _).mp less)).ne (congrArg Point.x same)
    · have found := valid.mem_nodeList.mp hm.member
      rw [equal, valid.mem_nodeList.mp hn.member] at found
      exact other (Option.some.inj found).symm
    · exact (rightward hn hm level.symm ((Text.lt_iff_utf8_lt _ _).mp greater)).ne'
        (congrArg Point.x same)
  · exact (downward hn hm greater).ne' (congrArg Point.y same)

end Graph

/-- The disks of all nodes lie inside of a plot that is a pixel larger than one disk, and a radius
away from its sides where the plot is a pixel larger than two. In plots of any size the places keep
their arrangement, and the bounds of the layout lie in the middle. -/
theorem Frame.disks_in_plot {nodes : List NodeRecord} {edges : List EdgeRecord} {g : Graph}
    (built : Graph.build nodes edges = .ok g) (inhabited : 0 < g.nodeCount) {spacing : Spacing ℝ}
    (xGap : 0 < spacing.xGap) (yGap : 0 < spacing.yGap) {f : Figure ℝ} (radius : 0 < f.nodeRadius)
    (labels : List String) (title : String) :
    let l := g.layout spacing
    let frame := ofLayout l labels title f
    (2 * f.nodeRadius + 1 ≤ f.plotWidth → 2 * f.nodeRadius + 1 ≤ f.plotHeight →
        ∀ n p, l.Places g n p → (frame.toCanvas p).disk f.nodeRadius ⊆ frame.plot.points) ∧
      (4 * f.nodeRadius + 1 ≤ f.plotWidth → 4 * f.nodeRadius + 1 ≤ f.plotHeight →
        ∀ n p, l.Places g n p →
          (frame.toCanvas p).disk f.nodeRadius ⊆ (frame.plot.within f.nodeRadius).points) ∧
      frame.KeepsArrangement l g ∧
      ∃ b, l.bounds? = some b ∧ b.IsTight l.points ∧
        let first := frame.toCanvas ⟨b.minX, b.maxY⟩
        let last := frame.toCanvas ⟨b.maxX, b.minY⟩
        first.x = f.plotWidth - last.x ∧ first.y = f.plotHeight - last.y := by
  intro l frame
  have valid := Graph.valid_of_build built
  obtain ⟨b, bounded, tight⟩ := valid.exists_bounds spacing inhabited
  refine ⟨?_, ?_, valid.keepsArrangement xGap yGap bounded tight labels title f, b, bounded, tight,
    toCanvas_corners bounded labels title f⟩
  · intro wide high n p placed
    rw [← frame.plot.within_zero]
    apply disk_subset_plot bounded labels title f tight placed.mem_points <;> rw [add_zero]
    · exact inner_le radius wide
    · exact inner_le radius high
  · intro wide high n p placed
    apply disk_subset_plot bounded labels title f tight placed.mem_points
    · rw [inner_of_room wide]
      linarith
    · rw [inner_of_room high]
      linarith

/-- Two nodes of one layer in a plot too small for the margin. -/
theorem Frame.disks_in_plot_tiny :
    let nodes : List NodeRecord := [⟨"b", none, none, none⟩, ⟨"a", none, none, none⟩]
    let spacing : Spacing ℝ := .default
    let f : Figure ℝ := { Figure.default with
      dpi := 72, nodeSize := 16, width := 1 / 12, height := 1 / 12 }
    ∃ g, Graph.build nodes [] = .ok g ∧ 0 < g.nodeCount ∧ 0 < spacing.xGap ∧ 0 < spacing.yGap ∧
      0 < f.nodeRadius ∧ 2 * f.nodeRadius + 1 ≤ f.plotWidth ∧ f.plotWidth < 4 * f.nodeRadius + 1 ∧
      2 * f.nodeRadius + 1 ≤ f.plotHeight ∧
      let l := g.layout spacing
      let frame := ofLayout l [] "" f
      ∃ p q, l.position? "a" = some p ∧ l.position? "b" = some q ∧
        (frame.toCanvas p).disk f.nodeRadius ⊆ frame.plot.points ∧
        (frame.toCanvas p).x < (frame.toCanvas q).x := by
  intro nodes spacing f
  have named : ∀ r ∈ nodes, ¬ r.LacksId := by simp [nodes, NodeRecord.LacksId]
  let g := Graph.ofRecords nodes []
  have built : Graph.build nodes [] = .ok g := Graph.build_eq_ok_iff.mpr ⟨named, rfl⟩
  have inhabited : 0 < g.nodeCount := by decide +kernel
  have gaps : 0 < spacing.xGap ∧ 0 < spacing.yGap := by
    norm_num [spacing, Spacing.default]
  have root : √(16 : ℝ) = 4 := (Real.sqrt_eq_iff_eq_sq (by norm_num) (by norm_num)).mpr (by norm_num)
  have radius : f.nodeRadius = 2 := by norm_num [f, Figure.nodeRadius, Figure.pixels, root]
  have plot : f.plotWidth = 6 ∧ f.plotHeight = 6 := by
    norm_num [f, Figure.plotWidth, Figure.plotHeight]
  have fits : 2 * f.nodeRadius + 1 ≤ f.plotWidth ∧ f.plotWidth < 4 * f.nodeRadius + 1 ∧
      2 * f.nodeRadius + 1 ≤ f.plotHeight := by
    rw [radius, plot.1, plot.2]
    norm_num
  have positive : 0 < f.nodeRadius := by rw [radius]; norm_num
  obtain ⟨inside, _, arranged, _⟩ := disks_in_plot built inhabited gaps.1 gaps.2 positive [] ""
  have place (id : String) (present : g.contains id = true) :=
    (Graph.valid_of_build built).exists_position? spacing present
  obtain ⟨p, hp⟩ := place "a" (by decide +kernel)
  obtain ⟨q, hq⟩ := place "b" (by decide +kernel)
  have placedA : (g.layout spacing).Places g ⟨"a", "a", 0, "unknown"⟩ p := ⟨by decide +kernel, hp⟩
  have placedB : (g.layout spacing).Places g ⟨"b", "b", 0, "unknown"⟩ q := ⟨by decide +kernel, hq⟩
  exact ⟨g, built, inhabited, gaps.1, gaps.2, positive, fits.1, fits.2.1, fits.2.2, p, q, hp, hq,
    inside fits.1 fits.2.2 _ p placedA, arranged.rightward placedA placedB rfl (by decide +kernel)⟩

end Strata
