import Mathlib.Tactic.FieldSimp
import Mathlib.Tactic.Positivity
import Strata.Proofs.ExactLayout
import Strata.Proofs.Painting
import Strata.Settings.Validity

/-! The frame in exact arithmetic. Nodes keep a margin of two radii on all sides of the plot, the
canvas holds the plot, and the place of a node is given by its row and its slot. -/
namespace Strata

namespace Settings

variable {s : Settings ℝ}

theorem admits_of_isValid (valid : s.isValid = true) (m : Measure) :
    m.bound.admits (m.get s) = true :=
  violation?_eq_none.mp (Option.isNone_iff_eq_none.mp valid) (.measure m)

theorem positive_of_isValid (valid : s.isValid = true) {m : Measure} (asked : m.bound = .positive) :
    0 < m.get s := by
  have admitted := admits_of_isValid valid m
  rw [asked] at admitted
  norm_num [Bound.admits] at admitted
  exact admitted

theorem nonNegative_of_isValid (valid : s.isValid = true) {m : Measure}
    (asked : m.bound = .nonNegative) : 0 ≤ m.get s := by
  have admitted := admits_of_isValid valid m
  rw [asked] at admitted
  norm_num [Bound.admits] at admitted
  exact admitted

theorem pixels_nonneg (valid : s.isValid = true) {x : ℝ} (length : 0 ≤ x) :
    0 ≤ s.figure.pixels x := by
  have dpi : 0 < s.figure.dpi := positive_of_isValid valid (m := .dpi) rfl
  norm_num [Figure.pixels]
  positivity

theorem nodeRadius_pos (valid : s.isValid = true) : 0 < s.figure.nodeRadius := by
  have size : 0 < s.figure.nodeSize := positive_of_isValid valid (m := .nodeSize) rfl
  have dpi : 0 < s.figure.dpi := positive_of_isValid valid (m := .dpi) rfl
  norm_num [Figure.nodeRadius, Figure.pixels]
  positivity

theorem plotWidth_pos (valid : s.isValid = true) : 0 < s.figure.plotWidth :=
  mul_pos (positive_of_isValid valid (m := .width) rfl) (positive_of_isValid valid (m := .dpi) rfl)

/-- The length by which edges are cut back at either end. -/
theorem trim_nonneg (valid : s.isValid = true) :
    0 ≤ s.figure.nodeRadius + s.figure.pixels s.figure.borderWidth / 2.0 := by
  have radius := nodeRadius_pos valid
  have border : 0 ≤ s.figure.pixels s.figure.borderWidth :=
    pixels_nonneg valid (nonNegative_of_isValid valid (m := .borderWidth) rfl)
  norm_num
  positivity

end Settings

/-- The plot is large enough for two radii around every node and a pixel between the margins. -/
structure Figure.IsRoomy (f : Figure ℝ) : Prop where
  width : 4 * f.nodeRadius + 1 ≤ f.plotWidth
  height : 4 * f.nodeRadius + 1 ≤ f.plotHeight

namespace Frame

theorem inner_of_room {plot radius : ℝ} (room : 4 * radius + 1 ≤ plot) :
    inner plot (2.0 * radius) = plot - 4 * radius := by
  have above : 1 ≤ plot - 4 * radius := by linarith
  have twice : plot - 2 * (2 * radius) = plot - 4 * radius := by ring
  norm_num [inner]
  rw [twice, max_eq_left above]

theorem one_le_inner (plot inset : ℝ) : 1 ≤ inner plot inset := by
  norm_num [inner]

theorem axisScale_real (available span : ℝ) :
    axisScale available span = if 0 < span then available / span else 0 := by
  norm_num [axisScale]

/-- Along an axis nothing is farther from the middle than half of what is available. -/
theorem abs_mul_axisScale_le (available : ℝ) {x lo hi : ℝ} (room : 0 ≤ available) (above : lo ≤ x)
    (below : x ≤ hi) :
    |(x - (lo + hi) / 2) * axisScale available (hi - lo)| ≤ available / 2 := by
  have near : |x - (lo + hi) / 2| ≤ (hi - lo) / 2 := abs_le.mpr ⟨by linarith, by linarith⟩
  rw [axisScale_real]
  split
  · next wide =>
    rw [abs_mul, abs_of_nonneg (div_nonneg room wide.le)]
    calc |x - (lo + hi) / 2| * (available / (hi - lo))
        ≤ (hi - lo) / 2 * (available / (hi - lo)) := by gcongr
      _ = available / 2 := by field_simp
  · rw [mul_zero, abs_zero]
    linarith

/-- Along an axis on which places differ their order is kept. -/
theorem mul_axisScale_lt {available lo hi x y : ℝ} (room : 0 < available) (above : lo ≤ x)
    (less : x < y) (below : y ≤ hi) :
    (x - (lo + hi) / 2) * axisScale available (hi - lo) <
      (y - (lo + hi) / 2) * axisScale available (hi - lo) := by
  have wide : 0 < hi - lo := by linarith
  rw [axisScale_real, if_pos wide]
  gcongr

section

variable {l : Layout ℝ} {b : Bounds ℝ} (bounded : l.bounds? = some b) (labels : List String)
  (title : String) (f : Figure ℝ)

include bounded

theorem toCanvas_ofLayout (p : Point ℝ) :
    (ofLayout l labels title f).toCanvas p =
      ⟨f.plotWidth / 2 + (p.x - (b.minX + b.maxX) / 2) *
          axisScale (inner f.plotWidth (2.0 * f.nodeRadius)) (b.maxX - b.minX),
        f.plotHeight / 2 - (p.y - (b.minY + b.maxY) / 2) *
          axisScale (inner f.plotHeight (2.0 * f.nodeRadius)) (b.maxY - b.minY)⟩ := by
  norm_num [ofLayout, toCanvas, bounded, Bounds.width, Bounds.height]

/-- No place is farther from the middle of the plot than half of the room for the layout. -/
theorem toCanvas_mem (tight : b.IsTight l.points) {p : Point ℝ} (placed : p ∈ l.points) :
    let c := (ofLayout l labels title f).toCanvas p
    let across := inner f.plotWidth (2.0 * f.nodeRadius)
    let down := inner f.plotHeight (2.0 * f.nodeRadius)
    c.x ∈ Set.Icc ((f.plotWidth - across) / 2) ((f.plotWidth + across) / 2) ∧
      c.y ∈ Set.Icc ((f.plotHeight - down) / 2) ((f.plotHeight + down) / 2) := by
  have x := abs_mul_axisScale_le (inner f.plotWidth (2.0 * f.nodeRadius))
    (zero_le_one.trans (one_le_inner ..)) (tight.minX.2 ⟨p, placed, rfl⟩)
    (tight.maxX.2 ⟨p, placed, rfl⟩)
  have y := abs_mul_axisScale_le (inner f.plotHeight (2.0 * f.nodeRadius))
    (zero_le_one.trans (one_le_inner ..)) (tight.minY.2 ⟨p, placed, rfl⟩)
    (tight.maxY.2 ⟨p, placed, rfl⟩)
  rw [abs_le] at x y
  simp only [toCanvas_ofLayout bounded]
  exact ⟨⟨by linarith, by linarith⟩, by linarith, by linarith⟩

end

/-- The canvas holds a point. -/
structure Holds (f : Frame ℝ) (p : Point ℝ) : Prop where
  left : 0 ≤ p.x
  right : p.x ≤ f.width
  top : 0 ≤ p.y
  bottom : p.y ≤ f.height

end Frame

theorem textWidth_nonneg (text : String) {fontSize : ℝ} (size : 0 ≤ fontSize) :
    0 ≤ textWidth text fontSize := by
  norm_num [textWidth]
  positivity

theorem LegendBox.width_nonneg (x : ℝ) (labels : List String) (title : String) {fontSize : ℝ}
    (size : 0 ≤ fontSize) : 0 ≤ (ofLabels x labels title fontSize).width := by
  norm_num [ofLabels]
  exact add_nonneg ((textWidth_nonneg title size).trans (le_max_right _ _)) (by positivity)

namespace Frame

theorem plotHeight_le_height (l : Layout ℝ) (labels : List String) (title : String)
    (f : Figure ℝ) : f.plotHeight ≤ (ofLayout l labels title f).height := by
  simp only [ofLayout, Scalar.ceil_real, Scalar.max_real]
  exact (le_max_left _ _).trans (Int.le_ceil _)

theorem plotWidth_le_width (l : Layout ℝ) (labels : List String) (title : String)
    {s : Settings ℝ} (valid : s.isValid = true) :
    s.figure.plotWidth ≤ (ofLayout l labels title s.figure).width := by
  have size : 0 ≤ s.figure.pixels s.figure.legendFontSize :=
    Settings.pixels_nonneg valid (Settings.positive_of_isValid valid (m := .legendFontSize) rfl).le
  have plot := Settings.plotWidth_pos valid
  let box := LegendBox.ofLabels (s.figure.plotWidth * 1.01) labels title
    (s.figure.pixels s.figure.legendFontSize)
  have width : 0 ≤ box.width := LegendBox.width_nonneg _ labels title size
  have left : s.figure.plotWidth ≤ box.x := by
    norm_num [box, LegendBox.ofLabels]
    linarith
  have padding : 0 ≤ box.padding := by
    norm_num [box, LegendBox.ofLabels]
    exact size
  calc s.figure.plotWidth ≤ box.x + box.width + box.padding := by linarith
    _ ≤ ⌈box.x + box.width + box.padding⌉ := Int.le_ceil _

end Frame

namespace Scene

variable {g : Graph} (graph : g.Valid) {s : Settings ℝ}

include graph

theorem exists_toCanvas {id : String} (present : g.contains id = true) :
    ∃ p ∈ (g.layout s.spacing).points, (g.layout s.spacing).position? id = some p ∧
      ∃ b, (g.layout s.spacing).bounds? = some b ∧ b.IsTight (g.layout s.spacing).points ∧
        (ofGraph g s.spacing s.palette).place s.figure id =
          ((ofGraph g s.spacing s.palette).frame s.figure).toCanvas p := by
  obtain ⟨p, found⟩ := graph.exists_position? s.spacing present
  obtain ⟨b, bounded, tight⟩ := Layout.exists_isTight ⟨id, found⟩
  refine ⟨p, ⟨id, found⟩, found, b, bounded, tight, ?_⟩
  rw [place, ofGraph_layout, found, Option.getD_some]

/-- Every node lies two radii or more inside of the plot. -/
theorem place_margin (roomy : s.figure.IsRoomy) {id : String} (present : g.contains id = true) :
    let p := (ofGraph g s.spacing s.palette).place s.figure id
    (2 * s.figure.nodeRadius ≤ p.x ∧ p.x ≤ s.figure.plotWidth - 2 * s.figure.nodeRadius) ∧
      2 * s.figure.nodeRadius ≤ p.y ∧ p.y ≤ s.figure.plotHeight - 2 * s.figure.nodeRadius := by
  intro p
  obtain ⟨q, inside, _, b, bounded, tight, same⟩ := exists_toCanvas graph present (s := s)
  have near := Frame.toCanvas_mem bounded (ofGraph g s.spacing s.palette).legendLabels
    legendHeading s.figure tight inside
  rw [Frame.inner_of_room roomy.width, Frame.inner_of_room roomy.height] at near
  obtain ⟨⟨left, right⟩, above, below⟩ := near
  simp only [p, same, frame, ofGraph_layout]
  exact ⟨⟨by linarith, by linarith⟩, by linarith, by linarith⟩

/-- In a graph with several layers the rows fill the height between the margins, from the first
layer down to the last. -/
theorem place_y (valid : s.isValid = true) (roomy : s.figure.IsRoomy) {n : Node}
    (member : n ∈ g.nodeList) {first last : Nat}
    (least : IsLeast {layer | layer ∈ g.layers} first)
    (greatest : IsGreatest {layer | layer ∈ g.layers} last) (several : first < last) :
    ((ofGraph g s.spacing s.palette).place s.figure n.id).y = 2 * s.figure.nodeRadius +
      (n.layer - first) / (last - first) * (s.figure.plotHeight - 4 * s.figure.nodeRadius) := by
  have gap : 0 < s.spacing.yGap := Settings.positive_of_isValid valid (m := .yGap) rfl
  obtain ⟨q, _, found, b, bounded, tight, same⟩ :=
    exists_toCanvas graph (graph.contains_of_mem member) (s := s)
  obtain ⟨i, _, slot⟩ := graph.exists_slot s.spacing member
  obtain rfl : q = _ := Option.some.inj (found.symm.trans slot)
  obtain ⟨minY, maxY⟩ := graph.bounds_rows tight gap least greatest
  have deep : (0 : ℝ) < last - first := sub_pos.mpr (Nat.cast_lt.mpr several)
  have span : b.maxY - b.minY = (last - first) * s.spacing.yGap := by
    rw [minY, maxY]
    ring
  simp only [same, frame, ofGraph_layout, Frame.toCanvas_ofLayout bounded,
    Frame.inner_of_room roomy.height, Frame.axisScale_real, layerY_real]
  rw [span, if_pos (mul_pos deep gap), minY, maxY]
  field_simp
  ring

/-- In the first of several layers nodes lie at the upper margin. -/
theorem place_y_of_first (valid : s.isValid = true) (roomy : s.figure.IsRoomy) {n : Node}
    (member : n ∈ g.nodeList) (least : IsLeast {layer | layer ∈ g.layers} n.layer) {deeper : Nat}
    (present : deeper ∈ g.layers) (less : n.layer < deeper) :
    ((ofGraph g s.spacing s.palette).place s.figure n.id).y = 2 * s.figure.nodeRadius := by
  obtain ⟨last, greatest⟩ : ∃ last, IsGreatest {layer | layer ∈ g.layers} last :=
    ⟨_, by simpa using g.layers.toFinset.isGreatest_max' ⟨deeper, by simpa using present⟩⟩
  rw [place_y graph valid roomy member least greatest (less.trans_le (greatest.2 present)),
    sub_self, zero_div, zero_mul, add_zero]

/-- Where a row has several nodes, the longest one fills the width between the margins. -/
theorem place_x (valid : s.isValid = true) (roomy : s.figure.IsRoomy) {layer i : Nat} {n : Node}
    (here : (g.nodesIn layer)[i]? = some n) {count : Nat} (several : 1 < count)
    (longest : IsGreatest {m | ∃ layer, (g.nodesIn layer).length = m} count) :
    ((ofGraph g s.spacing s.palette).place s.figure n.id).x = s.figure.plotWidth / 2 +
      (i - ((g.nodesIn layer).length - 1) / 2) / (count - 1) *
        (s.figure.plotWidth - 4 * s.figure.nodeRadius) := by
  have gap : 0 < s.spacing.xGap := Settings.positive_of_isValid valid (m := .xGap) rfl
  have member : n ∈ g.nodeList := (List.mem_filter.mp (List.mem_of_getElem? here)).1
  obtain ⟨q, _, found, b, bounded, tight, same⟩ :=
    exists_toCanvas graph (graph.contains_of_mem member) (s := s)
  obtain rfl : q = _ := Option.some.inj (found.symm.trans (graph.position?_eq s.spacing here))
  obtain ⟨minX, maxX⟩ := graph.bounds_slots tight gap (Nat.zero_lt_of_lt several) longest
  have long : (0 : ℝ) < count - 1 := sub_pos.mpr (Nat.one_lt_cast.mpr several)
  have span : b.maxX - b.minX = (count - 1) * s.spacing.xGap := by
    rw [minX, maxX]
    ring
  simp only [same, frame, ofGraph_layout, Frame.toCanvas_ofLayout bounded,
    Frame.inner_of_room roomy.width, Frame.axisScale_real, slotX_real]
  rw [span, if_pos (mul_pos long gap), minX, maxX]
  field_simp
  ring

/-- A first row that is the longest fills the upper margin from left to right. -/
theorem place_first_row (valid : s.isValid = true) (roomy : s.figure.IsRoomy)
    {first deeper i : Nat} (least : IsLeast {layer | layer ∈ g.layers} first)
    (present : deeper ∈ g.layers) (less : first < deeper)
    (several : 1 < (g.nodesIn first).length)
    (longest : ∀ layer ∈ g.layers, (g.nodesIn layer).length ≤ (g.nodesIn first).length) {n : Node}
    (here : (g.nodesIn first)[i]? = some n) :
    let p := (ofGraph g s.spacing s.palette).place s.figure n.id
    p.x = 2 * s.figure.nodeRadius + i / ((g.nodesIn first).length - 1) *
        (s.figure.plotWidth - 4 * s.figure.nodeRadius) ∧ p.y = 2 * s.figure.nodeRadius := by
  intro p
  obtain ⟨member, same⟩ := List.mem_filter.mp (List.mem_of_getElem? here)
  have most : IsGreatest {m | ∃ layer, (g.nodesIn layer).length = m} (g.nodesIn first).length := by
    refine ⟨⟨first, rfl⟩, ?_⟩
    rintro _ ⟨layer, rfl⟩
    by_cases present : layer ∈ g.layers
    · exact longest layer present
    · have none := Nat.eq_zero_of_not_pos (mt Graph.length_nodesIn_pos_iff.mp present)
      omega
  have x := place_x graph valid roomy here several most
  have long : (0 : ℝ) < (g.nodesIn first).length - 1 := sub_pos.mpr (Nat.one_lt_cast.mpr several)
  obtain rfl : n.layer = first := of_decide_eq_true same
  refine ⟨?_, place_y_of_first graph valid roomy member least present less⟩
  rw [x]
  field_simp
  ring

end Scene

theorem Settings.isValid_default : (Settings.default : Settings ℝ).isValid = true := by
  refine Option.isNone_iff_eq_none.mpr (violation?_eq_none.mpr ?_)
  intro r
  cases r with
  | palette => rfl
  | measure m =>
    cases m <;> norm_num [Requirement.holds, Measure.bound, Bound.admits, Measure.get, default,
      Spacing.default, Figure.default]

namespace Figure

theorem plot_default : (default : Figure ℝ).plotWidth = 2240 ∧
    (default : Figure ℝ).plotHeight = 1440 := by
  norm_num [default, plotWidth, plotHeight]

theorem nodeRadius_default : 27 ≤ (default : Figure ℝ).nodeRadius ∧
    (default : Figure ℝ).nodeRadius ≤ 29 := by
  have root : (25 : ℝ) ≤ √650 ∧ √650 ≤ 26 :=
    ⟨Real.le_sqrt_of_sq_le (by norm_num), Real.sqrt_le_iff.mpr ⟨by norm_num, by norm_num⟩⟩
  norm_num [default, nodeRadius, pixels]
  constructor <;> linarith [root.1, root.2]

theorem isRoomy_default : (default : Figure ℝ).IsRoomy := by
  obtain ⟨width, height⟩ := plot_default
  obtain ⟨_, small⟩ := nodeRadius_default
  exact ⟨by rw [width]; linarith, by rw [height]; linarith⟩

end Figure

/-- The first of two rows, where it is not the shorter one. -/
theorem Scene.place_first_row_default {g : Graph} (graph : g.Valid) (layers : g.layers = [0, 1])
    (several : 1 < (g.nodesIn 0).length) (longest : (g.nodesIn 1).length ≤ (g.nodesIn 0).length)
    {i : Nat} {n : Node} (here : (g.nodesIn 0)[i]? = some n) :
    let s : Settings ℝ := .default
    let p := (ofGraph g s.spacing s.palette).place s.figure n.id
    p.x = 2 * s.figure.nodeRadius + i / ((g.nodesIn 0).length - 1) *
        (2240 - 4 * s.figure.nodeRadius) ∧ p.y = 2 * s.figure.nodeRadius := by
  intro s
  have least : IsLeast {layer | layer ∈ g.layers} 0 := by simp [layers, IsLeast, lowerBounds]
  have plot : s.figure.plotWidth = 2240 := Figure.plot_default.1
  rw [← plot]
  have deeper : 1 ∈ g.layers := by simp [layers]
  exact place_first_row graph Settings.isValid_default Figure.isRoomy_default least deeper one_pos
    several (by simpa [layers] using longest) here

end Strata
