import Strata.Proofs.PlotArea

/-! The place of the legend in exact arithmetic. Its box stands to the right of the plot and the
canvas holds both. In the box the title and the entries have a row each, one below the other, which
is wide and high enough for what is drawn in it whatever the texts are. -/
namespace Strata

structure Rect.Inside (r s : Rect ℝ) : Prop where
  left : s.x ≤ r.x
  right : r.x + r.width ≤ s.x + s.width
  top : s.y ≤ r.y
  bottom : r.y + r.height ≤ s.y + s.height

theorem Rect.Inside.trans {r s t : Rect ℝ} (inner : r.Inside s) (outer : s.Inside t) :
    r.Inside t :=
  ⟨outer.left.trans inner.left, inner.right.trans outer.right, outer.top.trans inner.top,
    inner.bottom.trans outer.bottom⟩

theorem le_foldl_max (l : List ℝ) (start : ℝ) :
    start ≤ l.foldl max start ∧ ∀ x ∈ l, x ≤ l.foldl max start := by
  induction l generalizing start with
  | nil => simp
  | cons y rest ih =>
    obtain ⟨first, others⟩ := ih (max start y)
    refine ⟨(le_max_left _ _).trans first, ?_⟩
    intro x member
    rcases List.mem_cons.mp member with rfl | later
    · exact (le_max_right _ _).trans first
    · exact others x later

namespace LegendBox

def region (b : LegendBox ℝ) : Rect ℝ := ⟨b.x, b.y, b.width, b.height⟩

/-- The rows from the top, across the whole box: the title's, then one for each entry. -/
def row (b : LegendBox ℝ) (i : ℕ) : Rect ℝ :=
  ⟨b.x, b.y + b.padding + i * b.rowHeight, b.width, b.rowHeight⟩

/-- Where the title stands, which has its middle at its anchor. -/
noncomputable def titleRegion (b : LegendBox ℝ) (title : String) : Rect ℝ :=
  ⟨b.titleAnchor.x - textWidth title b.fontSize / 2.0, b.titleAnchor.y - b.fontSize / 2.0,
    textWidth title b.fontSize, b.fontSize⟩

/-- Where the text of an entry stands, which begins at its anchor. -/
noncomputable def textRegion (b : LegendBox ℝ) (i : ℕ) (label : String) : Rect ℝ :=
  ⟨(b.textAnchor i).x, (b.textAnchor i).y - b.fontSize / 2.0, textWidth label b.fontSize,
    b.fontSize⟩

/-- Everything in the legend has its own place in the box. -/
structure Fits (b : LegendBox ℝ) (labels : List String) (title : String) : Prop where
  rows : ∀ i ≤ labels.length, (b.row i).Inside b.region
  title : (b.titleRegion title).Inside (b.row 0)
  swatch : ∀ i < labels.length, (b.swatch i).Inside (b.row (i + 1))
  text : ∀ i label, labels[i]? = some label → (b.textRegion i label).Inside (b.row (i + 1))
  beside : ∀ i, (b.swatch i).x + (b.swatch i).width < (b.textAnchor i).x
  below_title : ∀ i, (b.row 0).y + (b.row 0).height < (b.swatch i).y
  below : ∀ i j, i < j → (b.swatch i).y + (b.swatch i).height < (b.swatch j).y

/-- The sizes of a box that was made for its entries and title. -/
structure HasRoom (b : LegendBox ℝ) (labels : List String) (title : String) : Prop where
  size : 0 < b.fontSize
  padding : b.padding = 2 / 5 * b.fontSize
  rowHeight : b.rowHeight = 3 / 2 * b.fontSize
  height : b.height = b.rowHeight * (labels.length + 1) + 2 * b.padding
  title : textWidth title b.fontSize + 2 * b.padding ≤ b.width
  swatch : 14 / 5 * b.fontSize + 2 * b.padding ≤ b.width
  entry : ∀ label ∈ labels,
    14 / 5 * b.fontSize + textWidth label b.fontSize + 2 * b.padding ≤ b.width

theorem hasRoom_ofLabels (x : ℝ) (labels : List String) (title : String) {fontSize : ℝ}
    (size : 0 < fontSize) : (ofLabels x labels title fontSize).HasRoom labels title := by
  let widths := labels.map fun l => textWidth l fontSize
  obtain ⟨nonneg, widest⟩ := le_foldl_max widths 0
  have width : (ofLabels x labels title fontSize).width =
      max (14 / 5 * fontSize + widths.foldl max 0) (textWidth title fontSize) +
        2 * (2 / 5 * fontSize) := by
    have greater : (Scalar.max : ℝ → ℝ → ℝ) = max := rfl
    norm_num [ofLabels, widths, greater]
    ring_nf
  have entry := le_max_left (14 / 5 * fontSize + widths.foldl max 0) (textWidth title fontSize)
  have padding : (ofLabels x labels title fontSize).padding = 2 / 5 * fontSize := by
    norm_num [ofLabels]
  refine ⟨size, padding, ?_, ?_, ?_, ?_, ?_⟩
  · norm_num [ofLabels]
  · norm_num [ofLabels]
  · rw [width, padding]
    gcongr
    exact le_max_right _ _
  · rw [width, padding]
    gcongr
    show 14 / 5 * fontSize ≤ _
    linarith
  · intro label member
    have fits := widest _ (List.mem_map.mpr ⟨label, member, rfl⟩)
    rw [width, padding]
    gcongr
    show 14 / 5 * fontSize + textWidth label fontSize ≤ _
    linarith

theorem rowCenter_real (b : LegendBox ℝ) (i : ℕ) :
    b.rowCenter i = b.y + b.padding + b.rowHeight * (i + 3 / 2) := by
  norm_num [rowCenter]

theorem swatch_real (b : LegendBox ℝ) (i : ℕ) : b.swatch i =
    ⟨b.x + b.padding, b.rowCenter i - 7 / 20 * b.fontSize, 2 * b.fontSize, 7 / 10 * b.fontSize⟩ := by
  norm_num [swatch]
  ring

theorem textAnchor_real (b : LegendBox ℝ) (i : ℕ) :
    b.textAnchor i = ⟨b.x + b.padding + 14 / 5 * b.fontSize, b.rowCenter i⟩ := by
  norm_num [textAnchor]

theorem titleAnchor_real (b : LegendBox ℝ) :
    b.titleAnchor = ⟨b.x + b.width / 2, b.y + b.padding + b.rowHeight / 2⟩ := by
  norm_num [titleAnchor]

theorem HasRoom.fits {b : LegendBox ℝ} {labels : List String} {title : String}
    (room : b.HasRoom labels title) : b.Fits labels title := by
  obtain ⟨size, padding, rowHeight, height, forTitle, forSwatch, forEntry⟩ := room
  have below (i : ℕ) : 0 ≤ b.fontSize * i := mul_nonneg size.le i.cast_nonneg
  constructor
  case rows =>
    intro i small
    have cast : (i : ℝ) ≤ labels.length := Nat.cast_le.mpr small
    have last := mul_le_mul_of_nonneg_left cast size.le
    refine ⟨le_rfl, le_rfl, ?_, ?_⟩ <;> simp only [row, region, height, padding, rowHeight]
    · linarith [below i]
    · linarith
  case title =>
    constructor <;> simp only [titleRegion, titleAnchor_real, row, rowHeight, Nat.cast_zero] <;>
      linarith
  case swatch =>
    intro i _
    constructor <;> simp only [swatch_real, rowCenter_real, row, rowHeight, Nat.cast_succ] <;>
      linarith
  case text =>
    intro i label here
    have fits := forEntry label (List.mem_of_getElem? here)
    constructor <;>
      simp only [textRegion, textAnchor_real, rowCenter_real, row, rowHeight, Nat.cast_succ] <;>
      linarith
  case beside =>
    intro i
    simp only [swatch_real, textAnchor_real]
    linarith
  case below_title =>
    intro i
    simp only [swatch_real, rowCenter_real, row, rowHeight, Nat.cast_zero]
    linarith [below i]
  case below =>
    intro i j less
    have cast : (i : ℝ) + 1 ≤ j := by exact_mod_cast less
    have lower := mul_le_mul_of_nonneg_left cast size.le
    simp only [swatch_real, rowCenter_real, rowHeight]
    linarith

end LegendBox

namespace Frame

def canvas (f : Frame ℝ) : Rect ℝ := ⟨0, 0, f.width, f.height⟩

/-- The legend stands to the right of the plot and has room for its title and entries, whatever they
are, and the canvas holds the plot and the legend. -/
theorem legend_fits (l : Layout ℝ) (labels : List String) (title : String) {f : Figure ℝ}
    (wide : 0 < f.plotWidth) (size : 0 < f.pixels f.legendFontSize) :
    let frame := ofLayout l labels title f
    frame.plot.Inside frame.canvas ∧ frame.legend.region.Inside frame.canvas ∧
      frame.plot.x + frame.plot.width < frame.legend.x ∧ frame.legend.Fits labels title := by
  intro frame
  have room : frame.legend.HasRoom labels title := LegendBox.hasRoom_ofLabels _ labels title size
  have left : frame.legend.x = f.plotWidth * (101 / 100) := by
    norm_num [frame, ofLayout, LegendBox.ofLabels]
  have top : frame.legend.y = 0 := by norm_num [frame, ofLayout, LegendBox.ofLabels]
  have right : frame.legend.x + frame.legend.width + frame.legend.padding ≤ frame.width :=
    Int.le_ceil _
  have bottom : max f.plotHeight (frame.legend.y + frame.legend.height) ≤ frame.height :=
    Int.le_ceil _
  obtain ⟨plotBottom, boxBottom⟩ := max_le_iff.mp bottom
  have padding : 0 ≤ frame.legend.padding := by
    rw [room.padding]
    linarith [room.size]
  have width : 0 ≤ frame.legend.width := by linarith [room.swatch, room.size]
  have plotWidth : frame.plot.width = f.plotWidth := rfl
  refine ⟨⟨le_rfl, ?_, le_rfl, ?_⟩, ⟨?_, ?_, ?_, ?_⟩, ?_, room.fits⟩ <;>
    simp only [canvas, plot, LegendBox.region, zero_add]
  · show f.plotWidth ≤ frame.width
    linarith
  · exact plotBottom
  · rw [left]
    positivity
  · linarith
  · exact top.ge
  · exact boxBottom
  · show f.plotWidth < frame.legend.x
    linarith

theorem legend_fits_wide :
    let wide := "Layer 4294967295"
    let f : Figure ℝ := .default
    let frame := ofLayout ⟨∅⟩ ["Layer 0", wide] "Layers" f
    0 < f.plotWidth ∧ 0 < f.pixels f.legendFontSize ∧
      frame.plot.x + frame.plot.width < frame.legend.x ∧
      (frame.legend.textRegion 1 wide).Inside frame.canvas ∧
      (frame.legend.swatch 0).y + (frame.legend.swatch 0).height < (frame.legend.swatch 1).y := by
  intro wide f frame
  have plot : 0 < f.plotWidth := Settings.plotWidth_pos Settings.isValid_default
  have size : 0 < f.pixels f.legendFontSize := by
    norm_num [f, Figure.default, Figure.pixels]
  obtain ⟨_, box, right, fits⟩ := legend_fits ⟨∅⟩ ["Layer 0", wide] "Layers" plot size
  have text : (frame.legend.textRegion 1 wide).Inside (frame.legend.row 2) := fits.text 1 wide rfl
  exact ⟨plot, size, right, (text.trans (fits.rows 2 (by simp))).trans box, fits.below 0 1 one_pos⟩

end Frame

end Strata
