import Strata.Settings.Basic

/-! Where things lie on the canvas. The layout is stretched along each axis to fill the plot, less a
margin that keeps the nodes whole; the legend stands to the right, and the canvas holds both. -/
namespace Strata

variable {α : Type} [Scalar α]

structure LegendBox (α : Type) where
  x : α
  y : α
  width : α
  height : α
  fontSize : α
  padding : α
  rowHeight : α
deriving DecidableEq, Repr

/-- The width of a text as estimated from its length alone. -/
def textWidth (text : String) (fontSize : α) : α := Scalar.ofNat text.length * 0.6 * fontSize

namespace LegendBox

def ofLabels (x : α) (labels : List String) (title : String) (fontSize : α) : LegendBox α :=
  let padding := 0.4 * fontSize
  let rowHeight := 1.5 * fontSize
  let widest := (labels.map fun l => textWidth l fontSize).foldl Scalar.max 0.0
  let entry := 2.0 * fontSize + 0.8 * fontSize + widest
  { x, y := 0.0
    width := Scalar.max entry (textWidth title fontSize) + 2.0 * padding
    height := rowHeight * Scalar.ofNat (labels.length + 1) + 2.0 * padding
    fontSize, padding, rowHeight }

def titleAnchor (b : LegendBox α) : Point α :=
  ⟨b.x + b.width / 2.0, b.y + b.padding + b.rowHeight / 2.0⟩

/-- The middle of an entry's row; the first entry, below the title, has row zero. -/
def rowCenter (b : LegendBox α) (row : Nat) : α :=
  b.y + b.padding + b.rowHeight * (Scalar.ofNat row + 1.5)

def swatch (b : LegendBox α) (row : Nat) : Rect α :=
  let height := 0.7 * b.fontSize
  ⟨b.x + b.padding, b.rowCenter row - height / 2.0, 2.0 * b.fontSize, height⟩

def textAnchor (b : LegendBox α) (row : Nat) : Point α :=
  ⟨b.x + b.padding + 2.8 * b.fontSize, b.rowCenter row⟩

end LegendBox

structure Frame (α : Type) where
  width : α
  height : α
  plotWidth : α
  plotHeight : α
  legend : LegendBox α
  /-- The point of the layout that lies in the middle of the plot. -/
  center : Point α
  scaleX : α
  scaleY : α
deriving DecidableEq, Repr

namespace Frame

/-- Pixels for each unit of the layout along an axis; a span of zero is not stretched. -/
def axisScale (available span : α) : α := if Scalar.lt 0.0 span then available / span else 0.0

def inner (plot inset : α) : α := Scalar.max (plot - 2.0 * inset) 1.0

def ofLayout (l : Layout α) (labels : List String) (title : String) (f : Figure α) : Frame α :=
  let inset := 2.0 * f.nodeRadius
  let legend := LegendBox.ofLabels (f.plotWidth * 1.01) labels title (f.pixels f.legendFontSize)
  let bounds := l.bounds?
  { width := Scalar.ceil (legend.x + legend.width + legend.padding)
    height := Scalar.ceil (Scalar.max f.plotHeight (legend.y + legend.height))
    plotWidth := f.plotWidth
    plotHeight := f.plotHeight
    legend
    center := match bounds with
      | some b => ⟨(b.minX + b.maxX) / 2.0, (b.minY + b.maxY) / 2.0⟩
      | none => ⟨0.0, 0.0⟩
    scaleX := match bounds with
      | some b => axisScale (inner f.plotWidth inset) b.width
      | none => 0.0
    scaleY := match bounds with
      | some b => axisScale (inner f.plotHeight inset) b.height
      | none => 0.0 }

/-- The place on the canvas of a point of the layout, whose `y` grows the other way. -/
def toCanvas (f : Frame α) (p : Point α) : Point α :=
  ⟨f.plotWidth / 2.0 + (p.x - f.center.x) * f.scaleX,
   f.plotHeight / 2.0 - (p.y - f.center.y) * f.scaleY⟩

end Frame

end Strata
