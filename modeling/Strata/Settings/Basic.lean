import Strata.Layout
import Strata.Style

/-! What a drawing may be told: the spacing of the layout, the palette, and the sizes and colours of
the figure. Sizes of type and lines are in points, and the figure's resolution makes pixels of
them. -/
namespace Strata

variable {α : Type}

structure Figure (α : Type) where
  /-- The plot's width in inches. -/
  width : α
  /-- The plot's height in inches. -/
  height : α
  /-- Pixels for each inch. -/
  dpi : α
  fontSize : α
  legendFontSize : α
  /-- The area of a node's marker, in square points. -/
  nodeSize : α
  borderWidth : α
  borderColor : Color
  edgeColor : Color
  edgeWidth : α
  edgeOpacity : α
  /-- The bend of an edge, as a fraction of its length. -/
  curvature : α
  arrowSize : α
  background : Color
  withLabels : Bool
deriving DecidableEq, Repr

structure Settings (α : Type) where
  spacing : Spacing α
  palette : List Color
  figure : Figure α
deriving DecidableEq, Repr

section

variable [Scalar α]

def Spacing.default : Spacing α := ⟨2.2, 2.2⟩

def Figure.default : Figure α where
  width := 14.0
  height := 9.0
  dpi := 160.0
  fontSize := 8.0
  legendFontSize := 10.0
  nodeSize := 650.0
  borderWidth := 0.8
  borderColor := .black
  edgeColor := .black
  edgeWidth := 1.2
  edgeOpacity := 0.8
  curvature := 0.08
  arrowSize := 10.0
  background := .white
  withLabels := true

def Settings.default : Settings α := ⟨Spacing.default, tab20, Figure.default⟩

def Figure.pixels (f : Figure α) (points : α) : α := points * f.dpi / 72.0

def Figure.nodeRadius (f : Figure α) : α := f.pixels (Scalar.sqrt f.nodeSize / 2.0)

def Figure.plotWidth (f : Figure α) : α := f.width * f.dpi
def Figure.plotHeight (f : Figure α) : α := f.height * f.dpi

end

/-- What a caller may lay over the figure. What is absent leaves the figure as it is. -/
structure Overrides (α : Type) where
  width : Option α := none
  height : Option α := none
  fontSize : Option α := none
  dpi : Option α := none
  noLabels : Bool := false

def Overrides.apply (o : Overrides α) (f : Figure α) : Figure α :=
  { f with
    width := o.width.getD f.width
    height := o.height.getD f.height
    fontSize := o.fontSize.getD f.fontSize
    dpi := o.dpi.getD f.dpi
    withLabels := f.withLabels && !o.noLabels }

theorem Overrides.apply_apply (o : Overrides α) (f : Figure α) :
    o.apply (o.apply f) = o.apply f := by
  obtain ⟨width, height, fontSize, dpi, noLabels⟩ := o
  cases width <;> cases height <;> cases fontSize <;> cases dpi <;> simp [Overrides.apply]

end Strata
