import Strata.Settings.Basic
import Strata.Decimal.Form
import Strata.Fault

/-! The numeric settings by name, what is asked of each, and the first one that fails. -/
namespace Strata

variable {α : Type}

inductive Measure where
  | xGap
  | yGap
  | width
  | height
  | dpi
  | fontSize
  | legendFontSize
  | nodeSize
  | borderWidth
  | edgeWidth
  | edgeOpacity
  | curvature
  | arrowSize
deriving DecidableEq, Repr

namespace Measure

def all : List Measure :=
  [xGap, yGap, width, height, dpi, fontSize, legendFontSize, nodeSize, borderWidth, edgeWidth,
   edgeOpacity, curvature, arrowSize]

/-- The section of the settings that a measure belongs to, and its key there. -/
def path : Measure → String × String
  | xGap => ("layout", "x_gap")
  | yGap => ("layout", "y_gap")
  | width => ("render", "width")
  | height => ("render", "height")
  | dpi => ("render", "dpi")
  | fontSize => ("render", "font_size")
  | legendFontSize => ("render", "legend_font_size")
  | nodeSize => ("render", "node_size")
  | borderWidth => ("render", "border_width")
  | edgeWidth => ("render", "edge_width")
  | edgeOpacity => ("render", "edge_opacity")
  | curvature => ("render", "curvature")
  | arrowSize => ("render", "arrow_size")

def key (m : Measure) : String := m.path.2
def name (m : Measure) : String := m.path.1 ++ "." ++ m.path.2

def ofName? (name : String) : Option Measure := all.find? fun m => m.name == name

def get (s : Settings α) : Measure → α
  | xGap => s.spacing.xGap
  | yGap => s.spacing.yGap
  | width => s.figure.width
  | height => s.figure.height
  | dpi => s.figure.dpi
  | fontSize => s.figure.fontSize
  | legendFontSize => s.figure.legendFontSize
  | nodeSize => s.figure.nodeSize
  | borderWidth => s.figure.borderWidth
  | edgeWidth => s.figure.edgeWidth
  | edgeOpacity => s.figure.edgeOpacity
  | curvature => s.figure.curvature
  | arrowSize => s.figure.arrowSize

def set (s : Settings α) (x : α) : Measure → Settings α
  | xGap => { s with spacing := { s.spacing with xGap := x } }
  | yGap => { s with spacing := { s.spacing with yGap := x } }
  | width => { s with figure := { s.figure with width := x } }
  | height => { s with figure := { s.figure with height := x } }
  | dpi => { s with figure := { s.figure with dpi := x } }
  | fontSize => { s with figure := { s.figure with fontSize := x } }
  | legendFontSize => { s with figure := { s.figure with legendFontSize := x } }
  | nodeSize => { s with figure := { s.figure with nodeSize := x } }
  | borderWidth => { s with figure := { s.figure with borderWidth := x } }
  | edgeWidth => { s with figure := { s.figure with edgeWidth := x } }
  | edgeOpacity => { s with figure := { s.figure with edgeOpacity := x } }
  | curvature => { s with figure := { s.figure with curvature := x } }
  | arrowSize => { s with figure := { s.figure with arrowSize := x } }

theorem get_set_same (s : Settings α) (x : α) (m : Measure) : m.get (m.set s x) = x := by
  cases m <;> rfl

theorem get_set_other (s : Settings α) (x : α) {m n : Measure} (h : n ≠ m) :
    n.get (m.set s x) = n.get s := by
  cases m <;> cases n <;> simp_all [get, set]

end Measure

inductive Bound where
  | positive
  | nonNegative
  /-- From zero to one, both included. -/
  | fraction
  | finite
deriving DecidableEq, Repr

def Bound.admits [Scalar α] (x : α) : Bound → Bool
  | positive => Scalar.isFinite x && Scalar.lt 0.0 x
  | nonNegative => Scalar.isFinite x && Scalar.le 0.0 x
  | fraction => Scalar.le 0.0 x && Scalar.le x 1.0
  | finite => Scalar.isFinite x

def Measure.bound : Measure → Bound
  | borderWidth => .nonNegative
  | edgeOpacity => .fraction
  | curvature => .finite
  | _ => .positive

/-- A condition on the settings: one on the palette and one on each measure. -/
inductive Requirement where
  | palette
  | measure (m : Measure)
deriving DecidableEq, Repr

namespace Requirement

/-- The requirements in the order in which they are looked at. -/
def all : List Requirement :=
  [measure .xGap, measure .yGap, palette, measure .width, measure .height, measure .dpi,
   measure .fontSize, measure .legendFontSize, measure .nodeSize, measure .edgeWidth,
   measure .arrowSize, measure .borderWidth, measure .edgeOpacity, measure .curvature]

theorem mem_all (r : Requirement) : r ∈ all := by
  cases r with
  | palette => decide
  | measure m => cases m <;> decide

def holds [Scalar α] (s : Settings α) : Requirement → Bool
  | palette => !s.palette.isEmpty
  | measure m => m.bound.admits (m.get s)

def name : Requirement → String
  | palette => "style.palette"
  | measure m => m.name

def rejection (s : Settings Float) : Requirement → String
  | palette => "palette must contain at least one color"
  | measure m =>
    let given := Decimal.plain.render (m.get s)
    match m.bound with
    | .positive => m.name ++ " must be a positive number, got " ++ given
    | .nonNegative => m.name ++ " must not be negative, got " ++ given
    | .fraction => "opacity must be within 0..=1, got " ++ given
    | .finite => "curvature must be finite"

end Requirement

namespace Settings

/-- The first requirement that the settings fail. -/
def violation? [Scalar α] (s : Settings α) : Option Requirement :=
  Requirement.all.find? fun r => !r.holds s

def isValid [Scalar α] (s : Settings α) : Bool := s.violation?.isNone

def validated (s : Settings Float) : Except Fault (Settings Float) :=
  match s.violation? with
  | none => .ok s
  | some r => .error (Fault.configInvalid r.name (r.rejection s))

theorem violation?_eq_none [Scalar α] {s : Settings α} :
    s.violation? = none ↔ ∀ r : Requirement, r.holds s = true := by
  simp [violation?, Requirement.mem_all]

end Settings

end Strata
