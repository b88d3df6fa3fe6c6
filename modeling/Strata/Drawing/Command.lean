import Strata.Scalar
import Strata.Style

/-! A drawing as the list of what is drawn, in canvas pixels with `y` growing downwards. Groups are
opened and closed by commands of their own. -/
namespace Strata

variable {α : Type}

/-- The course of an edge, already cut back to the borders of its nodes. -/
inductive EdgePath (α : Type) where
  | curve (start control finish : Point α)
  | loop (start control₁ control₂ finish : Point α)
deriving DecidableEq, Repr

def EdgePath.start : EdgePath α → Point α
  | curve start _ _ => start
  | loop start _ _ _ => start

def EdgePath.finish : EdgePath α → Point α
  | curve _ _ finish => finish
  | loop _ _ _ finish => finish

structure EdgeStyle (α : Type) where
  color : Color
  width : α
  opacity : α
  pattern : LinePattern
  /-- The lengths of strokes and gaps in turn; none for a solid line. -/
  dashes : List α
  arrowSize : α
deriving DecidableEq, Repr

def LinePattern.dashLengths [Scalar α] (p : LinePattern) (width : α) : List α :=
  p.dashes.map fun d => Scalar.ofNat d * width

structure NodeStyle (α : Type) where
  fill : Color
  stroke : Color
  strokeWidth : α
deriving DecidableEq, Repr

inductive Command (α : Type) where
  /-- Sets the size of the canvas and what it is covered with. -/
  | canvas (width height : α) (background : Color)
  | openGroup (kind key : String)
  | closeGroup
  | node (center : Point α) (radius : α) (style : NodeStyle α)
  | edge (path : EdgePath α) (style : EdgeStyle α)
  /-- A text with its middle at the anchor. -/
  | label (anchor : Point α) (text : String) (fontSize : α)
  | legendTitle (anchor : Point α) (text : String) (fontSize : α)
  /-- A swatch of colour, and a text that begins at the anchor. -/
  | legendEntry (swatch : Rect α) (color : Color) (anchor : Point α) (text : String)
      (fontSize : α)
deriving DecidableEq, Repr

abbrev Drawing (α : Type) := List (Command α)

namespace Drawing

/-- The size of the canvas as it was first set. -/
def size? (d : Drawing α) : Option (α × α) :=
  d.findSome? fun
    | .canvas width height _ => some (width, height)
    | _ => none

def nodes (d : Drawing α) : List (Point α × NodeStyle α) :=
  d.filterMap fun
    | .node center _ style => some (center, style)
    | _ => none

def edges (d : Drawing α) : List (EdgePath α × EdgeStyle α) :=
  d.filterMap fun
    | .edge path style => some (path, style)
    | _ => none

def labels (d : Drawing α) : List String :=
  d.filterMap fun
    | .label _ text _ => some text
    | _ => none

def legendEntries (d : Drawing α) : List (String × Color) :=
  d.filterMap fun
    | .legendEntry _ color _ text _ => some (text, color)
    | _ => none

def groups (d : Drawing α) (kind : String) : List String :=
  d.filterMap fun
    | .openGroup k key => if k = kind then some key else none
    | _ => none

@[simp] theorem nodes_append (d e : Drawing α) : nodes (d ++ e) = nodes d ++ nodes e :=
  List.filterMap_append

@[simp] theorem edges_append (d e : Drawing α) : edges (d ++ e) = edges d ++ edges e :=
  List.filterMap_append

@[simp] theorem groups_append (d e : Drawing α) (kind : String) :
    groups (d ++ e) kind = groups d kind ++ groups e kind :=
  List.filterMap_append

end Drawing

def Drawing.group (kind key : String) (body : Drawing α) : Drawing α :=
  .openGroup kind key :: body ++ [.closeGroup]

end Strata
