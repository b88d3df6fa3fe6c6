import Strata.Picture.Affine
import Strata.Picture.Element
import Strata.Picture.Length
import Strata.Picture.Outline

/-! What the values of an element refer to: the elements around it, and the part of the plane that
is shown there and how it is fitted into a size. -/
namespace Strata.Picture

open Markup (skipSpace)

/-- Four numbers, the last two of them positive; whatever follows does not matter. -/
def viewBox? (s : String) : Option Box :=
  match numbers 4 s.toList with
  | some ([x, y, w, h], _) =>
    if 0 < w ∧ 0 < h then
      (some (Box.ofSides x.toFloat32 y.toFloat32 w.toFloat32 h.toFloat32)).filter Box.hasExtent
    else none
  | _ => none

/-- Where what is left over goes along an axis: behind, to both sides, or in front. -/
inductive Alignment where
  | low
  | middle
  | high
deriving DecidableEq, Repr

/-- How a view box is fitted: the axes on their own, or both by one scale, which leaves nothing of
the size empty when it covers. -/
inductive Fit where
  | stretched
  | scaled (x y : Alignment) (covers : Bool)
deriving DecidableEq, Repr

namespace Fit

def standard : Fit := scaled .middle .middle false

def alignments : List (String × Alignment × Alignment) :=
  [("xMinYMin", .low, .low), ("xMidYMin", .middle, .low), ("xMaxYMin", .high, .low),
   ("xMinYMid", .low, .middle), ("xMidYMid", .middle, .middle), ("xMaxYMid", .high, .middle),
   ("xMinYMax", .low, .high), ("xMidYMax", .middle, .high), ("xMaxYMax", .high, .high)]

def covers? (s : List Char) : Option Bool :=
  match (word s).1 with
  | "meet" | "" => some false
  | "slice" => some true
  | _ => none

def ofText? (s : String) : Option Fit := do
  let r := skipSpace s.toList
  let r ← if "defer".toList.isPrefixOf r then
      if (r.drop 5).head? = some ' ' then some (skipSpace (r.drop 6)) else none
    else some r
  let (name, r) := word r
  let covers ← covers? (skipSpace r)
  if name = "none" then return stretched
  else
    let (x, y) ← alignments.lookup name
    return scaled x y covers

end Fit

def Alignment.place (a : Alignment) (start rest : Float32) : Float32 :=
  match a with
  | low => start
  | middle => start + rest / 2
  | high => start + rest

def Box.fitting (b : Box) (f : Fit) (s : Size) : Affine Float32 :=
  let sx := s.width / b.width
  let sy := s.height / b.height
  match f with
  | .stretched => ⟨sx, 0, 0, sy, -b.left * sx, -b.top * sy⟩
  | .scaled x y covers =>
    let k := if covers then (if sx < sy then sy else sx) else if sx > sy then sy else sx
    ⟨k, 0, 0, k, x.place (-b.left * k) (s.width - b.width * k),
      y.place (-b.top * k) (s.height - b.height * k)⟩

example : Fit.ofText? "xMinYMax slice" = some (.scaled .low .high true) := by decide +kernel

structure Painted where
  fill : Bool
  stroke : Bool
deriving DecidableEq, Repr

structure Surroundings where
  dpi : Float32
  /-- The part of the plane that is shown around. -/
  view : Box
  /-- The element itself and those around it, from the inside. -/
  levels : List Level := []
  fontSize : Float32 := defaultFontSize
  /-- The sides that a use gives to what it uses. -/
  width : Option Float32 := none
  height : Option Float32 := none
  /-- The numbers of the markers that are being drawn. -/
  marks : List Nat := []
  /-- How the shape is painted that a marker stands on, or a use. -/
  context : Painted := ⟨false, false⟩
  /-- Inside of a clip path outlines alone count. -/
  clipping : Bool := false

def horizontals : List String :=
  ["cx", "dx", "fx", "markerWidth", "refX", "rx", "width", "x", "x1", "x2"]

def verticals : List String :=
  ["cy", "dy", "fy", "height", "markerHeight", "refY", "ry", "y", "y1", "y2"]

inductive Units where
  /-- Lengths around, and shares of the view. -/
  | around
  /-- Shares of the box of the element that something is applied to. -/
  | ofBox
deriving DecidableEq, Repr

def Units.ofText? : String → Option Units
  | "userSpaceOnUse" => some around
  | "objectBoundingBox" => some ofBox
  | _ => none

def Units.read (l : Attributes) (name : String) (otherwise : Units) : Units :=
  ((l.lookup name).bind Units.ofText?).getD otherwise

def Units.along (links : Links) (f : Family) (p : Located) (name : String) (otherwise : Units) :
    Units :=
  Units.read (p.giver links f name).element.level.attributes name otherwise

def fontSizeIn (dpi : Float32) : List Level → Float32
  | [] => defaultFontSize
  | l :: outer =>
    match l.attributes.lookup "font-size" with
    | some value => fontSize dpi (fontSizeIn dpi outer) value
    | none => fontSizeIn dpi outer

namespace Surroundings

def enter (s : Surroundings) (l : Level) : Surroundings :=
  let size := match l.attributes.lookup "font-size" with
    | some value => Picture.fontSize s.dpi s.fontSize value
    | none => s.fontSize
  { s with levels := l :: s.levels, fontSize := size }

def atPlace (s : Surroundings) (p : Located) : Surroundings :=
  { s with levels := p.outer, fontSize := fontSizeIn s.dpi p.outer }.enter p.element.level

def inherited? (s : Surroundings) (name : String) : Option String :=
  s.levels.findSome? fun l => l.attributes.lookup name

def whole (s : Surroundings) (name : String) : Float32 :=
  let w := s.view.width
  let h := s.view.height
  if horizontals.contains name then w
  else if verticals.contains name then h
  else ((w * w + h * h) / 2).sqrt

def pixels (s : Surroundings) (name : String) (l : Length) : Float32 :=
  l.pixels s.dpi s.fontSize (s.whole name)

def measure (s : Surroundings) (l : Attributes) (name : String) (otherwise : Length := .zero) :
    Float32 :=
  s.pixels name (((l.lookup name).bind Length.ofText?).getD otherwise)

def measureIn (s : Surroundings) (u : Units) (l : Attributes) (name : String)
    (otherwise : Length) : Float32 :=
  let length := ((l.lookup name).bind Length.ofText?).getD otherwise
  match u with
  | .around => s.pixels name length
  | .ofBox => length.pixels s.dpi s.fontSize 1

def measureAlong (s : Surroundings) (links : Links) (f : Family) (u : Units) (p : Located)
    (name : String) (otherwise : Length) : Float32 :=
  let giver := p.giver links f name
  (s.atPlace giver).measureIn u giver.element.level.attributes name otherwise

def strokeWidth? (s : Surroundings) : Option Float32 :=
  let levels := s.levels.dropWhile fun l => (l.attributes.lookup "stroke-width").isNone
  let width := match levels with
    | [] => 1
    | l :: _ =>
      { s with fontSize := fontSizeIn s.dpi levels }.measure l.attributes "stroke-width" ⟨1, .pixel⟩
  if isVisibleLength width then some width else none

/-- The map of an element, around the point that it leaves in place. -/
def mapOf (s : Surroundings) (l : Attributes) : Affine Float32 :=
  let m := (l.lookup "transform").elim Affine.identity Affine.ofTextOrIdentity
  match (l.lookup "transform-origin").bind Affine.origin? with
  | none => m
  | some (x, y) =>
    let dx := s.pixels "width" x
    let dy := s.pixels "height" y
    (Affine.identity.before (.shift dx dy)).before m |>.before (.shift (-dx) (-dy))

def shiftOf (s : Surroundings) (l : Attributes) : Affine Float32 :=
  .shift (s.measure l "x") (s.measure l "y")

def boxOf (s : Surroundings) (l : Attributes) (sides : Size) : Box :=
  .ofSides (s.measure l "x") (s.measure l "y") sides.width sides.height

def sides (s : Surroundings) (l : Attributes) : Size :=
  ⟨s.measure l "width" .whole, s.measure l "height" .whole⟩

def usedSides (s : Surroundings) (l : Attributes) : Size :=
  ⟨s.width.getD (s.sides l).width, s.height.getD (s.sides l).height⟩

end Surroundings

/-- The box of the four measures of a region, where those stand that it may leave out. -/
def region? (measure : String → Length → Float32) (x y width height : Length) : Option Box :=
  (some (Box.ofSides (measure "x" x) (measure "y" y) (measure "width" width)
    (measure "height" height))).filter Box.hasExtent

/-- The region of a mask or a filter: a tenth more on all sides unless it says otherwise. -/
def wideRegion? (measure : String → Length → Float32) : Option Box :=
  region? measure ⟨-10, .percent⟩ ⟨-10, .percent⟩ ⟨120, .percent⟩ ⟨120, .percent⟩

def fitting (sides : Size) (l : Attributes) : Affine Float32 :=
  match ((l.lookup "viewBox").bind viewBox?).filter fun _ => sides.isVisible with
  | some b => b.fitting (((l.lookup "preserveAspectRatio").bind Fit.ofText?).getD .standard) sides
  | none => .identity

end Strata.Picture
