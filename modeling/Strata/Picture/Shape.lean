import Strata.Picture.Marker
import Strata.Picture.PathData
import Strata.Picture.Resources
import Strata.Picture.Surroundings

/-! Shapes: their outlines, from their attributes and what is around them, whether they are filled
and stroked, by colours, gradients and patterns, and the markers on them. -/
namespace Strata.Picture

/-- The radii of rounded corners; one that is missing is as long as the other. -/
def Surroundings.radii (s : Surroundings) (l : Attributes) : Float32 × Float32 :=
  let radius? (name : String) : Option Float32 :=
    (((l.lookup name).bind Length.ofText?).filter fun r =>
      !(Decimal.Exact.ofFloat r.number).negative).map (s.pixels name)
  match radius? "rx", radius? "ry" with
  | none, none => (0, 0)
  | some rx, none => (rx, rx)
  | none, some ry => (ry, ry)
  | some rx, some ry => (rx, ry)

def quarter (pen : Point Float32) (rx ry : Float32) (q : Point Float32) : List Segment :=
  let double (p : Point Float32) : Point Float := ⟨p.x.toFloat, p.y.toFloat⟩
  let a : Arc := ⟨double pen, double q, ⟨rx.toFloat, ry.toFloat⟩, 0, false, true⟩
  match a.curves? with
  | none => [.line q]
  | some l => l.map fun c => .cubic (single c.first) (single c.second) (single c.finish)

def roundSegments (rx ry : Float32) : Point Float32 → List (Bool × Point Float32) → List Segment
  | _, [] => [.close]
  | pen, (isRound, q) :: rest =>
    let l := if isRound then quarter pen rx ry q else [.line q]
    l ++ roundSegments rx ry ((l.getLast?.bind fun s => s.points.getLast?).getD pen) rest

def roundOutline (rx ry : Float32) (start : Point Float32) (l : List (Bool × Point Float32)) :
    Outline :=
  .move start :: roundSegments rx ry start l

def ellipseOutline (x y rx ry : Float32) : Option Outline :=
  if isVisibleLength rx && isVisibleLength ry then
    some (roundOutline rx ry ⟨x + rx, y⟩
      [(true, ⟨x, y + ry⟩), (true, ⟨x - rx, y⟩), (true, ⟨x, y - ry⟩), (true, ⟨x + rx, y⟩)])
  else none

/-- A rectangle; its corners take half of a side at most. -/
def rectangleOutline (x y w h rx ry : Float32) : Option Outline :=
  let rx := if w / 2 < rx then w / 2 else rx
  let ry := if h / 2 < ry then h / 2 else ry
  if !isVisibleLength w || !isVisibleLength h then none
  else if rx == 0 && ry == 0 then
    let b := Box.ofSides x y w h
    if b.isSound then
      some [.move ⟨b.left, b.top⟩, .line ⟨b.right, b.top⟩, .line ⟨b.right, b.bottom⟩,
        .line ⟨b.left, b.bottom⟩, .close]
    else none
  else
    some (roundOutline rx ry ⟨x + rx, y⟩
      [(false, ⟨x + w - rx, y⟩), (true, ⟨x + w, y + ry⟩), (false, ⟨x + w, y + h - ry⟩),
       (true, ⟨x + w - rx, y + h⟩), (false, ⟨x + rx, y + h⟩), (true, ⟨x, y + h - ry⟩),
       (false, ⟨x, y + ry⟩), (true, ⟨x + rx, y⟩)])

def pairs : Nat → List Char → List (Point Float32)
  | 0, _ => []
  | bound + 1, s =>
    match numbers 2 s with
    | some ([x, y], r) => ⟨x.toFloat32, y.toFloat32⟩ :: pairs bound r
    | _ => []

/-- Lines through two points at least. -/
def linesThrough (s : String) (ending : List Segment) : Option Outline :=
  match pairs (s.toList.length + 1) s.toList with
  | p :: q :: rest => some (.move p :: .line q :: (rest.map Segment.line ++ ending))
  | _ => none

def outline? (s : Surroundings) (kind : Kind) (l : Attributes) : Option Outline :=
  match kind with
  | .rectangle =>
    let (rx, ry) := s.radii l
    rectangleOutline (s.measure l "x") (s.measure l "y") (s.measure l "width")
      (s.measure l "height") rx ry
  | .circle =>
    let r := s.measure l "r"
    ellipseOutline (s.measure l "cx") (s.measure l "cy") r r
  | .ellipse =>
    let (rx, ry) := s.radii l
    ellipseOutline (s.measure l "cx") (s.measure l "cy") rx ry
  | .line =>
    some [.move ⟨s.measure l "x1", s.measure l "y1"⟩, .line ⟨s.measure l "x2", s.measure l "y2"⟩]
  | .polyline => (l.lookup "points").bind fun text => linesThrough text []
  | .polygon => (l.lookup "points").bind fun text => linesThrough text [.close]
  | .path => (l.lookup "d").map Outline.ofPathData
  | _ => none

def isVaried? (links : Links) (p : Located) : Option Bool :=
  let stops (e : Element) : Nat := (e.children.filter fun c => c.level.kind == .stop).length
  (p.chained? links Kind.isGradient fun e => 0 < stops e).map fun q => 1 < stops q.element

/-- Whether colours around a point have room to change. The room comes from elements of that kind
alone. -/
def hasRoom (links : Links) (s : Surroundings) (u : Units) (p : Located) : Bool :=
  isVisibleLength (s.measureAlong links .radials u p "r" ⟨50, .percent⟩)

/-- Whether a pattern shows anything. One that does is known from then on. -/
def isPattern (r : Resources) (s : Surroundings) (u : Units) (p : Located) : Tracing Bool :=
  known p.element.level.number true do
    let region := region? (s.measureAlong r.links (.ofKind .pattern) u p) .zero .zero .zero .zero
    match region, p.chained? r.links (· == .pattern) fun e => !e.children.isEmpty with
    | some _, some q => return !(← r.inside (s.atPlace q) .identity q).isEmpty
    | _, _ => return false

def isPaint (r : Resources) (s : Surroundings) (hasExtent : Bool) (p : Located) : Tracing Bool := do
  let fits (u : Units) : Bool := hasExtent || u == .around
  let kind := p.element.level.kind
  if kind.isGradient then
    let units := Units.along r.links .gradients p "gradientUnits" .ofBox
    return (isVaried? r.links p).any fun isVaried =>
      !isVaried || kind == .radial && !hasRoom r.links s units p || fits units
  else if kind = .pattern then
    let units := Units.along r.links (.ofKind .pattern) p "patternUnits" .ofBox
    return (← isPattern r s units p) && fits units
  else return false

/-- Whether a paint leaves anything on such a shape. What is no gradient or pattern leaves nothing,
whatever is given for it. -/
def Paint.isSeen (r : Resources) (s : Surroundings) (hasExtent : Bool) : Paint → Tracing Bool
  | nothing => return false
  | color => return true
  | contextFill => return s.context.fill
  | contextStroke => return s.context.stroke
  | server name fallback =>
    match r.links.lookup name with
    | some p => do
      let kind := p.element.level.kind
      return (← isPaint r s hasExtent p) || (kind.isGradient || kind == .pattern) && fallback
    | none => return fallback

/-- How an element is painted. A fill that cannot be read is black, and a stroke none at all. -/
def painted (r : Resources) (s : Surroundings) (hasExtent : Bool) : Tracing Painted :=
  let isSeen (name : String) (otherwise unread : Paint) : Tracing Bool :=
    (((s.inherited? name).map fun t => (Paint.ofText? t).getD unread).getD otherwise).isSeen r s
      hasExtent
  if s.clipping then return ⟨true, false⟩
  else do
    let fill ← isSeen "fill" .color .color
    let stroke ← isSeen "stroke" .nothing .nothing
    return ⟨fill, stroke && s.strokeWidth?.isSome⟩

def markParts (r : Resources) (s : Surroundings) (m : Affine Float32) (context : Painted)
    (p : Located) (places : List MarkPlace) : Tracing (List Part) := do
  let l := p.element.level
  let isOpen := s.marks.contains l.number
  let scale := if l.attributes.lookup "markerUnits" == some "userSpaceOnUse" then some 1
    else s.strokeWidth?
  match scale with
  | some scale =>
    if l.kind ≠ .marker ∨ isOpen then return []
    else
      let within := { s.atPlace p with marks := l.number :: s.marks, context := context }
      (markMaps (s.atPlace p) scale l.attributes places).filterMapM fun t => do
        let parts ← r.inside within (m.before t) p
        return if parts.isEmpty then none else some (Group.ofParts t parts).part
  | none => return []

def hasMarkers (k : Kind) : Bool := [Kind.line, .path, .polyline, .polygon].contains k

def marked? (r : Resources) (s : Surroundings) (m : Affine Float32) (context : Painted) (k : Kind)
    (o : Outline) : Tracing (Option Part) := do
  let target? (name : String) : Option Located :=
    ((s.inherited? name).bind functionalName?).bind fun id => r.links.lookup id
  let isSeen := (s.inherited? "visibility").all fun v => v != "hidden" && v != "collapse"
  let isFree := s.levels.all fun l => l.kind != .clip
  if hasMarkers k && isSeen && isFree && markKinds.any fun (name, _) => (target? name).isSome then
    let l := vertices o
    let parts ← markKinds.mapM fun (name, kind) =>
      match target? name with
      | some p => markParts r s m context p (kind.places l)
      | none => return []
    return some (Group.ofParts .identity parts.flatten).part
  else return none

def shapeParts (r : Resources) (s : Surroundings) (m : Affine Float32) (l : Level) :
    Tracing (List Part) := do
  match (outline? s l.kind l.attributes).bind fun o => (o.part? m).map fun p => (o, p) with
  | none => return []
  | some (o, p) =>
    let painted ← painted r s o.hasExtent
    let marks := (← marked? r s m painted l.kind o).toList
    let coat (c : Coat) : List Part := match c with
      | .fill => if painted.fill then [p] else []
      | .stroke => if painted.stroke then [p] else []
      | .markers => marks
    return match ((s.inherited? "paint-order").elim Coat.usual Coat.order) with
      | [.markers, _, _] => marks ++ [p]
      | [a, .markers, b] => coat a ++ marks ++ coat b
      | _ => p :: marks

end Strata.Picture
