import Strata.Picture.Length
import Strata.Picture.Surroundings

/-! Markers: where they stand on an outline, and at which angle. -/
namespace Strata.Picture

namespace Bearing

def pi : Float32 := 3.14159274

def normal (x : Float32) : Float32 :=
  let turn := pi * 2
  let x := if turn ≤ x then x - turn else x
  if x < 0 then x + turn else x

def between (p q : Point Float32) : Float32 :=
  let x := Float32.atan2 (q.y - p.y) (q.x - p.x)
  if x.isNaN then 0 else normal x

def halfway (incoming outgoing : Float32) : Float32 :=
  let d := (outgoing - incoming) * 0.5
  let x := incoming + d
  normal (if pi / 2 < d.abs then x - pi else x) * 57.2957795

def along (p q : Point Float32) : Float32 := halfway (between p q) (between p q)

end Bearing

/-- Whether the coordinates of two points are the same or four steps apart at most. -/
def areNear (p q : Point Float32) : Bool :=
  let steps (x : Float32) : Int := x.toBits.toNat
  let near (x y : Float32) : Bool :=
    x == y || (x < 0) == (y < 0) && (steps x - steps y).natAbs ≤ 4
  near p.x q.x && near p.y q.y

structure Vertex where
  segment : Segment
  pen : Point Float32
  /-- Where the outline began that the pen is on. -/
  start : Point Float32

/-- A quadratic curve as a cubic one; other segments stay as they are. -/
def Segment.cubed (pen : Point Float32) : Segment → Segment
  | quadratic c p =>
    let third (x y : Float32) : Float32 := (x + y * 2) / 3
    cubic ⟨third pen.x c.x, third pen.y c.y⟩ ⟨third p.x c.x, third p.y c.y⟩ p
  | s => s

def verticesFrom (pen start : Point Float32) : Outline → List Vertex
  | [] => []
  | s :: rest =>
    let start' := match s with
      | .move p => p
      | _ => start
    ⟨s.cubed pen, pen, start⟩ :: verticesFrom (s.points.getLast?.getD start) start' rest

def vertices (o : Outline) : List Vertex := verticesFrom ⟨0, 0⟩ ⟨0, 0⟩ o

/-- The angle at a vertex between curves: from the control point in front of it to the one behind
it. A control point that falls on the vertex gives way to the next one away. -/
def curveAngle (previous before here after next : Point Float32) : Float32 :=
  if areNear before here then
    Bearing.halfway (Bearing.between previous here) (Bearing.between here after)
  else if areNear here after then
    Bearing.halfway (Bearing.between before here) (Bearing.between here next)
  else Bearing.halfway (Bearing.between before here) (Bearing.between here after)

namespace Vertex

def firstAngle (v next : Vertex) : Float32 :=
  match v.segment, next.segment with
  | .move p, .line q => Bearing.along p q
  | .move p, .cubic c _ q => if areNear p c then Bearing.along p q else Bearing.along p c
  | _, _ => 0

def lastAngle (v : Vertex) : Float32 :=
  match v.segment with
  | .line p => Bearing.along v.pen p
  | .cubic c d p => if areNear d p then Bearing.along c p else Bearing.along d p
  | .close => Bearing.along v.pen v.start
  | _ => 0

/-- The angle between a segment and the one that follows it. In front of an end it is that between
lines from the place of the pen and to the place to which the outline led back before. -/
def turnAngle (v next : Vertex) : Float32 :=
  match v.segment, next.segment with
  | .move p, .close | .line p, .close | .cubic _ _ p, .close =>
    Bearing.halfway (Bearing.between v.pen p) (Bearing.between p v.start)
  | .move p, .line q | .move p, .cubic q _ _ => Bearing.along p q
  | .line p, .line q => Bearing.halfway (Bearing.between v.pen p) (Bearing.between p q)
  | .line p, .cubic c _ q => curveAngle v.pen v.pen p c q
  | .line p, .move _ => Bearing.along v.pen p
  | .cubic _ d p, .line q => curveAngle v.pen d p q q
  | .cubic _ d p, .cubic c _ q => curveAngle v.pen d p c q
  | .cubic _ d p, .move _ => if areNear d p then Bearing.along v.pen p else Bearing.along d p
  | _, _ => 0

end Vertex

structure MarkPlace where
  point : Point Float32
  degrees : Float32
  isFirst : Bool := false

inductive MarkKind where
  | start
  | middle
  | finish
deriving DecidableEq, Repr

def middlePlaces : List Vertex → List MarkPlace
  | v :: next :: rest =>
    let others := middlePlaces (next :: rest)
    match v.segment.points.getLast? with
    | some p => ⟨p, v.turnAngle next, false⟩ :: others
    | none => others
  | _ => []

/-- The place at the end, which is no move. -/
def lastPlace? : List Vertex → Option MarkPlace
  | [_, v] =>
    match v.segment with
    | .move _ => none
    | s => some ⟨s.points.getLast?.getD v.start, v.lastAngle, false⟩
  | _ :: rest => lastPlace? rest
  | [] => none

def MarkKind.places (k : MarkKind) (l : List Vertex) : List MarkPlace :=
  match k, l with
  | start, v :: next :: _ =>
    match v.segment with
    | .move p => [⟨p, v.firstAngle next, true⟩]
    | _ => []
  | middle, _ :: rest => middlePlaces rest
  | finish, l => (lastPlace? l).toList
  | _, _ => []

def markKinds : List (String × MarkKind) :=
  [("marker-start", .start), ("marker-mid", .middle), ("marker-end", .finish)]

def MarkPlace.turn (p : MarkPlace) (orient : Option String) : Float32 :=
  match orient with
  | some "auto" => p.degrees
  | some "auto-start-reverse" =>
    if p.isFirst then
      let x := p.degrees + 180
      if 360 ≤ x then x - 360 else x
    else p.degrees
  | some s => ((Angle.ofText? s).map Float.toFloat32).getD 0
  | none => 0

def Affine.turned (degrees : Float32) : Affine Float32 :=
  let x := degrees * (Bearing.pi / 180)
  ⟨x.cos, x.sin, -x.sin, x.cos, 0, 0⟩

def markMaps (s : Surroundings) (scale : Float32) (l : Attributes) (places : List MarkPlace) :
    List (Affine Float32) :=
  let three : Length := ⟨3, .pixel⟩
  let box := (some (Box.ofSides (s.measure l "refX") (s.measure l "refY")
    (s.measure l "markerWidth" three) (s.measure l "markerHeight" three))).filter Box.hasExtent
  match box with
  | none => []
  | some b => places.map fun p =>
    let turn := p.turn (l.lookup "orient")
    let m := Affine.shift p.point.x p.point.y
    let m := if turn == 0 then m else m.before (.turned turn)
    let scaling := if ((l.lookup "viewBox").bind viewBox?).isSome then
        let f := fitting ⟨b.width * scale, b.height * scale⟩ l
        ⟨(f.a * f.a).sqrt, 0, 0, (f.d * f.d).sqrt, 0, 0⟩
      else ⟨scale, 0, 0, scale, 0, 0⟩
    (m.before scaling).before (.shift (-b.left) (-b.top))

end Strata.Picture
