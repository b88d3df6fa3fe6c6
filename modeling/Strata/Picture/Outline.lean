import Strata.Picture.Affine

/-! Outlines, lines and curves one after the other, and the parts and groups that a picture is drawn
from, with the boxes that hold them. A box is as small as the curves allow; their control points may
lie outside of it. -/
namespace Strata.Picture

structure Box where
  left : Float32
  top : Float32
  right : Float32
  bottom : Float32
deriving Repr

namespace Box

def width (b : Box) : Float32 := b.right - b.left
def height (b : Box) : Float32 := b.bottom - b.top

def ofSides (x y width height : Float32) : Box := ⟨x, y, width + x, height + y⟩

def lesser (x y : Float32) : Float32 := if y < x then y else x
def greater (x y : Float32) : Float32 := if x < y then y else x

def join (b c : Box) : Box :=
  ⟨lesser b.left c.left, lesser b.top c.top, greater b.right c.right, greater b.bottom c.bottom⟩

/-- The smallest box that holds both, where one or the other may be missing. -/
def join? : Option Box → Option Box → Option Box
  | some b, some c => some (b.join c)
  | some b, none => some b
  | none, c => c

/-- Whether a box lies in reach of the numbers. -/
def isSound (b : Box) : Bool :=
  b.left.isFinite && b.top.isFinite && b.right.isFinite && b.bottom.isFinite &&
    b.width.isFinite && b.height.isFinite && b.left ≤ b.right && b.top ≤ b.bottom

def hasExtent (b : Box) : Bool := b.isSound && b.left < b.right && b.top < b.bottom

def ofPoints (p : Point Float32) (l : List (Point Float32)) : Box :=
  l.foldl (fun b q => b.join ⟨q.x, q.y, q.x, q.y⟩) ⟨p.x, p.y, p.x, p.y⟩

def map (m : Affine Float32) (b : Box) : Box :=
  ofPoints (m.apply ⟨b.left, b.top⟩)
    [m.apply ⟨b.right, b.top⟩, m.apply ⟨b.right, b.bottom⟩, m.apply ⟨b.left, b.bottom⟩]

end Box

inductive Segment where
  | move (p : Point Float32)
  | line (p : Point Float32)
  | quadratic (c p : Point Float32)
  | cubic (c d p : Point Float32)
  | close
deriving Repr

abbrev Outline := List Segment

namespace Segment

def points : Segment → List (Point Float32)
  | move p | line p => [p]
  | quadratic c p => [c, p]
  | cubic c d p => [c, d, p]
  | close => []

def map (m : Affine Float32) : Segment → Segment
  | move p => move (m.apply p)
  | line p => line (m.apply p)
  | quadratic c p => quadratic (m.apply c) (m.apply p)
  | cubic c d p => cubic (m.apply c) (m.apply d) (m.apply p)
  | close => close

end Segment

def share? (x y : Float32) : Option Float32 :=
  let (x, y) := if x < 0 then (-x, -y) else (x, y)
  if y == 0 || x == 0 || y ≤ x then none
  else
    let r := x / y
    if 0 < r && r < 1 then some r else none

def zeros (a b c : Float32) : List Float32 :=
  if a == 0 then (share? (-c) b).toList
  else
    let d := b.toFloat * b.toFloat - 4 * a.toFloat * c.toFloat
    let r := d.sqrt.toFloat32
    if d < 0 || !r.isFinite then []
    else
      let q := if b < 0 then -(b - r) / 2 else -(b + r) / 2
      (share? q a).toList ++ (share? c q).toList

def quadraticTurn (a b c : Float32) : List Float32 := (share? (a - b) (a - b - b + c)).toList

def cubicTurns (a b c d : Float32) : List Float32 :=
  zeros (d - a + 3 * (b - c)) (2 * (a - b - b + c)) (b - a)

def quadraticAt (a b c t : Float32) : Float32 :=
  let k := 2 * (b - a)
  let j := c - 2 * b + a
  (j * t + k) * t + a

def cubicAt (a b c d t : Float32) : Float32 :=
  let k := 3 * (b - a)
  let j := 3 * (c - 2 * b + a)
  let i := d + 3 * (b - c) - a
  ((i * t + j) * t + k) * t + a

/-- The points of a segment, from a point on, between which all others lie. -/
def Segment.extremes (a : Point Float32) : Segment → List (Point Float32)
  | .move p | .line p => [p]
  | .quadratic c p =>
    let turn (t : Float32) : Point Float32 :=
      ⟨quadraticAt a.x c.x p.x t, quadraticAt a.y c.y p.y t⟩
    (quadraticTurn a.x c.x p.x ++ quadraticTurn a.y c.y p.y).map turn ++ [p]
  | .cubic c d p =>
    let turn (t : Float32) : Point Float32 :=
      ⟨cubicAt a.x c.x d.x p.x t, cubicAt a.y c.y d.y p.y t⟩
    (cubicTurns a.x c.x d.x p.x ++ cubicTurns a.y c.y d.y p.y).map turn ++ [p]
  | .close => []

namespace Outline

/-- A segment behind others, the last of which stands first. A move takes the place of a move, and
a second end adds nothing. -/
def add (reversed : List Segment) (s : Segment) : List Segment :=
  match reversed, s with
  | .move _ :: rest, .move p => .move p :: rest
  | .close :: rest, .close => .close :: rest
  | l, s => s :: l

def ofSegments (l : List Segment) : Outline := (l.foldl add []).reverse

/-- The points on an outline between which all others lie, from the place of the pen and the point
to which an end leads back. -/
def extremes (pen start : Point Float32) : Outline → List (Point Float32)
  | [] => []
  | s :: rest =>
    let next := s.points.getLast?.getD start
    let start := match s with
      | .move p => p
      | _ => start
    s.extremes pen ++ extremes next start rest

/-- The box of an outline of two segments at least, if it is sound to go by its points, those that
control curves included. -/
def box? (o : Outline) : Option Box :=
  match o with
  | .move p :: _ :: _ =>
    let points := o.flatMap Segment.points
    if (points.all fun q => q.x.isFinite && q.y.isFinite) && (Box.ofPoints p points).isSound then
      some (Box.ofPoints p (extremes p p o))
    else none
  | _ => none

def hasExtent (o : Outline) : Bool :=
  match o.flatMap Segment.points with
  | p :: rest => (Box.ofPoints p rest).hasExtent
  | [] => false

/-- The box of the image of an outline. Where the axes keep their directions, it is the image of the
outline's box. -/
def boxUnder? (m : Affine Float32) (o : Outline) : Option Box := do
  let b ← (box? o).filter Box.isSound
  if m.hasSkew then (box? (o.map fun s => s.map m)).filter Box.isSound
  else (some (b.map m)).filter Box.isSound

end Outline

def Box.joinAll? (l : List Box) : Option Box := l.foldl (fun found b => join? found (some b)) none

def Box.zero : Box := ⟨0, 0, 0, 0⟩

structure Part where
  /-- Its box in the coordinates around. -/
  box : Box
  /-- Its box on the whole picture. -/
  place : Box
deriving Repr

def Outline.part? (o : Outline) (m : Affine Float32) : Option Part := do
  return ⟨← (box? o).filter Box.isSound, ← o.boxUnder? m⟩

structure Group where
  box : Box
  place : Box
  map : Affine Float32
deriving Repr

/-- The box of the element that some parts are drawn for, if it has an extent. -/
def objectBox? (l : List Part) : Option Box := (Box.joinAll? (l.map Part.box)).filter Box.hasExtent

namespace Group

/-- A group without parts takes no more room than the origin, like one that is out of reach. -/
def ofParts (m : Affine Float32) (l : List Part) : Group :=
  match (Box.joinAll? (l.map Part.box)).filter Box.isSound with
  | some b =>
    ⟨b, ((Box.joinAll? (l.map Part.place)).filter Box.isSound).getD .zero, m⟩
  | none => ⟨.zero, .zero, m⟩

def part (g : Group) : Part :=
  let mapped := if g.map.isIdentity then g.box else g.box.map g.map
  ⟨if mapped.isSound then mapped else g.box, g.place⟩

end Group

inductive Composite where
  | nothing
  /-- They stand among the parts around. -/
  | loose (l : List Part)
  | group (g : Group)

namespace Composite

def parts : Composite → List Part
  | nothing => []
  | loose l => l
  | group g => [g.part]

def withMap (m : Affine Float32) : Composite → Composite
  | group g => group { g with map := m }
  | c => c

end Composite

end Strata.Picture
