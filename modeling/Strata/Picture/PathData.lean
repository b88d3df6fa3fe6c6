import Strata.Picture.Outline
import Strata.Scalar

/-! Path data: the letters and numbers in which outlines are written. What stands in front of the
first error counts. Arcs of ellipses are given by where they end, and become cubic curves close to
them. -/
namespace Strata.Picture

/-- An arc from one point to another on an ellipse of two radii. Four arcs fit: the large one or the
small one, with growing angles or not. -/
structure Arc where
  start : Point Float
  finish : Point Float
  radii : Point Float
  turn : Float
  large : Bool
  growing : Bool

structure Cubic where
  first : Point Float
  second : Point Float
  finish : Point Float

structure CentredArc where
  centre : Point Float
  radii : Point Float
  turn : Float
  angle : Float
  sweep : Float

namespace Arc

def pi : Float := 3.141592653589793

def isFlat (a : Arc) : Bool :=
  a.radii.x.abs ≤ 1e-5 || a.radii.y.abs ≤ 1e-5 || a.start.x == a.finish.x && a.start.y == a.finish.y

def rotate (p : Point Float) (angle : Float) : Point Float :=
  ⟨p.x * angle.cos - p.y * angle.sin, p.x * angle.sin + p.y * angle.cos⟩

def withinTurn (angle : Float) : Float :=
  if angle.isFinite then Binary64.remainder angle (2 * pi) else angle

def sweepOf (growing : Bool) (difference : Float) : Float :=
  let difference := withinTurn difference
  if growing && difference < 0 then difference + 2 * pi
  else if !growing && 0 < difference then difference - 2 * pi
  else difference

/-- The arc by its centre, for which whole turns of the axes do not count. Radii that do not reach
are lengthened as much as they have to be. -/
def centred (a : Arc) : CentredArc :=
  let half : Point Float := ⟨(a.start.x - a.finish.x) * 0.5, (a.start.y - a.finish.y) * 0.5⟩
  let middle : Point Float := ⟨(a.start.x + a.finish.x) * 0.5, (a.start.y + a.finish.y) * 0.5⟩
  let turn := withinTurn a.turn
  let c := turn.cos
  let s := turn.sin
  let p : Point Float := ⟨c * half.x + s * half.y, -s * half.x + c * half.y⟩
  let rx := a.radii.x.abs
  let ry := a.radii.y.abs
  let reach := p.x * p.x / (rx * rx) + p.y * p.y / (ry * ry)
  let scale := if 1 < reach then reach.sqrt else 1
  let rx := rx * scale
  let ry := ry * scale
  let px := rx * p.y
  let py := ry * p.x
  let squares := px * px + py * py
  let sign : Float := if a.large == a.growing then -1 else 1
  let k := sign * ((rx * ry * (rx * ry) - squares) / squares).abs.sqrt
  let x := k * px / ry
  let y := -k * py / rx
  let first := Float.atan2 ((p.y - y) / ry) ((p.x - x) / rx)
  let last := Float.atan2 ((-p.y - y) / ry) ((-p.x - x) / rx)
  ⟨⟨c * x - s * y + middle.x, s * x + c * y + middle.y⟩, ⟨rx, ry⟩, a.turn, first,
    sweepOf a.growing (last - first)⟩

end Arc

namespace CentredArc

def sample (a : CentredArc) (angle : Float) : Point Float :=
  Arc.rotate ⟨a.radii.x * angle.cos, a.radii.y * angle.sin⟩ a.turn

/-- How many curves keep within a tenth of the arc. -/
def pieces (a : CentredArc) : Nat :=
  let bound := (1.1163 * (Binary64.max a.radii.x a.radii.y / 0.1)).pow (1 / 6)
  let perTurn := Binary64.max bound 3.999999
  (perTurn * a.sweep.abs * (1 / (2 * Arc.pi))).ceil.toUInt64.toNat

def curvesFrom (a : CentredArc) (step arm : Float) : Nat → Float → List Cubic
  | 0, _ => []
  | count + 1, angle =>
    let next := angle + step
    let p := a.sample angle
    let u := a.sample (angle + Arc.pi / 2)
    let q := a.sample next
    let v := a.sample (next + Arc.pi / 2)
    ⟨⟨a.centre.x + (p.x + arm * u.x), a.centre.y + (p.y + arm * u.y)⟩,
      ⟨a.centre.x + (q.x - arm * v.x), a.centre.y + (q.y - arm * v.y)⟩,
      ⟨a.centre.x + q.x, a.centre.y + q.y⟩⟩ :: curvesFrom a step arm count next

def curves (a : CentredArc) : List Cubic :=
  let step := a.sweep / a.pieces.toFloat
  let arm := 4 / 3 * (0.25 * step).abs.tan * (if a.sweep < 0 then -1 else 1)
  a.curvesFrom step arm a.pieces a.angle

end CentredArc

/-- Curves for an arc; a flat one gives none and is a line. -/
def Arc.curves? (a : Arc) : Option (List Cubic) :=
  if a.isFlat then none else some a.centred.curves

open Markup (skipSpace)

inductive PathCommand where
  | move
  | line
  | horizontal
  | vertical
  | cubic
  | smoothCubic
  | quadratic
  | smoothQuadratic
  | arc
  | close
deriving DecidableEq, Repr

namespace PathCommand

def ofLetter? (c : Char) : Option PathCommand :=
  match c.toLower with
  | 'm' => some move
  | 'l' => some line
  | 'h' => some horizontal
  | 'v' => some vertical
  | 'c' => some cubic
  | 's' => some smoothCubic
  | 'q' => some quadratic
  | 't' => some smoothQuadratic
  | 'a' => some arc
  | 'z' => some close
  | _ => none

def arity : PathCommand → Nat
  | move | line | smoothQuadratic => 2
  | horizontal | vertical => 1
  | cubic => 6
  | smoothCubic | quadratic => 4
  | arc => 7
  | close => 0

end PathCommand

/-- A command with its numbers, relative to the place of the pen or not. -/
structure PathStep where
  command : PathCommand
  relative : Bool
  numbers : List Float

/-- One of two digits, which need nothing between them. -/
def flag (s : List Char) : Option (Float × List Char) :=
  match skipSpace s with
  | c :: r =>
    if c = '0' ∨ c = '1' then
      some (if c = '1' then 1 else 0, skipSpace (if r.head? = some ',' then r.drop 1 else r))
    else none
  | [] => none

/-- The numbers of a command; the fourth and fifth of an arc are flags. -/
def pathNumbers (c : PathCommand) (s : List Char) : Option (List Float × List Char) :=
  match c with
  | .arc => do
    let (radii, r) ← numbers 3 s
    let (large, r) ← flag r
    let (growing, r) ← flag r
    let (finish, r) ← numbers 2 r
    return (radii ++ [large, growing] ++ finish, r)
  | _ => numbers c.arity s

def startsNumber (c : Char) : Bool := Text.isDigit c || c = '.' || c = '-' || c = '+'

/-- The command that goes on without a letter: lines follow a move, and nothing an end. -/
def following? : PathCommand → Option PathCommand
  | .move => some .line
  | .close => none
  | c => some c

/-- The steps up to the first error. A step without a letter is of the kind of the step before. -/
def pathSteps : Nat → Option (PathCommand × Bool) → List Char → List PathStep
  | 0, _, _ => []
  | bound + 1, previous, s =>
    match skipSpace s with
    | [] => []
    | c :: r =>
      let begun : Option (PathCommand × Bool × List Char) :=
        match PathCommand.ofLetter? c, previous with
        | some k, none => if k = .move then some (k, c.isLower, r) else none
        | some k, some _ => some (k, c.isLower, r)
        | none, some (k, relative) =>
          if startsNumber c then (following? k).map fun k => (k, relative, c :: r) else none
        | none, none => none
      match begun with
      | none => []
      | some (k, relative, r) =>
        match pathNumbers k r with
        | none => []
        | some (l, r) => ⟨k, relative, l⟩ :: pathSteps bound (some (k, relative)) r

structure Pen where
  place : Point Float := ⟨0, 0⟩
  start : Point Float := ⟨0, 0⟩
  control : Point Float := ⟨0, 0⟩
  previous : Option PathCommand := none

def single (p : Point Float) : Point Float32 := ⟨p.x.toFloat32, p.y.toFloat32⟩

namespace Pen

def point (p : Pen) (relative : Bool) (x y : Float) : Point Float :=
  if relative then ⟨x + p.place.x, y + p.place.y⟩ else ⟨x, y⟩

/-- The last control point on the other side of the pen, if the step before was of a kind. -/
def reflected (p : Pen) (kinds : List PathCommand) : Point Float :=
  if p.previous.any kinds.contains then
    ⟨p.place.x * 2 - p.control.x, p.place.y * 2 - p.control.y⟩
  else p.place

def lineTo (p : Pen) (q : Point Float) : List Segment × Pen :=
  ([.line (single q)], { p with place := q })

def cubicTo (p : Pen) (c d q : Point Float) : List Segment × Pen :=
  ([.cubic (single c) (single d) (single q)], { p with place := q, control := d })

def quadraticTo (p : Pen) (c q : Point Float) : List Segment × Pen :=
  ([.quadratic (single c) (single q)], { p with place := q, control := c })

def arcTo (p : Pen) (a : Arc) : List Segment × Pen :=
  match a.curves? with
  | none => p.lineTo a.finish
  | some l =>
    (l.map fun c => .cubic (single c.first) (single c.second) (single c.finish),
      { p with place := (l.getLast?.map Cubic.finish).getD p.place })

def draw (p : Pen) (s : PathStep) : List Segment × Pen :=
  let given := p.point s.relative
  match s.command, s.numbers with
  | .move, [x, y] =>
    let q := given x y
    ([.move (single q)], { p with place := q, start := q })
  | .line, [x, y] => p.lineTo (given x y)
  | .horizontal, [x] => p.lineTo ⟨(given x 0).x, p.place.y⟩
  | .vertical, [y] => p.lineTo ⟨p.place.x, (given 0 y).y⟩
  | .cubic, [x₁, y₁, x₂, y₂, x, y] => p.cubicTo (given x₁ y₁) (given x₂ y₂) (given x y)
  | .smoothCubic, [x₂, y₂, x, y] =>
    p.cubicTo (p.reflected [.cubic, .smoothCubic]) (given x₂ y₂) (given x y)
  | .quadratic, [x₁, y₁, x, y] => p.quadraticTo (given x₁ y₁) (given x y)
  | .smoothQuadratic, [x, y] =>
    p.quadraticTo (p.reflected [.quadratic, .smoothQuadratic]) (given x y)
  | .arc, [rx, ry, turn, large, growing, x, y] =>
    p.arcTo ⟨p.place, given x y, ⟨rx, ry⟩, Affine.radians turn, large == 1, growing == 1⟩
  | .close, _ => ([.close], { p with place := p.start })
  | _, _ => ([], p)

end Pen

/-- The segments that steps draw. An outline that goes on behind its end begins anew where it
began. -/
def Pen.drawAll (p : Pen) : List PathStep → List Segment
  | [] => []
  | s :: rest =>
    let (segments, next) := p.draw s
    let resumes := p.previous = some .close && s.command != .move && s.command != .close
    let drawn := segments ++ { next with previous := some s.command }.drawAll rest
    if resumes then .move (single p.start) :: drawn else drawn

def Outline.ofPathData (s : String) : Outline :=
  .ofSegments (Pen.drawAll {} (pathSteps (s.toList.length + 1) none s.toList))

example : (pathSteps 9 none "M1,2 3-4hz 5".toList).map PathStep.command = [.move, .line] := by
  decide +kernel
example : (pathSteps 9 none "m1.5.5a1 1 0 10.5 2z".toList).map PathStep.command =
    [.move, .arc, .close] := by
  decide +kernel

end Strata.Picture
