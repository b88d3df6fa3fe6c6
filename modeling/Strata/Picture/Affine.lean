import Strata.Picture.Length
import Strata.Scalar

/-! Affine maps of the plane, and the lists of functions in which pictures write them. -/
namespace Strata.Picture

open Markup (skipSpace)

/-- The map that takes `(x, y)` to `(a x + c y + e, b x + d y + f)`. -/
structure Affine (α : Type) where
  a : α
  b : α
  c : α
  d : α
  e : α
  f : α
deriving DecidableEq, Repr

namespace Affine

def offset (x y : Float) : Affine Float := ⟨1, 0, 0, 1, x, y⟩

/-- One map in front of another: the second is applied first. -/
def comp (s t : Affine Float) : Affine Float :=
  ⟨s.a * t.a + s.c * t.b, s.b * t.a + s.d * t.b, s.a * t.c + s.c * t.d, s.b * t.c + s.d * t.d,
   s.a * t.e + s.c * t.f + s.e, s.b * t.e + s.d * t.f + s.f⟩

def radians (degrees : Float) : Float := degrees * (3.141592653589793 / 180)

def rotation (degrees : Float) : Affine Float :=
  let c := (radians degrees).cos
  let s := (radians degrees).sin
  ⟨c, s, -s, c, 0, 0⟩

def optional (count : Nat) (s : List Char) : Option (List Float × List Char) :=
  if (skipSpace s).head? = some ')' then some ([], s) else numbers count s

def arguments (name : String) (s : List Char) : Option (List (Affine Float) × List Char) :=
  match name with
  | "matrix" => do
    match ← numbers 6 s with
    | ([a, b, c, d, e, f], r) => return ([⟨a, b, c, d, e, f⟩], r)
    | _ => none
  | "translate" => do
    let (x, r) ← listNumber s
    let (rest, r) ← optional 1 r
    return ([offset x (rest.headD 0)], r)
  | "scale" => do
    let (x, r) ← listNumber s
    let (rest, r) ← optional 1 r
    return ([⟨x, 0, 0, rest.headD x, 0, 0⟩], r)
  | "rotate" => do
    let (angle, r) ← listNumber s
    match ← optional 2 r with
    | ([x, y], r) => return ([offset x y, rotation angle, offset (-x) (-y)], r)
    | (_, r) => return ([rotation angle], r)
  | "skewX" => do
    let (angle, r) ← listNumber s
    return ([⟨1, 0, (radians angle).tan, 1, 0, 0⟩], r)
  | "skewY" => do
    let (angle, r) ← listNumber s
    return ([⟨1, (radians angle).tan, 0, 1, 0, 0⟩], r)
  | _ => none

def listWithin : Nat → Affine Float → List Char → Option (Affine Float)
  | 0, _, _ => none
  | bound + 1, m, s => do
    let s := skipSpace s
    if s.isEmpty then return m
    else
      let (name, r) := word s
      match skipSpace r with
      | '(' :: r =>
        let (maps, r) ← arguments name r
        match skipSpace r with
        | ')' :: r =>
          let r := skipSpace r
          listWithin bound (maps.foldl comp m) (if r.head? = some ',' then r.drop 1 else r)
        | _ => none
      | _ => none

def ofText? (s : String) : Option (Affine Float) :=
  listWithin (s.toList.length + 1) (offset 0 0) s.toList

def single (m : Affine Float) : Affine Float32 :=
  ⟨m.a.toFloat32, m.b.toFloat32, m.c.toFloat32, m.d.toFloat32, m.e.toFloat32, m.f.toFloat32⟩

def identity : Affine Float32 := ⟨1, 0, 0, 1, 0, 0⟩

def shift (x y : Float32) : Affine Float32 := ⟨1, 0, 0, 1, x, y⟩

def isIdentity (m : Affine Float32) : Bool :=
  m.a == 1 && m.b == 0 && m.c == 0 && m.d == 1 && m.e == 0 && m.f == 0

def hasSkew (m : Affine Float32) : Bool := m.b != 0 || m.c != 0

/-- The sum of two products, rounded once. -/
def dot (a b c d : Float32) : Float32 :=
  (a.toFloat * b.toFloat + c.toFloat * d.toFloat).toFloat32

def before (s t : Affine Float32) : Affine Float32 :=
  if s.isIdentity then t
  else if t.isIdentity then s
  else if !s.hasSkew && !t.hasSkew then
    ⟨s.a * t.a, 0, 0, s.d * t.d, s.a * t.e + s.e, s.d * t.f + s.f⟩
  else
    ⟨dot s.a t.a s.c t.b, dot s.b t.a s.d t.b, dot s.a t.c s.c t.d, dot s.b t.c s.d t.d,
     dot s.a t.e s.c t.f + s.e, dot s.b t.e s.d t.f + s.f⟩

def apply (m : Affine Float32) (p : Point Float32) : Point Float32 :=
  ⟨p.x * m.a + p.y * m.c + m.e, p.x * m.b + p.y * m.d + m.f⟩

def isSound (m : Affine Float32) : Bool :=
  let tiny : Float32 := 1.1920929e-7
  m.a.isFinite && m.b.isFinite && m.c.isFinite && m.d.isFinite && m.e.isFinite && m.f.isFinite &&
    tiny < (m.a * m.a + m.c * m.c).sqrt && tiny < (m.b * m.b + m.d * m.d).sqrt

/-- The map that a text gives, and none in place of one that leaves nothing. -/
def ofTextOrIdentity (s : String) : Affine Float32 :=
  match (ofText? s).map single with
  | some m => if m.isSound then m else identity
  | none => identity

/-- The share of a whole that a word for a side stands for, on which axis, if on one alone. -/
def sides : List (String × Float × Option Bool) :=
  [("left", 0, some true), ("right", 100, some true), ("top", 0, some false),
   ("bottom", 100, some false), ("center", 50, none)]

/-- A word for a side, or a length. What follows the word may be another one. -/
def side (s : List Char) : Option ((Length × Option Bool) × List Char) :=
  let r := skipSpace s
  match sides.find? fun w => w.1.toList.isPrefixOf r with
  | some (w, share, axis) => some ((⟨share, .percent⟩, axis), r.drop w.length)
  | none => (Length.read s).map fun (l, r) => ((l, none), r)

def skipComma (s : List Char) : List Char :=
  match skipSpace s with
  | ',' :: r => skipSpace r
  | r => r

/-- The origin for a map: one or two places, the horizontal one first unless words tell, and a depth
that has no effect but may not be a share. No space follows one or two places. -/
def origin? (s : String) : Option (Length × Length) := do
  let ((first, axis), r) ← side s.toList
  if r.isEmpty then
    return if axis = some false then (⟨50, .percent⟩, first) else (first, ⟨50, .percent⟩)
  else
    let ((second, other), r) ← side (skipComma r)
    let found := if axis = some false || other = some true then (second, first) else (first, second)
    if axis.isSome && axis == other then none
    else if r.isEmpty then return found
    else
      let (depth, r) ← Length.read (skipComma r)
      if depth.unit = .percent || !(skipSpace r).isEmpty then none else return found

end Affine

end Strata.Picture
