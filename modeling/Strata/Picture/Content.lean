import Strata.Picture.Resources
import Strata.Picture.Shape

/-! What elements draw, embedded pictures among them, and the box of all that a picture draws. Texts
add nothing, since there is no type to set them in. -/
namespace Strata.Picture

def embeddedSides (s : Surroundings) (l : Attributes) (size : Size) : Size :=
  let length? (name : String) : Option Float32 :=
    ((l.lookup name).bind Length.ofText?).map (s.pixels name)
  match length? "width", length? "height" with
  | some w, some h => ⟨w, h⟩
  | some w, none => ⟨w, size.height * (w / size.width)⟩
  | none, some h => ⟨size.width * (h / size.height), h⟩
  | none, none => size

def fittedBox (f : Fit) (size : Size) (b : Box) : Box :=
  match f with
  | .stretched => b
  | .scaled x y covers =>
    let w := b.height * size.width / size.height
    let (w, h) := if (if covers then w ≤ b.width else b.width ≤ w) then
        (b.width, b.width * size.height / size.width)
      else (w, b.height)
    .ofSides (x.place b.left (b.width - w)) (y.place b.top (b.height - h)) w h

/-- An embedded picture. It takes all of the box that it is fitted into, mapped as the picture
itself is. -/
def embeddedParts (r : Resources) (s : Surroundings) (m : Affine Float32) (l : Attributes) :
    List Part :=
  match (l.lookup "href").bind r.picture? with
  | none => []
  | some size =>
    let b := s.boxOf l (embeddedSides s l size)
    let f := ((l.lookup "preserveAspectRatio").bind Fit.ofText?).getD .standard
    let v := fittedBox f size b
    let t : Affine Float32 :=
      ⟨v.width / size.width, 0, 0, v.height / size.height, v.left, v.top⟩
    let place := b.map (m.before t)
    if b.hasExtent && v.hasExtent && place.isSound then
      [(Group.ofParts t [⟨⟨0, 0, size.width, size.height⟩, place⟩]).part]
    else []

def leafParts (r : Resources) (s : Surroundings) (m : Affine Float32) (l : Level) :
    Tracing (List Part) :=
  match l.kind with
  | .image => return if s.clipping then [] else embeddedParts r s m l.attributes
  | .line => if s.clipping then return [] else shapeParts r s m l
  | _ => shapeParts r s m l

def isLeaf (k : Kind) : Bool :=
  [Kind.rectangle, .circle, .ellipse, .line, .polyline, .polygon, .path, .text, .image].contains k

namespace Surroundings

def nested (s : Surroundings) (l : Attributes) : Surroundings :=
  let own := (some (s.boxOf l (s.usedSides l))).filter Box.hasExtent
  { s with view := (((l.lookup "viewBox").bind viewBox?).orElse fun _ => own).getD s.view }

def ofSymbol (s : Surroundings) (l : Attributes) : Surroundings :=
  { s with view := ((some (s.boxOf l (s.sides l))).filter Box.hasExtent).getD s.view }

def isCut (s : Surroundings) (sides : Size) (l shown : Attributes) : Bool :=
  let overflow := shown.lookup "overflow"
  overflow != some "visible" && overflow != some "auto" && sides.isVisible &&
    (s.boxOf l sides).hasExtent

/-- At a use of a picture: the sides that the use gives stand for those of the picture. -/
def resized (s : Surroundings) (l : Attributes) : Surroundings :=
  let side (name : String) : Option Float32 :=
    (l.lookup name).map fun _ => s.measure l name .whole
  { s with width := side "width", height := side "height" }

end Surroundings

/-- What a picture draws. The outermost picture shows its elements where they are; in another one
they stand where it does and are fitted into its sides. -/
def nestedParts (r : Resources) (s : Surroundings) (m : Affine Float32) (l : Level)
    (inside : Surroundings → Affine Float32 → Tracing (List Part)) : Tracing (List Part) :=
  match s.levels with
  | [_] => inside s m
  | _ =>
    let a := l.attributes
    let own := s.mapOf a
    let moved := (s.shiftOf a).before (fitting (s.usedSides a) a)
    let hasSides := s.width.isSome || s.height.isSome ||
      (a.lookup "width").isSome && (a.lookup "height").isSome
    let within := s.nested a
    if hasSides && s.isCut (s.usedSides a) a a then do
      return [(Group.ofParts own (← wrapped r within m l moved (inside within))).part]
    else wrapped r within m l (own.before moved) (inside within)

/-- What a symbol draws for its use. It is shown like a picture, with the sides that the use
gives. -/
def symbolParts (r : Resources) (s : Surroundings) (m : Affine Float32) (l shown : Level)
    (inside : Surroundings → Affine Float32 → Tracing (List Part)) : Tracing (List Part) := do
  let a := l.attributes
  let own := s.mapOf a
  let shift := s.shiftOf a
  let s := s.ofSymbol a
  let moved := shift.before (fitting (s.sides a) shown.attributes)
  let isCut := s.isCut (s.sides a) a shown.attributes
  let outer := if isCut then moved else own.before moved
  let within := s.enter shown
  let c ← composite r s m l isCut fun m => wrapped r within m shown outer (inside within)
  let parts := (c.withMap .identity).parts
  return if isCut && !parts.isEmpty then [(Group.ofParts own parts).part] else parts

mutual

def Element.parts (r : Resources) (s : Surroundings) (m : Affine Float32) :
    Element → Tracing (List Part)
  | .mk l children =>
    let s := s.enter l
    let drawn (inside : Affine Float32 → Tracing (List Part)) : Tracing (List Part) := do
      return (← composite r s m l false inside).parts
    if isHidden l.attributes then return []
    else if l.kind = .use then usedParts r s m l children
    else if isLeaf l.kind then drawn fun m => leafParts r s m l
    else if s.clipping then return []
    else
      match l.kind with
      | .group => drawn fun m => partsOfAll r s m children
      | .svg => drawn fun m => nestedParts r s m l fun s m => partsOfAll r s m children
      | .choice =>
        if children.any fun c => meetsConditions c.level.attributes then
          drawn fun m => partsOfFirst r s m children
        else return []
      | _ => return []

def partsOfAll (r : Resources) (s : Surroundings) (m : Affine Float32) :
    List Element → Tracing (List Part)
  | [] => return []
  | e :: rest => do
    let own ← e.parts r s m
    return own ++ (← partsOfAll r s m rest)

def partsOfFirst (r : Resources) (s : Surroundings) (m : Affine Float32) :
    List Element → Tracing (List Part)
  | [] => return []
  | .mk l children :: rest =>
    if meetsConditions l.attributes then (Element.mk l children).parts r s m
    else partsOfFirst r s m rest

/-- What the element draws that is used by another one. Inside of a clip path no symbol is. -/
def usedParts (r : Resources) (s : Surroundings) (m : Affine Float32) (l : Level) :
    List Element → Tracing (List Part)
  | [] => return []
  | .mk shown children :: _ => do
    let a := l.attributes
    let within := { s with context := ← painted r s true }
    if shown.kind = .symbol then
      if s.clipping then return []
      else symbolParts r within m l shown fun s m => partsOfAll r s m children
    else
      let within := if shown.kind = .svg then within.resized a else within
      wrapped r within m l ((s.mapOf a).before (s.shiftOf a)) fun m =>
        (Element.mk shown children).parts r within m

end

def Resources.within (links : Links) (picture? : String → Option Size) : Nat → Resources
  | 0 => ⟨links, picture?, fun _ _ _ => return [], fun _ _ _ => return false,
      fun _ _ _ => return false⟩
  | bound + 1 =>
    ⟨links, picture?,
      fun s m p => partsOfAll (within links picture? bound) s m p.element.children,
      fun s box p => (within links picture? bound).isClip s box p,
      fun s box p => (within links picture? bound).isMask s box p⟩

/-- The resources of a picture. A chain of them passes each mask and clip path once, and again
inside of each marker. -/
def Resources.ofRoots (roots : List Element) (picture? : String → Option Size) : Resources :=
  let links := linksOf [] [] roots
  .within links picture? ((links.length + 2) * (links.length + 2))

def contentBox (s : Surroundings) (picture? : String → Option Size) (background : Bool)
    (roots : List Element) : Box :=
  let parts := ((partsOfAll (.ofRoots roots picture?) s .identity roots).run []).1
  (Group.ofParts .identity
    (if background then ⟨s.view, s.view⟩ :: parts else parts)).place

end Strata.Picture
