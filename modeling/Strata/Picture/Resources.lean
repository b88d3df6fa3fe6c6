import Strata.Basic
import Strata.Picture.Affine
import Strata.Picture.Element
import Strata.Picture.Outline
import Strata.Picture.Paint
import Strata.Picture.Surroundings

/-! What elements refer to, and what that makes of an element as a whole: the conditions on which it
is drawn, whether something is left of it by its clip path, mask and filters, and whether it stands
for its parts as a group. Clip paths, masks and markers are drawn where they are asked for. -/
namespace Strata.Picture

def language : String := "en"

def isSpoken (s : List Char) : Bool :=
  let s := Text.trim s
  let kind := s.takeWhile (· != '-')
  String.ofList s == language || s.contains '-' && String.ofList kind == language

def features : List String :=
  ["SVGDOM-static", "SVG-static", "CoreAttribute", "Structure", "BasicStructure",
   "ContainerAttribute", "ConditionalProcessing", "Image", "Style", "Shape", "Text", "BasicText",
   "PaintAttribute", "BasicPaintAttribute", "OpacityAttribute", "GraphicsAttribute",
   "BasicGraphicsAttribute", "Marker", "Gradient", "Pattern", "Clip", "BasicClip", "Mask", "Filter",
   "BasicFilter", "XlinkAttribute"].map ("http://www.w3.org/TR/SVG11/feature#" ++ ·)

/-- Whether an element asks for nothing that is missing. Features stand with one blank between
them. -/
def meetsConditions (l : Attributes) : Bool :=
  (l.lookup "requiredExtensions").isNone &&
    ((l.lookup "requiredFeatures").all fun s => (s.splitToList (· = ' ')).all features.contains) &&
    (l.lookup "systemLanguage").all fun s =>
      (s.splitToList (· = ',')).any fun t => isSpoken t.toList

def transform? (l : Attributes) : Option (Affine Float32) :=
  ((l.lookup "transform").bind Affine.ofText?).map Affine.single

def isHidden (l : Attributes) : Bool :=
  l.lookup "display" == some "none" || !meetsConditions l ||
    (transform? l).any fun m => !m.isSound

example : meetsConditions [("requiredFeatures", "")] = false := by decide +kernel

def hasRegion (s : Surroundings) (u : Units) (region : Box) (e : Element) : Bool :=
  let l := e.level.attributes
  let s := s.enter e.level
  let side (name : String) (otherwise : Float32) : Float32 :=
    match (l.lookup name).bind Length.ofText? with
    | some length => s.pixels name length
    | none => otherwise
  let b := match u with
    | .ofBox => Box.ofSides 0 0 1 1
    | .around => region
  (Box.ofSides (side "x" b.left) (side "y" b.top) (side "width" b.width)
    (side "height" b.height)).hasExtent

def isFilter (links : Links) (s : Surroundings) (box : Option Box) (p : Located) : Bool :=
  let family := Family.ofKind .filter
  let units := Units.along links family p "filterUnits" .ofBox
  let steps := Units.along links family p "primitiveUnits" .around
  let isMissing := box.isNone && (units = .ofBox || steps = .ofBox)
  match wideRegion? (s.measureAlong links family units p) with
  | none => false
  | some region =>
    let region := match units, box with
      | .ofBox, some b => Box.ofSides (region.left * b.width + b.left)
          (region.top * b.height + b.top) (region.width * b.width) (region.height * b.height)
      | _, _ => region
    !isMissing && (p.chained? links (· == .filter) fun e => !e.children.isEmpty).any fun holder =>
      (holder.element.children.takeWhile (hasRegion (s.atPlace holder) steps region)).any fun c =>
        c.level.kind.isStep

/-- Whether filters do anything to an element with this box. There is no answer where elements are
to filter it and nothing comes of any filter: such an element is not drawn. -/
def filters? (links : Links) (s : Surroundings) (box : Option Box) (l : Attributes) :
    Option Bool :=
  let entries := (l.lookup "filter").elim [] FilterEntry.ofText
  let holds (e : FilterEntry) : Bool := match e with
    | .effect => box.isSome
    | .link name => (links.lookup name).any (isFilter links s box)
  let isLink (e : FilterEntry) : Bool := match e with
    | .effect => false
    | .link _ => true
  if entries.any holds then some true
  else if entries.any isLink then none
  else some false

/-- Computations that keep the numbers of clip paths, masks and patterns that were found to leave
something. -/
abbrev Tracing := StateM (List Nat)

/-- What is found about an element, unless it is known already. It is kept if it does not hang on
what the element is applied to. -/
def known (number : Nat) (isKept : Bool) (find : Tracing Bool) : Tracing Bool := do
  if isKept && (← get).contains number then return true
  else
    let found ← find
    if isKept && found then modify (number :: ·)
    return found

structure Resources where
  links : Links
  picture? : String → Option Size
  inside : Surroundings → Affine Float32 → Located → Tracing (List Part)
  clips : Surroundings → Option Box → Located → Tracing Bool
  masks : Surroundings → Option Box → Located → Tracing Bool

namespace Resources

/-- Whether a clip path leaves something: it has to draw, and so has its own clip path. One in the
units around stays as it was found. -/
def isClip (r : Resources) (s : Surroundings) (box : Option Box) (p : Located) : Tracing Bool := do
  let l := p.element.level.attributes
  let units := Units.read l "clipPathUnits" .around
  if p.element.level.kind ≠ .clip ||
      (l.lookup "transform").isSome && !(transform? l).any Affine.isSound then
    return false
  else
    known p.element.level.number (units == .around) do
      if units == .ofBox && box.isNone then return false
      else if !(← (target? r.links l "clip-path").elim (pure true) (r.clips s box)) then
        return false
      else return !(← r.inside { s.atPlace p with clipping := true } .identity p).isEmpty

/-- Whether a mask leaves something, or hides all of an element that has no extent. Such an element
has nothing by which what the mask draws could be measured. A mask in the units around stays as it
was found. -/
def isMask (r : Resources) (s : Surroundings) (box : Option Box) (p : Located) : Tracing Bool := do
  let l := p.element.level.attributes
  let units := Units.read l "maskUnits" .ofBox
  let content := Units.read l "maskContentUnits" .around
  if p.element.level.kind ≠ .mask then return false
  else
    known p.element.level.number (units == .around && content == .around) do
      if (wideRegion? ((s.atPlace p).measureIn units l)).isNone then return false
      else if box.isNone && units == .ofBox then return true
      else if box.isNone && content == .ofBox then return false
      else if !(← (target? r.links l "mask").elim (pure true) (r.masks s box)) then return false
      else return !(← r.inside (s.atPlace p) .identity p).isEmpty

/-- Whether an element with such a box is clipped, masked or filtered. There is no answer for one
that is not drawn because of that. -/
def shaped? (r : Resources) (s : Surroundings) (box : Option Box) (l : Attributes) :
    Tracing (Option Bool) := do
  let clip := target? r.links l "clip-path"
  let mask := if s.clipping then none else target? r.links l "mask"
  if !(← clip.elim (pure true) (r.clips s box)) then return none
  else if !(← mask.elim (pure true) (r.masks s box)) then return none
  else
    return (if s.clipping then some false else filters? r.links s box l).map fun isFiltered =>
      isFiltered || clip.isSome || mask.isSome

end Resources

def isTranslucent (s : String) : Bool :=
  (Length.ofText? s).any fun l =>
    let x := l.number.toFloat32
    match l.unit with
    | .percent => x / 100 < 0.99999976158
    | .pixel => !(s.endsWith "px") && x < 0.99999976158
    | _ => false

def blendModes : List String :=
  ["multiply", "screen", "overlay", "darken", "lighten", "color-dodge", "color-burn", "hard-light",
   "soft-light", "difference", "exclusion", "hue", "saturation", "color", "luminosity"]

def isGrouped (clipping : Bool) (l : Level) : Bool :=
  l.kind == .group || l.kind == .use ||
    !clipping && (l.attributes.lookup "opacity").any isTranslucent ||
    (l.attributes.lookup "mix-blend-mode").any blendModes.contains ||
    l.attributes.lookup "isolation" == some "isolate"

def composite (r : Resources) (s : Surroundings) (m : Affine Float32) (l : Level) (forced : Bool)
    (inside : Affine Float32 → Tracing (List Part)) : Tracing Composite := do
  let own := s.mapOf l.attributes
  let parts ← inside (m.before own)
  match ← r.shaped? s (objectBox? parts) l.attributes with
  | none => return .nothing
  | some isShaped =>
    if isShaped || forced || !own.isIdentity || isGrouped s.clipping l then
      return .group (.ofParts own parts)
    else return .loose parts

def wrapped (r : Resources) (s : Surroundings) (m : Affine Float32) (l : Level)
    (outer : Affine Float32) (inside : Affine Float32 → Tracing (List Part)) :
    Tracing (List Part) := do
  let c ← composite r s (m.before outer) l (!outer.isIdentity) inside
  return (c.withMap outer).parts

end Strata.Picture
