import Strata.Basic
import Strata.Markup.Name

/-! The elements of a picture, with the values that count for each of them, those of attributes and
of declarations, and references to elements by name. An element that uses another one holds what it
uses. -/
namespace Strata.Picture

inductive Kind where
  | svg
  | group
  | use
  | choice
  | symbol
  | rectangle
  | circle
  | ellipse
  | line
  | polyline
  | polygon
  | path
  | text
  | image
  | clip
  | mask
  | filter
  /-- A step of a filter. -/
  | primitive
  /-- A step of a filter that shows an element or an embedded picture. -/
  | depiction
  | marker
  | gradient
  | radial
  | stop
  | pattern
  /-- Known, but of no account where it stands. -/
  | other
deriving DecidableEq, Repr

def primitiveNames : List String :=
  ["feBlend", "feColorMatrix", "feComponentTransfer", "feComposite", "feConvolveMatrix",
   "feDiffuseLighting", "feDisplacementMap", "feDropShadow", "feFlood", "feGaussianBlur", "feMerge",
   "feMorphology", "feOffset", "feSpecularLighting", "feTile", "feTurbulence"]

def otherNames : List String :=
  ["defs", "feDistantLight", "feFuncA", "feFuncB", "feFuncG", "feFuncR", "feMergeNode",
   "fePointLight", "feSpotLight", "textPath", "tref", "tspan"]

/-- A link is a group. -/
def Kind.ofName? (name : String) : Option Kind :=
  match name with
  | "svg" => some svg
  | "g" | "a" => some group
  | "use" => some use
  | "switch" => some choice
  | "symbol" => some symbol
  | "rect" => some rectangle
  | "circle" => some circle
  | "ellipse" => some ellipse
  | "line" => some line
  | "polyline" => some polyline
  | "polygon" => some polygon
  | "path" => some path
  | "text" => some text
  | "image" => some image
  | "clipPath" => some clip
  | "mask" => some mask
  | "filter" => some filter
  | "marker" => some marker
  | "feImage" => some depiction
  | "linearGradient" => some gradient
  | "radialGradient" => some radial
  | "stop" => some stop
  | "pattern" => some pattern
  | _ =>
    if primitiveNames.contains name then some primitive
    else if otherNames.contains name then some other
    else none

def Kind.isStep (k : Kind) : Bool := k == primitive || k == depiction

def Kind.isGradient (k : Kind) : Bool := k == gradient || k == radial

abbrev Attributes := List (String × String)

/-- An element without what it holds. Its number tells it from all others of the picture. -/
structure Level where
  number : Nat
  kind : Kind
  attributes : Attributes
deriving Repr

inductive Element where
  | mk (level : Level) (children : List Element)
deriving Repr

namespace Element

def level : Element → Level
  | mk l _ => l

def children : Element → List Element
  | mk _ l => l

mutual

def members : Element → List Element
  | mk l children => mk l children :: membersOf children

def membersOf : List Element → List Element
  | [] => []
  | e :: rest => e.members ++ membersOf rest

end

end Element

def localName? (s : String) : Option String :=
  match Markup.skipSpace s.toList with
  | '#' :: r =>
    let name := r.takeWhile (· != ' ')
    if name.isEmpty || !(Markup.skipSpace (r.dropWhile (· != ' '))).isEmpty then none
    else some (String.ofList name)
  | _ => none

/-- A name as it stands in a reference; it holds no quote. -/
def plainName? (name : List Char) : Option String :=
  if name.isEmpty || name.contains '"' || name.contains '\'' then none
  else some (String.ofList name)

def functionalName (s : List Char) : Option (String × List Char) := do
  let r := Markup.skipSpace s
  if "url(".toList.isPrefixOf r then
    let r := Markup.skipSpace (r.drop 4)
    let (name, r) ← match r with
      | '#' :: r =>
        let isPart (c : Char) : Bool := c != ' ' && c != ')'
        (plainName? (r.takeWhile isPart)).map fun name => (name, r.dropWhile isPart)
      | q :: r =>
        if q = '"' ∨ q = '\'' then
          match Markup.skipSpace r with
          | '#' :: r =>
            if r.contains q then
              (plainName? (Text.trimEnd (r.takeWhile (· != q)))).map fun name =>
                (name, (r.dropWhile (· != q)).drop 1)
            else none
          | _ => none
        else none
      | [] => none
    match Markup.skipSpace r with
    | ')' :: r => return (name, r)
    | _ => none
  else none

def functionalName? (s : String) : Option String :=
  match functionalName s.toList with
  | some (name, r) => if (Markup.skipSpace r).isEmpty then some name else none
  | none => none

/-- An element in its place, inside of others, the next of them first. -/
structure Located where
  outer : List Level
  element : Element

/-- The elements with names; of several with one name the last stands first. -/
abbrev Links := List (String × Located)

mutual

def Element.linksFrom (outer : List Level) (found : Links) : Element → Links
  | .mk l children =>
    let own := match l.attributes.lookup "id" with
      | some id => if id.isEmpty then [] else [(id, ⟨outer, .mk l children⟩)]
      | none => []
    linksOf (l :: outer) (own ++ found) children

def linksOf (outer : List Level) (found : Links) : List Element → Links
  | [] => found
  | e :: rest => linksOf outer (e.linksFrom outer found) rest

end

def target? (links : Links) (l : Attributes) (name : String) : Option Located :=
  ((l.lookup name).bind functionalName?).bind fun id => links.lookup id

/-- The first element that fits, of some that lead to each other. All of them have to be of a sort,
and one that leads to itself or back to where it began is the last. So many are tried at most. -/
def chained? (links : Links) (isSort fits : Element → Bool) (origin : Nat) :
    Nat → Located → Option Located
  | 0, _ => none
  | bound + 1, p =>
    let l := p.element.level
    if !isSort p.element then none
    else if fits p.element then some p
    else
      let next := (l.attributes.lookup "href").bind localName?
      (next.bind fun name => links.lookup name).bind fun q =>
        let n := q.element.level.number
        if n = l.number ∨ n = origin then none else chained? links isSort fits origin bound q

def Located.chained? (p : Located) (links : Links) (isSort : Kind → Bool) (fits : Element → Bool) :
    Option Located :=
  Picture.chained? links (fun e => isSort e.level.kind) fits p.element.level.number
    (links.length + 1) p

structure Family where
  isMember : Kind → Bool
  /-- Others that lead to members are passed over, and do not end the search for a value. -/
  isOpen : Bool

namespace Family

def ofKind (k : Kind) : Family := ⟨(· == k), false⟩

def gradients : Family := ⟨Kind.isGradient, true⟩

def radials : Family := ⟨(· == .radial), true⟩

end Family

/-- The element from which the value of an attribute comes: the first of the family with one, of
those to which it leads, or else the element itself. -/
def Located.giver (p : Located) (links : Links) (f : Family) (name : String) : Located :=
  (p.chained? links (fun k => f.isOpen || f.isMember k) fun e =>
    f.isMember e.level.kind && (e.level.attributes.lookup name).isSome).getD p

example : functionalName? "url( '#a' )" = some "a" := by decide +kernel

end Strata.Picture
