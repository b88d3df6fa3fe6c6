import Strata.Css.Sheet
import Strata.Markup.Reader
import Strata.Picture.Element
import Strata.Picture.Length

/-! The values that count for an element: those of its attributes, of the rules that select it, and
of its own style, the later ones in place of the earlier ones. -/
namespace Strata.Picture

def pictureSpace : List Char := "http://www.w3.org/2000/svg".toList

def linkSpace : List Char := "http://www.w3.org/1999/xlink".toList

def attributeSpaces : List (Option (List Char)) :=
  [none, some pictureSpace, some linkSpace, some Markup.xmlSpace]

/-- An element with its number in the document, the declarations for it, the weakest first, and
whether texts or remarks stand in it beside elements. -/
inductive Source where
  | mk (number : Nat) (tag : Markup.Tag) (declarations : List Css.Declaration) (isMixed : Bool)
      (children : List Source)

def subjectOf (t : Markup.Tag) : Css.Subject :=
  ⟨String.ofList t.name.base, (Markup.proper t.settings).filterMap fun a =>
    if a.1.space.isEmpty then some (String.ofList a.1.base, String.ofList a.2) else none⟩

namespace Source

def number : Source → Nat
  | mk n _ _ _ _ => n

def tag : Source → Markup.Tag
  | mk _ t _ _ _ => t

def children : Source → List Source
  | mk _ _ _ _ l => l

mutual

/-- The element of a node, behind others at its place, with a number of its own; with it, the
elements in front of the next node and the next number. -/
def ofNode (sheet : Css.Sheet) (outer : Css.Place) (before : List Css.Subject) (n : Nat) :
    Markup.Node → List Source × List Css.Subject × Nat
  | .element tag children =>
    let level := subjectOf tag :: before
    let place := level :: outer
    let own := (tag.value? "style").elim [] Css.declarationsOf
    let isMixed := children.any fun c => match c with
      | .element _ _ => false
      | _ => true
    let (inner, next) := ofNodes sheet place [] (n + 1) children
    ([mk n tag (sheet.declarations place ++ own) isMixed inner], level, next)
  | _ => ([], before, n)

def ofNodes (sheet : Css.Sheet) (outer : Css.Place) (before : List Css.Subject) (n : Nat) :
    List Markup.Node → List Source × Nat
  | [] => ([], n)
  | node :: rest =>
    let (own, before, next) := ofNode sheet outer before n node
    let (others, last) := ofNodes sheet outer before next rest
    (own ++ others, last)

end

mutual

def members : Source → List Source
  | mk n t d m children => mk n t d m children :: membersOf children

def membersOf : List Source → List Source
  | [] => []
  | s :: rest => s.members ++ membersOf rest

end

def kind? (s : Source) : Option Kind :=
  if s.tag.space?.all (· == pictureSpace) then Kind.ofName? (String.ofList s.tag.name.base)
  else none

def isKnown (s : Source) : Bool :=
  s.kind?.isSome || s.tag.space?.all (· == pictureSpace) && s.tag.name.base == "style".toList

end Source

def sheetTexts (nodes : List Markup.Node) : List String :=
  (Markup.Node.labelled nodes).filterMap fun (tag, text) =>
    let isSheet := (tag.value? "type").all (· == "text/css")
    if tag.name.base = "style".toList ∧ isSheet then text else none

structure Assignment where
  name : String
  value : String
  important : Bool := false
deriving DecidableEq, Repr

abbrev Assignments := List Assignment

def Assignments.value? (l : Assignments) (name : String) : Option Assignment :=
  l.find? fun a => a.name == name

/-- The properties that the extent of a picture depends on and that declarations may set. -/
def properties : List String :=
  ["background-color", "clip-path", "color", "display", "fill", "filter", "font-size", "isolation",
   "marker-end", "marker-mid", "marker-start", "mask", "mix-blend-mode", "opacity", "overflow",
   "paint-order", "stroke", "stroke-width", "transform", "transform-origin", "visibility"]

def declaredOnly : List String := ["isolation", "mix-blend-mode"]

def markerProperties : List String := ["marker-start", "marker-mid", "marker-end"]

def initialValues : List (String × Option String) :=
  [("clip-path", some "none"), ("color", none), ("display", some "inline"), ("fill", some "black"),
   ("filter", some "none"), ("font-size", some "medium"), ("marker-end", some "none"),
   ("marker-mid", some "none"), ("marker-start", some "none"), ("mask", some "none"),
   ("opacity", some "1"), ("overflow", some "visible"), ("stroke", some "none"),
   ("stroke-width", some "1"), ("visibility", some "visible")]

/-- The properties that are taken from any element around, and not from the next one alone. -/
def farProperties : List String :=
  ["color", "fill", "font-size", "stroke", "stroke-width", "visibility"] ++ markerProperties

/-- The value with another one taken from around in its place, if it asks for that. What is taken is
as important as it was; where there is nothing to take the value is dropped. -/
def Assignment.resolve? (outer : List Assignments) (a : Assignment) : Option Assignment :=
  match initialValues.lookup a.name with
  | none => some a
  | some initial =>
    if a.value = "inherit" then
      let levels := if farProperties.contains a.name then outer else outer.take 1
      (levels.findSome? fun l => l.value? a.name).orElse fun _ =>
        initial.map fun value => ⟨a.name, value, false⟩
    else some a

/-- A value in place of the first one of its name, unless that is important. -/
def assign : Assignments → Assignment → Assignments
  | [], a => [a]
  | b :: rest, a =>
    if b.name = a.name then (if b.important then b else a) :: rest else b :: assign rest a

/-- The values that a declaration gives; a font in one value gives the size of type, and a marker
all three. -/
def Assignment.ofDeclaration (d : Css.Declaration) : Assignments :=
  if d.property = "font" then
    ((sizeOfFont? d.value).map fun size => ⟨"font-size", size, d.important⟩).toList
  else if d.property = "marker" then
    markerProperties.map fun name => ⟨name, d.value, d.important⟩
  else if properties.contains d.property then [⟨d.property, d.value, d.important⟩]
  else []

/-- The values of a tag's attributes; a copy of an element goes without its name. -/
def ownAssignments (t : Markup.Tag) (isCopy : Bool) : Assignments :=
  (Markup.proper t.settings).filterMap fun a =>
    let name := String.ofList a.1.base
    let counts := (t.scope.ofAttribute? a.1).any attributeSpaces.contains
    if counts && name != "style" && name != "class" && !declaredOnly.contains name &&
        !(isCopy && name == "id") then
      some ⟨name, String.ofList a.2, false⟩
    else none

def Source.assignments (s : Source) (outer : List Assignments) (isCopy : Bool) : Assignments :=
  let declared := match s with
    | mk _ _ declarations _ _ => declarations.flatMap Assignment.ofDeclaration
  let own := (ownAssignments s.tag isCopy).filterMap (Assignment.resolve? outer)
  (declared.filterMap (Assignment.resolve? outer)).foldl assign own

def Assignments.attributes (l : Assignments) : Attributes := l.map fun a => (a.name, a.value)

end Strata.Picture
