import Strata.Picture.Cascade
import Strata.Picture.Paint

/-! Elements that use others by name, with what they use in them. An element may stand 1024 levels
deep, where a use and what it uses take two, and there may be a million elements. A link of some
kind leads back when it leads to an element around it, or to one inside of which a link leads back.
Such links are taken away, and so are the filters of what is shown by a step of one of them. -/
namespace Strata.Picture

/-- The link of a kind: the attribute in which it stands. -/
structure LinkKind where
  kind : Kind
  name : String
  read : String → Option String := functionalName?
  /-- A link through an element of another kind leads back as well. -/
  isLoose : Bool := false

def Paint.name? : Paint → Option String
  | server name _ => some name
  | _ => none

def linkKinds : List LinkKind :=
  let ofPaint (s : String) : Option String := (Paint.ofText? s).bind Paint.name?
  [⟨.pattern, "fill", ofPaint, true⟩, ⟨.pattern, "stroke", ofPaint, true⟩,
   { kind := .clip, name := "clip-path" }, { kind := .mask, name := "mask" },
   { kind := .filter, name := "filter" }]

def LinkKind.of? (k : LinkKind) (links : Links) (e : Element) : Option Element :=
  ((e.level.attributes.lookup k.name).bind k.read).bind fun name =>
    (links.lookup name).map Located.element

/-- An element in one of these, itself included, the link of which leads back to one of a number. -/
def LinkKind.returning? (k : LinkKind) (links : Links) (number : Nat) (e : Element) :
    Option Element :=
  e.members.find? fun f => (k.of? links f).any fun t => t.level.number == number

def LinkKind.loopFrom? (k : LinkKind) (links : Links) (e : Element) : Option Element :=
  e.members.findSome? fun f =>
    (k.of? links f).bind fun t =>
      if t.level.number = e.level.number then some f
      else if k.isLoose ∨ t.level.kind = k.kind then k.returning? links e.level.number t
      else none

def unlink (name : String) (l : Attributes) : Attributes :=
  l.map fun a => if a.1 = name then (a.1, "none") else a

mutual

def Element.unlinked (name : String) (number : Nat) : Element → Element
  | .mk l children =>
    .mk (if l.number = number then { l with attributes := unlink name l.attributes } else l)
      (unlinkedIn name number children)

def unlinkedIn (name : String) (number : Nat) : List Element → List Element
  | [] => []
  | e :: rest => e.unlinked name number :: unlinkedIn name number rest

end

/-- Takes away the links of a kind that lead back, so many at most. -/
def LinkKind.breakLoops (k : LinkKind) : Nat → List Element → List Element
  | 0, l => l
  | bound + 1, l =>
    let all := Element.membersOf l
    let links := linksOf [] [] l
    match (all.filter fun e => e.level.kind == k.kind).findSome? (k.loopFrom? links) with
    | some e => k.breakLoops bound (unlinkedIn k.name e.level.number l)
    | none => l

/-- The elements that are shown by the steps in an element while they are filtered by it. -/
def depicted (links : Links) (e : Element) : List Element :=
  (e.children.filter fun c => c.level.kind == .depiction).filterMap fun c => do
    let name ← e.level.attributes.lookup "id"
    let shown ← ((c.level.attributes.lookup "href").bind localName?).bind fun id => links.lookup id
    let filters ← shown.element.level.attributes.lookup "filter"
    if (FilterEntry.ofText filters).contains (.link name) then return shown.element else none

def withoutDepicted (l : List Element) : List Element :=
  ((Element.membersOf l).flatMap (depicted (linksOf [] [] l))).foldl
    (fun l e => unlinkedIn "filter" e.level.number l) l

def withoutLoops (l : List Element) : List Element :=
  withoutDepicted (linkKinds.foldl (fun l k => k.breakLoops (Element.membersOf l).length l) l)

def elementLimit : Nat := 1000000

/-- The most levels, the outermost element included. -/
def levelLimit : Nat := 1025

abbrev Counting := StateT Nat Option

def Counting.count : Counting Nat := do
  let n ← get
  if elementLimit < n + 1 then failure
  else
    set (n + 1)
    return n + 1

namespace Source

def named? (all : List Source) (s : Source) : Option Source := do
  let value ← (s.tag.valueIn? linkSpace "href").orElse fun _ => s.tag.value? "href"
  let name ← localName? value
  all.find? fun t => t.tag.value? "id" == some name

def isUse (s : Source) : Bool :=
  s.tag.name.base = "use".toList && s.tag.space? == some pictureSpace

/-- The known element that is used, unless the use leads back to itself or to the one it stands for,
by itself or through an element of what it uses. -/
def used? (all : List Source) (origin : Option Nat) (s : Source) : Option Source := do
  let t ← s.named? all
  let leadsBack (u : Source) : Bool :=
    u.isUse && (u.named? all).any fun v => v.number == s.number || v.number == t.number
  if t.number == s.number || origin == some t.number || !t.isKnown ||
      (membersOf t.children).any leadsBack then
    none
  else return t

end Source

/-- The kind that an element has inside of a text: it is a part of the text or is nothing. A text
goes along a path only directly in the text. -/
def Source.spanKind? (s : Source) (isDirect : Bool) : Option Kind :=
  let name := String.ofList s.tag.name.base
  if s.kind?.isSome && (["a", "tref", "tspan"].contains name || isDirect && name == "textPath") then
    some .other
  else none

mutual

def Source.span (isDirect : Bool) (outer : List Assignments) : Source → Counting (List Element)
  | .mk number tag declarations isMixed children => do
    let s := Source.mk number tag declarations isMixed children
    match s.spanKind? isDirect with
    | none => return []
    | some kind =>
      let n ← Counting.count
      let own := s.assignments outer false
      let inner ←
        if tag.name.base = "tref".toList then pure [] else spans false (own :: outer) children
      return [.mk ⟨n, kind, own.attributes⟩ inner]

def spans (isDirect : Bool) (outer : List Assignments) : List Source → Counting (List Element)
  | [] => return []
  | s :: rest => do
    let own ← s.span isDirect outer
    return own ++ (← spans isDirect outer rest)

end

/-- The element that a source stands for, with so many levels left, inside of elements with these
values, in a copy made for a use or not. What does not belong to pictures gives none. -/
def expand (all : List Source) :
    Nat → List Assignments → Bool → Option Nat → Source → Counting (List Element)
  | 0, _, _, _, _ => failure
  | left + 1, outer, isCopy, origin, .mk number tag declarations isMixed children => do
    let s := Source.mk number tag declarations isMixed children
    match s.kind? with
    | none => return []
    | some kind =>
      let n ← Counting.count
      let own := s.assignments outer isCopy
      let outer := own :: outer
      let inner ← match kind with
        | .text => spans true outer children
        | .use =>
          match s.used? all origin, left with
          | none, _ => pure []
          | some _, 0 => failure
          | some t, left + 1 => expand all left outer true (some number) t
        | _ =>
          if left = 0 && isMixed then failure
          else (children.mapM (expand all left outer isCopy origin)).map List.flatten
      return [.mk ⟨n, kind, own.attributes⟩ inner]

def Element.ofDocument (r : Markup.Reading) : Option (List Element) :=
  let nodes := r.tree
  let sheet := Css.Sheet.ofTexts (sheetTexts nodes)
  let sources := (Source.ofNodes sheet [] [] 0 nodes).1
  let all := Source.membersOf sources
  (((sources.mapM (expand all levelLimit [] false none)).run' 0).map List.flatten).map withoutLoops

end Strata.Picture
