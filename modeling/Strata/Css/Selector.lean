import Strata.Css.Token

/-! Selectors: how they are written, the elements that they select, and how specific they are. -/
namespace Strata.Css

structure Subject where
  name : String
  attributes : List (String × String)
deriving DecidableEq, Repr

/-- The place of an element: for itself and each element around it, from the inside, the element and
those in front of it on the same level, the nearest first. -/
abbrev Place := List (List Subject)

namespace Place

def subject? (p : Place) : Option Subject := p.head?.bind List.head?

def parent? (p : Place) : Option Place :=
  match p with
  | _ :: [] | [] => none
  | _ :: outer => some outer

def previous? (p : Place) : Option Place :=
  match p with
  | (_ :: s :: level) :: outer => some ((s :: level) :: outer)
  | _ => none

def ancestors : Place → List Place
  | [] | _ :: [] => []
  | _ :: level :: outer => (level :: outer) :: ancestors (level :: outer)

end Place

inductive Demand where
  | presence
  | equality (text : String)
  | word (text : String)
  /-- The value is the text, alone or with a hyphen behind it. -/
  | beginning (text : String)
deriving DecidableEq, Repr

def Demand.holds (d : Demand) (value : String) : Bool :=
  match d with
  | presence => true
  | equality text => value == text
  | word text => (value.splitToList (· = ' ')).contains text
  | beginning text => value == text || (text ++ "-").toList.isPrefixOf value.toList

inductive Condition where
  | value (name : String) (demand : Demand)
  | firstChild
  /-- A state of an element on a screen, in which no element is here. -/
  | state
deriving DecidableEq, Repr

def Condition.holdsAt (c : Condition) (p : Place) : Bool :=
  match c with
  | value name demand =>
    (p.subject?.bind fun s => s.attributes.lookup name).any demand.holds
  | firstChild => p.previous?.isNone
  | state => false

/-- Where the element of the part before has to be. -/
inductive Combinator where
  | descendant
  | child
  | adjacent
deriving DecidableEq, Repr

structure Part where
  /-- How the part is joined to the one before; the first one is not. -/
  combinator : Option Combinator
  name : Option String
  conditions : List Condition
deriving DecidableEq, Repr

/-- The parts, the last one first: it is the one that the selected element has to fit. -/
structure Selector where
  parts : List Part
deriving DecidableEq, Repr

def Part.holdsAt (c : Part) (p : Place) : Bool :=
  (match c.name with
    | some n => (p.subject?.map Subject.name) == some n
    | none => true) &&
  c.conditions.all fun condition => condition.holdsAt p

def partsHoldAt : List Part → Place → Bool
  | [], _ => true
  | c :: before, p => c.holdsAt p && match c.combinator with
    | none => true
    | some .child => p.parent?.any (partsHoldAt before)
    | some .descendant => p.ancestors.any (partsHoldAt before)
    | some .adjacent => p.previous?.any (partsHoldAt before)

def Selector.selects (s : Selector) (p : Place) : Bool := partsHoldAt s.parts p

/-- How many identifiers, other conditions and names a selector asks for, each at most 255. -/
def Selector.specificity (s : Selector) : Nat × Nat × Nat :=
  let conditions := s.parts.flatMap Part.conditions
  let isId (c : Condition) : Bool := match c with
    | .value "id" _ => true
    | _ => false
  (Nat.min 255 (conditions.countP isId), Nat.min 255 (conditions.countP fun c => !isId c),
    Nat.min 255 (s.parts.countP fun c => c.name.isSome))

structure Draft where
  parts : List Part := []
  combinator : Option Combinator := none
  /-- Nothing of a part stands behind the last combinator, or at the beginning. -/
  isBare : Bool := true

namespace Draft

def part (d : Draft) (name : Option String) : Draft :=
  ⟨⟨d.combinator, name, []⟩ :: d.parts, none, false⟩

/-- A condition belongs to the last part, unless a new part begins with it. -/
def condition (d : Draft) (c : Condition) : Draft :=
  match d.combinator, d.parts with
  | none, p :: before => ⟨{ p with conditions := p.conditions ++ [c] } :: before, none, false⟩
  | combinator, before => ⟨⟨combinator, none, [c]⟩ :: before, none, false⟩

def join (d : Draft) (c : Combinator) : Draft := { d with combinator := some c, isBare := true }

def complete? (d : Draft) : Option Selector :=
  if d.isBare || d.parts.getLast?.all (fun p => p.combinator.isSome) then none else some ⟨d.parts⟩

end Draft

def bracketed (demand : String → Demand) (s : List Char) : Scan (Demand × List Char) := do
  let isQuoted := s.head? = some '"' || s.head? = some '\''
  match ← if isQuoted then quoted s else ident s with
  | (text, ']' :: r) => return (demand (String.ofList text), r)
  | (_, r) => .error r

def demand : List Char → Scan (Demand × List Char)
  | ']' :: r => .ok (.presence, r)
  | '=' :: r => bracketed .equality r
  | '~' :: '=' :: r => bracketed .word r
  | '|' :: '=' :: r => bracketed .beginning r
  | '~' :: r | '|' :: r | r => .error r

def pseudoClass (s : List Char) : Scan (Condition × List Char) := do
  let (name, r) ← ident s
  if name = "lang".toList then
    match r with
    | '(' :: r =>
      let language := r.takeWhile (· != ')')
      match r.dropWhile (· != ')') with
      | _ :: r => if (Text.trim language).isEmpty then .error r else return (.state, r)
      | [] => .error []
    | r => .error r
  else if name = "first-child".toList then return (.firstChild, r)
  else if ["link", "visited", "hover", "active", "focus"].contains (String.ofList name) then
    return (.state, r)
  else .error r

def conditionBehind (mark : Char) (s : List Char) : Scan (Condition × List Char) := do
  if mark = ':' then pseudoClass s
  else
    let (name, r) ← ident s
    let name := String.ofList name
    if mark = '#' then return (.value "id" (.equality name), r)
    else if mark = '.' then return (.value "class" (.word name), r)
    else
      let (demand, r) ← demand r
      return (.value name demand, r)

/-- Skips space and comments between the parts of a selector; no slash may follow. -/
def skipGap (s : List Char) : Scan (List Char) :=
  match skipAside s with
  | .ok ('/' :: r) => .error r
  | found => found

/-- Reads a selector up to a comma or a brace, and gives what is left in either case. The bound
limits the rounds, each of which takes a character at least. -/
def selectorWithin : Nat → Draft → List Char → Option Selector × List Char
  | _, d, [] => (d.complete?, [])
  | 0, _, s => (none, s)
  | bound + 1, d, c :: r =>
    if c = ',' ∨ c = '{' then (d.complete?, c :: r)
    else if c = '*' then
      if d.isBare then selectorWithin bound (d.part none) r else (none, c :: r)
    else if c = '#' ∨ c = '.' ∨ c = '[' ∨ c = ':' then
      match conditionBehind c r with
      | .ok (condition, r) => selectorWithin bound (d.condition condition) r
      | .error r => (none, r)
    else if c = '>' ∨ c = '+' then
      if d.isBare then (none, c :: r)
      else selectorWithin bound (d.join (if c = '>' then .child else .adjacent)) (skipSpace r)
    else if isSpace c then
      if d.isBare then selectorWithin bound d (skipSpace r)
      else match skipGap r with
        | .error r => (none, r)
        | .ok r =>
          if r.isEmpty ∨ [some '>', some '+', some ',', some '{'].contains r.head? then
            selectorWithin bound d r
          else selectorWithin bound (d.join .descendant) r
    else if c = '/' then
      match r with
      | '*' :: r =>
        match commentEnd r with
        | .ok r => selectorWithin bound d r
        | .error r => (none, r)
      | r => (d.complete?, c :: r)
    else
      match ident (c :: r) with
      | .ok (name, r) =>
        if d.isBare then selectorWithin bound (d.part (some (String.ofList name))) r else (none, r)
      | .error r => (none, r)

def selector (bound : Nat) (s : List Char) : Option Selector × List Char :=
  selectorWithin bound {} s

example : ((selector 99 "g > .a:first-child, b".toList).1.map Selector.specificity) =
    some (0, 2, 1) := by
  decide +kernel

end Strata.Css
