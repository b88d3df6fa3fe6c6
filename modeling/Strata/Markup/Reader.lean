import Strata.Markup.Prolog
import Strata.Markup.Tag

/-! Reading a document: what it consists of, in order, when it is well formed, and the tree of it.
The text of an entity is read where the entity stands, up to the end of what is open around it: it
may close elements that opened outside of it, or leave a tag unfinished, which goes on with the
settings of the next one. Loops are bounded by the length of the text, since every round takes at
least one character, and by the levels of entities on the way. -/
namespace Strata.Markup

inductive Event where
  | tag (t : Tag)
  | closing (n : Name)
  | text (s : List Char)
  | remark
deriving DecidableEq, Repr

/-- An event in front of others; texts next to each other are one text. -/
def Event.before (e : Event) : List Event → List Event
  | text t :: rest =>
    match e with
    | text s => text (s ++ t) :: rest
    | _ => e :: text t :: rest
  | rest => e :: rest

structure Opened where
  name : Name
  scope : Scope

structure Progress where
  /-- The innermost first. -/
  opened : List Opened := []
  /-- The settings of a tag that broke off. -/
  pending : List Setting := []
  /-- A tag began in the text that is read. -/
  begun : Bool := false
  /-- The latest first. -/
  events : List Event := []

namespace Progress

def scope (p : Progress) : Scope := (p.opened.head?.map Opened.scope).getD []

def add (p : Progress) (e : Event) : Progress := { p with events := e :: p.events }

def enter? (p : Progress) (n : Name) (found : Settings) : Option Progress :=
  let l := p.pending ++ found.list
  let p := { p with begun := true }
  if found.finish = .breaksOff then some { p with pending := l }
  else (Tag.of? p.scope n l (found.finish = .closes)).map fun t =>
    let p := { p with pending := [] }.add (.tag t)
    if t.closes then p else { p with opened := ⟨n, t.scope⟩ :: p.opened }

/-- Behind a tag that ends an element: the innermost one, of this name. The text itself has to hold
a tag before. -/
def leave? (p : Progress) (n : Name) : Option Progress :=
  match p.opened with
  | [] => none
  | o :: outer =>
    if p.begun && o.name = n && (declarations p.pending ++ p.scope).fits p.pending then
      some ({ p with opened := outer, pending := [] }.add (.closing n))
    else none

end Progress

def joinLines : List Char → List Char
  | [] => []
  | '\r' :: '\n' :: r => '\n' :: joinLines r
  | c :: r => (if c = '\r' then '\n' else c) :: joinLines r

def characters (s : List Char) : Option (List Char × List Char) :=
  let isPlain (c : Char) : Bool := c != '<' && c != '&'
  let text := s.takeWhile isPlain
  if !text.all isLegal || (upTo "]]>".toList text).isSome then none
  else some (text, s.dropWhile isPlain)

/-- The content of so many elements that opened in the text itself, up to their ends or the end of
the text; with it, the references not used and what follows. -/
def content (entities : Entities) :
    Nat → Allowance → Nat → Progress → List Char → Option (Progress × Nat × List Char)
  | _, a, 0, p, s => some (p, a.references, s)
  | _, a, _, p, [] => some (p, a.references, [])
  | 0, _, _, _, _ => none
  | bound + 1, a, depth + 1, p, '<' :: r =>
    match r with
    | '!' :: '-' :: '-' :: r => do
      content entities bound a (depth + 1) (p.add .remark) (← comment r)
    | '!' :: '[' :: 'C' :: 'D' :: 'A' :: 'T' :: 'A' :: '[' :: r => do
      let (text, r) ← legalUpTo "]]>" r
      content entities bound a (depth + 1) (p.add (.text (joinLines text))) r
    | '?' :: r => do content entities bound a (depth + 1) (p.add .remark) (← instruction r)
    | '/' :: r => do
      let (n, r) ← closingTag r
      content entities bound a depth (← p.leave? n) r
    | r => do
      let (n, r) ← tagName r
      let found ← settings entities bound bound a r
      let inner := if found.finish = .opens then depth + 2 else depth + 1
      content entities bound (a.leave found.unused) inner (← p.enter? n found) found.rest
  | bound + 1, a, depth + 1, p, '&' :: r => do
    match ← reference r with
    | (.character c, r) => content entities bound a (depth + 1) (p.add (.text [c])) r
    | (.entity name, r) =>
      let text ← entities.lookup name
      let (inner, unused, _) ← content entities bound (← a.enter) 1 { p with begun := false } text
      content entities bound (a.leave unused) (depth + 1) { inner with begun := p.begun } r
  | bound + 1, a, depth + 1, p, s => do
    let (text, r) ← characters s
    content entities bound a (depth + 1) (p.add (.text (joinLines text))) r

structure Reading where
  root : Tag
  inner : List Event
deriving DecidableEq, Repr

def Progress.reading? (p : Progress) : Option Reading :=
  match p.events.foldl (fun (l : List Event) e => e.before l) [] with
  | .tag root :: inner => if p.opened.isEmpty then some ⟨root, inner⟩ else none
  | _ => none

def outermost (entities : Entities) (bound : Nat) : List Char → Option (Progress × List Char)
  | '<' :: r => do
    let (n, r) ← tagName r
    let found ← settings entities bound bound .full r
    let p ← Progress.enter? {} n found
    let depth := if found.finish = .opens then 1 else 0
    let (p, _, r) ← content entities bound .full depth p found.rest
    return (p, r)
  | _ => none

/-- No way through a document is longer: it takes every character once in each level. -/
def roundsOf (s : List Char) : Nat := (Allowance.full.levels + 1) * (s.length + 1)

def read (text : String) : Option Reading := do
  let s := text.toList
  let bound := roundsOf s
  let (entities, r) ← prolog bound s
  let (p, r) ← outermost entities bound r
  if (← surroundings bound r).isEmpty then p.reading? else none

inductive Node where
  | element (tag : Tag) (children : List Node)
  | text (s : List Char)
  | remark
deriving Repr

/-- A tree that grows: the open elements, the innermost first, each with the nodes in it so far, the
latest first; and those that stand in no open element. -/
structure Growth where
  opened : List (Tag × List Node) := []
  done : List Node := []

namespace Growth

def add (g : Growth) (n : Node) : Growth :=
  match g.opened with
  | [] => { g with done := n :: g.done }
  | (t, l) :: outer => { g with opened := (t, n :: l) :: outer }

def step (g : Growth) : Event → Growth
  | .tag t => if t.closes then g.add (.element t []) else { g with opened := (t, []) :: g.opened }
  | .closing _ =>
    match g.opened with
    | [] => g
    | (t, l) :: outer => { g with opened := outer }.add (.element t l.reverse)
  | .text s => g.add (.text s)
  | .remark => g.add .remark

end Growth

namespace Node

def ofEvents (l : List Event) : List Node := (l.foldl Growth.step {}).done.reverse

def leading? : List Node → Option String
  | text s :: _ => some (String.ofList s)
  | _ => none

mutual

def labels : Node → List (Tag × Option String)
  | element tag children => (tag, leading? children) :: labelled children
  | _ => []

def labelled : List Node → List (Tag × Option String)
  | [] => []
  | n :: rest => n.labels ++ labelled rest

end

end Node

def Reading.tree (r : Reading) : List Node := Node.ofEvents (.tag r.root :: r.inner)

end Strata.Markup
