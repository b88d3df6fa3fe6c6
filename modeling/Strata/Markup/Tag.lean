import Strata.Markup.Entity
import Strata.Markup.Name
import Strata.Markup.Piece

/-! Tags: the names and attributes of elements, and the namespaces that are known inside of them. -/
namespace Strata.Markup

/-- Names of namespaces by the name part that stands for them, the latest first. The one for names
without a colon has an empty key. -/
abbrev Scope := List (List Char × List Char)

abbrev Setting := Name × List Char

def xmlPart : List Char := "xml".toList
def declaringPart : List Char := "xmlns".toList

def xmlSpace : List Char := "http://www.w3.org/XML/1998/namespace".toList
def declaringSpace : List Char := "http://www.w3.org/2000/xmlns/".toList

def declaredPart? (n : Name) : Option (List Char) :=
  if n.space = declaringPart then some n.base
  else if n.base = declaringPart then some []
  else none

/-- Two namespaces are bound beforehand, and to no other part. -/
def isSound (a : Setting) : Bool :=
  if a.1.space = declaringPart then
    a.2 != declaringSpace && (a.1.base == xmlPart) == (a.2 == xmlSpace)
  else if a.1.base = declaringPart then a.2 != declaringSpace && a.2 != xmlSpace
  else true

def declarations (l : List Setting) : Scope :=
  l.filterMap fun a => ((declaredPart? a.1).filter (· != xmlPart)).map fun part => (part, a.2)

namespace Scope

/-- The namespace of an element's name, which may have none without a colon. -/
def ofElement? (scope : Scope) (n : Name) : Option (Option (List Char)) :=
  if n.space.isEmpty then some (scope.lookup [])
  else if n.space = declaringPart then none
  else (scope.lookup n.space).map some

/-- The namespace of an attribute's name, which has none without a colon. -/
def ofAttribute? (scope : Scope) (n : Name) : Option (Option (List Char)) :=
  if n.space.isEmpty then some none
  else if n.space = xmlPart then some (some xmlSpace)
  else (scope.lookup n.space).map some

end Scope

def areDistinct {κ : Type} [BEq κ] : List κ → Bool
  | [] => true
  | k :: rest => !rest.contains k && areDistinct rest

def proper (l : List Setting) : List Setting := l.filter fun a => (declaredPart? a.1).isNone

def Scope.fits (scope : Scope) (l : List Setting) : Bool :=
  let named := (proper l).map fun a => (scope.ofAttribute? a.1, a.1.base)
  let parts := (l.filterMap fun a => declaredPart? a.1).filter fun p => p != [] && p != xmlPart
  named.all (fun n => n.1.isSome) && areDistinct named && areDistinct parts && l.all isSound

structure Tag where
  name : Name
  /-- Everything that stands in the tag, declarations of namespaces included. -/
  settings : List Setting
  scope : Scope
  closes : Bool
deriving DecidableEq, Repr

namespace Tag

def space? (t : Tag) : Option (List Char) := (t.scope.ofElement? t.name).bind id

def value? (t : Tag) (name : String) : Option String :=
  ((proper t.settings).find? fun a => a.1.space.isEmpty && a.1.base == name.toList).map fun a =>
    String.ofList a.2

def valueIn? (t : Tag) (space : List Char) (name : String) : Option String :=
  ((proper t.settings).find? fun a =>
    t.scope.ofAttribute? a.1 == some (some space) && a.1.base == name.toList).map fun a =>
      String.ofList a.2

end Tag

inductive TagEnd where
  | opens
  | closes
  /-- The text is over inside of the tag. -/
  | breaksOff
deriving DecidableEq, Repr

/-- Settings as they are read, with the references that may still be followed. -/
structure Settings where
  list : List Setting
  finish : TagEnd
  unused : Nat
  rest : List Char

/-- The settings of a tag up to its end. So many of them are read at most. -/
def settings (entities : Entities) (bound : Nat) : Nat → Allowance → List Char → Option Settings
  | 0, _, _ => none
  | count + 1, a, s =>
    match skipSpace s with
    | [] => some ⟨[], .breaksOff, a.references, []⟩
    | '/' :: '>' :: r => some ⟨[], .closes, a.references, r⟩
    | '>' :: r => some ⟨[], .opens, a.references, r⟩
    | _ => do
      let (n, r) ← name (← spaces s)
      let (raw, r) ← quotedValue (← equals r)
      let (value, unused) ← valueWithin entities bound a raw
      let found ← settings entities bound count (a.leave unused) r
      return { found with list := (n, value) :: found.list }

def Tag.of? (outer : Scope) (n : Name) (l : List Setting) (closes : Bool) : Option Tag :=
  let scope := declarations l ++ outer
  if scope.fits l && (scope.ofElement? n).isSome then some ⟨n, l, scope, closes⟩ else none

def tagName (s : List Char) : Option (Name × List Char) :=
  (name s).filter fun found => found.1.space != declaringPart

def closingTag (s : List Char) : Option (Name × List Char) := do
  let (n, r) ← name s
  match skipSpace r with
  | '>' :: r => return (n, r)
  | _ => none

example : ((settings [] 99 99 .full " b='c' >d".toList).map fun found => found.list) =
    some [(⟨[], ['b']⟩, ['c'])] := by
  decide +kernel

end Strata.Markup
