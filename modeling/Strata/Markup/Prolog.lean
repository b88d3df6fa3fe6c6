import Strata.Markup.Entity
import Strata.Markup.Name

/-! What may stand in front of the outermost element: the declaration of the version, and the type
of the document with the entities that it declares. -/
namespace Strata.Markup

/-- Space, unless the declaration or the text ends. -/
def declarationSpace (s : List Char) : Option (List Char) :=
  if s.isEmpty || "?>".toList.isPrefixOf s then some s else spaces s

def setting (s : List Char) : Option (List Char) := do
  let (_, r) ← name s
  let (_, r) ← quotedValue (← equals r)
  return r

def optionalSetting (start : String) (s : List Char) : Option (List Char) :=
  if start.toList.isPrefixOf s then setting s else some s

/-- Skips the declaration that may open a document; it names the version first. -/
def skipDeclaration (s : List Char) : Option (List Char) :=
  if "<?xml ".toList.isPrefixOf s then do
    let r := skipSpace (s.drop 5)
    if "version".toList.isPrefixOf r then
      let r ← declarationSpace (← setting r)
      let r ← optionalSetting "encoding" r >>= declarationSpace
      match skipSpace (← optionalSetting "standalone" r) with
      | '?' :: '>' :: r => return r
      | _ => none
    else none
  else some s

def skipExternal (s : List Char) : Option (List Char) :=
  if "SYSTEM".toList.isPrefixOf s then do
    let (_, r) ← quoted (← spaces (s.drop 6))
    return r
  else if "PUBLIC".toList.isPrefixOf s then do
    let (_, r) ← quoted (← spaces (s.drop 6))
    let (_, r) ← quoted (← spaces r)
    return r
  else some s

def skipNotation (s : List Char) : Option (List Char) :=
  let r := skipSpace s
  if "NDATA".toList.isPrefixOf r then do
    let (_, r) ← plainName (← spaces (r.drop 5))
    return r
  else some r

/-- The text of an entity, which one outside of the document does not have. -/
def entityText (general : Bool) (s : List Char) : Option (Option (List Char) × List Char) :=
  match quoted s with
  | some (text, r) => some (some text, r)
  | none =>
    if "SYSTEM".toList.isPrefixOf s || "PUBLIC".toList.isPrefixOf s then do
      let r ← skipExternal s
      return (none, ← if general then skipNotation r else some r)
    else none

def entity (s : List Char) : Option (Entities × List Char) := do
  let r ← spaces s
  let general := r.head? != some '%'
  let r ← if general then some r else spaces (r.drop 1)
  let (n, r) ← plainName r
  let (text, r) ← entityText general (← spaces r)
  match skipSpace r with
  | '>' :: r => return (text.toList.map fun t => (n, t), r)
  | _ => none

def idleDeclarations : List String := ["<!ELEMENT", "<!ATTLIST", "<!NOTATION"]

/-- The entities declared between brackets, and what follows the document type. The bound limits the
rounds, each of which takes a declaration. -/
def subset : Nat → List Char → Option (Entities × List Char)
  | 0, _ => none
  | bound + 1, s =>
    match skipSpace s with
    | [] => some ([], [])
    | ']' :: r =>
      match skipSpace r with
      | '>' :: r => some ([], r)
      | _ => none
    | '<' :: '!' :: '-' :: '-' :: r => do subset bound (← comment r)
    | '<' :: '?' :: r => do subset bound (← instruction r)
    | r =>
      if "<!ENTITY".toList.isPrefixOf r then do
        let (found, r) ← entity (r.drop 8)
        let (rest, r) ← subset bound r
        return (found ++ rest, r)
      else if idleDeclarations.any fun d => d.toList.isPrefixOf r then
        match r.dropWhile (· != '>') with
        | _ :: r => subset bound r
        | [] => none
      else none

def doctype (bound : Nat) (s : List Char) : Option (Entities × List Char) :=
  if "<!DOCTYPE".toList.isPrefixOf s then do
    let (_, r) ← plainName (← spaces (s.drop 9))
    match skipSpace (← skipExternal (skipSpace r)) with
    | '>' :: r => return ([], r)
    | '[' :: r => subset bound r
    | _ => none
  else some ([], s)

def prolog (bound : Nat) (s : List Char) : Option (Entities × List Char) := do
  let s ← surroundings bound (← skipDeclaration (if s.head? = some '\ufeff' then s.drop 1 else s))
  let (entities, r) ← doctype bound s
  return (entities, ← surroundings bound r)

example : prolog 99 "<!DOCTYPE a [<!ENTITY b \"c\"><!ATTLIST d>]><a>".toList =
    some ([(['b'], ['c'])], "<a>".toList) := by
  decide +kernel

end Strata.Markup
