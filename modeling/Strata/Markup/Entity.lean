import Strata.Basic
import Strata.Markup.Name
import Strata.Markup.Piece

/-! References: the five named characters, characters given by their number, and the entities that a
document declares, with the values that hold references to them. Entities may lead to others, in ten
levels at most; below an outermost reference, no more than 255 others are followed. -/
namespace Strata.Markup

def namedChar? : List Char → Option Char
  | ['l', 't'] => some '<'
  | ['g', 't'] => some '>'
  | ['a', 'm', 'p'] => some '&'
  | ['q', 'u', 'o', 't'] => some '"'
  | ['a', 'p', 'o', 's'] => some '\''
  | _ => none

/-- The character with a number, which a replacement stands for where there is none; it has to be a
legal one. -/
def numberedChar? (base : Nat) (digits : List Char) : Option Char :=
  let isDigit (c : Char) : Bool := match Text.hexDigit? c with
    | some d => d < base
    | none => false
  let n := Text.value base digits
  if digits.isEmpty ∨ !digits.all isDigit ∨ 4294967296 ≤ n then none
  else
    let c := if n.isValidChar then Char.ofNat n else '\ufffd'
    if isLegal c then some c else none

def referenced? : List Char → Option Char
  | '#' :: 'x' :: digits => numberedChar? 16 digits
  | '#' :: digits => numberedChar? 10 digits
  | name => namedChar? name

inductive Reference where
  | character (c : Char)
  | entity (name : List Char)
deriving DecidableEq, Repr

def Reference.ofText? (s : List Char) : Option Reference :=
  match referenced? s with
  | some c => some (character c)
  | none =>
    match plainName s with
    | some (name, []) => some (entity name)
    | _ => none

def reference (s : List Char) : Option (Reference × List Char) :=
  match s.dropWhile (· != ';') with
  | [] => none
  | _ :: r => (Reference.ofText? (s.takeWhile (· != ';'))).map fun found => (found, r)

/-- The text that references to characters, and other characters, stand for. The bound limits the
rounds, each of which takes a character at least. -/
def unescapeWithin : Nat → List Char → Option (List Char)
  | _, [] => some []
  | 0, _ :: _ => none
  | bound + 1, '&' :: r => do
    match ← reference r with
    | (.character c, r) => return c :: (← unescapeWithin bound r)
    | (.entity _, _) => none
  | bound + 1, c :: r => do return c :: (← unescapeWithin bound r)

def unescape (s : List Char) : Option (List Char) := unescapeWithin s.length s

example : unescape (escape "a<b> & 'c'\"".toList) = some "a<b> & 'c'\"".toList := by decide +kernel

/-- Entities with their texts as written; the first of one name counts. -/
abbrev Entities := List (List Char × List Char)

structure Allowance where
  levels : Nat
  references : Nat
deriving DecidableEq, Repr

namespace Allowance

/-- Outside of all entities. -/
def full : Allowance := ⟨10, 255⟩

def isNested (a : Allowance) : Bool := a.levels < full.levels

def enter (a : Allowance) : Option Allowance :=
  if !a.isNested then some { a with levels := a.levels - 1 }
  else if a.levels = 0 ∨ a.references = 0 then none
  else some ⟨a.levels - 1, a.references - 1⟩

/-- What is left behind an entity in which so many references were not used. -/
def leave (a : Allowance) (unused : Nat) : Allowance :=
  if a.isNested then { a with references := unused } else a

end Allowance

def blankSpace (c : Char) : Char := if isSpace c then ' ' else c

/-- The text of a value, and the references not used. A character from a reference stays as it is,
unless the reference stands in an entity: there it may not be an opening bracket. The bound limits
the rounds on every way into entities. -/
def valueWithin (entities : Entities) :
    Nat → Allowance → List Char → Option (List Char × Nat)
  | _, a, [] => some ([], a.references)
  | 0, _, _ :: _ => none
  | bound + 1, a, '&' :: r => do
    match ← reference r with
    | (.character c, r) =>
      if a.isNested && c = '<' then none
      else
        let (rest, left) ← valueWithin entities bound a r
        return ((if a.isNested then blankSpace c else c) :: rest, left)
    | (.entity name, r) =>
      let (inner, left) ← valueWithin entities bound (← a.enter) (← entities.lookup name)
      let (rest, left) ← valueWithin entities bound (a.leave left) r
      return (inner ++ rest, left)
  | bound + 1, a, c :: r => do
    let (rest, left) ← valueWithin entities bound a r
    return (if c = '\r' && r.head? = some '\n' then rest else blankSpace c :: rest, left)

example : (valueWithin [("w".toList, "50".toList), ("h".toList, "2&w;".toList)] 100 .full
    "&h;\t&#9;".toList).map Prod.fst = some "250 \t".toList := by decide +kernel

end Strata.Markup
