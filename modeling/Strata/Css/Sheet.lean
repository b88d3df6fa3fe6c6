import Strata.Css.Selector
import Strata.Css.Token

/-! Declarations, which give a property its value, and the rules of style sheets that give them to
elements. -/
namespace Strata.Css

structure Declaration where
  property : String
  value : String
  important : Bool
deriving DecidableEq, Repr

/-- The texts behind the last term of a value, and behind the space that follows it. The bound
limits the terms. -/
def termsWithin : Nat → List Char → List Char → Scan (List Char × List Char)
  | 0, _, s => .error s
  | bound + 1, last, s =>
    match skipTerm s with
    | .ok r => do termsWithin bound r (← skipAside r)
    | .error r => .ok (last, r)

def skipEnds : Nat → List Char → Scan (List Char)
  | 0, s => .error s
  | bound + 1, s =>
    match s with
    | ';' :: r => do skipEnds bound (← skipAside r)
    | r => .ok r

def importance (s : List Char) : Scan (Bool × List Char) :=
  match s with
  | '!' :: r => do
    let r ← skipAside r
    if "important".toList.isPrefixOf r then return (true, r.drop 9) else return (false, r)
  | r => .ok (false, r)

/-- A declaration and the semicolons behind it. An asterisk in front of the property is skipped. The
bound limits the terms of the value, and the semicolons. -/
def declaration (bound : Nat) (s : List Char) : Scan (Declaration × List Char) := do
  let r ← skipAside s
  let r := if r.head? = some '*' then r.drop 1 else r
  let (property, r) ← ident r
  match ← skipAside r with
  | ':' :: r => do
    let value ← skipAside r
    let (last, r) ← termsWithin bound value value
    let text := Text.trim (value.take (value.length - last.length))
    let (important, r) ← importance (← skipAside r)
    let r ← skipAside r
    let r ← skipEnds bound r
    if text.isEmpty then .error r
    else return (⟨String.ofList property, String.ofList text, important⟩, r)
  | r => .error r

/-- What follows the brace that closes a block, from inside of it and of so many others. A block may
end with the text. -/
def blockEnd : Nat → List Char → List Char
  | _, [] => []
  | depth, '{' :: r => blockEnd (depth + 1) r
  | 0, '}' :: r => r
  | depth + 1, '}' :: r => blockEnd depth r
  | depth, _ :: r => blockEnd depth r

/-- The declarations of a block, and what is left from its brace on. One that cannot be read is the
end, and nothing of the block is left then. -/
def blockWithin : Nat → List Char → List Declaration × List Char
  | 0, s => ([], s)
  | bound + 1, s =>
    if s.isEmpty ∨ s.head? = some '}' then ([], s)
    else match declaration bound s with
      | .ok (d, r) =>
        let (others, r) := blockWithin bound r
        (d :: others, r)
      | .error r => ([], blockEnd 0 r)

def declarationsWithin : Nat → List Char → List Declaration
  | 0, _ => []
  | bound + 1, s =>
    match skipAside s with
    | .error _ | .ok [] => []
    | .ok r =>
      match declaration bound r with
      | .ok (d, r) => d :: declarationsWithin bound r
      | .error _ => []

def declarationsOf (s : String) : List Declaration :=
  declarationsWithin (s.toList.length + 1) s.toList

example : declarationsOf "a: 1px solid/**/; *b:c!important" =
    [⟨"a", "1px solid", false⟩, ⟨"b", "c", true⟩] := by
  decide +kernel

structure Rule where
  selector : Selector
  declarations : List Declaration
deriving DecidableEq, Repr

/-- The rules in the order in which they take effect: the least specific first, and those that are
alike as they stand in the text. -/
abbrev Sheet := List Rule

/-- Selectors with commas between them, up to the brace that opens their block; it ends without one
where the text ends. -/
def selectorsWithin : Nat → List Char → Option (List Selector × List Char)
  | 0, _ => none
  | bound + 1, s =>
    let (first, r) := selector bound s
    match skipSpace r with
    | [] => none
    | '{' :: r => some (first.toList, r)
    | ',' :: r => do
      let (rest, r) ← selectorsWithin bound r
      return (first.toList ++ rest, r)
    | r => some (first.toList, (r.dropWhile (· != '{')).drop 1)

def ruleSet (bound : Nat) (s : List Char) : List Rule × List Char :=
  match selectorsWithin bound (if s.head? = some ',' then s.drop 1 else s) with
  | none => ([], [])
  | some (selectors, r) =>
    let (declarations, r) := blockWithin bound r
    (selectors.map fun s => ⟨s, declarations⟩, if r.head? = some '}' then r.drop 1 else r)

def skipDirective (s : List Char) : List Char :=
  match ident s with
  | .error r => r
  | .ok (_, r) =>
    match r.dropWhile fun c => c != ';' && c != '{' with
    | [] => []
    | c :: r => if c = ';' then r else blockEnd 0 r

/-- The rules of a text in its order. The bound limits the statements, and the rounds in each of
them. -/
def rulesWithin : Nat → List Char → List Rule
  | 0, _ => []
  | bound + 1, s =>
    match skipAside s with
    | .error _ | .ok [] => []
    | .ok ('@' :: r) => rulesWithin bound (skipDirective r)
    | .ok r =>
      let (rules, r) := ruleSet bound r
      rules ++ rulesWithin bound r

def Rule.precedes (a b : Rule) : Bool :=
  let (i, c, n) := a.selector.specificity
  let (j, d, m) := b.selector.specificity
  i < j || i == j && (c < d || c == d && n ≤ m)

def Sheet.ofTexts (texts : List String) : Sheet :=
  (texts.flatMap fun t => rulesWithin (t.toList.length + 2) t.toList).mergeSort Rule.precedes

def Sheet.declarations (sheet : Sheet) (p : Place) : List Declaration :=
  (sheet.filter fun r => r.selector.selects p).flatMap Rule.declarations

example : (rulesWithin 99 "#r\x7ba:1\x7d b,*\x7ba:2\x7d@x\x7b\x7b\x7d\x7dg\x7ba:3\x7d".toList).map
      Rule.declarations =
    [[⟨"a", "1", false⟩], [⟨"a", "2", false⟩], [⟨"a", "2", false⟩], [⟨"a", "3", false⟩]] := by
  decide +kernel

end Strata.Css
