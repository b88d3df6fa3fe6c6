import Strata.Basic
import Strata.Fault
import Strata.Json.Reader
import Strata.Json.Value

/-! Input documents: the node and edge records that a JSON value holds. Keys may differ from the
field names in the case of ASCII letters and values may be of several types; what a record leaves
out stays absent here. A layer is a number below two to the 32nd, read from any of those types. -/
namespace Strata

namespace Layer

/-- One more than the deepest layer. -/
def limit : Nat := 4294967296

def ofInt? (n : Int) : Option Nat := if 0 ≤ n ∧ n < limit then some n.toNat else none

def word? (n : Int) : Option Int :=
  if -(Nat.pow 2 127 : Int) ≤ n ∧ n < (Nat.pow 2 127 : Int) then some n else none

/-- Digits taken into a number one by one, up to the first that does not fit a word; those of a
number below zero are taken off. -/
def digits? (negative : Bool) : Int → List Char → Option Int
  | n, [] => some n
  | n, c :: rest =>
    if Text.isDigit c then do
      let digit : Int := (c.toNat - 48 : Nat)
      let shifted ← word? (n * 10)
      digits? negative (← word? (if negative then shifted - digit else shifted + digit)) rest
    else none

def splitSign : List Char → Bool × List Char
  | '-' :: r => (true, r)
  | '+' :: r => (false, r)
  | r => (false, r)

def wholeNumber? (s : List Char) : Option Int :=
  let (negative, digits) := splitSign s
  if digits.isEmpty then none else digits? negative 0 digits

/-- A number without its fraction; one beyond the layers on either side is turned away at once. -/
def ofReal? (x : Float) : Option Nat :=
  let n := (Decimal.Exact.ofFloat x).truncate
  if x.isFinite ∧ n.natAbs < limit then ofInt? n else none

/-- Whole numbers are taken as they are, other numbers without their fraction, and texts as whole
numbers with white space around them. -/
def ofJson? : Json.Value → Option Nat
  | .number (.whole n) => ofInt? n
  | .number (.real x) => ofReal? x
  | .string s => (wholeNumber? (Text.trim s.toList)).bind ofInt?
  | _ => none

def fault (v : Json.Value) : Fault := Fault.fieldCoercion "layer" v.text "a non-negative integer"

def ofJson (v : Json.Value) : Except Fault Nat :=
  match ofJson? v with
  | some layer => .ok layer
  | none => .error (fault v)

example : ofJson? (.string " +007 ") = some 7 := by decide +kernel
example : ofJson? (.number (.real (-0.5))) = some 0 := by decide +kernel

end Layer

structure NodeRecord where
  id : Option String := none
  name : Option String := none
  layer : Option Nat := none
  kind : Option String := none
deriving DecidableEq, Repr

structure EdgeRecord where
  id : Option String := none
  source : Option String := none
  target : Option String := none
  relation : Option String := none
deriving DecidableEq, Repr

structure Document where
  nodes : List NodeRecord
  edges : List EdgeRecord
deriving DecidableEq, Repr

namespace Document

/-- The value of a field: that of the exact key if it counts as present, else that of the first key
equal to it but for case whose value does. -/
def field? (present : Json.Value → Bool) (members : List (String × Json.Value)) (key : String) :
    Option Json.Value :=
  match (Json.member? members key).filter present with
  | some v => some v
  | none => (members.find? fun m => Text.equalIgnoringCase m.1 key && present m.2).map Prod.snd

def isGiven (v : Json.Value) : Bool := !v.isNull

/-- Whether a value counts as present where an empty text does not. -/
def isFilled : Json.Value → Bool
  | .null => false
  | .string s => !s.isEmpty
  | _ => true

def scalarText? : Json.Value → Option String
  | .string s => some s
  | .number n => some n.text
  | .bool b => some (if b then "true" else "false")
  | _ => none

def text? (members : List (String × Json.Value)) (key : String) : Option String :=
  (field? isGiven members key).bind scalarText?

def filledText? (members : List (String × Json.Value)) (key : String) : Option String :=
  (field? isFilled members key).bind scalarText?

inductive Part where
  | nodes
  | edges
deriving DecidableEq, Repr

def Part.key : Part → String
  | nodes => "nodes"
  | edges => "edges"

def Part.record : Part → String
  | nodes => "node"
  | edges => "edge"

/-- Why a JSON value is not an input document. -/
inductive Defect where
  | rootNotObject
  | wrapperNotObject
  | notArray (part : Part)
  | notObject (part : Part) (index : Nat)
  | notALayer (index : Nat) (value : Json.Value)

def nodeOfMembers (index : Nat) (members : List (String × Json.Value)) :
    Except Defect NodeRecord := do
  let layer ← match field? isGiven members "layer" with
    | none => pure none
    | some v => match Layer.ofJson? v with
      | some layer => pure (some layer)
      | none => .error (.notALayer index v)
  return {
    id := filledText? members "id", name := filledText? members "name", layer,
    kind := text? members "kind" }

def edgeOfMembers (members : List (String × Json.Value)) : EdgeRecord where
  id := text? members "id"
  source := text? members "source"
  target := text? members "target"
  relation := text? members "type"

def nodeOfJson (index : Nat) : Json.Value → Except Defect NodeRecord
  | .object members => nodeOfMembers index members
  | _ => .error (.notObject .nodes index)

def edgeOfJson (index : Nat) : Json.Value → Except Defect EdgeRecord
  | .object members => .ok (edgeOfMembers members)
  | _ => .error (.notObject .edges index)

/-- Reads the elements in order, the first of them with the given index. -/
def readFrom {β : Type} (read : Nat → Json.Value → Except Defect β) :
    Nat → List Json.Value → Except Defect (List β)
  | _, [] => .ok []
  | index, v :: rest => do
    let record ← read index v
    return record :: (← readFrom read (index + 1) rest)

def elements (graph : List (String × Json.Value)) (part : Part) :
    Except Defect (List Json.Value) :=
  match Json.member? graph part.key with
  | none | some .null => .ok []
  | some (.array items) => .ok items
  | some _ => .error (.notArray part)

def wrapperKey : String := "graph_state"

def graphMembers : Json.Value → Except Defect (List (String × Json.Value))
  | .object root => match Json.member? root wrapperKey with
    | none => .ok root
    | some (.object wrapped) => .ok wrapped
    | some _ => .error .wrapperNotObject
  | _ => .error .rootNotObject

def ofJson (v : Json.Value) : Except Defect Document := do
  let graph ← graphMembers v
  let nodes ← readFrom nodeOfJson 0 (← elements graph .nodes)
  let edges ← readFrom edgeOfJson 0 (← elements graph .edges)
  return ⟨nodes, edges⟩

def shapeFault (what expected : String) : Fault :=
  ((Fault.invalidFormat (what ++ " must be " ++ expected)).during "record::parse").note "field" what

def Defect.fault : Defect → Fault
  | rootNotObject => shapeFault "document" "an object"
  | wrapperNotObject => shapeFault wrapperKey "an object"
  | notArray part => shapeFault part.key "an array"
  | notObject part index => (shapeFault part.record "an object").note "index" (toString index)
  | notALayer index v => ((Layer.fault v).during "record::node").note "node" (toString index)

def syntaxFault (text : String) (e : Json.Error) : Fault :=
  ((Fault.invalidFormat ("input is not valid JSON: " ++ e.message text)).during
    "record::parse").causedBy (e.message text)

def parse (text : String) : Except Fault Document := do
  let v ← (Json.parse text).mapError (syntaxFault text)
  (ofJson v).mapError Defect.fault

end Document

end Strata
