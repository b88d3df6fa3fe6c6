import Strata.Graph
import Strata.Scalar

/-! Places for nodes: one row for each layer, deeper layers lower, and in a row the ids in ascending
order around the middle. Neither edges nor the order of the input have a say. -/
namespace Strata

variable {α : Type}

structure Spacing (α : Type) where
  xGap : α
  yGap : α
deriving DecidableEq, Repr

/-- Places by node id; `y` grows upwards. -/
structure Layout (α : Type) where
  positions : Std.TreeMap String (Point α)

structure Bounds (α : Type) where
  minX : α
  maxX : α
  minY : α
  maxY : α
deriving DecidableEq, Repr

section

variable [Scalar α]

/-- The place along its row of the slot `index` of `count`. -/
def slotX (index count : Nat) (gap : α) : α :=
  (Scalar.ofNat index - (Scalar.ofNat count - 1.0) / 2.0) * gap

def layerY (layer : Nat) (gap : α) : α := 0.0 - Scalar.ofNat layer * gap

def Bounds.width (b : Bounds α) : α := b.maxX - b.minX
def Bounds.height (b : Bounds α) : α := b.maxY - b.minY

def Bounds.ofPoint (p : Point α) : Bounds α := ⟨p.x, p.x, p.y, p.y⟩

def Bounds.insert (b : Bounds α) (p : Point α) : Bounds α :=
  ⟨Scalar.min b.minX p.x, Scalar.max b.maxX p.x, Scalar.min b.minY p.y, Scalar.max b.maxY p.y⟩

/-- The places of one row, from the left. -/
def rowPlaces (spacing : Spacing α) (layer : Nat) (ids : List String) :
    List (String × Point α) :=
  ids.zipIdx.map fun slot =>
    (slot.1, ⟨slotX slot.2 ids.length spacing.xGap, layerY layer spacing.yGap⟩)

def Graph.layout (g : Graph) (spacing : Spacing α) : Layout α :=
  ⟨(g.layerMembers.flatMap fun row => rowPlaces spacing row.1 row.2).foldl
    (fun places place => places.insert place.1 place.2) ∅⟩

def Layout.bounds? (l : Layout α) : Option (Bounds α) :=
  match l.positions.values with
  | [] => none
  | p :: rest => some (rest.foldl Bounds.insert (Bounds.ofPoint p))

end

def Layout.position? (l : Layout α) (id : String) : Option (Point α) := l.positions[id]?

def Layout.toList (l : Layout α) : List (String × Point α) := l.positions.toList

end Strata
