import Strata.Basic
import Strata.Document

/-! The graph that is drawn: nodes by id and directed edges between them, every default filled in,
and the text drawn on a node. Of several records with one id the last counts, and an edge stands
only when both its ends do. -/
namespace Strata

structure Node where
  id : String
  /-- The display name, never empty in a graph that was built. -/
  name : String
  layer : Nat
  kind : String
deriving DecidableEq, Repr

structure Edge where
  id : Option String
  source : String
  target : String
  relation : String
deriving DecidableEq, Repr

structure Graph where
  nodes : Std.TreeMap String Node
  edges : List Edge
  /-- The number of edge records that gave no edge. -/
  droppedEdges : Nat

def defaultKind : String := "unknown"

def defaultRelation : String := "depends_on"

def filled? (text : Option String) : Option String := text.filter fun s => !s.isEmpty

def Node.ofRecord? (r : NodeRecord) : Option Node :=
  (filled? r.id).map fun id => {
    id, name := (filled? r.name).getD id, layer := r.layer.getD 0, kind := r.kind.getD defaultKind }

def Edge.ofRecord? (r : EdgeRecord) : Option Edge := do
  let source ← r.source
  let target ← r.target
  return { id := r.id, source, target, relation := (filled? r.relation).getD defaultRelation }

namespace Graph

/-- The node record at this place has no usable id. -/
structure MissingId where
  index : Nat
deriving DecidableEq, Repr

def MissingId.fault (e : MissingId) : Fault :=
  (Fault.missingField "id" "node" e.index).during "graph::build"

/-- The nodes of records, the first of them with the given index. -/
def resolveNodes : Nat → List NodeRecord → Except MissingId (List Node)
  | _, [] => .ok []
  | index, r :: rest => match Node.ofRecord? r with
    | none => .error ⟨index⟩
    | some node => do return node :: (← resolveNodes (index + 1) rest)

/-- Nodes by id, the last one of each. -/
def nodeMap (nodes : List Node) : Std.TreeMap String Node :=
  nodes.foldl (fun m node => m.insert node.id node) ∅

def build (nodes : List NodeRecord) (edges : List EdgeRecord) : Except MissingId Graph := do
  let map := nodeMap (← resolveNodes 0 nodes)
  let kept := (edges.filterMap Edge.ofRecord?).filter fun e =>
    map.contains e.source && map.contains e.target
  return ⟨map, kept, edges.length - kept.length⟩

def ofDocument (d : Document) : Except MissingId Graph := build d.nodes d.edges

def nodeList (g : Graph) : List Node := g.nodes.values

def node? (g : Graph) (id : String) : Option Node := g.nodes[id]?
def contains (g : Graph) (id : String) : Bool := g.nodes.contains id
def nodeCount (g : Graph) : Nat := g.nodes.size
def edgeCount (g : Graph) : Nat := g.edges.length

/-- Whether there is anything to draw: a node and an edge. -/
def isRenderable (g : Graph) : Bool := !g.nodes.isEmpty && !g.edges.isEmpty

def layers (g : Graph) : List Nat := distinct (g.nodeList.map Node.layer)

/-- The ids of each layer, layers and ids ascending. -/
def layerMembers (g : Graph) : List (Nat × List String) :=
  (groupBy Node.layer g.nodeList).toList.map fun group => (group.1, group.2.map Node.id)

def relations (g : Graph) : List String := distinct (g.edges.map Edge.relation)

/-- The edges of each relation, relations ascending, edges in the order of the input. -/
def edgesByRelation (g : Graph) : List (String × List Edge) :=
  (groupBy Edge.relation g.edges).toList

end Graph

namespace Label

def limit : Nat := 26

def kept : Nat := 23

/-- A text that fits, or the beginning of one that does not, with an ellipsis. -/
def shorten (text : String) : String :=
  if text.length ≤ limit then text else String.ofList (text.toList.take kept ++ ['…'])

end Label

def Node.label (n : Node) : String :=
  Label.shorten (if n.name.isEmpty then n.id else n.name)

end Strata
