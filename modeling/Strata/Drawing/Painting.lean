import Strata.Drawing.Command
import Strata.Drawing.Frame
import Strata.Graph
import Strata.Style

/-! Painting: a graph, places for its nodes and styles for its layers and relations make a drawing.
Edges come first, grouped by relation, then nodes, grouped by layer, then labels and the legend.
What has no place is left out. -/
namespace Strata

variable {α : Type} [Scalar α]

/-- The point at a distance from `origin` in the direction of `target`. -/
def Point.toward (origin target : Point α) (distance : α) : Point α :=
  let dx := target.x - origin.x
  let dy := target.y - origin.y
  let length := Scalar.hypot dx dy
  if Scalar.le length 0.0 then origin
  else ⟨origin.x + dx / length * distance, origin.y + dy / length * distance⟩

/-- The control point of a bent edge: the middle of the chord, moved at a right angle to it by
`curvature` times its length. -/
def bendPoint (start finish : Point α) (curvature : α) : Point α :=
  ⟨(start.x + finish.x) / 2.0 - curvature * (finish.y - start.y),
   (start.y + finish.y) / 2.0 + curvature * (finish.x - start.x)⟩

/-- A bent edge between two places, cut back by `trim` at either end unless the places are too close
together for that. -/
def EdgePath.between (start finish : Point α) (trim curvature : α) : EdgePath α :=
  let control := bendPoint start finish curvature
  let length := Scalar.hypot (finish.x - start.x) (finish.y - start.y)
  if Scalar.le length (2.0 * trim) then .curve start control finish
  else .curve (start.toward control trim) control (finish.toward control trim)

def EdgePath.around (center : Point α) (radius : α) : EdgePath α :=
  .loop
    ⟨center.x - 0.5 * radius, center.y - 0.85 * radius⟩
    ⟨center.x - 1.6 * radius, center.y - 3.2 * radius⟩
    ⟨center.x + 1.6 * radius, center.y - 3.2 * radius⟩
    ⟨center.x + 0.5 * radius, center.y - 0.85 * radius⟩

structure Scene (α : Type) where
  graph : Graph
  layout : Layout α
  styles : StyleSheet

def Scene.ofGraph (g : Graph) (spacing : Spacing α) (palette : List Color) : Scene α :=
  ⟨g, g.layout spacing, .ofGraph g palette⟩

def legendLabel (layer : Nat) : String := "Layer " ++ toString layer

def legendHeading : String := "Layers"

namespace Scene

def legendLabels (s : Scene α) : List String := s.styles.layerColors.map fun c => legendLabel c.1

def frame (s : Scene α) (f : Figure α) : Frame α :=
  .ofLayout s.layout s.legendLabels legendHeading f

def edgeStyle (s : Scene α) (f : Figure α) (relation : String) : EdgeStyle α :=
  let width := f.pixels f.edgeWidth
  let pattern := s.styles.edgePattern relation
  { color := f.edgeColor, width, opacity := f.edgeOpacity, pattern
    dashes := pattern.dashLengths width
    arrowSize := f.pixels f.arrowSize }

/-- The course of an edge; one with an end that has no place has none. Ends are cut back to the
outside of the nodes' borders. -/
def edgePath? (place? : String → Option (Point α)) (f : Figure α) (e : Edge) :
    Option (EdgePath α) := do
  let start ← place? e.source
  let finish ← place? e.target
  return if e.source = e.target then .around start f.nodeRadius
    else .between start finish (f.nodeRadius + f.pixels f.borderWidth / 2.0) f.curvature

def edgeGroup (place? : String → Option (Point α)) (f : Figure α) (style : EdgeStyle α)
    (relation : String) (edges : List Edge) : Drawing α :=
  Drawing.group "edges" relation <|
    (edges.filterMap (edgePath? place? f)).map fun path => .edge path style

def nodeGroup (place? : String → Option (Point α)) (f : Figure α) (layer : Nat) (color : Color)
    (ids : List String) : Drawing α :=
  Drawing.group "layer" (toString layer) <|
    (ids.filterMap place?).map fun center =>
      .node center f.nodeRadius ⟨color, f.borderColor, f.pixels f.borderWidth⟩

def labelGroup (place? : String → Option (Point α)) (f : Figure α) (nodes : List Node) :
    Drawing α :=
  Drawing.group "labels" "" <| nodes.filterMap fun n =>
    (place? n.id).map fun anchor => .label anchor n.label (f.pixels f.fontSize)

def legendGroup (box : LegendBox α) (colors : List (Nat × Color)) : Drawing α :=
  Drawing.group "legend" "" <|
    .legendTitle box.titleAnchor legendHeading box.fontSize ::
      colors.zipIdx.map fun ((layer, color), row) =>
        .legendEntry (box.swatch row) color (box.textAnchor row) (legendLabel layer) box.fontSize

def paint (s : Scene α) (f : Figure α) : Drawing α :=
  let frame := s.frame f
  let place? := fun id => (s.layout.position? id).map frame.toCanvas
  let members := s.graph.layerMembers
  let colors := s.styles.layerColors
  .canvas frame.width frame.height f.background ::
    (s.graph.edgesByRelation.flatMap fun (relation, edges) =>
      edgeGroup place? f (s.edgeStyle f relation) relation edges) ++
    (colors.flatMap fun (layer, color) =>
      nodeGroup place? f layer color ((members.lookup layer).getD [])) ++
    (if f.withLabels then labelGroup place? f s.graph.nodeList else []) ++
    (if colors.isEmpty then [] else legendGroup frame.legend colors)

end Scene

end Strata
