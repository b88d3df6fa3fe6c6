import Mathlib.Data.List.Basic
import Strata.Proofs.GraphBuild
import Strata.Proofs.SceneParts

/-! Painting leaves nothing out and draws nothing twice. The drawing of a graph with its own layout
and styles is written down without any test for what might be missing, and painting is shown to
give exactly that. -/
namespace Strata

variable {α : Type}

namespace Drawing

theorem filterMap_group {β : Type} {pick : Command α → Option β} {kind key : String}
    (opening : pick (.openGroup kind key) = none) (closing : pick .closeGroup = none)
    (body : Drawing α) : (group kind key body).filterMap pick = body.filterMap pick := by
  rw [group, List.cons_append, List.filterMap_cons_none opening, List.filterMap_append,
    List.filterMap_cons_none closing, List.filterMap_nil, List.append_nil]
end Drawing

variable [Scalar α]

namespace Scene

/-- Where a node lies on the canvas. -/
def place (s : Scene α) (f : Figure α) (id : String) : Point α :=
  (s.frame f).toCanvas ((s.layout.position? id).getD ⟨0.0, 0.0⟩)

/-- The course of an edge: a loop where it leads back, else a curve from source to target. -/
def course (s : Scene α) (f : Figure α) (e : Edge) : EdgePath α :=
  if e.source = e.target then .around (s.place f e.source) f.nodeRadius
  else .between (s.place f e.source) (s.place f e.target)
    (f.nodeRadius + f.pixels f.borderWidth / 2.0) f.curvature

/-- Whether the layout has a place for an id. -/
def places (s : Scene α) (id : String) : Bool := (s.layout.position? id).isSome

def drawnEdges (s : Scene α) (f : Figure α) : Drawing α :=
  s.graph.relations.flatMap fun relation =>
    Drawing.group "edges" relation <|
      ((s.graph.edgesOf relation).filter fun e => s.places e.source && s.places e.target).map
        fun e => .edge (s.course f e) (s.edgeStyle f relation)

def drawnNodes (s : Scene α) (f : Figure α) : Drawing α :=
  s.styles.layerColors.flatMap fun (layer, color) =>
    Drawing.group "layer" (toString layer) <|
      ((s.graph.nodesIn layer).filter fun n => s.places n.id).map fun n =>
        .node (s.place f n.id) f.nodeRadius ⟨color, f.borderColor, f.pixels f.borderWidth⟩

def drawnLabels (s : Scene α) (f : Figure α) : Drawing α :=
  Drawing.group "labels" "" <| (s.graph.nodeList.filter fun n => s.places n.id).map fun n =>
    .label (s.place f n.id) n.label (f.pixels f.fontSize)

/-- The drawing with everything in it that has its places and its colour. -/
def drawn (s : Scene α) (f : Figure α) : Drawing α :=
  .canvas (s.frame f).width (s.frame f).height f.background ::
    s.drawnEdges f ++ s.drawnNodes f ++ (if f.withLabels then s.drawnLabels f else []) ++
    (if s.styles.layerColors.isEmpty then []
      else legendGroup (s.frame f).legend s.styles.layerColors)

theorem filterMap_ite {β γ : Type} (p : β → Bool) (h : β → γ) (l : List β) :
    (l.filterMap fun b => if p b then some (h b) else none) = (l.filter p).map h := by
  rw [← List.filterMap_eq_map', List.filterMap_filter]

section

variable (s : Scene α) (f : Figure α)

theorem map_position? (id : String) : (s.layout.position? id).map (s.frame f).toCanvas =
    if s.places id then some (s.place f id) else none := by
  rw [places, place]
  cases s.layout.position? id <;> rfl

theorem edgePath?_eq (e : Edge) :
    edgePath? (fun id => (s.layout.position? id).map (s.frame f).toCanvas) f e =
      if s.places e.source && s.places e.target then some (s.course f e) else none := by
  simp only [edgePath?, map_position?]
  cases s.places e.source <;> cases s.places e.target <;> rfl

theorem edgeGroups_drawn :
    (s.graph.edgesByRelation.flatMap fun group => edgeGroup
      (fun id => (s.layout.position? id).map (s.frame f).toCanvas) f
      (s.edgeStyle f group.1) group.1 group.2) = s.drawnEdges f := by
  rw [Graph.edgesByRelation_eq, List.flatMap_map, drawnEdges]
  refine List.flatMap_congr ?_
  intro relation _
  rw [edgeGroup, funext (s.edgePath?_eq f), filterMap_ite, List.map_map]
  rfl

theorem nodeGroups_drawn :
    (s.styles.layerColors.flatMap fun entry => nodeGroup
      (fun id => (s.layout.position? id).map (s.frame f).toCanvas) f entry.1 entry.2
      ((s.graph.layerMembers.lookup entry.1).getD [])) = s.drawnNodes f := by
  refine List.flatMap_congr ?_
  rintro ⟨layer, color⟩ _
  rw [nodeGroup, Graph.lookup_layerMembers, List.filterMap_map, funext (s.map_position? f),
    Function.comp_def, filterMap_ite fun n : Node => s.places n.id, List.map_map]
  rfl

theorem labelGroup_drawn :
    labelGroup (fun id => (s.layout.position? id).map (s.frame f).toCanvas) f s.graph.nodeList =
      s.drawnLabels f := by
  have labels : ∀ n ∈ s.graph.nodeList, ((s.layout.position? n.id).map
      (s.frame f).toCanvas).map (fun anchor =>
        Command.label anchor n.label (f.pixels f.fontSize)) =
      if s.places n.id then some (.label (s.place f n.id) n.label (f.pixels f.fontSize))
        else none := by
    intro n _
    rw [map_position?]
    split <;> rfl
  rw [labelGroup, List.filterMap_congr labels, filterMap_ite fun n : Node => s.places n.id]
  rfl

/-- Painting any scene leaves out what has no place or no colour, and nothing else. -/
theorem paint_drawn : s.paint f = s.drawn f := by
  simp only [paint, drawn, edgeGroups_drawn, nodeGroups_drawn, labelGroup_drawn]

end

def wholeEdges (s : Scene α) (f : Figure α) : Drawing α :=
  s.graph.relations.flatMap fun relation =>
    Drawing.group "edges" relation <| (s.graph.edgesOf relation).map fun e =>
      .edge (s.course f e) (s.edgeStyle f relation)

def wholeNodes (s : Scene α) (f : Figure α) : Drawing α :=
  s.graph.layers.flatMap fun layer =>
    Drawing.group "layer" (toString layer) <| (s.graph.nodesIn layer).map fun n =>
      .node (s.place f n.id) f.nodeRadius
        ⟨s.styles.layerColor layer, f.borderColor, f.pixels f.borderWidth⟩

def wholeLabels (s : Scene α) (f : Figure α) : Drawing α :=
  Drawing.group "labels" "" <| s.graph.nodeList.map fun n =>
    .label (s.place f n.id) n.label (f.pixels f.fontSize)

def wholeLegend (s : Scene α) (f : Figure α) : Drawing α :=
  let box := (s.frame f).legend
  Drawing.group "legend" "" <|
    .legendTitle box.titleAnchor legendHeading box.fontSize ::
      s.graph.layers.zipIdx.map fun (layer, row) =>
        .legendEntry (box.swatch row) (s.styles.layerColor layer) (box.textAnchor row)
          (legendLabel layer) box.fontSize

/-- The drawing with every edge, node, label and layer in it. -/
def whole (s : Scene α) (f : Figure α) : Drawing α :=
  .canvas (s.frame f).width (s.frame f).height f.background ::
    s.wholeEdges f ++ s.wholeNodes f ++
    (if f.withLabels then s.wholeLabels f else []) ++
    (if s.graph.nodeList = [] then [] else s.wholeLegend f)

section

variable (s : Scene α) (f : Figure α)

/-- What is picked from the drawing, where canvas and groups themselves are not picked. -/
theorem filterMap_whole {β : Type} {pick : Command α → Option β}
    (blank : ∀ width height color, pick (.canvas width height color) = none)
    (opening : ∀ kind key, pick (.openGroup kind key) = none) (closing : pick .closeGroup = none) :
    (s.whole f).filterMap pick =
      (s.graph.relations.flatMap fun relation => (s.graph.edgesOf relation).filterMap fun e =>
        pick (.edge (s.course f e) (s.edgeStyle f relation))) ++
      (s.graph.layers.flatMap fun layer => (s.graph.nodesIn layer).filterMap fun n =>
        pick (.node (s.place f n.id) f.nodeRadius
          ⟨s.styles.layerColor layer, f.borderColor, f.pixels f.borderWidth⟩)) ++
      ((if f.withLabels then s.wholeLabels f else []).filterMap pick) ++
      (if s.graph.nodeList = [] then [] else s.wholeLegend f).filterMap pick := by
  rw [whole, wholeEdges, wholeNodes, List.cons_append, List.cons_append, List.cons_append,
    List.filterMap_cons_none (blank _ _ _), List.filterMap_append, List.filterMap_append,
    List.filterMap_append, List.filterMap_flatMap, List.filterMap_flatMap]
  simp only [Drawing.filterMap_group (opening _ _) closing, List.filterMap_map, Function.comp_def]

theorem length_nodes_whole : (s.whole f).nodes.length = s.graph.nodeCount := by
  have shares := s.graph.nodesIn_perm.length_eq
  rw [List.length_flatMap] at shares
  rw [Drawing.nodes, filterMap_whole s f (fun _ _ _ => rfl) (fun _ _ => rfl) rfl,
    Graph.nodeCount_eq, ← shares]
  split <;> split <;> simp [wholeLabels, wholeLegend, Drawing.group, List.length_flatMap]

theorem mem_edges_whole {e : Edge} (member : e ∈ s.graph.edges) :
    (s.course f e, s.edgeStyle f e.relation) ∈ (s.whole f).edges := by
  rw [Drawing.edges, filterMap_whole s f (fun _ _ _ => rfl) (fun _ _ => rfl) rfl]
  refine List.mem_append_left _ (List.mem_append_left _ (List.mem_append_left _ ?_))
  refine List.mem_flatMap.mpr ⟨e.relation, Graph.mem_relations.mpr ⟨e, member, rfl⟩, ?_⟩
  exact List.mem_filterMap.mpr ⟨e, List.mem_filter.mpr ⟨member, by simp⟩, rfl⟩

end

section

variable (g : Graph) (spacing : Spacing α) (palette : List Color)

@[simp] theorem ofGraph_graph : (ofGraph g spacing palette).graph = g := rfl

@[simp] theorem ofGraph_layout : (ofGraph g spacing palette).layout = g.layout spacing := rfl

@[simp] theorem ofGraph_styles : (ofGraph g spacing palette).styles = .ofGraph g palette := rfl

end

section

variable {g : Graph} (valid : g.Valid) (spacing : Spacing α) (palette : List Color) (f : Figure α)

include valid

theorem places_ofGraph (id : String) : (ofGraph g spacing palette).places id = g.contains id :=
  valid.isSome_position? spacing id

theorem placed {id : String} (present : g.contains id = true) :
    ((g.layout spacing).position? id).map ((ofGraph g spacing palette).frame f).toCanvas =
      some ((ofGraph g spacing palette).place f id) := by
  obtain ⟨p, found⟩ := valid.exists_position? spacing present
  simp only [place, ofGraph, found, Option.map_some, Option.getD_some]

theorem drawnEdges_whole : (ofGraph g spacing palette).drawnEdges f =
    (ofGraph g spacing palette).wholeEdges f := by
  refine List.flatMap_congr ?_
  intro relation _
  rw [List.filter_eq_self.mpr]
  intro e member
  obtain ⟨source, target⟩ := valid.ends e (List.mem_filter.mp member).1
  rw [places_ofGraph valid, places_ofGraph valid, source, target]
  rfl

theorem drawnNodes_whole : (ofGraph g spacing palette).drawnNodes f =
    (ofGraph g spacing palette).wholeNodes f := by
  rw [drawnNodes, ofGraph_styles, StyleSheet.layerColors_eq, List.flatMap_map]
  refine List.flatMap_congr ?_
  intro layer _
  simp only
  rw [List.filter_eq_self.mpr]
  · rfl
  intro n member
  exact (places_ofGraph valid ..).trans (valid.contains_of_mem (List.mem_filter.mp member).1)

theorem drawnLabels_whole : (ofGraph g spacing palette).drawnLabels f =
    (ofGraph g spacing palette).wholeLabels f := by
  rw [drawnLabels, List.filter_eq_self.mpr]
  · rfl
  intro n member
  exact (places_ofGraph valid ..).trans (valid.contains_of_mem member)

omit valid in
theorem legendGroup_whole :
    legendGroup ((ofGraph g spacing palette).frame f).legend
      (StyleSheet.ofGraph g palette).layerColors = (ofGraph g spacing palette).wholeLegend f := by
  rw [legendGroup, wholeLegend, StyleSheet.layerColors_eq, List.zipIdx_map, List.map_map]
  rfl

theorem paint_whole :
    (ofGraph g spacing palette).paint f = (ofGraph g spacing palette).whole f := by
  rw [paint_drawn, drawn, whole, drawnEdges_whole valid, drawnNodes_whole valid,
    drawnLabels_whole valid, ofGraph_styles, legendGroup_whole]
  exact congrArg (_ ++ ·) (if_congr (StyleSheet.isEmpty_layerColors g palette) rfl rfl)

theorem mem_edges_paint {e : Edge} (member : e ∈ g.edges) :
    let s := ofGraph g spacing palette
    (s.course f e, s.edgeStyle f e.relation) ∈ (s.paint f).edges := by
  intro s
  have painted : s.paint f = s.whole f := paint_whole valid spacing palette f
  rw [painted]
  exact mem_edges_whole s f member

end

/-- A drawing with everything of its graph in it, each thing once and all in a fixed order. -/
structure Complete (s : Scene α) (f : Figure α) : Prop where
  painted : s.paint f = s.whole f
  placed : ∀ id, s.graph.contains id → ∃ p, s.layout.position? id = some p ∧
    s.place f id = (s.frame f).toCanvas p
  patterned : ∀ relation, (s.edgeStyle f relation).pattern = .ofRelation relation ∧
    (s.edgeStyle f relation).dashes = (LinePattern.ofRelation relation).dashes.map fun d =>
      Scalar.ofNat d * f.pixels f.edgeWidth
  courses : ∀ e, if e.source = e.target then ∃ a b c d, s.course f e = .loop a b c d
    else ∃ a b c, s.course f e = .curve a b c
  relations_ascending : s.graph.relations.Pairwise fun a b => Text.utf8 a < Text.utf8 b
  mem_relations : ∀ relation, relation ∈ s.graph.relations ↔
    ∃ e ∈ s.graph.edges, e.relation = relation
  layers_ascending : s.graph.layers.Pairwise (· < ·)
  mem_layers : ∀ layer, layer ∈ s.graph.layers ↔
    ∃ id n, s.graph.node? id = some n ∧ n.layer = layer
  ids_ascending : (s.graph.nodeList.map Node.id).Pairwise fun a b => Text.utf8 a < Text.utf8 b
  mem_nodes : ∀ n, n ∈ s.graph.nodeList ↔ s.graph.node? n.id = some n
  labels : ∀ n ∈ s.graph.nodeList, n.label ≠ "" ∧ n.label.length ≤ 26 ∧
    n.label = if n.name.length ≤ 26 then n.name
      else String.ofList (n.name.toList.take 23 ++ ['…'])
  nodeCount : (s.paint f).nodes.length = s.graph.nodeCount
  edgeCount : (s.paint f).edges.length = s.graph.edgeCount
  labelCount : (s.paint f).labels.length = if f.withLabels then s.graph.nodeCount else 0
  legendCount : (s.paint f).legendEntries.length = s.graph.layers.length

end Scene

end Strata
