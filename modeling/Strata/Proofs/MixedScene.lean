import Strata.Proofs.Painting

/-! A graph painted with the layout of a second graph and the styles of a third. Each of the three
may lack what the others have: a node without a place, an edge with an end that has none, a layer
without a colour. What is drawn then is still a row of closed groups, and what is left out is just
what cannot be looked up. -/
namespace Strata

variable {α : Type}

/-- Whether a command is of the sort that the groups of a kind hold. -/
def Command.suits (kind : String) : Command α → Bool
  | .edge .. => kind = "edges"
  | .node .. => kind = "layer"
  | .label .. => kind = "labels"
  | .legendTitle .. | .legendEntry .. => kind = "legend"
  | .canvas .. | .openGroup .. | .closeGroup => false

def Command.isLegendEntry : Command α → Bool
  | .legendEntry .. => true
  | _ => false

namespace Drawing

/-- Closed groups one behind another, none of them inside another, each with commands of its own
sort in it. -/
inductive Grouped : Drawing α → Prop
  | nil : Grouped []
  | cons {kind key : String} {body rest : Drawing α} (suited : ∀ c ∈ body, c.suits kind = true)
      (later : Grouped rest) : Grouped (group kind key body ++ rest)

theorem Grouped.single {kind key : String} {body : Drawing α}
    (suited : ∀ c ∈ body, c.suits kind = true) : Grouped (group kind key body) := by
  have alone : Grouped (group kind key body ++ []) := .cons suited .nil
  simpa using alone

theorem Grouped.append {d e : Drawing α} (first : Grouped d) (second : Grouped e) :
    Grouped (d ++ e) := by
  induction first with
  | nil => exact second
  | cons suited _ ih =>
    rw [List.append_assoc]
    exact .cons suited ih

theorem Grouped.flatMap {β : Type} {l : List β} {parts : β → Drawing α}
    (each : ∀ b ∈ l, Grouped (parts b)) : Grouped (l.flatMap parts) := by
  induction l with
  | nil => exact .nil
  | cons b rest ih =>
    rw [List.flatMap_cons]
    exact (each b List.mem_cons_self).append
      (ih fun b later => each b (List.mem_cons_of_mem _ later))

theorem groups_group {kind key : String} {body : Drawing α} (asked : String)
    (suited : ∀ c ∈ body, c.suits kind = true) :
    (group kind key body).groups asked = if kind = asked then [key] else [] := by
  have none_within : body.groups asked = [] := by
    refine List.filterMap_eq_nil_iff.mpr ?_
    intro c member
    cases c with
    | openGroup => cases suited _ member
    | _ => rfl
  rw [groups] at none_within ⊢
  rw [group, List.cons_append, List.filterMap_cons, List.filterMap_append, none_within]
  split <;> simp_all

theorem groups_flatMap_group {β : Type} {kind : String} (asked : String) {l : List β}
    {key : β → String} {body : β → Drawing α}
    (suited : ∀ b ∈ l, ∀ c ∈ body b, c.suits kind = true) :
    groups (l.flatMap fun b => group kind (key b) (body b)) asked =
      if kind = asked then l.map key else [] := by
  induction l with
  | nil => split <;> rfl
  | cons b rest ih =>
    obtain ⟨first, later⟩ := List.forall_mem_cons.mp suited
    rw [List.flatMap_cons, groups_append, groups_group asked first, ih later]
    split <;> rfl

end Drawing

namespace Scene

variable [Scalar α]

section

variable (s : Scene α) (f : Figure α)

theorem suits_edges (relation : String) (edges : List Edge) :
    ∀ c ∈ edges.map fun e => Command.edge (s.course f e) (s.edgeStyle f relation),
      c.suits "edges" = true :=
  List.forall_mem_map.mpr fun _ _ => rfl

theorem suits_nodes (style : NodeStyle α) (nodes : List Node) :
    ∀ c ∈ nodes.map fun n => Command.node (s.place f n.id) f.nodeRadius style,
      c.suits "layer" = true :=
  List.forall_mem_map.mpr fun _ _ => rfl

theorem suits_labels (nodes : List Node) :
    ∀ c ∈ nodes.map fun n => Command.label (s.place f n.id) n.label (f.pixels f.fontSize),
      c.suits "labels" = true :=
  List.forall_mem_map.mpr fun _ _ => rfl

theorem suits_legend (box : LegendBox α) (colors : List (Nat × Color)) :
    ∀ c ∈ Command.legendTitle box.titleAnchor legendHeading box.fontSize ::
      colors.zipIdx.map fun entry => .legendEntry (box.swatch entry.2) entry.1.2
        (box.textAnchor entry.2) (legendLabel entry.1.1) box.fontSize,
      c.suits "legend" = true :=
  List.forall_mem_cons.mpr ⟨rfl, List.forall_mem_map.mpr fun _ _ => rfl⟩

/-- Behind the canvas there are closed groups alone, whatever the scene lacks. -/
theorem grouped_paint : ∃ rest, s.paint f =
    .canvas (s.frame f).width (s.frame f).height f.background :: rest ∧ Drawing.Grouped rest := by
  refine ⟨_, paint_drawn s f, ?_⟩
  refine .append (.append (.append ?_ ?_) ?_) ?_
  · exact .flatMap fun relation _ => .single (s.suits_edges f relation _)
  · exact .flatMap fun _ _ => .single (s.suits_nodes f _ _)
  · split
    · exact .single (s.suits_labels f _)
    · exact .nil
  · split
    · exact .nil
    · exact .single (suits_legend _ _)

theorem groups_paint (kind : String) : (s.paint f).groups kind =
    (if "edges" = kind then s.graph.relations else []) ++
    (if "layer" = kind then s.styles.layerColors.map fun entry => toString entry.1 else []) ++
    (if f.withLabels then (if "labels" = kind then [""] else []) else []) ++
    (if s.styles.layerColors.isEmpty then [] else (if "legend" = kind then [""] else [])) := by
  have edges : (s.drawnEdges f).groups kind = if "edges" = kind then s.graph.relations else [] := by
    rw [drawnEdges, Drawing.groups_flatMap_group _ fun _ _ => s.suits_edges f _ _, List.map_id']
  have nodes : (s.drawnNodes f).groups kind = if "layer" = kind then
      s.styles.layerColors.map fun entry => toString entry.1 else [] :=
    Drawing.groups_flatMap_group _ fun _ _ => s.suits_nodes f _ _
  have labels : (s.drawnLabels f).groups kind = if "labels" = kind then [""] else [] :=
    Drawing.groups_group _ (s.suits_labels f _)
  have legend (box : LegendBox α) (colors : List (Nat × Color)) :
      (legendGroup box colors).groups kind = if "legend" = kind then [""] else [] :=
    Drawing.groups_group _ (suits_legend box colors)
  have canvas (width height : α) (color : Color) (d : Drawing α) :
      Drawing.groups (.canvas width height color :: d) kind = d.groups kind := rfl
  have blank : Drawing.groups ([] : Drawing α) kind = [] := rfl
  rw [paint_drawn, drawn, Drawing.groups_append, Drawing.groups_append, List.cons_append, canvas,
    Drawing.groups_append, edges, nodes, apply_ite (Drawing.groups · kind),
    apply_ite (Drawing.groups · kind), labels, legend, blank]

theorem filterMap_paint {β : Type} {pick : Command α → Option β}
    (blank : ∀ width height color, pick (.canvas width height color) = none)
    (opening : ∀ kind key, pick (.openGroup kind key) = none) (closing : pick .closeGroup = none) :
    (s.paint f).filterMap pick =
      (s.graph.relations.flatMap fun relation => ((s.graph.edgesOf relation).filter fun e =>
        s.places e.source && s.places e.target).filterMap fun e =>
          pick (.edge (s.course f e) (s.edgeStyle f relation))) ++
      (s.styles.layerColors.flatMap fun entry => ((s.graph.nodesIn entry.1).filter fun n =>
        s.places n.id).filterMap fun n => pick (.node (s.place f n.id) f.nodeRadius
          ⟨entry.2, f.borderColor, f.pixels f.borderWidth⟩)) ++
      (if f.withLabels then s.drawnLabels f else []).filterMap pick ++
      (if s.styles.layerColors.isEmpty then []
        else legendGroup (s.frame f).legend s.styles.layerColors).filterMap pick := by
  rw [paint_drawn, drawn, drawnEdges, drawnNodes, List.cons_append, List.cons_append,
    List.cons_append, List.filterMap_cons_none (blank _ _ _), List.filterMap_append,
    List.filterMap_append, List.filterMap_append, List.filterMap_flatMap, List.filterMap_flatMap]
  simp only [Drawing.filterMap_group (opening _ _) closing, List.filterMap_map, Function.comp_def]

theorem edges_paint : (s.paint f).edges =
    s.graph.relations.flatMap fun relation => ((s.graph.edgesOf relation).filter fun e =>
      s.places e.source && s.places e.target).map fun e =>
        (s.course f e, s.edgeStyle f relation) := by
  rw [Drawing.edges, filterMap_paint s f (fun _ _ _ => rfl) (fun _ _ => rfl) rfl]
  split <;> split <;> simp [drawnLabels, legendGroup, Drawing.group]

theorem nodes_paint : (s.paint f).nodes =
    s.styles.layerColors.flatMap fun entry => ((s.graph.nodesIn entry.1).filter fun n =>
      s.places n.id).map fun n =>
        (s.place f n.id, ⟨entry.2, f.borderColor, f.pixels f.borderWidth⟩) := by
  rw [Drawing.nodes, filterMap_paint s f (fun _ _ _ => rfl) (fun _ _ => rfl) rfl]
  split <;> split <;> simp [drawnLabels, legendGroup, Drawing.group]

theorem labels_paint : (s.paint f).labels =
    if f.withLabels then (s.graph.nodeList.filter fun n => s.places n.id).map Node.label
    else [] := by
  have none {β : Type} (l : List β) : (l.flatMap fun _ => ([] : List String)) = [] :=
    List.flatMap_eq_nil_iff.mpr fun _ _ => rfl
  rw [Drawing.labels, filterMap_paint s f (fun _ _ _ => rfl) (fun _ _ => rfl) rfl]
  split <;> split <;> simp [drawnLabels, legendGroup, Drawing.group, none]

/-- What is picked from the drawing, where nothing but entries of the legend is. -/
theorem filterMap_paint_entries {β : Type} {pick : Command α → Option β}
    (other : ∀ c, c.isLegendEntry = false → pick c = none) :
    (s.paint f).filterMap pick = s.styles.layerColors.zipIdx.filterMap fun entry =>
      pick (.legendEntry ((s.frame f).legend.swatch entry.2) entry.1.2
        ((s.frame f).legend.textAnchor entry.2) (legendLabel entry.1.1)
        (s.frame f).legend.fontSize) := by
  have none {γ : Type} (l : List γ) : (l.flatMap fun _ => ([] : List β)) = [] :=
    List.flatMap_eq_nil_iff.mpr fun _ _ => rfl
  have labels : (s.drawnLabels f).filterMap pick = [] := by
    rw [drawnLabels, Drawing.filterMap_group (other _ rfl) (other _ rfl), List.filterMap_map,
      List.filterMap_eq_nil_iff]
    exact fun _ _ => other _ rfl
  have legend (box : LegendBox α) (colors : List (Nat × Color)) :
      (legendGroup box colors).filterMap pick = colors.zipIdx.filterMap fun entry =>
        pick (.legendEntry (box.swatch entry.2) entry.1.2 (box.textAnchor entry.2)
          (legendLabel entry.1.1) box.fontSize) := by
    rw [legendGroup, Drawing.filterMap_group (other _ rfl) (other _ rfl),
      List.filterMap_cons_none (other _ rfl), List.filterMap_map]
    rfl
  rw [filterMap_paint s f (fun _ _ _ => other _ rfl) (fun _ _ => other _ rfl) (other _ rfl)]
  simp only [fun path style => other (.edge path style) rfl,
    fun center radius style => other (.node center radius style) rfl, List.filterMap_none, none]
  by_cases bare : s.styles.layerColors = []
  · split <;> simp [labels, bare]
  · split <;> simp [labels, legend, bare]

theorem legendEntries_paint : (s.paint f).legendEntries =
    s.styles.layerColors.map fun entry => (legendLabel entry.1, entry.2) := by
  rw [Drawing.legendEntries, filterMap_paint_entries s f]
  · conv_rhs => rw [← List.zipIdx_map_fst 0 s.styles.layerColors, List.map_map]
    rw [← List.filterMap_eq_map]
    rfl
  · intro c other
    cases c with
    | legendEntry => cases other
    | _ => rfl

theorem edges_paint_perm : (s.paint f).edges.Perm
    ((s.graph.edges.filter fun e => s.places e.source && s.places e.target).map fun e =>
      (s.course f e, s.edgeStyle f e.relation)) := by
  have groups : (s.paint f).edges = (s.graph.relations.flatMap fun relation =>
      (s.graph.edges.filter fun e => s.places e.source && s.places e.target).filter fun e =>
        e.relation = relation).map fun e => (s.course f e, s.edgeStyle f e.relation) := by
    rw [edges_paint, List.map_flatMap]
    refine List.flatMap_congr ?_
    intro relation _
    rw [Graph.edgesOf, List.filter_comm]
    refine List.map_congr_left ?_
    intro e member
    rw [of_decide_eq_true (List.mem_filter.mp member).2]
  rw [groups]
  refine (flatMap_filter_perm Edge.relation (distinct_ascending _).nodup _ ?_).map _
  intro e member
  exact Graph.mem_relations.mpr ⟨e, (List.mem_filter.mp member).1, rfl⟩

end

/-- A graph with the layout of a second graph and the styles of a third. -/
def mixed (g gl gs : Graph) (spacing : Spacing α) (palette : List Color) : Scene α :=
  ⟨g, gl.layout spacing, .ofGraph gs palette⟩

section

variable (g gl gs : Graph) (spacing : Spacing α) (palette : List Color) (f : Figure α)

@[simp] theorem mixed_graph : (mixed g gl gs spacing palette).graph = g := rfl

@[simp] theorem mixed_styles : (mixed g gl gs spacing palette).styles = .ofGraph gs palette := rfl

variable {gl} in
theorem places_mixed (valid : gl.Valid) (id : String) :
    (mixed g gl gs spacing palette).places id = gl.contains id :=
  valid.isSome_position? spacing id

theorem nodes_mixed_perm : ((mixed g gl gs spacing palette).paint f).nodes.Perm
    ((g.nodeList.filter fun n => (mixed g gl gs spacing palette).places n.id &&
      decide (n.layer ∈ gs.layers)).map fun n =>
        ((mixed g gl gs spacing palette).place f n.id,
          ⟨(StyleSheet.ofGraph gs palette).layerColor n.layer, f.borderColor,
            f.pixels f.borderWidth⟩)) := by
  let s := mixed g gl gs spacing palette
  have groups : (s.paint f).nodes = (gs.layers.flatMap fun layer =>
      (g.nodeList.filter fun n => s.places n.id).filter fun n => n.layer = layer).map fun n =>
        (s.place f n.id, ⟨(StyleSheet.ofGraph gs palette).layerColor n.layer, f.borderColor,
          f.pixels f.borderWidth⟩) := by
    rw [nodes_paint, mixed_styles, StyleSheet.layerColors_eq, List.flatMap_map, List.map_flatMap]
    refine List.flatMap_congr ?_
    intro layer _
    rw [Graph.nodesIn, List.filter_comm]
    refine List.map_congr_left ?_
    intro n member
    rw [of_decide_eq_true (List.mem_filter.mp member).2]
  rw [groups, ← List.filter_filter, List.filter_comm]
  exact (flatMap_filter_perm_filter Node.layer (distinct_ascending _).nodup _).map _

end

/-- What painting a scene gives when its layout is one of the graph `gl` and its styles are those of
the graph `gs`. -/
structure Orderly (s : Scene α) (gl gs : Graph) (f : Figure α) : Prop where
  /-- The canvas comes first, and all that follows are closed groups, none inside another. -/
  grouped : ∃ rest, s.paint f =
    .canvas (s.frame f).width (s.frame f).height f.background :: rest ∧ Drawing.Grouped rest
  painted : s.paint f = s.drawn f
  places : ∀ id, s.places id = gl.contains id
  placed : ∀ id, gl.contains id = true → ∃ p, s.layout.position? id = some p ∧
    s.place f id = (s.frame f).toCanvas p
  colors : s.styles.layerColors.map Prod.fst = gs.layers
  relations_ascending : s.graph.relations.Pairwise fun a b => Text.utf8 a < Text.utf8 b
  mem_relations : ∀ relation, relation ∈ s.graph.relations ↔
    ∃ e ∈ s.graph.edges, e.relation = relation
  layers_ascending : gs.layers.Pairwise (· < ·)
  mem_layers : ∀ layer, layer ∈ gs.layers ↔ ∃ id n, gs.node? id = some n ∧ n.layer = layer
  edgeGroups : (s.paint f).groups "edges" = s.graph.relations
  nodeGroups : (s.paint f).groups "layer" = gs.layers.map toString
  labelGroups : (s.paint f).groups "labels" = if f.withLabels then [""] else []
  legendGroups : (s.paint f).groups "legend" = if gs.nodeList = [] then [] else [""]
  /-- Each edge with both ends placed is drawn once, in the style of its relation. -/
  edges : (s.paint f).edges.Perm
    ((s.graph.edges.filter fun e => gl.contains e.source && gl.contains e.target).map fun e =>
      (s.course f e, s.edgeStyle f e.relation))
  patterned : ∀ relation, (s.edgeStyle f relation).pattern = .ofRelation relation
  /-- Each node that is placed and whose layer has a colour is drawn once. -/
  nodes : (s.paint f).nodes.Perm
    ((s.graph.nodeList.filter fun n => gl.contains n.id && decide (n.layer ∈ gs.layers)).map
      fun n => (s.place f n.id,
        ⟨s.styles.layerColor n.layer, f.borderColor, f.pixels f.borderWidth⟩))
  mem_nodes : ∀ n, n ∈ s.graph.nodeList ↔ s.graph.node? n.id = some n
  ids_ascending : (s.graph.nodeList.map Node.id).Pairwise fun a b => Text.utf8 a < Text.utf8 b
  labels : (s.paint f).labels =
    if f.withLabels then (s.graph.nodeList.filter fun n => gl.contains n.id).map Node.label else []
  legend : (s.paint f).legendEntries.map Prod.fst = gs.layers.map legendLabel

/-- Painting is orderly for any three graphs that were built. -/
theorem paint_orderly {nodes nodesL nodesS : List NodeRecord}
    {edges edgesL edgesS : List EdgeRecord} {g gl gs : Graph} (built : Graph.build nodes edges = .ok g)
    (builtL : Graph.build nodesL edgesL = .ok gl) (builtS : Graph.build nodesS edgesS = .ok gs)
    (spacing : Spacing α) (palette : List Color) (f : Figure α) :
    (mixed g gl gs spacing palette).Orderly gl gs f := by
  have valid := Graph.valid_of_build built
  have validL := Graph.valid_of_build builtL
  have places := places_mixed g gs spacing palette validL
  have bare := StyleSheet.isEmpty_layerColors gs palette
  refine ⟨grouped_paint _ f, paint_drawn _ f, places, ?_, StyleSheet.map_fst_layerColors gs palette,
    g.relations_ascending, fun _ => Graph.mem_relations, gs.layers_ascending,
    fun _ => (Graph.valid_of_build builtS).mem_layers_iff, ?_, ?_, ?_, ?_, ?_, ?_, ?_,
    fun _ => valid.mem_nodeList, valid.ids_ascending, ?_, ?_⟩
  · intro id present
    obtain ⟨p, found⟩ := validL.exists_position? spacing present
    exact ⟨p, found, by simp only [place, mixed, found, Option.getD_some]⟩
  · simp [groups_paint]
  · simp only [groups_paint, ← StyleSheet.map_fst_layerColors gs palette, List.map_map]
    simp [Function.comp_def]
  · simp [groups_paint]
  · simp only [groups_paint, mixed_styles, bare]
    simp
  · simpa only [places] using edges_paint_perm (mixed g gl gs spacing palette) f
  · intro relation
    exact StyleSheet.edgePattern_ofGraph gs palette relation
  · simpa only [places, mixed_graph, mixed_styles] using nodes_mixed_perm g gl gs spacing palette f
  · simp only [labels_paint, places]
  · rw [legendEntries_paint, List.map_map, ← StyleSheet.map_fst_layerColors gs palette,
      List.map_map]
    rfl

/-- The layout lacks a node and so the edge to it, and the styles lack the layers of two nodes. -/
theorem paint_orderly_lacking :
    let nodes : List NodeRecord :=
      [⟨"a", none, none, none⟩, ⟨"b", none, some 1, none⟩, ⟨"c", none, some 2, none⟩]
    let edges : List EdgeRecord :=
      [⟨none, "a", "b", "invokes"⟩, ⟨none, "b", "c", "contains"⟩, ⟨none, "a", "a", none⟩]
    let nodesL : List NodeRecord := [⟨"b", none, some 9, none⟩, ⟨"a", none, none, none⟩]
    let nodesS : List NodeRecord := [⟨"x", none, some 7, none⟩, ⟨"y", none, none, none⟩]
    ∃ g gl gs, Graph.build nodes edges = .ok g ∧ Graph.build nodesL [] = .ok gl ∧
      Graph.build nodesS [] = .ok gs ∧
      let d := (mixed g gl gs (Spacing.default : Spacing Float) tab20).paint .default
      d.groups "edges" = ["contains", "depends_on", "invokes"] ∧ d.edges.length = 2 ∧
        d.groups "layer" = ["0", "7"] ∧ d.nodes.length = 1 ∧ d.labels = ["a", "b"] ∧
        d.legendEntries.map Prod.fst = ["Layer 0", "Layer 7"] := by
  intro nodes edges nodesL nodesS
  have built (nodes : List NodeRecord) (edges : List EdgeRecord)
      (named : ∀ r ∈ nodes, ¬ r.LacksId) :
      Graph.build nodes edges = .ok (Graph.ofRecords nodes edges) :=
    Graph.build_eq_ok_iff.mpr ⟨named, rfl⟩
  have builtG := built nodes edges (by simp [nodes, NodeRecord.LacksId])
  have builtL := built nodesL [] (by simp [nodesL, NodeRecord.LacksId])
  have builtS := built nodesS [] (by simp [nodesS, NodeRecord.LacksId])
  have orderly :=
    paint_orderly builtG builtL builtS (Spacing.default : Spacing Float) tab20 .default
  refine ⟨_, _, _, builtG, builtL, builtS, ?_, ?_, ?_, ?_, ?_, ?_⟩
  · exact orderly.edgeGroups.trans (by decide +kernel)
  · rw [orderly.edges.length_eq, List.length_map]
    decide +kernel
  · exact orderly.nodeGroups.trans (by decide +kernel)
  · rw [orderly.nodes.length_eq, List.length_map]
    decide +kernel
  · exact orderly.labels.trans (by decide +kernel)
  · exact orderly.legend.trans (by decide +kernel)

end Scene

end Strata
