import Mathlib.Logic.Relation
import Strata.Proofs.GraphBuild
import Strata.Run

/-! A drawing shows what a document means and nothing else of it: where two graphs agree on the
layer and the label of each node and, relation by relation, on the ends of the edges, every stage of
drawing gives the same result. The changes to a document that keep all this are listed one by
one. -/
namespace Strata

/-- What a drawing shows of an edge, apart from its relation. -/
def Edge.ends (e : Edge) : String × String := (e.source, e.target)

/-- What a drawing shows of a node. -/
def Node.shown (n : Node) : String × Nat × String := (n.id, n.layer, n.label)

/-- What the place of a node depends on. -/
def Node.slot (n : Node) : String × Nat := (n.id, n.layer)

namespace Graph

structure SameMeaning (g h : Graph) : Prop where
  nodes : ∀ id, (g.node? id).map (fun n => (n.layer, n.label)) =
    (h.node? id).map fun n => (n.layer, n.label)
  edges : ∀ relation, (g.edgesOf relation).map Edge.ends = (h.edgesOf relation).map Edge.ends

/-- The results of all stages of drawing are the same, whatever the settings. -/
structure SameDrawing (g h : Graph) : Prop where
  layout : ∀ {α : Type} [Scalar α] (spacing : Spacing α), g.layout spacing = h.layout spacing
  styles : ∀ palette, StyleSheet.ofGraph g palette = StyleSheet.ofGraph h palette
  paint : ∀ {α : Type} [Scalar α] (spacing : Spacing α) (palette : List Color) (f : Figure α),
    (Scene.ofGraph g spacing palette).paint f = (Scene.ofGraph h spacing palette).paint f
  svg : ∀ (spacing : Spacing Float) (palette : List Color) (f : Figure Float),
    (Scene.ofGraph g spacing palette).svg f = (Scene.ofGraph h spacing palette).svg f

section

variable {g h : Graph} (slots : g.nodeList.map Node.slot = h.nodeList.map Node.slot)

include slots

theorem layers_congr : g.layers = h.layers := by
  have view (g : Graph) : g.nodeList.map Node.layer = (g.nodeList.map Node.slot).map (·.2) := by
    rw [List.map_map]
    rfl
  rw [layers, layers, view, view, slots]

theorem layerMembers_congr : g.layerMembers = h.layerMembers := by
  have view (g : Graph) (layer : Nat) : (g.nodesIn layer).map Node.id =
      ((g.nodeList.map Node.slot).filter fun n => n.2 = layer).map (·.1) := by
    rw [List.filter_map, List.map_map]
    rfl
  rw [layerMembers_eq, layerMembers_eq, layers_congr slots]
  simp only [view, slots]

theorem layout_congr {α : Type} [Scalar α] (spacing : Spacing α) :
    g.layout spacing = h.layout spacing := by
  rw [layout, layout, layerMembers_congr slots]

theorem styles_congr (relations : g.relations = h.relations) (palette : List Color) :
    StyleSheet.ofGraph g palette = StyleSheet.ofGraph h palette := by
  simp only [StyleSheet.ofGraph, layers_congr slots, relations]

theorem frame_congr (relations : g.relations = h.relations) {α : Type} [Scalar α]
    (spacing : Spacing α) (palette : List Color) (f : Figure α) :
    (Scene.ofGraph g spacing palette).frame f = (Scene.ofGraph h spacing palette).frame f := by
  simp only [Scene.frame, Scene.legendLabels, Scene.ofGraph, layout_congr slots spacing,
    styles_congr slots relations palette]

end

section

variable {g h : Graph} (gv : g.Valid) (hv : h.Valid)

theorem Valid.map_nodeList {β : Type} (valid : g.Valid) (view : Node → β) :
    (g.nodeList.map fun n => (n.id, view n)) = g.nodes.toList.map fun e => (e.1, view e.2) := by
  rw [nodeList, values_eq_map_toList, List.map_map]
  refine List.map_congr_left ?_
  intro e member
  have keyed := valid.keyed (Std.TreeMap.mem_toList_iff_getElem?_eq_some.mp member)
  simp only [Function.comp_apply, keyed]

include gv hv

theorem map_nodeList_congr {β : Type} {view : Node → β}
    (same : ∀ id, (g.node? id).map view = (h.node? id).map view) :
    (g.nodeList.map fun n => (n.id, view n)) = h.nodeList.map fun n => (n.id, view n) := by
  rw [gv.map_nodeList, hv.map_nodeList]
  exact toList_map_congr (m := g.nodes) (n := h.nodes) same

variable (same : g.SameMeaning h)

include same

theorem shown_congr : g.nodeList.map Node.shown = h.nodeList.map Node.shown :=
  map_nodeList_congr gv hv same.nodes

theorem slots_congr : g.nodeList.map Node.slot = h.nodeList.map Node.slot := by
  have view (g : Graph) : g.nodeList.map Node.slot =
      (g.nodeList.map Node.shown).map fun n => (n.1, n.2.1) := by
    rw [List.map_map]
    rfl
  rw [view, view, shown_congr gv hv same]

omit gv hv in
theorem relations_congr : g.relations = h.relations := by
  have occurs (g : Graph) (relation : String) :
      relation ∈ g.edges.map Edge.relation ↔ (g.edgesOf relation).map Edge.ends ≠ [] := by
    simp [edgesOf, List.filter_eq_nil_iff]
  refine distinct_congr ?_
  intro relation
  rw [occurs, occurs, same.edges]

omit gv hv same in
theorem edgeGroup_congr {α : Type} [Scalar α] (place? : String → Option (Point α)) (f : Figure α)
    (style : EdgeStyle α) (relation : String) {l m : List Edge}
    (ends : l.map Edge.ends = m.map Edge.ends) :
    Scene.edgeGroup place? f style relation l = Scene.edgeGroup place? f style relation m := by
  have view (l : List Edge) : l.filterMap (Scene.edgePath? place? f) =
      (l.map Edge.ends).filterMap fun p => Scene.edgePath? place? f ⟨none, p.1, p.2, ""⟩ := by
    rw [List.filterMap_map]
    rfl
  rw [Scene.edgeGroup, Scene.edgeGroup, view, view, ends]

omit gv hv same in
theorem labelGroup_congr {α : Type} [Scalar α] (place? : String → Option (Point α)) (f : Figure α)
    {l m : List Node} (shown : l.map Node.shown = m.map Node.shown) :
    Scene.labelGroup place? f l = Scene.labelGroup place? f m := by
  have view (l : List Node) :
      (l.filterMap fun n => (place? n.id).map fun anchor =>
        Command.label anchor n.label (f.pixels f.fontSize)) =
      (l.map Node.shown).filterMap fun n => (place? n.1).map fun anchor =>
        Command.label anchor n.2.2 (f.pixels f.fontSize) := by
    rw [List.filterMap_map]
    rfl
  rw [Scene.labelGroup, Scene.labelGroup, view, view, shown]

omit gv hv in
theorem edgeGroups_congr {α : Type} [Scalar α] (place? : String → Option (Point α)) (f : Figure α)
    (style : String → EdgeStyle α) :
    (g.edgesByRelation.flatMap fun group =>
      Scene.edgeGroup place? f (style group.1) group.1 group.2) =
    h.edgesByRelation.flatMap fun group =>
      Scene.edgeGroup place? f (style group.1) group.1 group.2 := by
  rw [edgesByRelation_eq, edgesByRelation_eq, List.flatMap_map, List.flatMap_map,
    relations_congr same]
  refine List.flatMap_congr ?_
  intro relation _
  exact edgeGroup_congr _ _ _ _ (same.edges relation)

theorem paint_congr {α : Type} [Scalar α] (spacing : Spacing α) (palette : List Color)
    (f : Figure α) :
    (Scene.ofGraph g spacing palette).paint f = (Scene.ofGraph h spacing palette).paint f := by
  have slots := slots_congr gv hv same
  have relations := relations_congr same
  have layout := layout_congr slots spacing
  have styles := styles_congr slots relations palette
  have style : (Scene.ofGraph g spacing palette).edgeStyle f =
      (Scene.ofGraph h spacing palette).edgeStyle f := by
    funext relation
    simp only [Scene.edgeStyle, Scene.ofGraph, styles]
  simp only [Scene.paint, frame_congr slots relations spacing palette f, style]
  simp only [Scene.ofGraph, layout, styles, edgeGroups_congr same,
    labelGroup_congr _ f (shown_congr gv hv same), layerMembers_congr slots]
  rfl

/-- The meaning determines the drawing. -/
theorem sameDrawing_of_sameMeaning : g.SameDrawing h where
  layout := layout_congr (slots_congr gv hv same)
  styles := styles_congr (slots_congr gv hv same) (relations_congr same)
  paint := paint_congr gv hv same
  svg spacing palette f := congrArg Svg.document (paint_congr gv hv same spacing palette f)

end

end Graph

namespace EdgeRecord

def relationOr (r : EdgeRecord) : String := textOr "depends_on" r.relation

/-- What a drawing shows of a record in the group of a relation. -/
def shown? (known : String → Bool) (relation : String) (r : EdgeRecord) :
    Option (String × String) :=
  ((r.edge? known).filter fun e => e.relation = relation).map Edge.ends

theorem shown?_eq_none_of_ne {known : String → Bool} {relation : String} {r : EdgeRecord}
    (other : r.relationOr ≠ relation) : r.shown? known relation = none := by
  rw [shown?, Option.map_eq_none_iff, Option.filter_eq_none_iff]
  intro e made
  obtain ⟨_, _, _, _, _, same⟩ := Graph.edge?_eq_some_iff.mp made
  rw [same, decide_eq_true_eq]
  exact other

theorem shown?_eq_none_of_unknown {known : String → Bool} (relation : String) {r : EdgeRecord}
    (unknown : ∀ s t, r.source = some s → r.target = some t → ¬ (known s = true ∧ known t = true)) :
    r.shown? known relation = none := by
  rw [shown?, Option.map_eq_none_iff, Option.filter_eq_none_iff]
  intro e made
  obtain ⟨_, source, target, hs, ht, _⟩ := Graph.edge?_eq_some_iff.mp made
  exact absurd ⟨hs, ht⟩ (unknown _ _ source target)

theorem shown?_id (known : String → Bool) (relation : String) (r : EdgeRecord)
    (id : Option String) : shown? known relation { r with id } = shown? known relation r := by
  obtain ⟨id', source, target, name⟩ := r
  cases source with
  | none => rfl
  | some s =>
    cases target with
    | none => rfl
    | some t =>
      simp only [shown?, edge?]
      split
      · simp only [Option.filter]
        split <;> rfl
      · rfl

end EdgeRecord

namespace Document

/-- One change to a document that a drawing does not show. -/
inductive Rewording : Document → Document → Prop
  | permuteNodes {nodes nodes' : List NodeRecord} {edges : List EdgeRecord}
      (distinct : (nodes.map NodeRecord.id).Nodup) (perm : nodes.Perm nodes') :
      Rewording ⟨nodes, edges⟩ ⟨nodes', edges⟩
  /-- Edge records move among each other, those of one relation keep their order. -/
  | reorderEdges {nodes : List NodeRecord} {edges edges' : List EdgeRecord}
      (same : ∀ relation, (edges.filter fun r => r.relationOr = relation) =
        edges'.filter fun r => r.relationOr = relation) :
      Rewording ⟨nodes, edges⟩ ⟨nodes, edges'⟩
  /-- An edge record comes in that lacks an end or leads to an id that no node has. -/
  | addDangling {nodes : List NodeRecord} {before after : List EdgeRecord} {r : EdgeRecord}
      (dangling : ∀ s t, r.source = some s → r.target = some t →
        ¬ ((∃ n ∈ nodes, n.id = some s) ∧ ∃ n ∈ nodes, n.id = some t)) :
      Rewording ⟨nodes, before ++ after⟩ ⟨nodes, before ++ r :: after⟩
  /-- A node record comes in with the id of a later one. -/
  | addShadowed {before after : List NodeRecord} {edges : List EdgeRecord} {r : NodeRecord}
      (shadow : ∃ n ∈ after, n.id = r.id) :
      Rewording ⟨before ++ after, edges⟩ ⟨before ++ r :: after, edges⟩
  | changeEdgeIds {nodes : List NodeRecord} {edges edges' : List EdgeRecord}
      (same : (edges.map fun r => { r with id := none }) =
        edges'.map fun r => { r with id := none }) :
      Rewording ⟨nodes, edges⟩ ⟨nodes, edges'⟩
  | changeKinds {nodes nodes' : List NodeRecord} {edges : List EdgeRecord}
      (same : (nodes.map fun r => { r with kind := none }) =
        nodes'.map fun r => { r with kind := none }) :
      Rewording ⟨nodes, edges⟩ ⟨nodes', edges⟩

/-- All node records can be told apart from others. -/
def Complete (d : Document) : Prop := ∀ r ∈ d.nodes, ¬ r.LacksId

def shownNode? (d : Document) (id : String) : Option (Nat × String) :=
  (lastRecord? d.nodes id).map fun r => ((r.node id).layer, (r.node id).label)

/-- What a drawing shows of the edges of a relation. -/
def shownEdges (d : Document) (known : String → Bool) (relation : String) :
    List (String × String) := d.edges.filterMap (EdgeRecord.shown? known relation)

def Knows (d : Document) (known : String → Bool) : Prop :=
  ∀ id, known id = true ↔ ∃ r ∈ d.nodes, r.id = some id

/-- Both documents can be built or neither can, and they agree in all that a drawing shows. -/
structure Agrees (d d' : Document) : Prop where
  complete : d.Complete ↔ d'.Complete
  nodes : ∀ id, d.shownNode? id = d'.shownNode? id
  edges : ∀ known, d.Knows known → ∀ relation, d.shownEdges known relation =
    d'.shownEdges known relation

theorem shownNode?_ne_none_iff {d : Document} {id : String} :
    d.shownNode? id ≠ none ↔ ∃ r ∈ d.nodes, r.id = some id := by
  rw [shownNode?, lastRecord?, ne_eq, Option.map_eq_none_iff, List.getLast?_eq_none_iff,
    List.filter_eq_nil_iff]
  simp

theorem Agrees.knows {d d' : Document} (agrees : d.Agrees d') {known : String → Bool} :
    d.Knows known ↔ d'.Knows known := by
  simp only [Knows, ← shownNode?_ne_none_iff, agrees.nodes]

theorem Agrees.refl (d : Document) : d.Agrees d := ⟨.rfl, fun _ => rfl, fun _ _ _ => rfl⟩

theorem Agrees.symm {d d' : Document} (agrees : d.Agrees d') : d'.Agrees d :=
  ⟨agrees.complete.symm, fun id => (agrees.nodes id).symm,
    fun known knows relation => (agrees.edges known (agrees.knows.mpr knows) relation).symm⟩

theorem Agrees.trans {d d' d'' : Document} (first : d.Agrees d') (second : d'.Agrees d'') :
    d.Agrees d'' :=
  ⟨first.complete.trans second.complete, fun id => (first.nodes id).trans (second.nodes id),
    fun known knows relation => (first.edges known knows relation).trans
      (second.edges known (first.knows.mp knows) relation)⟩

theorem lastRecord?_perm {nodes nodes' : List NodeRecord}
    (distinct : (nodes.map NodeRecord.id).Nodup) (perm : nodes.Perm nodes') (id : String) :
    lastRecord? nodes id = lastRecord? nodes' id := by
  have apart : (nodes.filter fun r => r.id = some id).Pairwise fun a b => a.id ≠ b.id :=
    (List.pairwise_map.mp distinct).filter _
  have given : ∀ r ∈ nodes.filter fun r => r.id = some id, r.id = some id := by
    intro r member
    exact of_decide_eq_true (List.mem_filter.mp member).2
  have moved := perm.filter fun r => r.id = some id
  rw [lastRecord?, lastRecord?]
  generalize (nodes.filter fun r => r.id = some id) = found at apart given moved
  rcases found with _ | ⟨a, _ | ⟨b, rest⟩⟩
  · rw [moved.nil_eq]
  · rw [List.singleton_perm.mp moved]
  · have different := (List.pairwise_cons.mp apart).1 b List.mem_cons_self
    exact absurd ((given a (by simp)).trans (given b (by simp)).symm) different

theorem lastRecord?_shadowed {before after : List NodeRecord} {r : NodeRecord}
    (shadow : ∃ n ∈ after, n.id = r.id) (id : String) :
    lastRecord? (before ++ r :: after) id = lastRecord? (before ++ after) id := by
  obtain ⟨n, member, same⟩ := shadow
  simp only [lastRecord?, List.filter_append]
  by_cases here : r.id = some id
  · have later : (after.filter fun n => n.id = some id) ≠ [] :=
      List.ne_nil_of_mem (List.mem_filter.mpr ⟨member, by simp [same, here]⟩)
    rw [List.filter_cons_of_pos (by simpa using here), List.append_cons,
      List.getLast?_append_of_ne_nil _ later, List.getLast?_append_of_ne_nil _ later]
  · rw [List.filter_cons_of_neg (by simpa using here)]

/-- Every single change keeps all that a drawing shows. -/
theorem Rewording.agrees {d d' : Document} (reworded : d.Rewording d') : d.Agrees d' := by
  cases reworded with
  | permuteNodes distinct perm =>
    refine ⟨?_, ?_, fun _ _ _ => rfl⟩
    · simp only [Complete, perm.mem_iff]
    · intro id
      simp only [shownNode?, lastRecord?_perm distinct perm]
  | @reorderEdges nodes edges edges' same =>
    refine ⟨.rfl, fun _ => rfl, ?_⟩
    intro known _ relation
    have grouped (edges : List EdgeRecord) : edges.filterMap (EdgeRecord.shown? known relation) =
        (edges.filter fun r => r.relationOr = relation).filterMap
          (EdgeRecord.shown? known relation) := by
      rw [List.filterMap_filter]
      refine List.filterMap_congr ?_
      intro r _
      split
      · rfl
      · next other => exact EdgeRecord.shown?_eq_none_of_ne (by simpa using other)
    rw [shownEdges, shownEdges, grouped edges, grouped edges', same]
  | @addDangling nodes before after r dangling =>
    refine ⟨.rfl, fun _ => rfl, ?_⟩
    intro known knows relation
    have nothing : r.shown? known relation = none := by
      refine EdgeRecord.shown?_eq_none_of_unknown relation ?_
      intro s t source target
      rw [knows, knows]
      exact dangling s t source target
    simp only [shownEdges, List.filterMap_append, List.filterMap_cons_none nothing]
  | @addShadowed before after edges r shadow =>
    refine ⟨?_, ?_, fun _ _ _ => rfl⟩
    · obtain ⟨n, member, same⟩ := shadow
      have alike : r.LacksId ↔ n.LacksId := by rw [NodeRecord.LacksId, NodeRecord.LacksId, same]
      simp only [Complete, List.mem_append, List.mem_cons]
      constructor
      · rintro complete m (earlier | rfl | later)
        · exact complete m (.inl earlier)
        · exact fun lacks => complete n (.inr member) (alike.mp lacks)
        · exact complete m (.inr later)
      · rintro complete m (earlier | later)
        · exact complete m (.inl earlier)
        · exact complete m (.inr (.inr later))
    · intro id
      simp only [shownNode?, lastRecord?_shadowed shadow]
  | @changeEdgeIds nodes edges edges' same =>
    refine ⟨.rfl, fun _ => rfl, ?_⟩
    intro known _ relation
    have cleared (edges : List EdgeRecord) : edges.filterMap (EdgeRecord.shown? known relation) =
        (edges.map fun r => { r with id := none }).filterMap
          (EdgeRecord.shown? known relation) := by
      rw [List.filterMap_map]
      refine List.filterMap_congr ?_
      intro r _
      exact (EdgeRecord.shown?_id known relation r none).symm
    rw [shownEdges, shownEdges, cleared edges, cleared edges', same]
  | @changeKinds nodes nodes' edges same =>
    refine ⟨?_, ?_, fun _ _ _ => rfl⟩
    · have cleared (nodes : List NodeRecord) : (∀ r ∈ nodes, ¬ r.LacksId) ↔
          ∀ r ∈ nodes.map fun r => { r with kind := none }, ¬ r.LacksId := by
        simp [NodeRecord.LacksId]
      rw [Complete, Complete, cleared nodes, cleared nodes', same]
    · intro id
      have cleared (nodes : List NodeRecord) :
          (lastRecord? nodes id).map (fun r => ((r.node id).layer, (r.node id).label)) =
          (lastRecord? (nodes.map fun r => { r with kind := none }) id).map
            fun r => ((r.node id).layer, (r.node id).label) := by
        rw [lastRecord?, lastRecord?, List.filter_map, List.getLast?_map, Option.map_map]
        rfl
      rw [shownNode?, shownNode?, cleared nodes, cleared nodes', same]

theorem agrees_of_rewordings {d d' : Document} (reworded : Relation.EqvGen Rewording d d') :
    d.Agrees d' := by
  induction reworded with
  | rel _ _ step => exact step.agrees
  | refl d => exact .refl d
  | symm _ _ _ ih => exact ih.symm
  | trans _ _ _ _ _ first second => exact first.trans second

end Document

namespace Graph

theorem shownNode?_eq {d : Document} (complete : d.Complete) (id : String) :
    ((ofRecords d.nodes d.edges).node? id).map (fun n => (n.layer, n.label)) =
      d.shownNode? id := by
  rw [node?_ofRecords complete, Option.map_map]
  rfl

theorem shownEdges_eq (d : Document) (relation : String) :
    ((ofRecords d.nodes d.edges).edgesOf relation).map Edge.ends =
      d.shownEdges (ofRecords d.nodes d.edges).contains relation := by
  rw [edgesOf, Document.shownEdges]
  change ((d.edges.filterMap _).filter _).map _ = _
  rw [List.filter_filterMap, List.map_filterMap]
  rfl

theorem knows_contains {d : Document} (complete : d.Complete) :
    d.Knows (ofRecords d.nodes d.edges).contains :=
  (resolves_ofRecords complete d.edges).contains_iff

theorem exists_sameMeaning {d d' : Document} (agrees : d.Agrees d') {g : Graph}
    (built : ofDocument d = .ok g) : ∃ g', ofDocument d' = .ok g' ∧ g.SameMeaning g' := by
  obtain ⟨complete, rfl⟩ := build_eq_ok_iff.mp built
  have complete' : d'.Complete := agrees.complete.mp complete
  refine ⟨ofRecords d'.nodes d'.edges, build_eq_ok_iff.mpr ⟨complete', rfl⟩, ?_, ?_⟩
  · intro id
    rw [shownNode?_eq complete, shownNode?_eq complete', agrees.nodes]
  · intro relation
    have knows := knows_contains complete
    have knows' := knows_contains complete'
    have known : (ofRecords d.nodes d.edges).contains = (ofRecords d'.nodes d'.edges).contains := by
      funext id
      rw [Bool.eq_iff_iff]
      exact (agrees.knows.mp knows id).trans (knows' id).symm
    rw [shownEdges_eq, shownEdges_eq, agrees.edges _ knows, known]

/-- What is drawn of two documents that can be built is the same as soon as the graphs mean the
same, and so it stays through any series of changes that keep the meaning. -/
theorem drawing_determined :
    (∀ (d d' : Document) (g g' : Graph), ofDocument d = .ok g → ofDocument d' = .ok g' →
      g.SameMeaning g' → g.SameDrawing g') ∧
    ∀ (d d' : Document), Relation.EqvGen Document.Rewording d d' → ∀ g, ofDocument d = .ok g →
      ∃ g', ofDocument d' = .ok g' ∧ g.SameDrawing g' := by
  have determined (d d' : Document) (g g' : Graph) (built : ofDocument d = .ok g)
      (built' : ofDocument d' = .ok g') (same : g.SameMeaning g') : g.SameDrawing g' :=
    sameDrawing_of_sameMeaning (valid_of_build built) (valid_of_build built') same
  refine ⟨determined, ?_⟩
  intro d d' reworded g built
  obtain ⟨g', built', same⟩ := exists_sameMeaning (Document.agrees_of_rewordings reworded) built
  exact ⟨g', built', determined d d' g g' built built' same⟩

/-- Another order of the nodes, a name for the edge, and an edge that leads nowhere. -/
theorem drawing_determined_reworded :
    let d : Document := ⟨[⟨"b", none, some 1, none⟩, ⟨"a", none, none, none⟩],
      [⟨none, "a", "b", none⟩]⟩
    let d' : Document := ⟨[⟨"a", none, none, none⟩, ⟨"b", none, some 1, none⟩],
      [⟨none, "a", "c", none⟩, ⟨"e", "a", "b", none⟩]⟩
    ∃ g g', ofDocument d = .ok g ∧ ofDocument d' = .ok g' ∧ g.SameDrawing g' := by
  intro d d'
  have complete : d.Complete := by simp [d, Document.Complete, NodeRecord.LacksId]
  have built : ofDocument d = .ok (ofRecords d.nodes d.edges) :=
    build_eq_ok_iff.mpr ⟨complete, rfl⟩
  have moved : Document.Rewording d ⟨d'.nodes, d.edges⟩ :=
    .permuteNodes (by decide) (List.Perm.swap _ _ [])
  have named : Document.Rewording ⟨d'.nodes, d.edges⟩ ⟨d'.nodes, [⟨"e", "a", "b", none⟩]⟩ :=
    .changeEdgeIds rfl
  have dangling : Document.Rewording ⟨d'.nodes, [⟨"e", "a", "b", none⟩]⟩ d' := by
    refine @Document.Rewording.addDangling _ [] _ ⟨none, "a", "c", none⟩ ?_
    rintro s t ⟨⟩ ⟨⟩ ⟨_, n, member, same⟩
    simp only [d', List.mem_cons, List.not_mem_nil, or_false] at member
    rcases member with rfl | rfl <;> simp at same
  have reworded : Relation.EqvGen Document.Rewording d d' :=
    .trans _ _ _ (.rel _ _ moved) (.trans _ _ _ (.rel _ _ named) (.rel _ _ dangling))
  obtain ⟨g', built', same⟩ := drawing_determined.2 d d' reworded _ built
  exact ⟨_, g', built, built', same⟩

end Graph

end Strata
