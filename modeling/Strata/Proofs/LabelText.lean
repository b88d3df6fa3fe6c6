import Strata.Proofs.GraphMeaning
import Strata.Proofs.LabelMarkup
import Strata.Proofs.SvgMarks

/-! The names of nodes show up in a picture as the text of labels and nowhere else: of two graphs
whose nodes differ in their names alone the pictures agree in all but that text. -/
namespace Strata

open Markup Markup.Scan

namespace Svg

def labelAttributes (fontSize : Float) (anchor : Point Float) : List Attribute :=
  baseline anchor fontSize ++ ⟨"text-anchor", "middle"⟩ :: font fontSize

def labelCommands {β : Type} (fontSize : Float) (anchor : β → Point Float) (content : β → String)
    (labels : List β) : Drawing Float :=
  labels.map fun b => .label (anchor b) (content b) fontSize

def labelsAt {β : Type} (fontSize : Float) (anchor : β → Point Float) (content : β → String)
    (labels : List β) : Drawing Float :=
  Drawing.group "labels" "" (labelCommands fontSize anchor content labels)

section

variable {β : Type} {fontSize : Float} {anchor : β → Point Float} {content : β → String}
  {labels : List β} {before after : Drawing Float}

theorem body_labels (depth : Nat) (some : ∀ b ∈ labels, content b ≠ "") :
    body depth (labelCommands fontSize anchor content labels) =
      labels.map fun b => labelLine depth (labelAttributes fontSize (anchor b)) (content b) := by
  induction labels with
  | nil => rfl
  | cons b labels ih =>
    obtain ⟨first, others⟩ := List.forall_mem_cons.mp some
    have shown : (content b).isEmpty = false := String.isEmpty_eq_false_iff.mpr first
    have later := ih others
    simp only [labelCommands, List.map_cons, body, elements, shown] at later ⊢
    simp only [depthAfter, depthAt, later]
    rfl

theorem foldl_depthAfter_labels (depth : Nat) :
    (labelCommands fontSize anchor content labels).foldl depthAfter depth = depth := by
  induction labels with
  | nil => rfl
  | cons b labels ih => exact ih

theorem body_labelled (depth : Nat) (some : ∀ b ∈ labels, content b ≠ "") :
    body depth (labelsAt fontSize anchor content labels ++ after) =
      labelLines depth (depth + 1) (depthAt (depth + 1) .closeGroup)
        (fun b => labelAttributes fontSize (anchor b)) content labels ++
      body (depthAt (depth + 1) .closeGroup) after := by
  have named : groupClass "labels" "" = "labels" := by decide
  rw [labelsAt, Drawing.group, List.cons_append, List.cons_append, List.append_assoc, body,
    body_append]
  simp only [depthAfter, foldl_depthAfter_labels, body_labels _ some]
  simp [labelLines, body, elements, depthAfter, depthAt, named]

theorem filterMap_labelled {γ : Type} {pick : Command Float → Option γ}
    (opening : ∀ kind key, pick (.openGroup kind key) = none) (closing : pick .closeGroup = none)
    (label : ∀ p text size, pick (.label p text size) = none) :
    (before ++ labelsAt fontSize anchor content labels ++ after).filterMap pick =
      (before ++ after).filterMap pick := by
  have none : (labelCommands fontSize anchor content labels).filterMap pick = [] := by
    simp [labelCommands, label]
  rw [List.filterMap_append, List.filterMap_append, List.filterMap_append, labelsAt,
    Drawing.filterMap_group (opening _ _) closing, none, List.append_nil]

/-- The lines in front of a group of labels. -/
def linesBefore (before after : Drawing Float) : List Line :=
  ⟨0, [root (canvas (before ++ after))]⟩ :: definitions (before ++ after) ++
    ⟨1, [background (canvas (before ++ after))]⟩ :: body 1 before

/-- The depth of a group behind a drawing. -/
def depthBehind (before : Drawing Float) : Nat := before.foldl depthAfter 1

/-- The depth at which that group ends. -/
def depthClosed (before : Drawing Float) : Nat := depthAt (depthBehind before + 1) .closeGroup

def linesAfter (before after : Drawing Float) : List Line :=
  body (depthClosed before) after ++ [⟨0, [.closing "svg"]⟩]

/-- What is in front of a group of labels and behind it does not depend on the labels. -/
theorem lines_labels (some : ∀ b ∈ labels, content b ≠ "") :
    lines (before ++ labelsAt fontSize anchor content labels ++ after) =
      linesBefore before after ++
      labelLines (depthBehind before) (depthBehind before + 1) (depthClosed before)
        (fun b => labelAttributes fontSize (anchor b)) content labels ++
      linesAfter before after := by
  -- The canvas and the markers are picked from commands that are no labels.
  have colored := canvas_eq (before ++ labelsAt fontSize anchor content labels ++ after)
  rw [lastCanvas?, filterMap_labelled (fun _ _ => rfl) rfl fun _ _ _ => rfl] at colored
  replace colored := colored.trans (canvas_eq (before ++ after)).symm
  have defined : definitions (before ++ labelsAt fontSize anchor content labels ++ after) =
      definitions (before ++ after) := by
    have edges : Drawing.edges (before ++ labelsAt fontSize anchor content labels ++ after) =
        Drawing.edges (before ++ after) :=
      filterMap_labelled (fun _ _ => rfl) rfl fun _ _ _ => rfl
    rw [definitions, definitions, markers, markers, edges]
  rw [lines, colored, defined, List.append_assoc before, body_append, body_labelled _ some]
  simp [linesBefore, linesAfter, depthBehind, depthClosed]

end

/-- No group of the drawing is one of labels. -/
def LacksLabels (d : Drawing Float) : Prop :=
  ∀ kind key, .openGroup kind key ∈ d → groupClass kind key ≠ "labels"

theorem plain_textElement (attributes : List Attribute) (content : String) :
    ∀ t ∈ (textElement "text" attributes content).flatMap tokens, t.beginsLabels = false := by
  intro t member
  simp only [textElement, tokens, List.flatMap_cons, List.flatMap_nil, List.mem_append,
    List.mem_singleton, List.append_nil, List.mem_map] at member
  rcases member with rfl | ⟨c, _, rfl⟩ | rfl <;> rfl

theorem plain_elements {c : Command Float}
    (apart : ∀ kind key, c = .openGroup kind key → groupClass kind key ≠ "labels") :
    ∀ line ∈ elements c, ∀ t ∈ line.flatMap tokens, t.beginsLabels = false := by
  cases c with
  | canvas => exact List.forall_mem_nil _
  | openGroup kind key =>
    have other := (apart kind key rfl).symm
    simp [elements, tokens, Token.beginsLabels, other]
  | closeGroup => simp [elements, tokens, Token.beginsLabels]
  | node | edge => simp [elements, tokens, circle, path, Token.beginsLabels]
  | label anchor content fontSize =>
    simp only [elements]
    split
    · exact List.forall_mem_nil _
    · exact List.forall_mem_singleton.mpr (plain_textElement _ _)
  | legendTitle => exact List.forall_mem_singleton.mpr (plain_textElement _ _)
  | legendEntry =>
    refine List.forall_mem_cons.mpr ⟨by simp [tokens, swatch, Token.beginsLabels], ?_⟩
    exact List.forall_mem_singleton.mpr (plain_textElement _ _)

theorem plain_body {d : Drawing Float} (lacks : LacksLabels d) (depth : Nat) :
    ∀ t ∈ (body depth d).flatMap lineTokens, t.beginsLabels = false := by
  induction d generalizing depth with
  | nil => simp [body]
  | cons c rest ih =>
    have first := plain_elements (c := c) fun kind key same => lacks kind key (by simp [same])
    have later := ih (fun kind key member => lacks kind key (List.mem_cons_of_mem _ member))
    intro t member
    rw [body, List.flatMap_append, List.mem_append, List.flatMap_map] at member
    rcases member with here | behind
    · obtain ⟨line, listed, within⟩ := List.mem_flatMap.mp here
      exact forall_line (fun _ => rfl) (first line listed) t within
    · exact later _ t behind

theorem plain_definitions (d : Drawing Float) :
    ∀ t ∈ (definitions d).flatMap lineTokens, t.beginsLabels = false := by
  refine forall_definitions ?_ ?_ ?_ ?_ d
  · exact fun _ => rfl
  · rfl
  · rfl
  · simp [tokens, Marker.pieces, Token.beginsLabels]

theorem plain_tag {p : Piece} (plain : ∀ t ∈ tokens p, t.beginsLabels = false) (depth : Nat) :
    ∀ t ∈ lineTokens ⟨depth, [p]⟩, t.beginsLabels = false :=
  forall_line (fun _ => rfl) (by simpa using plain)

theorem plain_linesBefore {before after : Drawing Float} (lacks : LacksLabels before) :
    ∀ t ∈ (linesBefore before after).flatMap lineTokens, t.beginsLabels = false := by
  intro t member
  simp only [linesBefore, List.flatMap_append, List.flatMap_cons, List.mem_append] at member
  rcases member with (first | defined) | covered | within
  · exact plain_tag (by simp [root, tokens, Token.beginsLabels]) 0 t first
  · exact plain_definitions _ t defined
  · exact plain_tag (by simp [background, tokens, Token.beginsLabels]) 1 t covered
  · exact plain_body lacks 1 t within

theorem plain_linesAfter {before after : Drawing Float} (lacks : LacksLabels after) :
    ∀ t ∈ (linesAfter before after).flatMap lineTokens, t.beginsLabels = false := by
  intro t member
  simp only [linesAfter, List.flatMap_append, List.flatMap_singleton, List.mem_append] at member
  rcases member with within | last
  · exact plain_body lacks _ t within
  · exact plain_tag (by simp [tokens, Token.beginsLabels]) 0 t last

/-- The document of a drawing with labels at some places, without their text. -/
def withoutText (fontSize : Float) (before after : Drawing Float) (places : List (Point Float)) :
    String :=
  renderLines (linesBefore before after ++
    labelLines (depthBehind before) (depthBehind before + 1) (depthClosed before)
      (labelAttributes fontSize) (fun _ => "") places ++ linesAfter before after)

/-- The text of labels can be taken out of a document, and what is left shows no more of the labels
than their places. -/
theorem separate_document {β : Type} {fontSize : Float} {anchor : β → Point Float}
    {content : β → String} {labels : List β} {before after : Drawing Float}
    (lacksBefore : LacksLabels before) (lacksAfter : LacksLabels after)
    (some : ∀ b ∈ labels, content b ≠ "") :
    separate (document (before ++ labelsAt fontSize anchor content labels ++ after)) =
      .some ⟨(withoutText fontSize before after (labels.map anchor)).toList,
        labels.map fun b => escape (content b).toList⟩ := by
  have sound := isSound_lines (before ++ labelsAt fontSize anchor content labels ++ after)
  rw [lines_labels some] at sound
  rw [document, lines_labels some, separate_renderLines sound (plain_linesBefore lacksBefore)
    (plain_linesAfter lacksAfter), withoutText]
  simp [labelLines, Function.comp_def]

theorem groupClass_ne_labels {kind : String} (other : ¬ (sanitize kind).toList <+: "labels".toList)
    (key : String) : groupClass kind key ≠ "labels" := by
  intro same
  refine other ?_
  rw [← same, groupClass]
  split
  · exact List.prefix_refl _
  · simp only [String.toList_append, List.append_assoc]
    exact List.prefix_append _ _

end Svg

namespace Scene

open Svg

section

variable (s : Scene Float) (f : Figure Float)

def beforeLabels : Drawing Float :=
  .canvas (s.frame f).width (s.frame f).height f.background :: s.drawnEdges f ++ s.drawnNodes f

def afterLabels : Drawing Float :=
  if s.styles.layerColors.isEmpty then []
  else legendGroup (s.frame f).legend s.styles.layerColors

theorem mem_group {c : Command Float} {kind key : String} {d : Drawing Float} :
    c ∈ Drawing.group kind key d ↔ c = .openGroup kind key ∨ c ∈ d ∨ c = .closeGroup := by
  simp [Drawing.group]

theorem lacksLabels_beforeLabels : LacksLabels (s.beforeLabels f) := by
  intro kind key member
  simp only [beforeLabels, drawnEdges, drawnNodes, List.cons_append, List.mem_cons, reduceCtorEq,
    false_or, List.mem_append, List.mem_flatMap, mem_group, Command.openGroup.injEq, List.mem_map,
    and_false, exists_false, or_false] at member
  rcases member with ⟨relation, _, rfl, _⟩ | ⟨entry, _, rfl, _⟩
  · exact groupClass_ne_labels (by decide) key
  · exact groupClass_ne_labels (by decide) key

theorem lacksLabels_afterLabels : LacksLabels (s.afterLabels f) := by
  intro kind key member
  unfold afterLabels at member
  split at member
  · cases member
  · simp only [legendGroup, mem_group, Command.openGroup.injEq, List.mem_cons, List.mem_map,
      reduceCtorEq, and_false, exists_false, or_false] at member
    obtain ⟨rfl, _⟩ := member
    exact groupClass_ne_labels (by decide) key

theorem paint_labelled {g : Graph} (valid : g.Valid) (spacing : Spacing Float)
    (palette : List Color) (labelled : f.withLabels = true) :
    let s := ofGraph g spacing palette
    s.paint f = s.beforeLabels f ++
      labelsAt (f.pixels f.fontSize) (fun n => s.place f n.id) Node.label g.nodeList ++
        s.afterLabels f := by
  intro s
  have labels : s.drawnLabels f = s.wholeLabels f := drawnLabels_whole valid spacing palette f
  rw [paint_drawn, drawn, if_pos labelled, labels]
  simp only [beforeLabels, afterLabels, List.cons_append, List.append_assoc]
  rfl

theorem paint_unlabelled (bare : f.withLabels = false) :
    s.paint f = s.beforeLabels f ++ s.afterLabels f := by
  rw [paint_drawn, drawn, if_neg (by simp [bare])]
  simp only [beforeLabels, afterLabels, List.append_nil]

end

section

variable {g h : Graph} (slots : g.nodeList.map Node.slot = h.nodeList.map Node.slot)
  (edges : g.edges = h.edges) (spacing : Spacing Float) (palette : List Color) (f : Figure Float)

include slots edges

/-- Nothing but the labels depends on more than the slots of the nodes and the edges. -/
theorem parts_congr :
    (ofGraph g spacing palette).place f = (ofGraph h spacing palette).place f ∧
      (ofGraph g spacing palette).beforeLabels f = (ofGraph h spacing palette).beforeLabels f ∧
      (ofGraph g spacing palette).afterLabels f = (ofGraph h spacing palette).afterLabels f := by
  have relations : g.relations = h.relations := by rw [Graph.relations, Graph.relations, edges]
  have frame := Graph.frame_congr slots relations spacing palette f
  have layout := Graph.layout_congr slots spacing
  have styles := Graph.styles_congr slots relations palette
  have members := Graph.layerMembers_congr slots
  refine ⟨?_, ?_, ?_⟩
  · funext id
    simp only [place, frame, ofGraph_layout, layout]
  · have byRelation : g.edgesByRelation = h.edgesByRelation := by
      rw [Graph.edgesByRelation, Graph.edgesByRelation, edges]
    simp only [beforeLabels, ← edgeGroups_drawn, ← nodeGroups_drawn, edgeStyle, frame,
      ofGraph_graph, ofGraph_layout, ofGraph_styles, layout, styles, members, byRelation]
  · rw [afterLabels, afterLabels, frame, ofGraph_styles, ofGraph_styles, styles]

end

end Scene

namespace Graph

/-- The nodes of records that differ in names alone have the same slots. -/
theorem slots_of_names {nodes nodes' : List NodeRecord} {edges : List EdgeRecord} {g g' : Graph}
    (same : (nodes.map fun r => { r with name := none }) =
      nodes'.map fun r => { r with name := none })
    (built : build nodes edges = .ok g) (built' : build nodes' edges = .ok g') :
    g.nodeList.map Node.slot = g'.nodeList.map Node.slot ∧ g.edges = g'.edges := by
  obtain ⟨complete, rfl⟩ := build_eq_ok_iff.mp built
  obtain ⟨complete', rfl⟩ := build_eq_ok_iff.mp built'
  have layers (id : String) :
      ((ofRecords nodes edges).node? id).map Node.layer =
        ((ofRecords nodes' edges).node? id).map Node.layer := by
    have cleared (nodes : List NodeRecord) :
        (lastRecord? nodes id).map (fun r => (r.node id).layer) =
        (lastRecord? (nodes.map fun r => { r with name := none }) id).map
          fun r => (r.node id).layer := by
      rw [lastRecord?, lastRecord?, List.filter_map, List.getLast?_map, Option.map_map]
      rfl
    rw [node?_ofRecords complete, node?_ofRecords complete', Option.map_map, Option.map_map]
    exact (cleared nodes).trans (same ▸ (cleared nodes').symm)
  refine ⟨map_nodeList_congr (valid_ofRecords complete edges) (valid_ofRecords complete' edges)
    layers, ?_⟩
  have known : (ofRecords nodes edges).contains = (ofRecords nodes' edges).contains := by
    funext id
    have present := congrArg Option.isSome (layers id)
    rw [Option.isSome_map, Option.isSome_map] at present
    rw [contains, contains, Std.TreeMap.contains_eq_isSome_getElem?,
      Std.TreeMap.contains_eq_isSome_getElem?]
    exact present
  exact congrArg (fun known => edges.filterMap (EdgeRecord.edge? known)) known

end Graph

namespace Scene

open Svg

/-- The picture of a graph, taken apart. -/
theorem separate_svg {g : Graph} (valid : g.Valid) (spacing : Spacing Float) (palette : List Color)
    (f : Figure Float) (labelled : f.withLabels = true) :
    separate ((ofGraph g spacing palette).svg f) =
      some ⟨(withoutText (f.pixels f.fontSize) ((ofGraph g spacing palette).beforeLabels f)
          ((ofGraph g spacing palette).afterLabels f)
          ((g.nodeList.map Node.id).map ((ofGraph g spacing palette).place f))).toList,
        g.nodeList.map fun n => (escapeText n.label).toList⟩ := by
  rw [svg, paint_labelled f valid spacing palette labelled,
    separate_document (lacksLabels_beforeLabels _ f) (lacksLabels_afterLabels _ f)
      fun n member => valid.label_ne_empty member]
  simp [escapeText, Function.comp_def]

/-- Two graphs from records that differ in the names of nodes alone have the same picture but for
the text of labels, which is that of their own nodes in ascending order of the ids. -/
theorem svg_shows_names_in_labels {nodes nodes' : List NodeRecord} {edges : List EdgeRecord}
    {g g' : Graph}
    (same : (nodes.map fun r => { r with name := none }) =
      nodes'.map fun r => { r with name := none })
    (built : Graph.build nodes edges = .ok g) (built' : Graph.build nodes' edges = .ok g')
    (spacing : Spacing Float) (palette : List Color) (f : Figure Float) :
    g.nodeList.map Node.id = g'.nodeList.map Node.id ∧
    (g.nodeList.map Node.id).Pairwise (fun a b => Text.utf8 a < Text.utf8 b) ∧
    (f.withLabels = true → ∃ kept,
      separate ((ofGraph g spacing palette).svg f) =
        some ⟨kept, g.nodeList.map fun n => (escapeText n.label).toList⟩ ∧
      separate ((ofGraph g' spacing palette).svg f) =
        some ⟨kept, g'.nodeList.map fun n => (escapeText n.label).toList⟩) ∧
    (f.withLabels = false →
      (ofGraph g spacing palette).svg f = (ofGraph g' spacing palette).svg f) := by
  obtain ⟨slots, sameEdges⟩ := Graph.slots_of_names same built built'
  have valid := Graph.valid_of_build built
  have valid' := Graph.valid_of_build built'
  obtain ⟨place, before, after⟩ := parts_congr slots sameEdges spacing palette f
  have ids : g.nodeList.map Node.id = g'.nodeList.map Node.id := by
    have firsts := congrArg (List.map Prod.fst) slots
    rw [List.map_map, List.map_map] at firsts
    exact firsts
  refine ⟨ids, valid.ids_ascending, ?_, ?_⟩
  · intro labelled
    refine ⟨_, separate_svg valid spacing palette f labelled, ?_⟩
    rw [separate_svg valid' spacing palette f labelled, before, after, place, ids]
  · intro bare
    rw [svg, svg, paint_unlabelled _ f bare, paint_unlabelled _ f bare, before, after]

/-- A name that looks like markup, and none. -/
theorem svg_shows_names_in_labels_hostile :
    let nodes (name : Option String) : List NodeRecord := [⟨"b", name, some 2, none⟩]
    let scene (g : Graph) := ofGraph g Spacing.default tab20
    ∃ g g' kept, Graph.build (nodes "</text></g><&") [] = .ok g ∧
      Graph.build (nodes none) [] = .ok g' ∧
      separate ((scene g).svg .default) =
        some ⟨kept, g.nodeList.map fun n => (escapeText n.label).toList⟩ ∧
      separate ((scene g').svg .default) =
        some ⟨kept, g'.nodeList.map fun n => (escapeText n.label).toList⟩ := by
  intro nodes scene
  have built (name : Option String) :
      Graph.build (nodes name) [] = .ok (Graph.ofRecords (nodes name) []) :=
    Graph.build_eq_ok_iff.mpr ⟨by simp [nodes, NodeRecord.LacksId], rfl⟩
  have same : ((nodes "</text></g><&").map fun r => { r with name := none }) =
      (nodes none).map fun r => { r with name := none } := rfl
  obtain ⟨_, _, labelled, _⟩ := svg_shows_names_in_labels same (built "</text></g><&") (built none)
    Spacing.default tab20 .default
  obtain ⟨kept, first, second⟩ := labelled rfl
  exact ⟨_, _, kept, built _, built _, first, second⟩

end Scene

end Strata
