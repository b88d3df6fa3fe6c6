import Mathlib.Data.List.Basic
import Strata.Proofs.GraphParts

/-! What building a graph makes of its records, said of the records alone: when it fails and where,
which record speaks for an id, and which edge records stand. -/
namespace Strata

/-- A record that cannot be told apart from others. -/
def NodeRecord.LacksId (r : NodeRecord) : Prop := r.id = none ∨ r.id = some ""

def textOr (fallback : String) : Option String → String
  | none => fallback
  | some text => if text = "" then fallback else text

theorem getD_filled? (fallback : String) (text : Option String) :
    (filled? text).getD fallback = textOr fallback text := by
  cases text with
  | none => rfl
  | some s => by_cases empty : s = "" <;> simp [filled?, textOr, Option.filter, empty]

theorem textOr_ne_empty {fallback : String} (h : fallback ≠ "") (text : Option String) :
    textOr fallback text ≠ "" := by
  cases text with
  | none => exact h
  | some s => by_cases empty : s = "" <;> simp [textOr, empty, h]

/-- The node that a record describes, for a given id. -/
def NodeRecord.node (r : NodeRecord) (id : String) : Node where
  id
  name := textOr id r.name
  layer := r.layer.getD 0
  kind := r.kind.getD "unknown"

/-- The edge that a record describes, unless one of its ends is absent or unknown. -/
def EdgeRecord.edge? (known : String → Bool) (r : EdgeRecord) : Option Edge :=
  match r.source, r.target with
  | some source, some target =>
    if known source && known target then
      some { id := r.id, source, target, relation := textOr "depends_on" r.relation }
    else none
  | _, _ => none

/-- The last of the records with an id. -/
def lastRecord? (nodes : List NodeRecord) (id : String) : Option NodeRecord :=
  (nodes.filter fun r => r.id = some id).getLast?

theorem ofRecord?_eq_none_iff {r : NodeRecord} : Node.ofRecord? r = none ↔ r.LacksId := by
  cases h : r.id with
  | none => simp [Node.ofRecord?, NodeRecord.LacksId, filled?, h]
  | some id => simp [Node.ofRecord?, NodeRecord.LacksId, filled?, h, Option.filter]

theorem ofRecord?_eq_some_iff {r : NodeRecord} {n : Node} :
    Node.ofRecord? r = some n ↔ r.id = some n.id ∧ n.id ≠ "" ∧ n = r.node n.id := by
  simp only [Node.ofRecord?, Option.map_eq_some_iff, filled?, Option.filter_eq_some_iff]
  constructor
  · rintro ⟨id, ⟨given, full⟩, rfl⟩
    exact ⟨given, by simpa using full, by simp only [NodeRecord.node, ← getD_filled?]; rfl⟩
  · rintro ⟨given, full, same⟩
    refine ⟨n.id, ⟨given, by simpa using full⟩, ?_⟩
    rw [same]
    simp only [NodeRecord.node, ← getD_filled?]
    rfl

theorem edge?_eq_filter (known : String → Bool) (r : EdgeRecord) :
    r.edge? known = (Edge.ofRecord? r).filter fun e => known e.source && known e.target := by
  obtain ⟨id, source, target, relation⟩ := r
  cases source with
  | none => rfl
  | some s =>
    cases target with
    | none => rfl
    | some t =>
      simp only [EdgeRecord.edge?, Edge.ofRecord?, Option.bind_eq_bind, Option.bind_some,
        Option.pure_def, Option.filter, getD_filled?]
      rfl

/-- Resolving stops at the first record without an id and else gives a node for each record. -/
theorem resolveNodes_eq (nodes : List NodeRecord) (index : Nat) :
    Graph.resolveNodes index nodes =
      match nodes.findIdx? fun r => (Node.ofRecord? r).isNone with
      | some i => .error ⟨index + i⟩
      | none => .ok (nodes.filterMap Node.ofRecord?) := by
  induction nodes generalizing index with
  | nil => rfl
  | cons r rest ih =>
    cases made : Node.ofRecord? r with
    | none => simp [Graph.resolveNodes, made, List.findIdx?_cons]
    | some n =>
      simp only [Graph.resolveNodes, made, ih, List.findIdx?_cons, Option.isNone_some]
      cases later : rest.findIdx? fun r => (Node.ofRecord? r).isNone with
      | none => simp [List.filterMap_cons_some made]
      | some i =>
        simp only [Bool.false_eq_true, ↓reduceIte, Option.map_some]
        rw [Nat.add_assoc, Nat.add_comm 1 i]
        rfl

theorem getElem?_nodeMap (nodes : List Node) (id : String) :
    (Graph.nodeMap nodes)[id]? = nodes.reverse.find? fun n => n.id = id := by
  rw [Graph.nodeMap, getElem?_foldl_insert Node.id fun n => n]
  simp

theorem nodeMap_last {nodes : List NodeRecord} (complete : ∀ r ∈ nodes, ¬ r.LacksId)
    (id : String) :
    (Graph.nodeMap (nodes.filterMap Node.ofRecord?))[id]? =
      (lastRecord? nodes id).map fun r => r.node id := by
  have described : ∀ r ∈ nodes, (Node.ofRecord? r).filter (fun n => n.id = id) =
      if r.id = some id then some (r.node id) else none := by
    intro r member
    obtain ⟨n, made⟩ := Option.ne_none_iff_exists'.mp fun none =>
      complete r member (ofRecord?_eq_none_iff.mp none)
    obtain ⟨given, _, same⟩ := ofRecord?_eq_some_iff.mp made
    rw [made, given]
    by_cases here : n.id = id
    · subst here
      rw [if_pos rfl, ← same]
      simp
    · simp [here]
  rw [getElem?_nodeMap, ← List.getLast?_filter, List.filter_filterMap,
    List.filterMap_congr described, lastRecord?, ← List.getLast?_map, ← List.filterMap_eq_map,
    List.filterMap_filter]
  simp only [Function.comp_apply, decide_eq_true_eq]

namespace Graph

def ofRecords (nodes : List NodeRecord) (edges : List EdgeRecord) : Graph :=
  let map := nodeMap (nodes.filterMap Node.ofRecord?)
  let kept := edges.filterMap (EdgeRecord.edge? map.contains)
  ⟨map, kept, edges.length - kept.length⟩

theorem build_eq (nodes : List NodeRecord) (edges : List EdgeRecord) :
    build nodes edges =
      match nodes.findIdx? fun r => (Node.ofRecord? r).isNone with
      | some i => .error ⟨i⟩
      | none => .ok (ofRecords nodes edges) := by
  rw [build, resolveNodes_eq]
  cases nodes.findIdx? fun r => (Node.ofRecord? r).isNone with
  | some i =>
    simp only [Nat.zero_add]
    rfl
  | none =>
    simp only [List.filter_filterMap, ← edge?_eq_filter]
    rfl

theorem build_eq_ok_iff {nodes : List NodeRecord} {edges : List EdgeRecord} {g : Graph} :
    build nodes edges = .ok g ↔ (∀ r ∈ nodes, ¬ r.LacksId) ∧ g = ofRecords nodes edges := by
  have complete : (nodes.findIdx? fun r => (Node.ofRecord? r).isNone) = none ↔
      ∀ r ∈ nodes, ¬ r.LacksId := by
    simp only [List.findIdx?_eq_none_iff, Bool.eq_false_iff, ne_eq, Option.isNone_iff_eq_none,
      ofRecord?_eq_none_iff]
  rw [build_eq, ← complete]
  cases nodes.findIdx? fun r => (Node.ofRecord? r).isNone with
  | some i => simp
  | none => simp [eq_comm]

/-- The least place of a record without an id. -/
def IsFirstLacking (nodes : List NodeRecord) (i : Nat) : Prop :=
  (∃ r, nodes[i]? = some r ∧ r.LacksId) ∧ ∀ j < i, ∀ r, nodes[j]? = some r → ¬ r.LacksId

theorem build_eq_error_iff {nodes : List NodeRecord} {edges : List EdgeRecord} {e : MissingId} :
    build nodes edges = .error e ↔ IsFirstLacking nodes e.index := by
  have first : (nodes.findIdx? fun r => (Node.ofRecord? r).isNone) = some e.index ↔
      IsFirstLacking nodes e.index := by
    simp only [IsFirstLacking, List.findIdx?_eq_some_iff_getElem, Option.isNone_iff_eq_none,
      ofRecord?_eq_none_iff]
    constructor
    · rintro ⟨bound, lacks, before⟩
      refine ⟨⟨_, List.getElem?_eq_getElem bound, lacks⟩, ?_⟩
      intro j less r found
      obtain ⟨_, same⟩ := List.getElem?_eq_some_iff.mp found
      exact same ▸ before j less
    · rintro ⟨⟨r, found, lacks⟩, before⟩
      obtain ⟨bound, same⟩ := List.getElem?_eq_some_iff.mp found
      refine ⟨bound, same ▸ lacks, ?_⟩
      intro j less
      exact before j less _ (List.getElem?_eq_getElem (Nat.lt_trans less bound))
  rw [build_eq, ← first]
  cases nodes.findIdx? fun r => (Node.ofRecord? r).isNone with
  | some i =>
    obtain ⟨index⟩ := e
    simp
  | none => simp

theorem noted?_fault (e : MissingId) : e.fault.noted? "index" = some (toString e.index) := by
  simp [MissingId.fault, Fault.missingField, Fault.during, Fault.note, Fault.noted?]

theorem kind_fault (e : MissingId) : e.fault.kind = .missingField := by
  simp [MissingId.fault, Fault.missingField]

theorem node?_ofRecords {nodes : List NodeRecord} (complete : ∀ r ∈ nodes, ¬ r.LacksId)
    (edges : List EdgeRecord) (id : String) :
    (ofRecords nodes edges).node? id = (lastRecord? nodes id).map fun r => r.node id :=
  nodeMap_last complete id

theorem mem_lastRecord? {nodes : List NodeRecord} {id : String} {r : NodeRecord}
    (last : lastRecord? nodes id = some r) : r ∈ nodes ∧ r.id = some id := by
  obtain ⟨member, same⟩ := List.mem_filter.mp (List.mem_of_getLast? last)
  exact ⟨member, of_decide_eq_true same⟩

theorem edge?_eq_some_iff {known : String → Bool} {r : EdgeRecord} {e : Edge} :
    r.edge? known = some e ↔ e.id = r.id ∧ r.source = some e.source ∧ r.target = some e.target ∧
      known e.source = true ∧ known e.target = true ∧
      e.relation = textOr "depends_on" r.relation := by
  obtain ⟨id, source, target, relation⟩ := r
  obtain ⟨id', source', target', relation'⟩ := e
  cases source with
  | none => simp [EdgeRecord.edge?]
  | some s =>
    cases target with
    | none => simp [EdgeRecord.edge?]
    | some t =>
      simp only [EdgeRecord.edge?, Option.ite_none_right_eq_some, Bool.and_eq_true,
        Option.some.injEq, Edge.mk.injEq]
      constructor
      · rintro ⟨⟨hs, ht⟩, rfl, rfl, rfl, rfl⟩
        exact ⟨rfl, rfl, rfl, hs, ht, rfl⟩
      · rintro ⟨rfl, rfl, rfl, hs, ht, rfl⟩
        exact ⟨⟨hs, ht⟩, rfl, rfl, rfl, rfl⟩

theorem valid_ofRecords {nodes : List NodeRecord} (complete : ∀ r ∈ nodes, ¬ r.LacksId)
    (edges : List EdgeRecord) : (ofRecords nodes edges).Valid := by
  have origin {id n} (found : (ofRecords nodes edges).node? id = some n) :
      ∃ r ∈ nodes, r.id = some id ∧ n = r.node id := by
    rw [node?_ofRecords complete] at found
    obtain ⟨r, last, rfl⟩ := Option.map_eq_some_iff.mp found
    obtain ⟨member, given⟩ := mem_lastRecord? last
    exact ⟨r, member, given, rfl⟩
  have built {e} (member : e ∈ (ofRecords nodes edges).edges) :
      ∃ r ∈ edges, r.edge? (ofRecords nodes edges).contains = some e :=
    List.mem_filterMap.mp member
  refine ⟨?_, ?_, ?_, ?_⟩
  · intro id n found
    obtain ⟨_, _, _, rfl⟩ := origin found
    rfl
  · intro id n found
    obtain ⟨r, member, given, rfl⟩ := origin found
    have full : id ≠ "" := by
      rintro rfl
      exact complete r member (.inr given)
    exact ⟨full, textOr_ne_empty full r.name⟩
  · intro e member
    obtain ⟨_, _, made⟩ := built member
    obtain ⟨_, _, _, source, target, _⟩ := edge?_eq_some_iff.mp made
    exact ⟨source, target⟩
  · intro e member
    obtain ⟨r, _, made⟩ := built member
    obtain ⟨_, _, _, _, _, relation⟩ := edge?_eq_some_iff.mp made
    exact relation ▸ textOr_ne_empty (by decide) r.relation

theorem valid_of_build {nodes : List NodeRecord} {edges : List EdgeRecord} {g : Graph}
    (built : build nodes edges = .ok g) : g.Valid := by
  obtain ⟨complete, rfl⟩ := build_eq_ok_iff.mp built
  exact valid_ofRecords complete edges

theorem Valid.isRenderable_iff {g : Graph} (valid : g.Valid) :
    g.isRenderable = true ↔ 0 < g.edgeCount := by
  rw [isRenderable, edgeCount, List.length_pos_iff]
  constructor
  · intro both
    simpa using (Bool.and_eq_true_iff.mp both).2
  · intro some_edge
    obtain ⟨e, member⟩ := List.exists_mem_of_ne_nil _ some_edge
    have present : g.nodes.contains e.source = true := (valid.ends e member).1
    rw [Std.TreeMap.isEmpty_eq_false_of_contains present]
    simpa using some_edge

/-- What a graph has to do with the records that it was built from. -/
structure Resolves (nodes : List NodeRecord) (edges : List EdgeRecord) (g : Graph) : Prop where
  contains_iff : ∀ id, g.contains id = true ↔ ∃ r ∈ nodes, r.id = some id
  node?_eq : ∀ id, g.node? id = (lastRecord? nodes id).map fun r => r.node id
  id_eq : ∀ (id : String) (n : Node), g.nodes[id]? = some n → n.id = id
  mem_nodeList : ∀ n : Node, n ∈ g.nodeList ↔ g.node? n.id = some n
  ascending : (g.nodeList.map Node.id).Pairwise fun a b => Text.utf8 a < Text.utf8 b
  edges_eq : g.edges = edges.filterMap (EdgeRecord.edge? g.contains)
  relation_ne : ∀ e ∈ g.edges, e.relation ≠ ""
  dropped : g.droppedEdges + g.edgeCount = edges.length
  renderable : g.isRenderable = true ↔ 0 < g.edgeCount

theorem resolves_ofRecords {nodes : List NodeRecord} (complete : ∀ r ∈ nodes, ¬ r.LacksId)
    (edges : List EdgeRecord) : (ofRecords nodes edges).Resolves nodes edges := by
  have valid := valid_ofRecords complete edges
  refine ⟨?_, node?_ofRecords complete edges, fun _ _ found => valid.keyed found,
    fun _ => valid.mem_nodeList, valid.ids_ascending, rfl, valid.related, ?_,
    valid.isRenderable_iff⟩
  · intro id
    rw [Graph.contains_iff]
    simp only [node?_ofRecords complete, Option.map_eq_some_iff]
    constructor
    · rintro ⟨_, r, last, _⟩
      exact ⟨r, mem_lastRecord? last⟩
    · rintro ⟨r, member, given⟩
      have occurs : (nodes.filter fun r => r.id = some id) ≠ [] :=
        List.ne_nil_of_mem (List.mem_filter.mpr ⟨member, decide_eq_true given⟩)
      exact ⟨_, _, List.getLast?_eq_some_getLast occurs, rfl⟩
  · have fewer : (ofRecords nodes edges).edges.length ≤ edges.length :=
      List.length_filterMap_le _ _
    exact Nat.sub_add_cancel fewer

/-- Building fails exactly when a record lacks an id, at the first such record, and otherwise the
graph is what the records say. -/
theorem build_resolves (nodes : List NodeRecord) (edges : List EdgeRecord) :
    ((∃ e, build nodes edges = .error e) ↔ ∃ r ∈ nodes, r.LacksId) ∧
      match build nodes edges with
      | .error e => e.fault.kind = .missingField ∧
          ∃ i, e.fault.noted? "index" = some (toString i) ∧ IsFirstLacking nodes i
      | .ok g => g.Resolves nodes edges := by
  cases built : build nodes edges with
  | error e =>
    have first := build_eq_error_iff.mp built
    obtain ⟨r, found, lacks⟩ := first.1
    refine ⟨⟨fun _ => ⟨r, List.mem_of_getElem? found, lacks⟩, fun _ => ⟨e, rfl⟩⟩, ?_⟩
    exact ⟨kind_fault e, e.index, noted?_fault e, first⟩
  | ok g =>
    obtain ⟨complete, rfl⟩ := build_eq_ok_iff.mp built
    refine ⟨⟨?_, ?_⟩, resolves_ofRecords complete edges⟩
    · rintro ⟨e, failed⟩
      cases failed
    · rintro ⟨r, member, lacks⟩
      exact absurd lacks (complete r member)

/-- Two records for `b` around one for `a`: the later one counts, and the edge to it stands while
the one that leads nowhere does not. -/
theorem build_resolves_doubled :
    let nodes : List NodeRecord := [⟨"b", "B", some 3, none⟩, ⟨"a", none, none, none⟩,
      ⟨"b", "", some 1, some "service"⟩]
    let edges : List EdgeRecord := [⟨none, "a", "b", none⟩, ⟨none, "a", "c", none⟩]
    ∃ g, build nodes edges = .ok g ∧ g.node? "b" = some ⟨"b", "b", 1, "service"⟩ ∧
      g.edges = [⟨none, "a", "b", "depends_on"⟩] ∧ g.droppedEdges + 1 = 2 := by
  intro nodes edges
  have spec := build_resolves nodes edges
  have complete : ¬ ∃ r ∈ nodes, r.LacksId := by simp [nodes, NodeRecord.LacksId]
  cases built : build nodes edges with
  | error e => exact absurd (spec.1.mp ⟨e, built⟩) complete
  | ok g =>
    rw [built] at spec
    have resolves : g.Resolves nodes edges := spec.2
    have known (id : String) : g.contains id = decide ("b" = id ∨ "a" = id) := by
      rw [Bool.eq_iff_iff, resolves.contains_iff]
      simp [nodes]
      tauto
    have kept : g.edges = [⟨none, "a", "b", "depends_on"⟩] := by
      rw [resolves.edges_eq, funext known]
      rfl
    have counted := resolves.dropped
    rw [edgeCount, kept] at counted
    exact ⟨g, rfl, by rw [resolves.node?_eq]; rfl, kept, counted⟩

end Graph

end Strata
