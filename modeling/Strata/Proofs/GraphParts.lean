import Mathlib.Data.List.Basic
import Strata.Graph
import Strata.Proofs.ByteOrder
import Strata.Proofs.Grouping

/-! The views of a graph: its nodes as a list, its layers and its relations. Under the invariant of
graphs that were built, every view is a canonical list, and the groups of a view share out the nodes
or the edges among themselves. -/
namespace Strata.Graph

/-- What holds of every graph that was built. -/
structure Valid (g : Graph) : Prop where
  keyed : ∀ {id n}, g.node? id = some n → n.id = id
  named : ∀ {id n}, g.node? id = some n → n.id ≠ "" ∧ n.name ≠ ""
  ends : ∀ e ∈ g.edges, g.contains e.source = true ∧ g.contains e.target = true
  related : ∀ e ∈ g.edges, e.relation ≠ ""

variable {g : Graph}

theorem contains_iff {id : String} : g.contains id = true ↔ ∃ n, g.node? id = some n := by
  rw [contains, Std.TreeMap.contains_eq_isSome_getElem?, Option.isSome_iff_exists]
  rfl

theorem nodeCount_eq (g : Graph) : g.nodeCount = g.nodeList.length := by
  rw [nodeCount, nodeList, values_eq_map_toList, List.length_map, Std.TreeMap.length_toList]

theorem Valid.mem_nodeList (valid : g.Valid) {n : Node} :
    n ∈ g.nodeList ↔ g.node? n.id = some n := by
  rw [nodeList, values_eq_map_toList, List.mem_map]
  constructor
  · rintro ⟨⟨id, n⟩, member, rfl⟩
    have found : g.node? id = some n := Std.TreeMap.mem_toList_iff_getElem?_eq_some.mp member
    rw [valid.keyed found, found]
  · intro found
    exact ⟨(n.id, n), Std.TreeMap.mem_toList_iff_getElem?_eq_some.mpr found, rfl⟩

theorem Valid.contains_of_mem (valid : g.Valid) {n : Node} (member : n ∈ g.nodeList) :
    g.contains n.id = true := contains_iff.mpr ⟨n, valid.mem_nodeList.mp member⟩

theorem Valid.mem_ids (valid : g.Valid) {id : String} :
    id ∈ g.nodeList.map Node.id ↔ ∃ n, g.node? id = some n := by
  rw [List.mem_map]
  constructor
  · rintro ⟨n, member, rfl⟩
    exact ⟨n, valid.mem_nodeList.mp member⟩
  · rintro ⟨n, found⟩
    have same := valid.keyed found
    exact ⟨n, valid.mem_nodeList.mpr (same ▸ found), same⟩

theorem Valid.nodeList_ascending (valid : g.Valid) : AscendingBy Node.id g.nodeList := by
  have keyed : ∀ e ∈ g.nodes.toList, e.2.id = e.1 := by
    intro e member
    exact valid.keyed (Std.TreeMap.mem_toList_iff_getElem?_eq_some.mp member)
  rw [nodeList, values_eq_map_toList]
  refine List.pairwise_map.mpr ((toList_ascending g.nodes).imp_of_mem ?_)
  intro a b ha hb less
  rwa [keyed a ha, keyed b hb]

/-- The ids ascend in the order of their bytes. -/
theorem Valid.ids_ascending (valid : g.Valid) :
    (g.nodeList.map Node.id).Pairwise fun a b => Text.utf8 a < Text.utf8 b := by
  refine List.pairwise_map.mpr (valid.nodeList_ascending.imp ?_)
  intro a b less
  exact (Text.compare_eq_lt_iff_utf8 _ _).mp less

theorem Valid.nodup_ids (valid : g.Valid) : (g.nodeList.map Node.id).Nodup := by
  refine valid.ids_ascending.imp ?_
  rintro a _ less rfl
  exact List.lt_irrefl _ less

theorem layers_ascending (g : Graph) : g.layers.Pairwise (· < ·) :=
  (distinct_ascending _).imp fun less => Nat.compare_eq_lt.mp less

theorem mem_layers {layer : Nat} : layer ∈ g.layers ↔ ∃ n ∈ g.nodeList, n.layer = layer := by
  rw [layers, mem_distinct, List.mem_map]

theorem Valid.mem_layers_iff (valid : g.Valid) {layer : Nat} :
    layer ∈ g.layers ↔ ∃ id n, g.node? id = some n ∧ n.layer = layer := by
  rw [mem_layers]
  constructor
  · rintro ⟨n, member, same⟩
    exact ⟨n.id, n, valid.mem_nodeList.mp member, same⟩
  · rintro ⟨id, n, found, same⟩
    refine ⟨n, valid.mem_nodeList.mpr ?_, same⟩
    rw [valid.keyed found, found]

theorem layers_eq_nil_iff : g.layers = [] ↔ g.nodeList = [] := by
  simp only [List.eq_nil_iff_forall_not_mem, mem_layers]
  constructor
  · intro none n member
    exact none n.layer ⟨n, member, rfl⟩
  · rintro none layer ⟨n, member, _⟩
    exact none n member

/-- The nodes of a layer. -/
def nodesIn (g : Graph) (layer : Nat) : List Node := g.nodeList.filter fun n => n.layer = layer

theorem layerMembers_eq (g : Graph) :
    g.layerMembers = g.layers.map fun layer => (layer, (g.nodesIn layer).map Node.id) := by
  rw [layerMembers, toList_groupBy, List.map_map]
  rfl

/-- The layers share out the nodes. -/
theorem nodesIn_perm (g : Graph) : (g.layers.flatMap g.nodesIn).Perm g.nodeList :=
  distinct_flatMap_filter_perm Node.layer g.nodeList

theorem nodesIn_eq_nil_iff {layer : Nat} : g.nodesIn layer = [] ↔ layer ∉ g.layers := by
  rw [nodesIn, List.filter_eq_nil_iff, mem_layers]
  simp

/-- A layer that is absent has no members. -/
theorem lookup_layerMembers (g : Graph) (layer : Nat) :
    (g.layerMembers.lookup layer).getD [] = (g.nodesIn layer).map Node.id := by
  rw [layerMembers_eq, lookup_map_pair fun layer => (g.nodesIn layer).map Node.id]
  split
  · rfl
  · next absent => rw [nodesIn_eq_nil_iff.mpr absent]; rfl

theorem relations_ascending (g : Graph) :
    g.relations.Pairwise fun a b => Text.utf8 a < Text.utf8 b :=
  (distinct_ascending _).imp fun less => (Text.compare_eq_lt_iff_utf8 _ _).mp less

theorem mem_relations {relation : String} :
    relation ∈ g.relations ↔ ∃ e ∈ g.edges, e.relation = relation := by
  rw [relations, mem_distinct, List.mem_map]

/-- The edges of a relation, in the order of the input. -/
def edgesOf (g : Graph) (relation : String) : List Edge :=
  g.edges.filter fun e => e.relation = relation

theorem edgesByRelation_eq (g : Graph) :
    g.edgesByRelation = g.relations.map fun relation => (relation, g.edgesOf relation) :=
  toList_groupBy Edge.relation g.edges

end Strata.Graph
