import Mathlib.Algebra.Ring.Nat
import Strata.Proofs.GraphBuild

/-! The groups of a graph share out what they group: the ids of the nodes by layer and the edges by
relation. Under each key stands what has that key, in the order of the list that was shared out, so
nothing is lost, nothing is there twice, and what the list repeats stays repeated. -/
namespace Strata

section

variable {κ β γ : Type} [Ord κ] [DecidableEq κ]

/-- Groups under strictly ascending keys, one for each key that occurs in a list, with what has that
key in the order of the list. -/
structure SharesOut (key : β → κ) (l : List β) (groups : List (κ × List β)) : Prop where
  ascending : AscendingBy Prod.fst groups
  occurs : ∀ k, k ∈ groups.map Prod.fst ↔ k ∈ l.map key
  group_eq : ∀ group ∈ groups, group.2 = l.filter fun b => key b = group.1

theorem sharesOut_groupBy [Std.TransOrd κ] [Std.LawfulEqOrd κ] (key : β → κ) (l : List β) :
    SharesOut key l (groupBy key l).toList := by
  refine ⟨toList_ascending _, ?_, ?_⟩
  · intro k
    simp only [toList_groupBy, List.map_map, Function.comp_def, List.map_id', mem_distinct]
  · rintro ⟨k, group⟩ member
    have found := Std.TreeMap.mem_toList_iff_getElem?_eq_some.mp member
    exact ((gathers_groupBy key l k group).mp found).2

namespace SharesOut

variable {key : β → κ} {l : List β} {groups : List (κ × List β)}

theorem map {f : β → γ} {key' : γ → κ} (shares : SharesOut key l groups)
    (keeps : ∀ b ∈ l, key' (f b) = key b) :
    SharesOut key' (l.map f) (groups.map fun group => (group.1, group.2.map f)) := by
  refine ⟨.map shares.ascending, ?_, ?_⟩
  · intro k
    have same : (l.map f).map key' = l.map key := by
      rw [List.map_map]
      exact List.map_congr_left keeps
    rw [same, ← shares.occurs, List.map_map]
    rfl
  · intro renamed member
    obtain ⟨group, there, rfl⟩ := List.mem_map.mp member
    rw [List.filter_map, shares.group_eq group there]
    refine congrArg (List.map f) (List.filter_congr ?_)
    intro b inside
    rw [Function.comp_apply, keeps b inside]

variable (shares : SharesOut key l groups)

include shares

theorem mem_iff {group : κ × List β} (member : group ∈ groups) {b : β} :
    b ∈ group.2 ↔ b ∈ l ∧ key b = group.1 := by
  rw [shares.group_eq group member, List.mem_filter, decide_eq_true_eq]

theorem ne_nil {group : κ × List β} (member : group ∈ groups) : group.2 ≠ [] := by
  have present : group.1 ∈ groups.map Prod.fst := List.mem_map_of_mem member
  obtain ⟨b, inside, same⟩ := List.mem_map.mp ((shares.occurs group.1).mp present)
  exact List.ne_nil_of_mem ((shares.mem_iff member).mpr ⟨inside, same⟩)

theorem count_eq [BEq β] [LawfulBEq β] {group : κ × List β} (member : group ∈ groups) {b : β}
    (same : key b = group.1) : group.2.count b = l.count b := by
  rw [shares.group_eq group member]
  exact List.count_filter (decide_eq_true same)

theorem exists_own {b : β} (inside : b ∈ l) :
    ∃ group, (key b, group) ∈ groups ∧ b ∈ group ∧
      ∀ other ∈ groups, b ∈ other.2 → other = (key b, group) := by
  have present : key b ∈ groups.map Prod.fst :=
    (shares.occurs _).mpr (List.mem_map_of_mem inside)
  obtain ⟨⟨_, group⟩, member, rfl⟩ := List.mem_map.mp present
  refine ⟨group, member, (shares.mem_iff member).mpr ⟨inside, rfl⟩, ?_⟩
  rintro ⟨k, other⟩ there elsewhere
  obtain rfl : key b = k := ((shares.mem_iff there).mp elsewhere).2
  exact Prod.ext rfl ((shares.group_eq _ there).trans (shares.group_eq _ member).symm)

variable [Std.TransOrd κ]

/-- Together the groups are the list, up to order. -/
theorem flatMap_perm : (groups.flatMap Prod.snd).Perm l := by
  have keys : AscendingBy id (groups.map Prod.fst) := .map shares.ascending
  have filters : groups.flatMap Prod.snd =
      (groups.map Prod.fst).flatMap fun k => l.filter fun b => key b = k := by
    rw [List.flatMap_map]
    exact List.flatMap_congr shares.group_eq
  rw [filters]
  refine flatMap_filter_perm key keys.nodup l ?_
  intro b inside
  exact (shares.occurs _).mpr (List.mem_map_of_mem inside)

theorem sum_length : (groups.map fun group => group.2.length).sum = l.length := by
  rw [← shares.flatMap_perm.length_eq, List.length_flatMap]

end SharesOut

end

namespace Graph

/-- The layer of the node with an id; an id without a node, which no group holds, counts as 0. -/
def layerOf (g : Graph) (id : String) : Nat := (g.node? id).elim 0 Node.layer

theorem layerOf_eq {g : Graph} {id : String} {n : Node} (found : g.node? id = some n) :
    g.layerOf id = n.layer := by
  rw [layerOf, found]
  rfl

theorem Valid.layerMembers_shareOut {g : Graph} (valid : g.Valid) :
    SharesOut g.layerOf (g.nodeList.map Node.id) g.layerMembers :=
  (sharesOut_groupBy Node.layer g.nodeList).map fun _ member =>
    layerOf_eq (valid.mem_nodeList.mp member)

theorem edgesByRelation_shareOut (g : Graph) :
    SharesOut Edge.relation g.edges g.edgesByRelation := sharesOut_groupBy Edge.relation g.edges

/-- The layers share out the ids of the nodes. -/
structure LayersShareIds (g : Graph) : Prop where
  layers_ascending : g.layers.Pairwise (· < ·)
  mem_layers : ∀ layer, layer ∈ g.layers ↔ ∃ id n, g.node? id = some n ∧ n.layer = layer
  keys_eq : g.layerMembers.map Prod.fst = g.layers
  ne_nil : ∀ group ∈ g.layerMembers, group.2 ≠ []
  ids_ascending : ∀ group ∈ g.layerMembers,
    group.2.Pairwise fun a b => Text.utf8 a < Text.utf8 b
  mem_iff : ∀ group ∈ g.layerMembers, ∀ id,
    id ∈ group.2 ↔ ∃ n, g.node? id = some n ∧ n.layer = group.1
  own : ∀ id n, g.node? id = some n → ∃ ids, (n.layer, ids) ∈ g.layerMembers ∧ id ∈ ids ∧
    ∀ group ∈ g.layerMembers, id ∈ group.2 → group = (n.layer, ids)
  once : ∀ id n, g.node? id = some n → (g.layerMembers.flatMap Prod.snd).count id = 1
  sizes : (g.layerMembers.map fun group => group.2.length).sum = g.nodeCount

/-- The relations share out the edges. -/
structure RelationsShareEdges (g : Graph) : Prop where
  relations_ascending : g.relations.Pairwise fun a b => Text.utf8 a < Text.utf8 b
  mem_relations : ∀ relation, relation ∈ g.relations ↔ ∃ e ∈ g.edges, e.relation = relation
  keys_eq : g.edgesByRelation.map Prod.fst = g.relations
  ne_nil : ∀ group ∈ g.edgesByRelation, group.2 ≠ []
  group_eq : ∀ group ∈ g.edgesByRelation,
    group.2 = g.edges.filter fun e => e.relation = group.1
  count_eq : ∀ group ∈ g.edgesByRelation, ∀ e : Edge, e.relation = group.1 →
    group.2.count e = g.edges.count e
  sizes : (g.edgesByRelation.map fun group => group.2.length).sum = g.edgeCount

theorem Valid.layersShareIds {g : Graph} (valid : g.Valid) : g.LayersShareIds := by
  have shares := valid.layerMembers_shareOut
  -- the layer that an id is shared out by is that of the node it finds
  have mem {group} (member : group ∈ g.layerMembers) (id : String) :
      id ∈ group.2 ↔ ∃ n, g.node? id = some n ∧ n.layer = group.1 := by
    rw [shares.mem_iff member, valid.mem_ids]
    constructor
    · rintro ⟨⟨n, found⟩, same⟩
      exact ⟨n, found, (layerOf_eq found).symm.trans same⟩
    · rintro ⟨n, found, same⟩
      exact ⟨⟨n, found⟩, (layerOf_eq found).trans same⟩
  refine ⟨layers_ascending g, fun _ => valid.mem_layers_iff, ?_, fun _ => shares.ne_nil, ?_,
    fun _ => mem, ?_, ?_, ?_⟩
  · rw [layerMembers_eq, List.map_map]
    exact List.map_id _
  · intro group member
    rw [shares.group_eq group member]
    exact valid.ids_ascending.filter _
  · intro id n found
    have own := shares.exists_own (valid.mem_ids.mpr ⟨n, found⟩)
    rwa [layerOf_eq found] at own
  · intro id n found
    rw [shares.flatMap_perm.count_eq]
    exact List.count_eq_one_of_mem valid.nodup_ids (valid.mem_ids.mpr ⟨n, found⟩)
  · rw [shares.sum_length, List.length_map, nodeCount_eq]

theorem relationsShareEdges (g : Graph) : g.RelationsShareEdges := by
  have shares := g.edgesByRelation_shareOut
  refine ⟨relations_ascending g, fun _ => Graph.mem_relations, ?_, fun _ => shares.ne_nil,
    shares.group_eq, fun _ member _ => shares.count_eq member, shares.sum_length⟩
  rw [edgesByRelation_eq, List.map_map]
  exact List.map_id _

/-- In a graph that was built, the layers share out the nodes and the relations the edges. -/
theorem groups_partition {nodes : List NodeRecord} {edges : List EdgeRecord} {g : Graph}
    (built : build nodes edges = .ok g) : g.LayersShareIds ∧ g.RelationsShareEdges :=
  ⟨(valid_of_build built).layersShareIds, g.relationsShareEdges⟩

/-- Two records for one node, of which the later one names the layer, and an edge that is there
twice. -/
theorem groups_partition_repeated :
    let nodes : List NodeRecord := [⟨"z", none, none, none⟩, ⟨"m", none, none, none⟩,
      ⟨"z", none, some 1, none⟩, ⟨"b", none, some 1, none⟩]
    let twice : Edge := ⟨none, "z", "m", "observes"⟩
    let edges : List EdgeRecord := [⟨none, "z", "m", "observes"⟩, ⟨none, "b", "m", none⟩,
      ⟨none, "z", "m", "observes"⟩]
    ∃ g, build nodes edges = .ok g ∧ g.layerMembers.map Prod.fst = [0, 1] ∧
      (g.layerMembers.flatMap Prod.snd).count "z" = 1 ∧
      ("observes", [twice, twice]) ∈ g.edgesByRelation ∧
      (g.edgesByRelation.map fun group => group.2.length).sum = 3 := by
  intro nodes twice edges
  have named : ∀ r ∈ nodes, ¬ r.LacksId := by simp [nodes, NodeRecord.LacksId]
  let g := ofRecords nodes edges
  have built : build nodes edges = .ok g := build_eq_ok_iff.mpr ⟨named, rfl⟩
  obtain ⟨layers, relations⟩ := groups_partition built
  have shown : ("observes", [twice, twice]) ∈ g.edgesByRelation := by
    have present : "observes" ∈ g.edgesByRelation.map Prod.fst := by
      rw [relations.keys_eq]
      decide +kernel
    obtain ⟨⟨_, group⟩, member, rfl⟩ := List.mem_map.mp present
    have observing : (g.edges.filter fun e => e.relation = "observes") = [twice, twice] := by
      decide +kernel
    obtain rfl : group = [twice, twice] := (relations.group_eq _ member).trans observing
    exact member
  exact ⟨g, built, layers.keys_eq.trans (by decide +kernel),
    layers.once "z" ⟨"z", "z", 1, "unknown"⟩ (by decide +kernel), shown,
    relations.sizes.trans (by decide +kernel)⟩

end Graph

end Strata
