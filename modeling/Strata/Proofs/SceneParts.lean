import Mathlib.Data.List.Basic
import Strata.Drawing.Painting
import Strata.Proofs.GraphParts

/-! What a graph's own layout and styles cover: every node has a place, every layer a colour and
every relation its pattern, so nothing is left out when they are drawn. -/
namespace Strata

variable {α : Type} [Scalar α]

@[simp] theorem map_fst_rowPlaces (spacing : Spacing α) (layer : Nat) (ids : List String) :
    (rowPlaces spacing layer ids).map Prod.fst = ids := by
  rw [rowPlaces, List.map_map]
  exact List.zipIdx_map_fst 0 ids

/-- The ids that places are made for, row by row. -/
theorem Graph.placed_ids (g : Graph) (spacing : Spacing α) :
    (g.layerMembers.flatMap fun row => rowPlaces spacing row.1 row.2).map Prod.fst =
      (g.layers.flatMap g.nodesIn).map Node.id := by
  rw [List.map_flatMap, layerMembers_eq, List.flatMap_map, List.map_flatMap]
  simp only [map_fst_rowPlaces]

/-- A layout has places for the nodes and for nothing else. -/
theorem Graph.Valid.isSome_position? {g : Graph} (valid : g.Valid) (spacing : Spacing α)
    (id : String) : ((g.layout spacing).position? id).isSome = g.contains id := by
  rw [Layout.position?, ← Std.TreeMap.contains_eq_isSome_getElem?, Bool.eq_iff_iff,
    ← Std.TreeMap.mem_iff_contains, layout, mem_foldl_insert Prod.fst Prod.snd, placed_ids,
    g.nodesIn_perm.map Node.id |>.mem_iff, valid.mem_ids, contains_iff]
  simp only [Std.TreeMap.not_mem_emptyc, false_or]

theorem Graph.Valid.exists_position? {g : Graph} (valid : g.Valid) (spacing : Spacing α)
    {id : String} (present : g.contains id = true) :
    ∃ p, (g.layout spacing).position? id = some p :=
  Option.isSome_iff_exists.mp ((valid.isSome_position? spacing id).trans present)

theorem Graph.Valid.label_eq {g : Graph} (valid : g.Valid) {n : Node} (member : n ∈ g.nodeList) :
    n.label = if n.name.length ≤ 26 then n.name
      else String.ofList (n.name.toList.take 23 ++ ['…']) := by
  have named : n.name.isEmpty = false :=
    String.isEmpty_eq_false_iff.mpr (valid.named (valid.mem_nodeList.mp member)).2
  rw [Node.label, named]
  rfl

theorem Graph.Valid.label_ne_empty {g : Graph} (valid : g.Valid) {n : Node}
    (member : n ∈ g.nodeList) : n.label ≠ "" := by
  rw [valid.label_eq member]
  split
  · exact (valid.named (valid.mem_nodeList.mp member)).2
  · intro empty
    simpa using congrArg String.toList empty

namespace StyleSheet

theorem edgePattern_ofGraph (g : Graph) (palette : List Color) (relation : String) :
    (ofGraph g palette).edgePattern relation = .ofRelation relation := by
  simp only [edgePattern, ofGraph, lookup_map_pair]
  split <;> rfl

theorem map_fst_layerColors (g : Graph) (palette : List Color) :
    (ofGraph g palette).layerColors.map Prod.fst = g.layers := by
  simp only [ofGraph, List.map_map]
  exact List.zipIdx_map_fst 0 g.layers

/-- The colour listed for a layer is the one that looking it up gives. -/
theorem layerColor_of_mem {g : Graph} {palette : List Color} {layer : Nat} {color : Color}
    (member : (layer, color) ∈ (ofGraph g palette).layerColors) :
    (ofGraph g palette).layerColor layer = color := by
  have nodup : ((ofGraph g palette).layerColors.map Prod.fst).Nodup := by
    rw [map_fst_layerColors]
    exact g.layers_ascending.imp Nat.ne_of_lt
  rw [layerColor, lookup_of_mem nodup member, Option.getD_some]

/-- The colours as they are looked up, layers ascending. -/
theorem layerColors_eq (g : Graph) (palette : List Color) : (ofGraph g palette).layerColors =
    g.layers.map fun layer => (layer, (ofGraph g palette).layerColor layer) := by
  rw [← map_fst_layerColors g palette, List.map_map]
  refine (List.map_id _).symm.trans (List.map_congr_left ?_)
  rintro ⟨layer, color⟩ member
  simp only [id_eq, Function.comp_apply, layerColor_of_mem member]

theorem isEmpty_layerColors (g : Graph) (palette : List Color) :
    (ofGraph g palette).layerColors.isEmpty = true ↔ g.nodeList = [] := by
  rw [layerColors_eq, List.isEmpty_iff, List.map_eq_nil_iff, Graph.layers_eq_nil_iff]

end StyleSheet

end Strata
