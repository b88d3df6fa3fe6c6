import Mathlib.Data.Finset.Card
import Std.Data.String.ToNat
import Strata.Proofs.GraphBuild
import Strata.Proofs.MixedScene

/-! The legend tells the truth. The colour of a layer is that of its rank among the layers present,
its nodes and its row of the legend show one and the same colour, and nodes that come in below a
layer change neither its colour nor its row. -/
namespace Strata

/-- The number of layers present above a layer. -/
def Graph.rank (g : Graph) (layer : Nat) : Nat :=
  ((g.nodeList.map Node.layer).toFinset.filter (· < layer)).card

theorem zipIdx_of_ascending {l : List Nat} (ascending : l.Pairwise (· < ·)) (start : Nat) :
    l.zipIdx start = l.map fun k => (k, start + (l.filter (· < k)).length) := by
  induction l generalizing start with
  | nil => rfl
  | cons first rest ih =>
    obtain ⟨least, ascending⟩ := List.pairwise_cons.mp ascending
    have none_less : rest.filter (· < first) = [] := by
      refine List.filter_eq_nil_iff.mpr ?_
      intro k member
      simpa using Nat.le_of_lt (least k member)
    rw [List.zipIdx_cons, ih ascending, List.map_cons, List.filter_cons_of_neg (by simp), none_less]
    refine congrArg ((first, start) :: ·) (List.map_congr_left ?_)
    intro k member
    rw [List.filter_cons_of_pos (by simpa using least k member), List.length_cons, Nat.add_assoc,
      Nat.add_comm 1]

namespace Graph

variable {g : Graph}

theorem rank_eq (g : Graph) (layer : Nat) :
    g.rank layer = (g.layers.filter (· < layer)).length := by
  have nodup : (g.layers.filter (· < layer)).Nodup :=
    (g.layers_ascending.imp Nat.ne_of_lt).filter _
  rw [rank, ← List.toFinset_card_of_nodup nodup]
  congr 1
  ext k
  simp [mem_layers]

theorem zipIdx_layers (g : Graph) :
    g.layers.zipIdx = g.layers.map fun layer => (layer, g.rank layer) := by
  simp only [zipIdx_of_ascending g.layers_ascending, Nat.zero_add, ← rank_eq]

theorem getElem?_rank {layer : Nat} (present : layer ∈ g.layers) :
    g.layers[g.rank layer]? = some layer := by
  have listed : (layer, g.rank layer) ∈ g.layers.zipIdx := by
    rw [zipIdx_layers]
    exact List.mem_map.mpr ⟨layer, present, rfl⟩
  exact List.mem_zipIdx_iff_getElem?.mp listed

theorem rank_inj {layer layer' : Nat} (present : layer ∈ g.layers) (present' : layer' ∈ g.layers)
    (same : g.rank layer = g.rank layer') : layer = layer' := by
  have found := getElem?_rank present
  rw [same, getElem?_rank present'] at found
  exact (Option.some.inj found).symm

/-- A graph with further nodes, all of them deeper than a layer. -/
structure GrowsBelow (g h : Graph) (layer : Nat) : Prop where
  kept : ∀ {id n}, g.node? id = some n → h.node? id = some n
  deeper : ∀ {id n}, h.node? id = some n → g.node? id = none → layer < n.layer

theorem GrowsBelow.mem_layers_iff {h : Graph} {layer k : Nat} (grown : g.GrowsBelow h layer)
    (gv : g.Valid) (hv : h.Valid) (above : k ≤ layer) : k ∈ h.layers ↔ k ∈ g.layers := by
  rw [gv.mem_layers_iff, hv.mem_layers_iff]
  constructor
  · rintro ⟨id, n, found, rfl⟩
    cases before : g.node? id with
    | none => exact absurd (grown.deeper found before) (Nat.not_lt.mpr above)
    | some m =>
      have same : m = n := Option.some.inj ((grown.kept before).symm.trans found)
      exact ⟨id, n, same ▸ before, rfl⟩
  · rintro ⟨id, n, found, rfl⟩
    exact ⟨id, n, grown.kept found, rfl⟩

theorem GrowsBelow.rank_eq {h : Graph} {layer : Nat} (grown : g.GrowsBelow h layer)
    (gv : g.Valid) (hv : h.Valid) : h.rank layer = g.rank layer := by
  have view (g : Graph) (k : Nat) : k ∈ (g.nodeList.map Node.layer).toFinset ↔ k ∈ g.layers := by
    rw [List.mem_toFinset, layers, mem_distinct]
  rw [rank, rank]
  congr 1
  ext k
  rw [Finset.mem_filter, Finset.mem_filter, view, view]
  constructor
  · rintro ⟨member, less⟩
    exact ⟨(grown.mem_layers_iff gv hv (Nat.le_of_lt less)).mp member, less⟩
  · rintro ⟨member, less⟩
    exact ⟨(grown.mem_layers_iff gv hv (Nat.le_of_lt less)).mpr member, less⟩

/-- Records with ids of their own come in anywhere among the records of a graph. -/
theorem growsBelow_ofRecords {nodes nodes' : List NodeRecord} (edges edges' : List EdgeRecord)
    {layer : Nat} (complete : ∀ r ∈ nodes', ¬ r.LacksId)
    (old : (nodes'.filter fun r => r.id ∈ nodes.map NodeRecord.id) = nodes)
    (fresh : ∀ r ∈ nodes', r.id ∉ nodes.map NodeRecord.id → layer < r.layer.getD 0) :
    (ofRecords nodes edges).GrowsBelow (ofRecords nodes' edges') layer := by
  have complete_old : ∀ r ∈ nodes, ¬ r.LacksId := by
    intro r member
    rw [← old] at member
    exact complete r (List.mem_filter.mp member).1
  have known {id : String} (known : some id ∈ nodes.map NodeRecord.id) :
      lastRecord? nodes' id = lastRecord? nodes id := by
    have ids : (nodes.filter fun r => r.id = some id) = nodes'.filter fun r => r.id = some id := by
      conv_lhs => rw [← old, List.filter_filter]
      refine List.filter_congr ?_
      intro r _
      by_cases same : r.id = some id <;> simp [same, known]
    rw [lastRecord?, lastRecord?, ids]
  refine ⟨?_, ?_⟩
  · intro id n found
    rw [node?_ofRecords complete_old] at found
    obtain ⟨r, last, rfl⟩ := Option.map_eq_some_iff.mp found
    obtain ⟨member, given⟩ := mem_lastRecord? last
    rw [node?_ofRecords complete, known (List.mem_map.mpr ⟨r, member, given⟩), last,
      Option.map_some]
  · intro id n found absent
    rw [node?_ofRecords complete] at found
    obtain ⟨r, last, rfl⟩ := Option.map_eq_some_iff.mp found
    obtain ⟨member, given⟩ := mem_lastRecord? last
    refine fresh r member ?_
    intro listed
    rw [given] at listed
    rw [node?_ofRecords complete_old, ← known listed, last] at absent
    cases absent

end Graph

/-- The palette in effect. -/
def shades (palette : List Color) : List Color := if palette.isEmpty then tab20 else palette

theorem length_shades_pos (palette : List Color) : 0 < (shades palette).length := by
  rw [shades]
  split
  · decide
  · next given => exact List.length_pos_iff.mpr fun empty => given (by rw [empty]; rfl)

theorem paletteColor_of_lt {palette : List Color} {rank : Nat} (inside : rank < palette.length) :
    paletteColor palette rank = palette[rank] := by
  simp only [paletteColor, Nat.mod_eq_of_lt inside, List.getElem?_eq_getElem inside,
    Option.getD_some]

theorem paletteColor_shades (palette : List Color) (rank : Nat) :
    ∃ inside : rank % (shades palette).length < (shades palette).length,
      paletteColor (shades palette) rank = (shades palette)[rank % (shades palette).length] := by
  have inside := Nat.mod_lt rank (length_shades_pos palette)
  exact ⟨inside, by rw [paletteColor, List.getElem?_eq_getElem inside, Option.getD_some]⟩

theorem paletteColor_inj {palette : List Color} (distinct : palette.Nodup) {i j : Nat}
    (hi : i < palette.length) (hj : j < palette.length)
    (same : paletteColor palette i = paletteColor palette j) : i = j := by
  rw [paletteColor_of_lt hi, paletteColor_of_lt hj] at same
  exact (distinct.getElem_inj_iff).mp same

theorem StyleSheet.layerColors_ranked (g : Graph) (palette : List Color) :
    (ofGraph g palette).layerColors =
      g.layers.map fun layer => (layer, paletteColor (shades palette) (g.rank layer)) := by
  simp only [ofGraph, g.zipIdx_layers, List.map_map]
  rfl

theorem StyleSheet.layerColor_ranked {g : Graph} (palette : List Color) {layer : Nat}
    (present : layer ∈ g.layers) :
    (ofGraph g palette).layerColor layer = paletteColor (shades palette) (g.rank layer) := by
  refine layerColor_of_mem ?_
  rw [layerColors_ranked]
  exact List.mem_map.mpr ⟨layer, present, rfl⟩

def Drawing.legendRows {α : Type} (d : Drawing α) : Drawing α := d.filter Command.isLegendEntry

namespace Scene

variable {α : Type} [Scalar α]

def rowOf (g : Graph) (spacing : Spacing α) (palette : List Color) (f : Figure α) (layer : Nat) :
    Command α :=
  let box := ((ofGraph g spacing palette).frame f).legend
  .legendEntry (box.swatch (g.rank layer)) (paletteColor (shades palette) (g.rank layer))
    (box.textAnchor (g.rank layer)) (legendLabel layer) box.fontSize

section

variable (g : Graph) (spacing : Spacing α) (palette : List Color) (f : Figure α)

theorem legendRows_paint : ((ofGraph g spacing palette).paint f).legendRows =
    g.layers.map (rowOf g spacing palette f) := by
  have picked : ∀ c : Command α, c.isLegendEntry = false →
      Option.guard Command.isLegendEntry c = none := by
    intro c other
    simp [Option.guard, other]
  rw [Drawing.legendRows, ← List.filterMap_eq_filter, filterMap_paint_entries _ f picked,
    ofGraph_styles, StyleSheet.layerColors_ranked, List.zipIdx_map, g.zipIdx_layers, List.map_map,
    List.filterMap_map, ← List.filterMap_eq_map]
  rfl

variable {g} in
theorem getElem?_legendRows {layer : Nat} (present : layer ∈ g.layers) :
    ((ofGraph g spacing palette).paint f).legendRows[g.rank layer]? =
      some (rowOf g spacing palette f layer) := by
  rw [legendRows_paint, List.getElem?_map, Graph.getElem?_rank present, Option.map_some]

/-- Other layers have a say in the row of a layer by its rank alone. -/
theorem rowOf_congr {h : Graph} {layer : Nat} (same : h.rank layer = g.rank layer) :
    rowOf h spacing palette f layer = rowOf g spacing palette f layer := by
  rw [rowOf, rowOf, same]
  rfl

theorem legendEntries_ranked : ((ofGraph g spacing palette).paint f).legendEntries =
    g.layers.map fun layer =>
      (legendLabel layer, paletteColor (shades palette) (g.rank layer)) := by
  rw [legendEntries_paint, ofGraph_styles, StyleSheet.layerColors_ranked, List.map_map]
  rfl

theorem legendLabel_inj {layer layer' : Nat} (same : legendLabel layer = legendLabel layer') :
    layer = layer' := by
  have digits : (toString layer : String) = toString layer' := by
    simpa [legendLabel] using same
  exact Nat.repr_inj.mp digits

theorem filter_legendEntries (layer : Nat) :
    (((ofGraph g spacing palette).paint f).legendEntries.filter fun entry =>
      entry.1 = legendLabel layer) =
    if layer ∈ g.layers then
      [(legendLabel layer, paletteColor (shades palette) (g.rank layer))]
    else [] := by
  have nodup : g.layers.Nodup := g.layers_ascending.imp Nat.ne_of_lt
  have picked : (g.layers.filter fun l => legendLabel l = legendLabel layer) =
      if layer ∈ g.layers then [layer] else [] := by
    have same : (g.layers.filter fun l => legendLabel l = legendLabel layer) =
        g.layers.filter (· = layer) := by
      refine List.filter_congr ?_
      intro l _
      rw [decide_eq_decide]
      exact ⟨legendLabel_inj, congrArg legendLabel⟩
    rw [same, List.filter_eq, nodup.count]
    split <;> rfl
  rw [legendEntries_ranked, List.filter_map, Function.comp_def, picked]
  split <;> rfl

variable {g} in
theorem nodes_ranked (valid : g.Valid) : ((ofGraph g spacing palette).paint f).nodes.Perm
    (g.nodeList.map fun n => ((ofGraph g spacing palette).place f n.id,
      ⟨paletteColor (shades palette) (g.rank n.layer), f.borderColor,
        f.pixels f.borderWidth⟩)) := by
  have drawn := nodes_mixed_perm g g g spacing palette f
  have everything : (g.nodeList.filter fun n => (mixed g g g spacing palette).places n.id &&
      decide (n.layer ∈ g.layers)) = g.nodeList := by
    refine List.filter_eq_self.mpr ?_
    intro n member
    rw [places_mixed g g spacing palette valid, valid.contains_of_mem member]
    simpa using Graph.mem_layers.mpr ⟨n, member, rfl⟩
  rw [everything] at drawn
  refine drawn.trans (.of_eq (List.map_congr_left ?_))
  intro n member
  rw [StyleSheet.layerColor_ranked palette (Graph.mem_layers.mpr ⟨n, member, rfl⟩)]
  rfl

end

/-- The legend of a graph's drawing says of each layer what the drawing shows. -/
structure Truthful (g : Graph) (s : Scene α) (palette : List Color) (f : Figure α) : Prop where
  /-- The colour of any rank is found within the palette. -/
  inside : ∀ rank, ∃ inside : rank % (shades palette).length < (shades palette).length,
    paletteColor (shades palette) rank = (shades palette)[rank % (shades palette).length]
  nodes : (s.paint f).nodes.Perm (g.nodeList.map fun n => (s.place f n.id,
    ⟨paletteColor (shades palette) (g.rank n.layer), f.borderColor, f.pixels f.borderWidth⟩))
  mem_layers : ∀ layer, layer ∈ g.layers ↔ ∃ id n, g.node? id = some n ∧ n.layer = layer
  /-- A layer that is present has one entry, in the colour of its nodes, and no other has any. -/
  entries : ∀ layer, ((s.paint f).legendEntries.filter fun entry =>
      entry.1 = "Layer " ++ toString layer) =
    if layer ∈ g.layers then
      [("Layer " ++ toString layer, paletteColor (shades palette) (g.rank layer))]
    else []
  length_entries : (s.paint f).legendEntries.length = g.layers.length
  /-- Until the palette starts again, different layers have different colours. -/
  apart : (shades palette).Nodup → ∀ layer ∈ g.layers, ∀ layer' ∈ g.layers,
    g.rank layer < (shades palette).length → g.rank layer' < (shades palette).length →
      layer ≠ layer' → paletteColor (shades palette) (g.rank layer) ≠
        paletteColor (shades palette) (g.rank layer')

/-- The legend is truthful for every graph that was built, and a layer's colour and its row stay
as they are when nodes come in below it. -/
theorem legend_truthful {nodes : List NodeRecord} {edges : List EdgeRecord} {g : Graph}
    (built : Graph.build nodes edges = .ok g) (spacing : Spacing α) (palette : List Color)
    (f : Figure α) :
    Truthful g (ofGraph g spacing palette) palette f ∧
      ∀ {nodes' edges' h}, Graph.build nodes' edges' = .ok h →
        ∀ layer ∈ g.layers, g.GrowsBelow h layer →
          (StyleSheet.ofGraph h palette).layerColor layer =
            (StyleSheet.ofGraph g palette).layerColor layer ∧
          ∃ swatch anchor fontSize,
            let row : Command α := .legendEntry swatch
              ((StyleSheet.ofGraph g palette).layerColor layer) anchor
              ("Layer " ++ toString layer) fontSize
            ((ofGraph g spacing palette).paint f).legendRows[g.rank layer]? = some row ∧
              ((ofGraph h spacing palette).paint f).legendRows[g.rank layer]? = some row := by
  have valid := Graph.valid_of_build built
  refine ⟨⟨paletteColor_shades palette, nodes_ranked spacing palette f valid,
    fun _ => valid.mem_layers_iff, ?_, ?_, ?_⟩, ?_⟩
  · exact filter_legendEntries g spacing palette f
  · rw [legendEntries_ranked, List.length_map]
  · intro distinct layer present layer' present' inside inside' other same
    exact other (Graph.rank_inj present present' (paletteColor_inj distinct inside inside' same))
  · intro nodes' edges' h built' layer present grown
    have valid' := Graph.valid_of_build built'
    have ranks := grown.rank_eq valid valid'
    have present' : layer ∈ h.layers :=
      (grown.mem_layers_iff valid valid' (Nat.le_refl _)).mpr present
    have row := getElem?_legendRows spacing palette f present
    have row' := getElem?_legendRows spacing palette f present'
    rw [ranks, rowOf_congr g spacing palette f ranks] at row'
    rw [StyleSheet.layerColor_ranked palette present, StyleSheet.layerColor_ranked palette present',
      ranks]
    exact ⟨rfl, _, _, _, row, row'⟩

/-- Two further nodes below the upper one of two layers, one of them above the other layer. -/
theorem legend_truthful_inserted :
    let nodes : List NodeRecord := [⟨"a", none, some 2, none⟩, ⟨"b", none, some 5, none⟩]
    let nodes' : List NodeRecord := [⟨"d", none, some 3, none⟩, ⟨"a", none, some 2, none⟩,
      ⟨"c", none, some 9, none⟩, ⟨"b", none, some 5, none⟩]
    ∃ g h, Graph.build nodes [] = .ok g ∧ Graph.build nodes' [] = .ok h ∧ 2 ∈ g.layers ∧
      g.GrowsBelow h 2 ∧
      (((ofGraph g (Spacing.default : Spacing Float) []).paint .default).legendEntries.filter
        fun entry => entry.1 = "Layer 2") = [("Layer 2", ⟨0x1f, 0x77, 0xb4⟩)] ∧
      (StyleSheet.ofGraph h []).layerColor 2 = (StyleSheet.ofGraph g []).layerColor 2 := by
  intro nodes nodes'
  have named : ∀ r ∈ nodes, ¬ r.LacksId := by simp [nodes, NodeRecord.LacksId]
  have named' : ∀ r ∈ nodes', ¬ r.LacksId := by simp [nodes', NodeRecord.LacksId]
  have built : Graph.build nodes [] = .ok (Graph.ofRecords nodes []) :=
    Graph.build_eq_ok_iff.mpr ⟨named, rfl⟩
  have built' : Graph.build nodes' [] = .ok (Graph.ofRecords nodes' []) :=
    Graph.build_eq_ok_iff.mpr ⟨named', rfl⟩
  have present : 2 ∈ (Graph.ofRecords nodes []).layers := by decide +kernel
  have grown : (Graph.ofRecords nodes []).GrowsBelow (Graph.ofRecords nodes' []) 2 :=
    Graph.growsBelow_ofRecords [] [] named' (by decide) (by decide)
  obtain ⟨truthful, stable⟩ := legend_truthful built (Spacing.default : Spacing Float) [] .default
  refine ⟨_, _, built, built', present, grown, ?_, (stable built' 2 present grown).1⟩
  exact (truthful.entries 2).trans (by decide +kernel)

end Scene

end Strata
