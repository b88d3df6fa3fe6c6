import Mathlib.Data.Set.Image
import Mathlib.Order.Bounds.Basic
import Mathlib.Tactic.Linarith
import Strata.Proofs.RealScalar
import Strata.Proofs.SceneParts

/-! The layout in exact arithmetic. A node lies in the row of its layer at the slot that its id has
there, and the bounds of the layout are attained on all four sides. -/
namespace Strata

section

variable {α : Type} [Scalar α] {g : Graph}

theorem mem_rowPlaces (spacing : Spacing α) (layer : Nat) {i : Nat} {ids : List String}
    {id : String} (here : ids[i]? = some id) :
    (id, ⟨slotX i ids.length spacing.xGap, layerY layer spacing.yGap⟩) ∈
      rowPlaces spacing layer ids :=
  List.mem_map.mpr ⟨(id, i), List.mk_mem_zipIdx_iff_getElem?.mpr here, rfl⟩

/-- Where a node lies, from its index in its layer. -/
theorem Graph.Valid.position?_eq (valid : g.Valid) (spacing : Spacing α) {layer i : Nat} {n : Node}
    (here : (g.nodesIn layer)[i]? = some n) :
    (g.layout spacing).position? n.id =
      some ⟨slotX i (g.nodesIn layer).length spacing.xGap, layerY layer spacing.yGap⟩ := by
  have inLayer : n ∈ g.nodesIn layer := List.mem_of_getElem? here
  obtain ⟨member, same⟩ := List.mem_filter.mp inLayer
  have present : layer ∈ g.layers := Graph.mem_layers.mpr ⟨n, member, of_decide_eq_true same⟩
  have once : ((g.layerMembers.flatMap fun row =>
      rowPlaces spacing row.1 row.2).map Prod.fst).Nodup := by
    rw [placed_ids, (g.nodesIn_perm.map Node.id).nodup_iff]
    exact valid.nodup_ids
  have placed : (n.id, ⟨slotX i (g.nodesIn layer).length spacing.xGap,
      layerY layer spacing.yGap⟩) ∈ g.layerMembers.flatMap fun row =>
        rowPlaces spacing row.1 row.2 := by
    rw [layerMembers_eq, List.flatMap_map]
    refine List.mem_flatMap.mpr ⟨layer, present, ?_⟩
    have known : ((g.nodesIn layer).map Node.id)[i]? = some n.id := by simp [here]
    have slot := mem_rowPlaces spacing layer known
    rwa [List.length_map] at slot
  exact getElem?_foldl_insert_of_mem Prod.fst Prod.snd once placed ∅

theorem Graph.Valid.exists_slot (valid : g.Valid) (spacing : Spacing α) {n : Node}
    (member : n ∈ g.nodeList) : ∃ i < (g.nodesIn n.layer).length,
      (g.layout spacing).position? n.id =
        some ⟨slotX i (g.nodesIn n.layer).length spacing.xGap, layerY n.layer spacing.yGap⟩ := by
  have inLayer : n ∈ g.nodesIn n.layer := List.mem_filter.mpr ⟨member, by simp⟩
  obtain ⟨i, small, here⟩ := List.mem_iff_getElem.mp inLayer
  exact ⟨i, small, valid.position?_eq spacing (List.getElem?_eq_some_iff.mpr ⟨small, here⟩)⟩

/-- The places of a layout. -/
def Layout.points {α : Type} (l : Layout α) : Set (Point α) := {p | ∃ id, l.position? id = some p}

/-- The places of a graph's layout are the slots of its rows. -/
theorem Graph.Valid.mem_points_iff (valid : g.Valid) (spacing : Spacing α) {p : Point α} :
    p ∈ (g.layout spacing).points ↔ ∃ layer, ∃ i < (g.nodesIn layer).length,
      p = ⟨slotX i (g.nodesIn layer).length spacing.xGap, layerY layer spacing.yGap⟩ := by
  constructor
  · rintro ⟨id, found⟩
    have present : g.contains id = true := by
      rw [← valid.isSome_position? spacing, found, Option.isSome_some]
    obtain ⟨n, given⟩ := Graph.contains_iff.mp present
    obtain rfl := valid.keyed given
    obtain ⟨i, small, slot⟩ := valid.exists_slot spacing (valid.mem_nodeList.mpr given)
    exact ⟨n.layer, i, small, Option.some.inj (found.symm.trans slot)⟩
  · rintro ⟨layer, i, small, rfl⟩
    exact ⟨_, valid.position?_eq spacing (List.getElem?_eq_some_iff.mpr ⟨small, rfl⟩)⟩

end

theorem slotX_real (index count : Nat) (gap : ℝ) :
    slotX index count gap = (index - (count - 1) / 2) * gap := by
  norm_num [slotX]

theorem layerY_real (layer : Nat) (gap : ℝ) : layerY layer gap = -(layer * gap) := by
  norm_num [layerY]

/-- The least bounds of points: each of the four is attained. -/
structure Bounds.IsTight (b : Bounds ℝ) (points : Set (Point ℝ)) : Prop where
  minX : IsLeast (Point.x '' points) b.minX
  maxX : IsGreatest (Point.x '' points) b.maxX
  minY : IsLeast (Point.y '' points) b.minY
  maxY : IsGreatest (Point.y '' points) b.maxY

theorem Bounds.isTight_ofPoint (p : Point ℝ) : (Bounds.ofPoint p).IsTight {p} := by
  constructor <;> rw [Set.image_singleton]
  · exact isLeast_singleton
  · exact isGreatest_singleton
  · exact isLeast_singleton
  · exact isGreatest_singleton

theorem Bounds.insert_real (b : Bounds ℝ) (p : Point ℝ) :
    b.insert p = ⟨min p.x b.minX, max p.x b.maxX, min p.y b.minY, max p.y b.maxY⟩ := by
  simp only [Bounds.insert, Scalar.min_real, Scalar.max_real, min_comm, max_comm]

theorem Bounds.IsTight.insert {b : Bounds ℝ} {points : Set (Point ℝ)} (tight : b.IsTight points)
    (p : Point ℝ) : (b.insert p).IsTight (Insert.insert p points) := by
  rw [Bounds.insert_real]
  constructor <;> rw [Set.image_insert_eq]
  · exact tight.minX.insert p.x
  · exact tight.maxX.insert p.x
  · exact tight.minY.insert p.y
  · exact tight.maxY.insert p.y

theorem Bounds.IsTight.foldl {b : Bounds ℝ} {points : Set (Point ℝ)} (tight : b.IsTight points)
    (l : List (Point ℝ)) : (l.foldl Bounds.insert b).IsTight (points ∪ {p | p ∈ l}) := by
  induction l generalizing b points with
  | nil => simpa using tight
  | cons p rest ih =>
    have later := ih (tight.insert p)
    have same : Insert.insert p points ∪ {q | q ∈ rest} = points ∪ {q | q ∈ p :: rest} := by
      ext q
      simp [or_assoc, or_left_comm]
    rwa [same] at later

theorem Layout.mem_values_iff {α : Type} {l : Layout α} {p : Point α} :
    p ∈ l.positions.values ↔ p ∈ l.points := by
  rw [values_eq_map_toList, List.mem_map]
  constructor
  · rintro ⟨⟨id, p⟩, member, rfl⟩
    exact ⟨id, Std.TreeMap.mem_toList_iff_getElem?_eq_some.mp member⟩
  · rintro ⟨id, found⟩
    exact ⟨(id, p), Std.TreeMap.mem_toList_iff_getElem?_eq_some.mpr found, rfl⟩

theorem Layout.exists_isTight {l : Layout ℝ} {p : Point ℝ} (placed : p ∈ l.points) :
    ∃ b, l.bounds? = some b ∧ b.IsTight l.points := by
  have member := mem_values_iff.mpr placed
  cases values : l.positions.values with
  | nil =>
    rw [values] at member
    cases member
  | cons q rest =>
    refine ⟨rest.foldl Bounds.insert (Bounds.ofPoint q), by rw [bounds?, values], ?_⟩
    have same : {q} ∪ {p | p ∈ rest} = l.points := by
      ext p
      rw [← mem_values_iff, values]
      simp
    exact same ▸ (Bounds.isTight_ofPoint q).foldl rest

theorem Graph.length_nodesIn_pos_iff {g : Graph} {layer : Nat} :
    0 < (g.nodesIn layer).length ↔ layer ∈ g.layers := by
  rw [List.length_pos_iff_exists_mem, mem_layers]
  simp [nodesIn]

section

variable {g : Graph} (valid : g.Valid) {spacing : Spacing ℝ} {b : Bounds ℝ}
  (tight : b.IsTight (g.layout spacing).points)

include valid tight

/-- The rows of the first and the last layer bound the layout. -/
theorem Graph.Valid.bounds_rows (gap : 0 < spacing.yGap) {first last : Nat}
    (least : IsLeast {layer | layer ∈ g.layers} first)
    (greatest : IsGreatest {layer | layer ∈ g.layers} last) :
    b.minY = -(last * spacing.yGap) ∧ b.maxY = -(first * spacing.yGap) := by
  have rows {layer : Nat} (present : layer ∈ g.layers) :
      -(layer * spacing.yGap) ∈ Point.y '' (g.layout spacing).points := by
    refine ⟨_, (valid.mem_points_iff spacing).mpr
      ⟨layer, 0, Graph.length_nodesIn_pos_iff.mpr present, rfl⟩, layerY_real ..⟩
  have bounded {y : ℝ} (row : y ∈ Point.y '' (g.layout spacing).points) :
      -(last * spacing.yGap) ≤ y ∧ y ≤ -(first * spacing.yGap) := by
    obtain ⟨p, placed, rfl⟩ := row
    obtain ⟨layer, i, small, rfl⟩ := (valid.mem_points_iff spacing).mp placed
    have present : layer ∈ g.layers := Graph.length_nodesIn_pos_iff.mp (by omega)
    have below : (layer : ℝ) ≤ last := Nat.cast_le.mpr (greatest.2 present)
    have above : (first : ℝ) ≤ layer := Nat.cast_le.mpr (least.2 present)
    rw [layerY_real]
    constructor
    · exact neg_le_neg (mul_le_mul_of_nonneg_right below gap.le)
    · exact neg_le_neg (mul_le_mul_of_nonneg_right above gap.le)
  exact ⟨tight.minY.unique ⟨rows greatest.1, fun _ row => (bounded row).1⟩,
    tight.maxY.unique ⟨rows least.1, fun _ row => (bounded row).2⟩⟩

/-- The longest row bounds the layout. -/
theorem Graph.Valid.bounds_slots (gap : 0 < spacing.xGap) {count : Nat} (some : 0 < count)
    (longest : IsGreatest {n | ∃ layer, (g.nodesIn layer).length = n} count) :
    b.minX = -((count - 1) / 2 * spacing.xGap) ∧ b.maxX = (count - 1) / 2 * spacing.xGap := by
  obtain ⟨⟨layer, same⟩, most⟩ := longest
  have slots {i : Nat} (small : i < count) :
      (i - (count - 1) / 2) * spacing.xGap ∈ Point.x '' (g.layout spacing).points := by
    refine ⟨_, (valid.mem_points_iff spacing).mpr ⟨layer, i, same ▸ small, rfl⟩, ?_⟩
    rw [slotX_real, same]
  have bounded {x : ℝ} (slot : x ∈ Point.x '' (g.layout spacing).points) :
      -((count - 1) / 2 * spacing.xGap) ≤ x ∧ x ≤ (count - 1) / 2 * spacing.xGap := by
    obtain ⟨p, placed, rfl⟩ := slot
    obtain ⟨layer, i, small, rfl⟩ := (valid.mem_points_iff spacing).mp placed
    have fits : ((g.nodesIn layer).length : ℝ) ≤ count := Nat.cast_le.mpr (most ⟨layer, rfl⟩)
    have index : (i : ℝ) + 1 ≤ (g.nodesIn layer).length := by exact_mod_cast small
    have from_left : (0 : ℝ) ≤ i := i.cast_nonneg
    rw [slotX_real, ← neg_mul]
    constructor
    · exact mul_le_mul_of_nonneg_right (by linarith) gap.le
    · exact mul_le_mul_of_nonneg_right (by linarith) gap.le
  have left : -((count - 1) / 2 * spacing.xGap) ∈ Point.x '' (g.layout spacing).points := by
    have slot := slots some
    rw [Nat.cast_zero, zero_sub, neg_mul] at slot
    exact slot
  have right : (count - 1) / 2 * spacing.xGap ∈ Point.x '' (g.layout spacing).points := by
    have slot := slots (i := count - 1) (by omega)
    rw [Nat.cast_pred some] at slot
    convert slot using 2
    ring
  exact ⟨tight.minX.unique ⟨left, fun _ slot => (bounded slot).1⟩,
    tight.maxX.unique ⟨right, fun _ slot => (bounded slot).2⟩⟩

end

end Strata
