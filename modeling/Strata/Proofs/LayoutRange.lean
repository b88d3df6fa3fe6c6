import Strata.Proofs.LayerReading
import Strata.Proofs.LayerRows
import Strata.Proofs.Painting
import Strata.Proofs.SettingsValidity

/-! How far the numbers of a layout reach. Valid gaps are positive and below two to the 1024th one
by one, but the layout multiplies the one by the slots of the longest row and the other by the
numbers of the outermost layers, and only these products say whether its places and bounds stay
within the same range. -/
namespace Strata

namespace Decimal

open Float.Model

theorem valueOf_pos {x : Float} (positive : IsPositive x) : 0 < valueOf x := by
  obtain ⟨finite, above⟩ := positive
  -- the test and the comparison both look at the unpacked pattern
  replace finite : x.toModel.unpack.isFinite = true := finite
  have ordered : (0 : Float).toModel < x.toModel := of_decide_eq_true above
  replace ordered : UnpackedFloat.lt (.zero .positive) x.toModel.unpack = true := ordered
  rw [valueOf]
  cases unpacked : x.toModel.unpack with
  | notANumber => rw [unpacked] at finite; cases finite
  | infinity _ => rw [unpacked] at finite; cases finite
  | zero _ => rw [unpacked] at ordered; cases ordered
  | finite sign mantissa exponent some =>
    rw [unpacked] at ordered
    cases sign with
    | negative => cases ordered
    | positive =>
      rw [signedValue]
      positivity

theorem mantissa_ofFloat_lt (x : Float) : (Exact.ofFloat x).mantissa < 2 ^ 53 := by
  have fraction : x.toBits.toNat % Nat.pow 2 52 < Nat.pow 2 52 := Nat.mod_lt _ (by decide)
  have power : Nat.pow 2 52 = 2 ^ 52 := rfl
  unfold Exact.ofFloat
  dsimp only
  split
  · exact fraction.trans (by decide)
  · dsimp only
    omega

theorem scale_ofFloat_le {x : Float} (finite : x.isFinite = true) :
    (Exact.ofFloat x).scale ≤ 971 := by
  let b : BitVec 64 := x.toBits.toBitVec
  have bits : x.toBits.toNat = b.toNat := rfl
  replace finite : (UnpackedFloat.unpack .binary64 b).isFinite = true := finite
  have field := toNat_unpackExponent b
  have notLast : b.toNat / Nat.pow 2 52 % 2048 ≠ 2047 := by
    intro last
    have ones : @UnpackedFloat.unpackExponent .binary64 b = -1#11 := by
      rw [← BitVec.toNat_inj, field, last]
      rfl
    unfold UnpackedFloat.unpack at finite
    simp only [if_pos ones] at finite
    split at finite <;> cases finite
  unfold Exact.ofFloat
  dsimp only
  rw [bits]
  split <;> dsimp only <;> omega

theorem Exact.value_le (e : Exact) : e.value ≤ e.mantissa * 2 ^ e.scale := by
  have magnitude : (0 : ℚ) ≤ e.mantissa * 2 ^ e.scale := by positivity
  rw [value]
  split
  · exact (neg_nonpos_of_nonneg magnitude).trans magnitude
  · exact le_rfl

/-- Fifty-three bits of mantissa, of which the last stands for two to the 971st at most. -/
theorem valueOf_lt {x : Float} (finite : x.isFinite = true) : valueOf x < 2 ^ 1024 := by
  have mantissa : ((Exact.ofFloat x).mantissa : ℚ) < 2 ^ (53 : ℤ) := by
    exact_mod_cast mantissa_ofFloat_lt x
  have scale := scale_ofFloat_le finite
  rw [← value_ofFloat finite, ← zpow_ofNat]
  calc (Exact.ofFloat x).value
      ≤ (Exact.ofFloat x).mantissa * 2 ^ (Exact.ofFloat x).scale := Exact.value_le _
    _ < 2 ^ (53 : ℤ) * 2 ^ (Exact.ofFloat x).scale :=
        mul_lt_mul_of_pos_right mantissa (zpow_pos two_pos _)
    _ = 2 ^ (53 + (Exact.ofFloat x).scale) := (zpow_add₀ two_ne_zero _ _).symm
    _ ≤ 2 ^ (1024 : ℤ) := zpow_le_zpow_right₀ one_le_two (by omega)

end Decimal

/-- The places of a layout, the spans of its bounds and the sums of opposite sides of these are of
magnitudes below a limit. -/
structure Layout.IsWithin (l : Layout ℝ) (limit : ℝ) : Prop where
  places : ∀ p ∈ l.points, |p.x| < limit ∧ |p.y| < limit
  spans : ∀ b, l.bounds? = some b → |b.width| < limit ∧ |b.height| < limit
  sums : ∀ b, l.bounds? = some b → |b.minX + b.maxX| < limit ∧ |b.minY + b.maxY| < limit

/-- The rows and the two outermost layers of a graph, spaced out, stay below a limit. -/
structure Graph.KeepsWithin (g : Graph) (spacing : Spacing ℝ) (limit : ℝ) : Prop where
  rows : ∀ layer ∈ g.layers, ((g.nodesIn layer).length - 1) * spacing.xGap < limit
  layers : ∀ first last : ℕ, IsLeast {layer | layer ∈ g.layers} first →
    IsGreatest {layer | layer ∈ g.layers} last → (first + last) * spacing.yGap < limit

namespace Graph

theorem nodeCount_pos_of_mem_layers {g : Graph} {layer : Nat} (present : layer ∈ g.layers) :
    0 < g.nodeCount := by
  obtain ⟨n, member, _⟩ := mem_layers.mp present
  rw [nodeCount_eq]
  exact List.length_pos_of_mem member

section

variable {g : Graph} (valid : g.Valid) {spacing : Spacing ℝ} (xGap : 0 < spacing.xGap)
  (yGap : 0 < spacing.yGap)

include valid xGap yGap

theorem Valid.bounds_reach {b : Bounds ℝ} (bounded : (g.layout spacing).bounds? = some b) :
    ∃ count first last : ℕ, 0 < count ∧
      IsGreatest {size | ∃ layer, (g.nodesIn layer).length = size} count ∧
      IsLeast {layer | layer ∈ g.layers} first ∧ IsGreatest {layer | layer ∈ g.layers} last ∧
      b.width = (count - 1) * spacing.xGap ∧ b.minX + b.maxX = 0 ∧
      b.height = (last - first) * spacing.yGap ∧
      b.minY + b.maxY = -((first + last) * spacing.yGap) := by
  have inhabited : 0 < g.nodeCount := by
    refine Nat.pos_of_ne_zero (mt (valid.bounds?_eq_none_iff spacing).mpr ?_)
    rw [bounded]
    exact Option.some_ne_none b
  obtain ⟨count, first, last, longest, positive, least, greatest⟩ := exists_extremes inhabited
  obtain ⟨_, same, tight⟩ := valid.exists_bounds spacing inhabited
  obtain rfl := Option.some.inj (bounded.symm.trans same)
  obtain ⟨minX, maxX⟩ := valid.bounds_slots tight xGap positive longest
  obtain ⟨minY, maxY⟩ := valid.bounds_rows tight yGap least greatest
  refine ⟨count, first, last, positive, longest, least, greatest, ?_, ?_, ?_, ?_⟩
  · rw [Bounds.width, minX, maxX]
    ring
  · rw [minX, maxX, neg_add_cancel]
  · rw [Bounds.height, minY, maxY]
    ring
  · rw [minY, maxY]
    ring

variable {limit : ℝ}

theorem Valid.keepsWithin_of_isWithin (within : (g.layout spacing).IsWithin limit) :
    g.KeepsWithin spacing limit := by
  constructor
  · intro layer present
    obtain ⟨b, bounded, _⟩ := valid.exists_bounds spacing (nodeCount_pos_of_mem_layers present)
    obtain ⟨count, _, _, _, longest, _, _, width, _⟩ := valid.bounds_reach xGap yGap bounded
    have shorter : ((g.nodesIn layer).length : ℝ) ≤ count :=
      Nat.cast_le.mpr (longest.2 ⟨layer, rfl⟩)
    calc ((g.nodesIn layer).length - 1) * spacing.xGap
        ≤ (count - 1) * spacing.xGap := by gcongr
      _ = b.width := width.symm
      _ ≤ |b.width| := le_abs_self _
      _ < limit := (within.spans b bounded).1
  · intro first last least greatest
    obtain ⟨b, bounded, _⟩ := valid.exists_bounds spacing (nodeCount_pos_of_mem_layers least.1)
    obtain ⟨_, first', last', _, _, least', greatest', _, _, _, sum⟩ :=
      valid.bounds_reach xGap yGap bounded
    obtain rfl := least.unique least'
    obtain rfl := greatest.unique greatest'
    have below := (within.sums b bounded).2
    rw [sum, abs_neg] at below
    exact (le_abs_self _).trans_lt below

theorem KeepsWithin.places (within : g.KeepsWithin spacing limit) {p : Point ℝ}
    (placed : p ∈ (g.layout spacing).points) : |p.x| < limit ∧ |p.y| < limit := by
  obtain ⟨layer, i, small, rfl⟩ := (valid.mem_points_iff spacing).mp placed
  have present : layer ∈ g.layers := length_nodesIn_pos_iff.mp (by omega)
  have index : (i : ℝ) + 1 ≤ (g.nodesIn layer).length := by exact_mod_cast small
  have left : (0 : ℝ) ≤ i := i.cast_nonneg
  rw [slotX_real, layerY_real, abs_neg]
  constructor
  · have slot : |(i : ℝ) - ((g.nodesIn layer).length - 1) / 2| ≤ (g.nodesIn layer).length - 1 :=
      abs_le.mpr ⟨by linarith, by linarith⟩
    calc |((i : ℝ) - ((g.nodesIn layer).length - 1) / 2) * spacing.xGap|
        = |(i : ℝ) - ((g.nodesIn layer).length - 1) / 2| * spacing.xGap := by
          rw [abs_mul, abs_of_pos xGap]
      _ ≤ ((g.nodesIn layer).length - 1) * spacing.xGap := by gcongr
      _ < limit := within.rows layer present
  · obtain ⟨_, first, last, _, _, least, greatest⟩ :=
      exists_extremes (nodeCount_pos_of_mem_layers present)
    have deepest : (layer : ℝ) ≤ first + last := by
      exact_mod_cast Nat.le_add_left_of_le (greatest.2 present)
    calc |(layer : ℝ) * spacing.yGap|
        = layer * spacing.yGap := abs_of_nonneg (by positivity)
      _ ≤ (first + last) * spacing.yGap := by gcongr
      _ < limit := within.layers first last least greatest

theorem KeepsWithin.bounds (within : g.KeepsWithin spacing limit) {b : Bounds ℝ}
    (bounded : (g.layout spacing).bounds? = some b) :
    (|b.width| < limit ∧ |b.height| < limit) ∧
      |b.minX + b.maxX| < limit ∧ |b.minY + b.maxY| < limit := by
  obtain ⟨count, first, last, positive, ⟨⟨layer, rfl⟩, _⟩, least, greatest, width, middle,
    height, sum⟩ := valid.bounds_reach xGap yGap bounded
  have across := within.rows layer (length_nodesIn_pos_iff.mp positive)
  have down := within.layers first last least greatest
  have some : (1 : ℝ) ≤ (g.nodesIn layer).length := by exact_mod_cast positive
  have wide : 0 ≤ ((g.nodesIn layer).length - 1) * spacing.xGap :=
    mul_nonneg (by linarith) xGap.le
  have above : (0 : ℝ) ≤ first := first.cast_nonneg
  have ordered : (first : ℝ) ≤ last := Nat.cast_le.mpr (greatest.2 least.1)
  refine ⟨⟨?_, ?_⟩, ?_, ?_⟩
  · rw [width, abs_of_nonneg wide]
    exact across
  · calc |b.height|
        = (last - first) * spacing.yGap := by
          rw [height, abs_of_nonneg (mul_nonneg (by linarith) yGap.le)]
      _ ≤ (first + last) * spacing.yGap := mul_le_mul_of_nonneg_right (by linarith) yGap.le
      _ < limit := down
  · rw [middle, abs_zero]
    exact wide.trans_lt across
  · rw [sum, abs_neg, abs_of_nonneg (by positivity)]
    exact down

/-- A layout is within a limit exactly when its longest row and its outermost layers are. -/
theorem Valid.isWithin_iff :
    (g.layout spacing).IsWithin limit ↔ g.KeepsWithin spacing limit := by
  refine ⟨valid.keepsWithin_of_isWithin xGap yGap, fun within => ⟨?_, ?_, ?_⟩⟩
  · exact fun _ => within.places valid xGap yGap
  · exact fun _ bounded => (within.bounds valid xGap yGap bounded).1
  · exact fun _ bounded => (within.bounds valid xGap yGap bounded).2

end

/-- Gaps a factor of two to the 33rd below the limit keep every graph within it whose layers are
numbers of 32 bits and that has at most as many nodes as the factor says. -/
theorem keepsWithin_of_small {g : Graph} {spacing : Spacing ℝ} {gap : ℝ}
    (xGap : 0 < spacing.xGap) (yGap : 0 < spacing.yGap) (layers : ∀ l ∈ g.layers, l < Layer.limit)
    (nodes : g.nodeCount ≤ 2 ^ 33) (across : spacing.xGap ≤ gap) (down : spacing.yGap ≤ gap) :
    g.KeepsWithin spacing (2 ^ 33 * gap) := by
  constructor
  · intro layer _
    have row : (g.nodesIn layer).length ≤ 2 ^ 33 :=
      (List.length_filter_le ..).trans (nodeCount_eq g ▸ nodes)
    have row : ((g.nodesIn layer).length : ℝ) ≤ 2 ^ 33 := by exact_mod_cast row
    calc ((g.nodesIn layer).length - 1) * spacing.xGap
        < 2 ^ 33 * spacing.xGap := mul_lt_mul_of_pos_right (by linarith) xGap
      _ ≤ 2 ^ 33 * gap := by gcongr
  · intro first last least greatest
    have both : first + last < 2 ^ 33 := by
      have first := layers first least.1
      have last := layers last greatest.1
      rw [Layer.limit] at first last
      omega
    have both : (first : ℝ) + last < 2 ^ 33 := by exact_mod_cast both
    calc (first + last) * spacing.yGap
        < 2 ^ 33 * spacing.yGap := mul_lt_mul_of_pos_right both yGap
      _ ≤ 2 ^ 33 * gap := by gcongr

end Graph

noncomputable def Spacing.exact (s : Spacing Float) : Spacing ℝ :=
  ⟨Decimal.valueOf s.xGap, Decimal.valueOf s.yGap⟩

theorem exact_of_isPositive {x : Float} (positive : IsPositive x) :
    (0 : ℝ) < Decimal.valueOf x ∧ (Decimal.valueOf x : ℝ) < 2 ^ 1024 := by
  have below : (Decimal.valueOf x : ℝ) < ((2 ^ 1024 : ℚ) : ℝ) :=
    Rat.cast_lt.mpr (Decimal.valueOf_lt positive.1)
  rw [Rat.cast_pow, Rat.cast_ofNat] at below
  exact ⟨Rat.cast_pos.mpr (Decimal.valueOf_pos positive), below⟩

/-- Valid gaps are in range one by one. The layout is so too exactly when the longest row and the
outermost layers, spaced out, are, and then whenever the gaps leave 33 bits of room. -/
theorem Settings.layout_isWithin_iff {nodes : List NodeRecord} {edges : List EdgeRecord}
    {g : Graph} (built : Graph.build nodes edges = .ok g) {s : Settings Float}
    (usable : s.isValid = true) :
    let gaps := s.spacing.exact
    (0 < gaps.xGap ∧ gaps.xGap < 2 ^ 1024) ∧ (0 < gaps.yGap ∧ gaps.yGap < 2 ^ 1024) ∧
      ((g.layout gaps).IsWithin (2 ^ 1024) ↔ g.KeepsWithin gaps (2 ^ 1024)) ∧
      ((∀ layer ∈ g.layers, layer < Layer.limit) → g.nodeCount ≤ 2 ^ 33 →
        gaps.xGap ≤ 2 ^ 991 → gaps.yGap ≤ 2 ^ 991 → (g.layout gaps).IsWithin (2 ^ 1024)) := by
  intro gaps
  have valid := Graph.valid_of_build built
  have holds : s.IsUsable :=
    (violation?_eq_none_iff_isUsable s).mp (Option.isNone_iff_eq_none.mp usable)
  have x : 0 < gaps.xGap ∧ gaps.xGap < 2 ^ 1024 :=
    exact_of_isPositive (holds.holds "layout.x_gap" (by simp [conditions]))
  have y : 0 < gaps.yGap ∧ gaps.yGap < 2 ^ 1024 :=
    exact_of_isPositive (holds.holds "layout.y_gap" (by simp [conditions]))
  refine ⟨x, y, valid.isWithin_iff x.1 y.1, ?_⟩
  intro layers few across down
  have within := Graph.keepsWithin_of_small x.1 y.1 layers few across down
  rw [← pow_add] at within
  exact (valid.isWithin_iff x.1 y.1).mpr within

/-- Two nodes in layers that are two apart. The default gaps keep the layout in range; a valid gap
of 1e308 between layers does not, and the height of the lower node on the canvas is no number. -/
theorem Settings.layout_isWithin_iff_overflowing :
    let nodes : List NodeRecord := [⟨"a", none, none, none⟩, ⟨"b", none, some 2, none⟩]
    let s : Settings Float := .default
    let t : Settings Float := { s with spacing := ⟨2.2, 1e308⟩ }
    ∃ g, Graph.build nodes [] = .ok g ∧ (s.isValid = true ∧ t.isValid = true) ∧
      (g.layout s.spacing.exact).IsWithin (2 ^ 1024) ∧
      ¬ (g.layout t.spacing.exact).IsWithin (2 ^ 1024) ∧
      ((Scene.ofGraph g t.spacing t.palette).place t.figure "b").y.isNaN = true := by
  intro nodes s t
  have named : ∀ r ∈ nodes, ¬ r.LacksId := by simp [nodes, NodeRecord.LacksId]
  let g := Graph.ofRecords nodes []
  have built : Graph.build nodes [] = .ok g := Graph.build_eq_ok_iff.mpr ⟨named, rfl⟩
  have usable : s.isValid = true ∧ t.isValid = true := by decide +kernel
  have layers : g.layers = [0, 2] := by decide +kernel
  obtain ⟨_, _, _, safe⟩ := layout_isWithin_iff built usable.1
  obtain ⟨_, _, exactly, _⟩ := layout_isWithin_iff built usable.2
  refine ⟨g, built, usable, ?_, ?_, by decide +kernel⟩
  · have given : Decimal.Exact.ofFloat 2.2 = ⟨false, 4953959590107546, -51, false⟩ := by
      decide +kernel
    have value : Decimal.valueOf 2.2 ≤ 2 ^ 2 := by
      rw [← Decimal.value_ofFloat (by decide +kernel), given]
      norm_num [Decimal.Exact.value]
    have gap : (Decimal.valueOf 2.2 : ℝ) ≤ 2 ^ 991 :=
      calc (Decimal.valueOf 2.2 : ℝ) ≤ 2 ^ 2 := by exact_mod_cast value
        _ ≤ 2 ^ 991 := pow_le_pow_right₀ one_le_two (by decide)
    exact safe (by rw [layers]; decide) (by decide +kernel) gap gap
  · intro within
    have given : Decimal.Exact.ofFloat 1e308 = ⟨false, 5010420900022432, 971, false⟩ := by
      decide +kernel
    have value : (2 : ℚ) ^ (52 + 971) ≤ Decimal.valueOf 1e308 := by
      rw [← Decimal.value_ofFloat (by decide +kernel), given]
      simp only [Decimal.Exact.value, Bool.false_eq_true, if_false]
      rw [pow_add]
      exact mul_le_mul_of_nonneg_right (by norm_num) (by positivity)
    have least : IsLeast {layer | layer ∈ g.layers} 0 := by simp [layers, IsLeast, lowerBounds]
    have greatest : IsGreatest {layer | layer ∈ g.layers} 2 := by
      simp [layers, IsGreatest, upperBounds]
    have reached : (2 : ℝ) ^ (52 + 971) ≤ Decimal.valueOf 1e308 := by exact_mod_cast value
    refine absurd ((exactly.mp within).layers 0 2 least greatest) (not_lt.mpr ?_)
    calc (2 : ℝ) ^ 1024 = 2 * 2 ^ (52 + 971) := pow_succ' 2 (52 + 971)
      _ ≤ 2 * Decimal.valueOf 1e308 := mul_le_mul_of_nonneg_left reached zero_le_two
      _ = ((0 : ℕ) + (2 : ℕ)) * t.spacing.exact.yGap := by
        rw [Nat.cast_zero, zero_add, Nat.cast_ofNat]
        rfl

end Strata
