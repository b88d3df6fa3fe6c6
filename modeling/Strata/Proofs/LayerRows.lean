import Mathlib.Order.Lattice.Nat
import Strata.Proofs.ExactLayout
import Strata.Proofs.GraphBuild

/-! The rows of a layout in exact arithmetic. A node's place follows from its layer and from the
number of ids in that layer that come before its own. Each row lies around the middle, the rows of
deeper layers lie lower, and the bounds follow from the longest row and from the outermost layers.
-/
namespace Strata

section

variable {β : Type} {R : β → β → Prop} (asymm : ∀ a b, R a b → ¬ R b a) {l : List β}
  (ascending : l.Pairwise R)

include asymm ascending

theorem countP_of_ascending [DecidableRel R] {i : Nat} {b : β} (here : l[i]? = some b) :
    l.countP (fun a => R a b) = i := by
  induction l generalizing i with
  | nil => simp at here
  | cons first rest ih =>
    obtain ⟨least, ascending⟩ := List.pairwise_cons.mp ascending
    cases i with
    | zero =>
      obtain rfl : first = b := by simpa using here
      have none_less : rest.countP (fun a => R a first) = 0 := by
        simpa using fun a member => asymm _ _ (least a member)
      simp [none_less, show ¬ R first first from fun less => asymm _ _ less less]
    | succ i =>
      rw [List.getElem?_cons_succ] at here
      simp [ih ascending here, least b (List.mem_of_getElem? here)]

theorem index_lt_of_ascending {i j : Nat} {a b : β} (ha : l[i]? = some a) (hb : l[j]? = some b)
    (less : R a b) : i < j := by
  obtain ⟨hi, rfl⟩ := List.getElem?_eq_some_iff.mp ha
  obtain ⟨hj, rfl⟩ := List.getElem?_eq_some_iff.mp hb
  by_contra! behind
  rcases Nat.lt_or_eq_of_le behind with before | rfl
  · exact asymm _ _ less (List.pairwise_iff_getElem.mp ascending j i hj hi before)
  · exact asymm _ _ less less

/-- In an ascending list what follows on a member without another one between stands next to it. -/
theorem index_of_next {i j : Nat} {a b : β} (ha : l[i]? = some a) (hb : l[j]? = some b)
    (less : R a b) (next : ∀ c ∈ l, ¬ (R a c ∧ R c b)) : j = i + 1 := by
  have before := index_lt_of_ascending asymm ascending ha hb less
  obtain ⟨hi, rfl⟩ := List.getElem?_eq_some_iff.mp ha
  obtain ⟨hj, rfl⟩ := List.getElem?_eq_some_iff.mp hb
  by_contra other
  have behind : i + 1 < j := by omega
  have inside : i + 1 < l.length := behind.trans hj
  have ordered := List.pairwise_iff_getElem.mp ascending
  exact next l[i + 1] (List.getElem_mem inside)
    ⟨ordered i (i + 1) hi inside (by omega), ordered (i + 1) j inside hj behind⟩

end

namespace Graph

/-- The number of ids of a node's layer that come before its own, by bytes. -/
def rankInLayer (g : Graph) (n : Node) : Nat :=
  (g.nodesIn n.layer).countP fun m => Text.utf8 m.id < Text.utf8 n.id

/-- A node has the next id of its layer after another one. -/
structure IsNext (g : Graph) (m n : Node) : Prop where
  layer : n.layer = m.layer
  less : Text.utf8 m.id < Text.utf8 n.id
  none_between : ∀ k ∈ g.nodeList, k.layer = m.layer →
    ¬ (Text.utf8 m.id < Text.utf8 k.id ∧ Text.utf8 k.id < Text.utf8 n.id)

variable {g : Graph} (valid : g.Valid)

include valid

theorem Valid.nodesIn_ascending (layer : Nat) :
    (g.nodesIn layer).Pairwise fun m n => Text.utf8 m.id < Text.utf8 n.id :=
  (List.pairwise_map.mp valid.ids_ascending).filter _

theorem Valid.rankInLayer_eq {layer i : Nat} {n : Node} (here : (g.nodesIn layer)[i]? = some n) :
    g.rankInLayer n = i := by
  obtain rfl : n.layer = layer :=
    of_decide_eq_true (List.mem_filter.mp (List.mem_of_getElem? here)).2
  exact countP_of_ascending (fun _ _ => List.lt_asymm) (valid.nodesIn_ascending n.layer) here

theorem Valid.getElem?_rankInLayer {n : Node} (member : n ∈ g.nodeList) :
    (g.nodesIn n.layer)[g.rankInLayer n]? = some n := by
  have inLayer : n ∈ g.nodesIn n.layer := List.mem_filter.mpr ⟨member, by simp⟩
  obtain ⟨i, here⟩ := List.mem_iff_getElem?.mp inLayer
  rwa [valid.rankInLayer_eq here]

theorem Valid.rankInLayer_of_next {m n : Node} (hm : m ∈ g.nodeList) (hn : n ∈ g.nodeList)
    (next : g.IsNext m n) : g.rankInLayer n = g.rankInLayer m + 1 := by
  have here := valid.getElem?_rankInLayer hn
  rw [next.layer] at here
  refine index_of_next (fun _ _ => List.lt_asymm) (valid.nodesIn_ascending m.layer)
    (valid.getElem?_rankInLayer hm) here next.less ?_
  intro k inLayer
  obtain ⟨member, same⟩ := List.mem_filter.mp inLayer
  exact next.none_between k member (of_decide_eq_true same)

theorem Valid.rankInLayer_lt {m n : Node} (hm : m ∈ g.nodeList) (hn : n ∈ g.nodeList)
    (same : m.layer = n.layer) (less : Text.utf8 m.id < Text.utf8 n.id) :
    g.rankInLayer m < g.rankInLayer n := by
  have here := valid.getElem?_rankInLayer hm
  rw [same] at here
  exact index_lt_of_ascending (fun _ _ => List.lt_asymm) (valid.nodesIn_ascending n.layer) here
    (valid.getElem?_rankInLayer hn) less

end Graph

/-- A node of a graph and its place in a layout. -/
structure Layout.Places (l : Layout ℝ) (g : Graph) (n : Node) (p : Point ℝ) : Prop where
  member : n ∈ g.nodeList
  found : l.position? n.id = some p

/-- The layout has one row for each layer, in the order of the ids and around the middle, and rows
of deeper layers lie lower. -/
structure Layout.IsLayered (l : Layout ℝ) (g : Graph) (spacing : Spacing ℝ) : Prop where
  isSome : ∀ id, (l.position? id).isSome = g.contains id
  position : ∀ n ∈ g.nodeList, l.position? n.id =
    some ⟨(g.rankInLayer n - ((g.nodesIn n.layer).length - 1) / 2) * spacing.xGap,
      -(n.layer * spacing.yGap)⟩
  symmetric : ∀ {n p}, l.Places g n p → ∃ m, m.layer = n.layer ∧ l.Places g m ⟨-p.x, p.y⟩
  neighbours : ∀ {m n p q}, l.Places g m p → l.Places g n q → g.IsNext m n →
    q.x = p.x + spacing.xGap
  lower : ∀ {m n p q}, l.Places g m p → l.Places g n q → m.layer < n.layer → q.y < p.y
  apart : ∀ {m n p}, l.Places g m p → l.Places g n p → m = n

namespace Graph

variable {g : Graph} (valid : g.Valid) (spacing : Spacing ℝ)

include valid

theorem Valid.position?_rankInLayer {n : Node} (member : n ∈ g.nodeList) :
    (g.layout spacing).position? n.id =
      some ⟨(g.rankInLayer n - ((g.nodesIn n.layer).length - 1) / 2) * spacing.xGap,
        -(n.layer * spacing.yGap)⟩ := by
  rw [valid.position?_eq spacing (valid.getElem?_rankInLayer member), slotX_real, layerY_real]

/-- The slot as far from the right end of its row as another one is from the left end is taken. -/
theorem Valid.exists_mirrored {n : Node} (member : n ∈ g.nodeList) :
    ∃ m ∈ g.nodeList, m.layer = n.layer ∧
      g.rankInLayer m + g.rankInLayer n + 1 = (g.nodesIn n.layer).length := by
  obtain ⟨inside, _⟩ := List.getElem?_eq_some_iff.mp (valid.getElem?_rankInLayer member)
  let i := (g.nodesIn n.layer).length - 1 - g.rankInLayer n
  have small : i < (g.nodesIn n.layer).length := by omega
  have here : (g.nodesIn n.layer)[i]? = some (g.nodesIn n.layer)[i] :=
    List.getElem?_eq_getElem small
  obtain ⟨member', same⟩ := List.mem_filter.mp (List.getElem_mem small)
  refine ⟨_, member', of_decide_eq_true same, ?_⟩
  rw [valid.rankInLayer_eq here]
  omega

variable {spacing}

theorem Valid.isLayered (xGap : 0 < spacing.xGap) (yGap : 0 < spacing.yGap) :
    (g.layout spacing).IsLayered g spacing := by
  have place {n p} (placed : (g.layout spacing).Places g n p) :
      p = ⟨(g.rankInLayer n - ((g.nodesIn n.layer).length - 1) / 2) * spacing.xGap,
        -(n.layer * spacing.yGap)⟩ :=
    Option.some.inj (placed.found.symm.trans (valid.position?_rankInLayer spacing placed.member))
  have lower {m n p q} (hm : (g.layout spacing).Places g m p)
      (hn : (g.layout spacing).Places g n q) (less : m.layer < n.layer) : q.y < p.y := by
    have cast : (m.layer : ℝ) < n.layer := Nat.cast_lt.mpr less
    rw [place hm, place hn]
    exact neg_lt_neg (mul_lt_mul_of_pos_right cast yGap)
  refine ⟨valid.isSome_position? spacing, fun _ => valid.position?_rankInLayer spacing,
    ?symmetric, ?neighbours, lower, ?apart⟩
  case symmetric =>
    intro n p placed
    obtain ⟨m, member, same, sum⟩ := valid.exists_mirrored placed.member
    refine ⟨m, same, member, ?_⟩
    have cast : (g.rankInLayer m + g.rankInLayer n + 1 : ℝ) = (g.nodesIn n.layer).length := by
      exact_mod_cast sum
    rw [valid.position?_rankInLayer spacing member, place placed, same, ← cast]
    congr 2
    ring
  case neighbours =>
    intro m n p q hm hn next
    have step := valid.rankInLayer_of_next hm.member hn.member next
    rw [place hm, place hn, step, next.layer, Nat.cast_succ]
    ring
  case apart =>
    intro m n p hm hn
    -- rows do not share heights, so both nodes are in one row, where the slot gives the rank
    have same : m.layer = n.layer := by
      rcases Nat.lt_trichotomy m.layer n.layer with less | same | greater
      · exact absurd (lower hm hn less) (lt_irrefl _)
      · exact same
      · exact absurd (lower hn hm greater) (lt_irrefl _)
    have equal := (place hm).symm.trans (place hn)
    rw [same] at equal
    have ranks : (g.rankInLayer m : ℝ) = g.rankInLayer n :=
      sub_left_inj.mp (mul_right_cancel₀ xGap.ne' (Point.mk.inj equal).1)
    have atM := valid.getElem?_rankInLayer hm.member
    rw [same, Nat.cast_inj.mp ranks, valid.getElem?_rankInLayer hn.member] at atM
    exact (Option.some.inj atM).symm

end Graph

namespace Graph

variable {g : Graph}

theorem exists_extremes (inhabited : 0 < g.nodeCount) : ∃ count first last,
    IsGreatest {size | ∃ layer, (g.nodesIn layer).length = size} count ∧ 0 < count ∧
      IsLeast {layer | layer ∈ g.layers} first ∧ IsGreatest {layer | layer ∈ g.layers} last := by
  rw [nodeCount_eq] at inhabited
  obtain ⟨n, member⟩ := List.length_pos_iff_exists_mem.mp inhabited
  have present : n.layer ∈ g.layers := mem_layers.mpr ⟨n, member, rfl⟩
  -- all numbers are layers here, but no row is longer than the list of all nodes
  let sizes : Set ℕ := {size | ∃ layer, (g.nodesIn layer).length = size}
  have row : (g.nodesIn n.layer).length ∈ sizes := ⟨n.layer, rfl⟩
  have bounded : BddAbove sizes := by
    refine ⟨g.nodeList.length, ?_⟩
    rintro _ ⟨layer, rfl⟩
    exact List.length_filter_le ..
  have longest : sSup sizes ∈ sizes := Nat.sSup_mem ⟨_, row⟩ bounded
  have positive := (length_nodesIn_pos_iff.mpr present).trans_le (le_csSup bounded row)
  have layers : g.layers.toFinset.Nonempty := ⟨n.layer, by simpa using present⟩
  have least := g.layers.toFinset.isLeast_min' layers
  have greatest := g.layers.toFinset.isGreatest_max' layers
  rw [List.coe_toFinset] at least greatest
  exact ⟨_, _, _, ⟨longest, fun _ => le_csSup bounded⟩, positive, least, greatest⟩

variable (valid : g.Valid) (spacing : Spacing ℝ)

include valid

theorem Valid.exists_bounds (inhabited : 0 < g.nodeCount) :
    ∃ b, (g.layout spacing).bounds? = some b ∧ b.IsTight (g.layout spacing).points := by
  rw [nodeCount_eq] at inhabited
  obtain ⟨n, member⟩ := List.length_pos_iff_exists_mem.mp inhabited
  exact Layout.exists_isTight ⟨n.id, valid.position?_rankInLayer spacing member⟩

theorem Valid.bounds?_eq_none_iff : (g.layout spacing).bounds? = none ↔ g.nodeCount = 0 := by
  constructor
  · intro none
    by_contra occupied
    obtain ⟨b, bounded, _⟩ := valid.exists_bounds spacing (Nat.pos_of_ne_zero occupied)
    rw [none] at bounded
    cases bounded
  · intro empty
    rw [nodeCount_eq, List.length_eq_zero_iff] at empty
    have values : (g.layout spacing).positions.values = [] := by
      refine List.eq_nil_iff_forall_not_mem.mpr ?_
      intro p member
      obtain ⟨layer, i, small, _⟩ :=
        (valid.mem_points_iff spacing).mp (Layout.mem_values_iff.mp member)
      simp [nodesIn, empty] at small
    rw [Layout.bounds?, values]

end Graph

/-- The layout of a graph is layered, and its bounds, which it has unless the graph is empty, are
those of the longest row across and of the outermost layers down. -/
theorem Graph.layout_isLayered {nodes : List NodeRecord} {edges : List EdgeRecord} {g : Graph}
    (built : build nodes edges = .ok g) {spacing : Spacing ℝ} (xGap : 0 < spacing.xGap)
    (yGap : 0 < spacing.yGap) :
    let l := g.layout spacing
    l.IsLayered g spacing ∧ (l.bounds? = none ↔ g.nodeCount = 0) ∧
      ∀ b, l.bounds? = some b → b.IsTight l.points ∧ ∃ count first last : ℕ,
        IsGreatest {size | ∃ layer, (g.nodesIn layer).length = size} count ∧
        IsLeast {layer | layer ∈ g.layers} first ∧
        IsGreatest {layer | layer ∈ g.layers} last ∧
        b = { minX := -((count - 1) / 2 * spacing.xGap), maxX := (count - 1) / 2 * spacing.xGap
              minY := -(last * spacing.yGap), maxY := -(first * spacing.yGap) } := by
  intro l
  have valid := valid_of_build built
  refine ⟨valid.isLayered xGap yGap, valid.bounds?_eq_none_iff spacing, ?_⟩
  intro b bounded
  have inhabited : 0 < g.nodeCount := by
    refine Nat.pos_of_ne_zero ?_
    intro empty
    rw [(valid.bounds?_eq_none_iff spacing).mpr empty] at bounded
    cases bounded
  obtain ⟨count, first, last, longest, positive, least, greatest⟩ := exists_extremes inhabited
  obtain ⟨_, same, tight⟩ := valid.exists_bounds spacing inhabited
  obtain rfl := Option.some.inj (bounded.symm.trans same)
  obtain ⟨minX, maxX⟩ := valid.bounds_slots tight xGap positive longest
  obtain ⟨minY, maxY⟩ := valid.bounds_rows tight yGap least greatest
  refine ⟨tight, count, first, last, longest, least, greatest, ?_⟩
  rw [← minX, ← maxX, ← minY, ← maxY]

theorem Graph.layout_isLayered_triple :
    let nodes : List NodeRecord := [⟨"d", none, some 4, none⟩, ⟨"c", none, some 1, none⟩,
      ⟨"a", none, some 1, none⟩, ⟨"b", none, some 1, none⟩]
    let spacing : Spacing ℝ := ⟨2, 3⟩
    ∃ g, build nodes [] = .ok g ∧ (0 < spacing.xGap ∧ 0 < spacing.yGap) ∧
      (g.layout spacing).position? "a" = some ⟨-2, -3⟩ ∧
      (g.layout spacing).position? "b" = some ⟨0, -3⟩ ∧
      (g.layout spacing).position? "d" = some ⟨0, -12⟩ ∧ (g.layout spacing).bounds? ≠ none := by
  intro nodes spacing
  have named : ∀ r ∈ nodes, ¬ r.LacksId := by simp [nodes, NodeRecord.LacksId]
  let g := ofRecords nodes []
  have built : build nodes [] = .ok g := build_eq_ok_iff.mpr ⟨named, rfl⟩
  have gaps : 0 < spacing.xGap ∧ 0 < spacing.yGap := ⟨by norm_num [spacing], by norm_num [spacing]⟩
  obtain ⟨layered, bounded, _⟩ := layout_isLayered built gaps.1 gaps.2
  have rows : (g.nodesIn 1).length = 3 ∧ (g.nodesIn 4).length = 1 := by decide +kernel
  have place (n : Node) (member : n ∈ g.nodeList) {i : Nat} (rank : g.rankInLayer n = i) :=
    rank ▸ layered.position n member
  refine ⟨g, built, gaps, ?_, ?_, ?_, ?_⟩
  · refine (place ⟨"a", "a", 1, "unknown"⟩ (by decide +kernel) (i := 0) (by decide +kernel)).trans ?_
    norm_num [rows, spacing]
  · refine (place ⟨"b", "b", 1, "unknown"⟩ (by decide +kernel) (i := 1) (by decide +kernel)).trans ?_
    norm_num [rows, spacing]
  · refine (place ⟨"d", "d", 4, "unknown"⟩ (by decide +kernel) (i := 0) (by decide +kernel)).trans ?_
    norm_num [rows, spacing]
  · exact mt bounded.mp (by decide +kernel)

end Strata
