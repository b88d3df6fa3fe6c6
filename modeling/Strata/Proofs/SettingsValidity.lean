import Strata.Settings.Validity

/-! What valid settings are: fourteen conditions, each on one setting, in the order in which they
are looked at. Settings pass when all of them hold, and otherwise the fault names the first that
fails. -/
namespace Strata

/-- The number can be the size of something. -/
def IsPositive (x : Float) : Prop := x.isFinite = true ∧ 0 < x

namespace Settings

/-- The conditions on settings, each with the name of the setting that it is about, in the order in
which they are looked at. -/
def conditions (s : Settings Float) : List (String × Prop) := [
  ("layout.x_gap", IsPositive s.spacing.xGap),
  ("layout.y_gap", IsPositive s.spacing.yGap),
  ("style.palette", s.palette ≠ []),
  ("render.width", IsPositive s.figure.width),
  ("render.height", IsPositive s.figure.height),
  ("render.dpi", IsPositive s.figure.dpi),
  ("render.font_size", IsPositive s.figure.fontSize),
  ("render.legend_font_size", IsPositive s.figure.legendFontSize),
  ("render.node_size", IsPositive s.figure.nodeSize),
  ("render.edge_width", IsPositive s.figure.edgeWidth),
  ("render.arrow_size", IsPositive s.figure.arrowSize),
  ("render.border_width", s.figure.borderWidth.isFinite = true ∧ 0 ≤ s.figure.borderWidth),
  ("render.edge_opacity", 0 ≤ s.figure.edgeOpacity ∧ s.figure.edgeOpacity ≤ 1),
  ("render.curvature", s.figure.curvature.isFinite = true)]

/-- All conditions hold. -/
def IsUsable (s : Settings Float) : Prop := ∀ c ∈ s.conditions, c.2

theorem IsUsable.holds {s : Settings Float} (usable : s.IsUsable) (name : String) {P : Prop}
    (among : (name, P) ∈ s.conditions) : P := usable (name, P) among

/-- The first condition that fails is the one on this setting. -/
def FirstViolated (s : Settings Float) (name : String) : Prop :=
  ∃ before P after, s.conditions = before ++ (name, P) :: after ∧ (∀ c ∈ before, c.2) ∧ ¬ P

theorem conditions_eq (s : Settings Float) :
    s.conditions = Requirement.all.map fun r => (r.name, r.holds s = true) := by
  have zero : (0.0 : Float) = 0 := rfl
  have one : (1.0 : Float) = 1 := rfl
  simp [conditions, Requirement.all, Requirement.name, Requirement.holds, Measure.name,
    Measure.path, Measure.bound, Measure.get, Bound.admits, IsPositive, Scalar.lt, Scalar.le,
    Scalar.isFinite, zero, one]

theorem isUsable_iff (s : Settings Float) :
    s.IsUsable ↔ ∀ r : Requirement, r.holds s = true := by
  rw [IsUsable, conditions_eq, List.forall_mem_map]
  exact ⟨fun all r => all r r.mem_all, fun all r _ => all r⟩

theorem violation?_eq_none_iff_isUsable (s : Settings Float) :
    s.violation? = none ↔ s.IsUsable := violation?_eq_none.trans s.isUsable_iff.symm

theorem firstViolated_of_violation? {s : Settings Float} {r : Requirement}
    (found : s.violation? = some r) : s.FirstViolated r.name := by
  obtain ⟨fails, before, after, split, earlier⟩ := List.find?_eq_some_iff_append.mp found
  refine ⟨before.map fun q => (q.name, q.holds s = true), r.holds s = true,
    after.map fun q => (q.name, q.holds s = true), ?_, ?_, by simpa using fails⟩
  · rw [conditions_eq, split, List.map_append, List.map_cons]
  · exact List.forall_mem_map.mpr fun q member => by simpa using earlier q member

theorem validated_eq_ok_iff {s t : Settings Float} :
    s.validated = .ok t ↔ t = s ∧ s.IsUsable := by
  rw [← violation?_eq_none_iff_isUsable, validated]
  cases s.violation? with
  | none => simp [eq_comm]
  | some r => simp

/-- The fault of settings that fail a condition: it names the first one that does. -/
structure IsNamed (s : Settings Float) (name : String) (e : Fault) : Prop where
  first : s.FirstViolated name
  kind : e.kind = .configInvalid
  setting : e.noted? "setting" = some name

theorem exists_isNamed {s : Settings Float} (unusable : ¬ s.IsUsable) :
    ∃ e name, s.validated = .error e ∧ s.IsNamed name e := by
  cases found : s.violation? with
  | none => exact absurd ((violation?_eq_none_iff_isUsable s).mp found) unusable
  | some r =>
    refine ⟨_, r.name, by rw [validated, found], firstViolated_of_violation? found, rfl, ?_⟩
    simp [Fault.configInvalid, Fault.note, Fault.noted?]

theorem IsNamed.note {s : Settings Float} {name : String} {e : Fault} (named : s.IsNamed name e)
    (key value : String) : s.IsNamed name (e.note key value) :=
  ⟨named.first, named.kind, Fault.noted?_note_of_some named.setting key value⟩

theorem isUsable_default : (Settings.default : Settings Float).IsUsable := by
  rw [← violation?_eq_none_iff_isUsable]
  decide +kernel

end Settings

end Strata
