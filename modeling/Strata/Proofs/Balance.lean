import Mathlib.Data.List.Basic
import Strata.Drawing.Painting

/-! Groups that nest and close. Painting closes every group it opens, whatever it paints. -/
namespace Strata

variable {α : Type}

/-- A command that neither opens a group nor closes one. -/
def Command.IsSingle : Command α → Prop
  | .openGroup .. | .closeGroup => False
  | _ => True

namespace Drawing

/-- Groups nest properly, and all of them are closed. -/
inductive Balanced : Drawing α → Prop where
  | nil : Balanced []
  | single {c : Command α} {rest : Drawing α} : c.IsSingle → Balanced rest → Balanced (c :: rest)
  | nested (kind key : String) {inner rest : Drawing α} : Balanced inner → Balanced rest →
      Balanced (group kind key inner ++ rest)

theorem Balanced.append {d e : Drawing α} (first : d.Balanced) (later : e.Balanced) :
    Balanced (d ++ e) := by
  induction first with
  | nil => exact later
  | single apart _ ih => exact .single apart ih
  | nested kind key inner _ _ ih =>
    rw [List.append_assoc]
    exact .nested kind key inner ih

theorem Balanced.group {d : Drawing α} (kind key : String) (inner : d.Balanced) :
    Balanced (Drawing.group kind key d) := by
  simpa using Balanced.nested kind key inner .nil

theorem Balanced.of_singles {d : Drawing α} (singles : ∀ c ∈ d, c.IsSingle) : d.Balanced := by
  induction d with
  | nil => exact .nil
  | cons c rest ih =>
    obtain ⟨first, others⟩ := List.forall_mem_cons.mp singles
    exact .single first (ih others)

theorem Balanced.flatMap {β : Type} {f : β → Drawing α} {l : List β}
    (each : ∀ b ∈ l, (f b).Balanced) : Balanced (l.flatMap f) := by
  induction l with
  | nil => exact .nil
  | cons b rest ih =>
    obtain ⟨first, others⟩ := List.forall_mem_cons.mp each
    exact first.append (ih others)

end Drawing

namespace Scene

open Drawing

variable [Scalar α]

theorem balanced_edgeGroup (place? : String → Option (Point α)) (f : Figure α)
    (style : EdgeStyle α) (relation : String) (edges : List Edge) :
    (edgeGroup place? f style relation edges).Balanced :=
  .group _ _ (.of_singles (List.forall_mem_map.mpr fun _ _ => trivial))

theorem balanced_nodeGroup (place? : String → Option (Point α)) (f : Figure α) (layer : Nat)
    (color : Color) (ids : List String) : (nodeGroup place? f layer color ids).Balanced :=
  .group _ _ (.of_singles (List.forall_mem_map.mpr fun _ _ => trivial))

theorem balanced_labelGroup (place? : String → Option (Point α)) (f : Figure α)
    (nodes : List Node) : (labelGroup place? f nodes).Balanced := by
  refine .group _ _ (.of_singles ?_)
  intro c member
  obtain ⟨n, _, made⟩ := List.mem_filterMap.mp member
  obtain ⟨p, _, rfl⟩ := Option.map_eq_some_iff.mp made
  trivial

theorem balanced_legendGroup (box : LegendBox α) (colors : List (Nat × Color)) :
    (legendGroup box colors).Balanced :=
  .group _ _ (.single trivial (.of_singles (List.forall_mem_map.mpr fun _ _ => trivial)))

/-- What painting draws is balanced, also for a scene whose layout or styles lack something. -/
theorem balanced_paint (s : Scene α) (f : Figure α) : (s.paint f).Balanced := by
  refine .append (.append (.append (.single trivial ?_) ?_) ?_) ?_
  · exact .flatMap fun _ _ => balanced_edgeGroup ..
  · exact .flatMap fun _ _ => balanced_nodeGroup ..
  · split
    · exact balanced_labelGroup ..
    · exact .nil
  · split
    · exact .nil
    · exact balanced_legendGroup ..

end Scene

end Strata
