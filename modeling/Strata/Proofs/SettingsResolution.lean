import Strata.Proofs.SettingsReading
import Strata.Storage.FileSystem

/-! The settings in effect: the default ones, above them what the file says, and above that the
overrides. Both the settings of the file and those in effect have to be usable, so an override can
neither repair the file nor go unchecked. -/
namespace Strata

/-- Settings with overrides laid over them. -/
structure Overrides.IsOver (o : Overrides Float) (base s : Settings Float) : Prop where
  width : s.figure.width = o.width.getD base.figure.width
  height : s.figure.height = o.height.getD base.figure.height
  fontSize : s.figure.fontSize = o.fontSize.getD base.figure.fontSize
  dpi : s.figure.dpi = o.dpi.getD base.figure.dpi
  withLabels : s.figure.withLabels = (base.figure.withLabels && !o.noLabels)
  others : ∀ e, e ∉ [Entry.measure .width, .measure .height, .measure .fontSize, .measure .dpi,
    .withLabels] → e.get s = e.get base

theorem Overrides.isOver_apply (o : Overrides Float) (base : Settings Float) :
    o.IsOver base { base with figure := o.apply base.figure } := by
  refine ⟨rfl, rfl, rfl, rfl, rfl, fun e other => ?_⟩
  cases e with
  | measure m => cases m <;> first | rfl | exact absurd (by decide) other
  | withLabels => exact absurd (by decide) other
  | _ => rfl

theorem Overrides.IsOver.unique {o : Overrides Float} {base s t : Settings Float}
    (first : o.IsOver base s) (second : o.IsOver base t) : s = t := by
  refine Entry.get_ext fun e => ?_
  by_cases among : e ∈ [Entry.measure .width, .measure .height, .measure .fontSize,
    .measure .dpi, .withLabels]
  · simp only [List.mem_cons, List.not_mem_nil, or_false] at among
    rcases among with rfl | rfl | rfl | rfl | rfl
    · exact congrArg Content.number (first.width.trans second.width.symm)
    · exact congrArg Content.number (first.height.trans second.height.symm)
    · exact congrArg Content.number (first.fontSize.trans second.fontSize.symm)
    · exact congrArg Content.number (first.dpi.trans second.dpi.symm)
    · exact congrArg Content.flag (first.withLabels.trans second.withLabels.symm)
  · exact (first.others e among).trans (second.others e among).symm

theorem Overrides.isOver_iff {o : Overrides Float} {base s : Settings Float} :
    o.IsOver base s ↔ { base with figure := o.apply base.figure } = s := by
  constructor
  · exact (o.isOver_apply base).unique
  · rintro rfl
    exact o.isOver_apply base

/-- What is laid over as a size is one, where the settings that come of it are usable. -/
theorem Overrides.IsOver.isPositive {o : Overrides Float} {base s : Settings Float}
    (laid : o.IsOver base s) (usable : s.IsUsable) {x : Float}
    (given : some x ∈ [o.width, o.height, o.fontSize, o.dpi]) : IsPositive x := by
  have width : IsPositive s.figure.width :=
    usable.holds "render.width" (by simp [Settings.conditions])
  have height : IsPositive s.figure.height :=
    usable.holds "render.height" (by simp [Settings.conditions])
  have fontSize : IsPositive s.figure.fontSize :=
    usable.holds "render.font_size" (by simp [Settings.conditions])
  have dpi : IsPositive s.figure.dpi :=
    usable.holds "render.dpi" (by simp [Settings.conditions])
  simp only [List.mem_cons, List.not_mem_nil, or_false] at given
  rcases given with given | given | given | given
  · rwa [laid.width, ← given] at width
  · rwa [laid.height, ← given] at height
  · rwa [laid.fontSize, ← given] at fontSize
  · rwa [laid.dpi, ← given] at dpi

namespace Settings

open Storage

variable {σ : Type} [Storage (StateM σ)] {s : σ} {base : Settings Float}

/-- The settings that overrides are laid over: the default ones, or what the file says. -/
inductive IsBase (s : σ) : Option String → Settings Float → Prop
  | default : IsBase s none .default
  | file {path text : String} {doc : List (String × Toml.Value)} {base : Settings Float}
      (held : (readAt s path).1 = .ok text.toUTF8) (parsed : Toml.parse text = some doc)
      (fits : Fits doc) (fills : Fills doc base) : IsBase s (some path) base

def loaded (s : σ) : Option String → Except Fault (Settings Float)
  | none => .ok .default
  | some path => (runAt s (Settings.load path)).1

theorem runAt_load (path : String) :
    (runAt s (Settings.load path)).1 = decode path "config::load" (readAt s path).1 >>=
      fun text => (Settings.parse text).mapError fun f => f.note "path" path := by
  rw [Settings.load, runAt_bind_liftM, runAt_readText]

theorem loaded_eq_ok_iff {path : Option String} :
    loaded s path = .ok base ↔ IsBase s path base ∧ base.IsUsable := by
  cases path with
  | none =>
    constructor
    · rintro ⟨⟩
      exact ⟨.default, isUsable_default⟩
    · rintro ⟨⟨⟩, _⟩
      rfl
  | some path =>
    simp only [loaded, runAt_load, bind_eq_ok_iff, decode_eq_ok_iff, mapError_eq_ok_iff,
      parse_eq_ok_iff]
    constructor
    · rintro ⟨text, held, doc, parsed, fits, fills, usable⟩
      exact ⟨.file held parsed fits fills, usable⟩
    · rintro ⟨⟨⟩ | ⟨held, parsed, fits, fills⟩, usable⟩
      exact ⟨_, held, _, parsed, fits, fills, usable⟩

theorem exists_isNamed_of_loaded {path : Option String} (below : IsBase s path base)
    (unusable : ¬ base.IsUsable) : ∃ e name, loaded s path = .error e ∧ base.IsNamed name e := by
  cases below with
  | default => exact absurd isUsable_default unusable
  | @file path text doc base held parsed fits fills =>
    obtain ⟨e, name, invalid, named⟩ := exists_isNamed_of_parse parsed fits fills unusable
    refine ⟨e.note "path" path, name, ?_, named.note "path" path⟩
    rw [loaded, runAt_load, decode_eq_ok_iff.mpr held]
    exact mapError_eq_error_iff.mpr ⟨e, invalid, rfl⟩

theorem runAt_resolve (path : Option String) (o : Overrides Float) :
    (runAt s (Settings.resolve path o)).1 = loaded s path >>=
      fun base => { base with figure := o.apply base.figure }.validated := by
  cases path with
  | none => exact congrArg Prod.fst (runAt_liftM s _)
  | some path => exact congrArg Prod.fst (runAt_bind_liftM s _ _)

theorem resolve_eq_ok_iff {path : Option String} {o : Overrides Float} {r : Settings Float} :
    (runAt s (Settings.resolve path o)).1 = .ok r ↔
      ∃ base, IsBase s path base ∧ base.IsUsable ∧ o.IsOver base r ∧ r.IsUsable := by
  simp only [runAt_resolve, bind_eq_ok_iff, loaded_eq_ok_iff, validated_eq_ok_iff,
    Overrides.isOver_iff]
  constructor
  · rintro ⟨base, ⟨below, usable⟩, rfl, laidUsable⟩
    exact ⟨base, below, usable, rfl, laidUsable⟩
  · rintro ⟨base, below, usable, rfl, laidUsable⟩
    exact ⟨base, ⟨below, usable⟩, rfl, laidUsable⟩

/-- Settings are in effect when those under the overrides are usable and they themselves are.
Otherwise the fault names the first setting that is not, below the overrides or with them. -/
theorem resolve_gives (s : σ) (path : Option String) (o : Overrides Float) :
    (∀ r, (runAt s (Settings.resolve path o)).1 = .ok r ↔
      ∃ base, IsBase s path base ∧ base.IsUsable ∧ o.IsOver base r ∧ r.IsUsable) ∧
    (∀ r, (runAt s (Settings.resolve path o)).1 = .ok r →
      ∀ x, some x ∈ [o.width, o.height, o.fontSize, o.dpi] → IsPositive x) ∧
    (∀ base, IsBase s path base → ¬ base.IsUsable →
      ∃ e name, (runAt s (Settings.resolve path o)).1 = .error e ∧ base.IsNamed name e) ∧
    (∀ base r, IsBase s path base → base.IsUsable → o.IsOver base r → ¬ r.IsUsable →
      ∃ e name, (runAt s (Settings.resolve path o)).1 = .error e ∧ r.IsNamed name e) ∧
    ∀ f, o.apply (o.apply f) = o.apply f := by
  refine ⟨fun r => resolve_eq_ok_iff, ?_, ?_, ?_, o.apply_apply⟩
  · intro r resolved x given
    obtain ⟨base, -, -, laid, usable⟩ := resolve_eq_ok_iff.mp resolved
    exact laid.isPositive usable given
  · intro base below unusable
    obtain ⟨e, name, failed, named⟩ := exists_isNamed_of_loaded below unusable
    exact ⟨e, name, by rw [runAt_resolve, failed]; rfl, named⟩
  · intro base r below usable laid unusable
    obtain ⟨e, name, invalid, named⟩ := exists_isNamed unusable
    refine ⟨e, name, ?_, named⟩
    rw [runAt_resolve, loaded_eq_ok_iff.mpr ⟨below, usable⟩]
    exact (congrArg validated (Overrides.isOver_iff.mp laid)).trans invalid

/-- An override of the default settings that is a size, one that is not a number, and a file whose
palette is empty under the same override. -/
theorem resolve_gives_or_names :
    let fs : FileSystem := ⟨[(["viz.toml"], .file "[style]\npalette = []".toUTF8)], []⟩
    let size : Overrides Float := { dpi := some 96 }
    let noNumber : Overrides Float := { dpi := some (0 / 0) }
    (∃ r, (runAt fs (Settings.resolve none size)).1 = .ok r ∧ r.figure.dpi = 96 ∧ IsPositive 96) ∧
    (∃ e name r, (runAt fs (Settings.resolve none noNumber)).1 = .error e ∧ IsNamed r name e) ∧
    ∃ e name base, (runAt fs (Settings.resolve (some "viz.toml") size)).1 = .error e ∧
      IsNamed base name e := by
  intro fs size noNumber
  refine ⟨?_, ?_, ?_⟩
  · obtain ⟨resolves, positive, -⟩ := resolve_gives fs none size
    have laid := size.isOver_apply .default
    have usable : { (.default : Settings Float) with figure := size.apply .default }.IsUsable := by
      rw [← violation?_eq_none_iff_isUsable]
      decide +kernel
    have resolved := (resolves _).mpr ⟨_, .default, isUsable_default, laid, usable⟩
    exact ⟨_, resolved, rfl, positive _ resolved 96 (by simp [size])⟩
  · obtain ⟨-, -, -, names, -⟩ := resolve_gives fs none noNumber
    have laid := noNumber.isOver_apply .default
    have unusable :
        ¬ { (.default : Settings Float) with figure := noNumber.apply .default }.IsUsable := by
      rw [← violation?_eq_none_iff_isUsable]
      decide +kernel
    obtain ⟨e, name, failed, named⟩ := names _ _ .default isUsable_default laid unusable
    exact ⟨e, name, _, failed, named⟩
  · obtain ⟨-, -, names, -⟩ := resolve_gives fs (some "viz.toml") size
    let base : Settings Float := { Settings.default with palette := [] }
    have held : (readAt fs "viz.toml").1 = .ok "[style]\npalette = []".toUTF8 := by rfl
    have parsed : Toml.parse "[style]\npalette = []" =
        some [("style", .table [("palette", .array [])])] := by cbv
    have said : ofToml [("style", .table [("palette", .array [])])] = .ok base :=
      toOption_eq_some_iff.mp (by decide +kernel)
    obtain ⟨fits, fills⟩ := (ofToml_eq_ok_iff (Toml.isKeyed_of_parse parsed)).mp said
    have unusable : ¬ base.IsUsable := by
      rw [← violation?_eq_none_iff_isUsable]
      decide +kernel
    obtain ⟨e, name, failed, named⟩ := names base (.file held parsed fits fills) unusable
    exact ⟨e, name, base, failed, named⟩

end Settings

end Strata
