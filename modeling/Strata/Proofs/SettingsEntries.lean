import Mathlib.Data.List.Forall2
import Strata.Proofs.StorageCalls
import Strata.Settings.Reading

/-! The eighteen entries of the settings: what a value says for each, and what a series of
assignments leaves. Entries are apart from each other, so assignments to different entries all hold,
and every other entry stays as it was. -/
namespace Strata

/-- What an entry of the settings holds. -/
inductive Content where
  | number (x : Float)
  | colors (l : List Color)
  | color (c : Color)
  | flag (b : Bool)

namespace Entry

def IsColor : Entry → Prop
  | borderColor | edgeColor | background => True
  | measure _ | palette | withLabels => False

/-- What a value says for an entry. A value of another type says nothing. -/
inductive Denotes : Entry → Toml.Value → Content → Prop
  | integer (m : Measure) (n : Int) :
      Denotes (.measure m) (.integer n) (.number (Float.ofInt n))
  | float (m : Measure) (x : Float) : Denotes (.measure m) (.float x) (.number x)
  | boolean (b : Bool) : Denotes .withLabels (.boolean b) (.flag b)
  | color {e : Entry} {text : String} {c : Color} (colored : e.IsColor)
      (parsed : Color.parse? text = some c) : Denotes e (.string text) (.color c)
  | palette {texts : List String} {l : List Color}
      (parsed : List.Forall₂ (fun text c => Color.parse? text = some c) texts l) :
      Denotes .palette (.array (texts.map .string)) (.colors l)

/-- What the settings have for an entry. -/
def get (s : Settings Float) : Entry → Content
  | .measure m => .number (m.get s)
  | .palette => .colors s.palette
  | .borderColor => .color s.figure.borderColor
  | .edgeColor => .color s.figure.edgeColor
  | .background => .color s.figure.background
  | .withLabels => .flag s.figure.withLabels

/-- The settings with an entry changed; a content of another kind leaves them as they are. -/
def put (s : Settings Float) : Entry → Content → Settings Float
  | .measure m, .number x => m.set s x
  | .palette, .colors l => { s with palette := l }
  | .borderColor, .color c => { s with figure := { s.figure with borderColor := c } }
  | .edgeColor, .color c => { s with figure := { s.figure with edgeColor := c } }
  | .background, .color c => { s with figure := { s.figure with background := c } }
  | .withLabels, .flag b => { s with figure := { s.figure with withLabels := b } }
  | _, _ => s

theorem get_ext {s t : Settings Float} (same : ∀ e : Entry, e.get s = e.get t) : s = t := by
  have measures (m : Measure) : m.get s = m.get t := Content.number.inj (same (.measure m))
  have colors := Content.colors.inj (same .palette)
  have border := Content.color.inj (same .borderColor)
  have edge := Content.color.inj (same .edgeColor)
  have background := Content.color.inj (same .background)
  have labels := Content.flag.inj (same .withLabels)
  obtain ⟨⟨_, _⟩, _, ⟨_, _, _, _, _, _, _, _, _, _, _, _, _, _, _⟩⟩ := s
  obtain ⟨⟨_, _⟩, _, ⟨_, _, _, _, _, _, _, _, _, _, _, _, _, _, _⟩⟩ := t
  simp only [Settings.mk.injEq, Spacing.mk.injEq, Figure.mk.injEq]
  exact ⟨⟨measures .xGap, measures .yGap⟩, colors, measures .width, measures .height,
    measures .dpi, measures .fontSize, measures .legendFontSize, measures .nodeSize,
    measures .borderWidth, border, edge, measures .edgeWidth, measures .edgeOpacity,
    measures .curvature, measures .arrowSize, background, labels⟩

theorem get_set_other (s : Settings Float) {m : Measure} {f : Entry} (other : f ≠ .measure m)
    (x : Float) : f.get (m.set s x) = f.get s := by
  cases f with
  | measure n =>
    exact congrArg Content.number (Measure.get_set_other s x fun same => other (same ▸ rfl))
  | _ => cases m <;> rfl

theorem get_put_other (s : Settings Float) {e f : Entry} (other : f ≠ e) (c : Content) :
    f.get (e.put s c) = f.get s := by
  cases e with
  | measure m =>
    cases c with
    | number x => exact get_set_other s other x
    | _ => rfl
  | _ =>
    cases c <;> try rfl
    cases f with
    | measure n => cases n <;> rfl
    | _ => first | rfl | exact absurd rfl other

theorem get_put_of_denotes (s : Settings Float) {e : Entry} {v : Toml.Value} {c : Content}
    (denotes : e.Denotes v c) : e.get (e.put s c) = c := by
  cases denotes with
  | integer m n => exact congrArg Content.number (Measure.get_set_same s _ m)
  | float m x => exact congrArg Content.number (Measure.get_set_same s _ m)
  | boolean b => rfl
  | color colored parsed => cases e <;> first | rfl | exact False.elim colored
  | palette parsed => rfl

end Entry

namespace Settings

open Entry

theorem readColor_eq_ok_iff {v : Toml.Value} {c : Color} :
    readColor v = .ok c ↔ ∃ text, v = .string text ∧ Color.parse? text = some c := by
  cases v with
  | string text =>
    simp only [readColor]
    cases parsed : Color.parse? text <;> simp [parsed]
  | _ => simp [readColor]

theorem readColors_eq_ok_iff {items : List Toml.Value} {l : List Color} :
    items.mapM readColor = .ok l ↔ ∃ texts, items = texts.map .string ∧
      List.Forall₂ (fun text c => Color.parse? text = some c) texts l := by
  induction items generalizing l with
  | nil =>
    rw [List.mapM_nil]
    constructor
    · rintro ⟨⟩
      exact ⟨[], rfl, .nil⟩
    · rintro ⟨texts, none, all⟩
      cases List.map_eq_nil_iff.mp none.symm
      cases all
      rfl
  | cons v rest ih =>
    rw [List.mapM_cons, bind_eq_ok_iff]
    constructor
    · rintro ⟨c, first, later⟩
      obtain ⟨cs, others, made⟩ := bind_eq_ok_iff.mp later
      cases made
      obtain ⟨text, rfl, parsed⟩ := readColor_eq_ok_iff.mp first
      obtain ⟨texts, rfl, all⟩ := ih.mp others
      exact ⟨text :: texts, rfl, .cons parsed all⟩
    · rintro ⟨texts, split, all⟩
      cases all with
      | nil => cases split
      | cons parsed all =>
        rw [List.map_cons, List.cons.injEq] at split
        obtain ⟨rfl, rfl⟩ := split
        refine ⟨_, readColor_eq_ok_iff.mpr ⟨_, rfl, parsed⟩, bind_eq_ok_iff.mpr ⟨_, ?_, rfl⟩⟩
        exact ih.mpr ⟨_, rfl, all⟩

/-- What a value gives an entry. -/
def contentOf (v : Toml.Value) : Entry → Except Mismatch Content
  | .measure _ => (readNumber v).map .number
  | .palette => (readPalette v).map .colors
  | .borderColor | .edgeColor | .background => (readColor v).map .color
  | .withLabels => (readBoolean v).map .flag

theorem readEntry_eq (s : Settings Float) (v : Toml.Value) (e : Entry) :
    readEntry s v e = (contentOf v e).map (e.put s) := by
  cases e with
  | measure m => simp only [readEntry, contentOf]; cases readNumber v <;> rfl
  | palette => simp only [readEntry, contentOf]; cases readPalette v <;> rfl
  | withLabels => simp only [readEntry, contentOf]; cases readBoolean v <;> rfl
  | _ => simp only [readEntry, contentOf]; cases readColor v <;> rfl

theorem readColor_map_eq_ok_iff {v : Toml.Value} {c : Content} {e : Entry} (colored : e.IsColor) :
    (readColor v).map .color = .ok c ↔ e.Denotes v c := by
  rw [map_eq_ok_iff]
  constructor
  · rintro ⟨color, read, rfl⟩
    obtain ⟨text, rfl, parsed⟩ := readColor_eq_ok_iff.mp read
    exact .color colored parsed
  · intro denotes
    cases denotes with
    | color _ parsed => exact ⟨_, readColor_eq_ok_iff.mpr ⟨_, rfl, parsed⟩, rfl⟩
    | _ => exact False.elim colored

theorem contentOf_eq_ok_iff {v : Toml.Value} {e : Entry} {c : Content} :
    contentOf v e = .ok c ↔ e.Denotes v c := by
  cases e with
  | borderColor => exact readColor_map_eq_ok_iff trivial
  | edgeColor => exact readColor_map_eq_ok_iff trivial
  | background => exact readColor_map_eq_ok_iff trivial
  | measure m =>
    rw [contentOf, map_eq_ok_iff]
    constructor
    · rintro ⟨x, read, rfl⟩
      cases v with
      | float => cases read; exact .float m x
      | integer n => cases read; exact .integer m n
      | _ => cases read
    · intro denotes
      cases denotes with
      | integer _ n => exact ⟨_, rfl, rfl⟩
      | float _ x => exact ⟨_, rfl, rfl⟩
      | color colored => exact False.elim colored
  | palette =>
    rw [contentOf, map_eq_ok_iff]
    constructor
    · rintro ⟨l, read, rfl⟩
      cases v with
      | array items =>
        obtain ⟨texts, rfl, parsed⟩ := readColors_eq_ok_iff.mp read
        exact .palette parsed
      | _ => cases read
    · intro denotes
      cases denotes with
      | palette parsed => exact ⟨_, readColors_eq_ok_iff.mpr ⟨_, rfl, parsed⟩, rfl⟩
      | color colored => exact False.elim colored
  | withLabels =>
    rw [contentOf, map_eq_ok_iff]
    constructor
    · rintro ⟨b, read, rfl⟩
      cases v with
      | boolean => cases read; exact .boolean b
      | _ => cases read
    · intro denotes
      cases denotes with
      | boolean b => exact ⟨b, rfl, rfl⟩
      | color colored => exact False.elim colored

theorem denotes_unique {v : Toml.Value} {e : Entry} {c c' : Content} (first : e.Denotes v c)
    (second : e.Denotes v c') : c = c' :=
  Except.ok.inj ((contentOf_eq_ok_iff.mpr first).symm.trans (contentOf_eq_ok_iff.mpr second))

/-- An entry is read where its value says something, and then holds that. -/
theorem readEntry_eq_ok_iff {s s' : Settings Float} {v : Toml.Value} {e : Entry} :
    readEntry s v e = .ok s' ↔ ∃ c, e.Denotes v c ∧ e.put s c = s' := by
  simp only [readEntry_eq, map_eq_ok_iff, contentOf_eq_ok_iff]

abbrev Assignment : Type := Entry × Toml.Value

def assign (s : Settings Float) (l : List Assignment) : Except Mismatch (Settings Float) :=
  l.foldlM (fun s a => readEntry s a.2 a.1) s

/-- Settings hold what is assigned, and are as before in all other entries. -/
structure Holds (l : List Assignment) (s s' : Settings Float) : Prop where
  assigned : ∀ a ∈ l, a.1.Denotes a.2 (a.1.get s')
  kept : ∀ e, e ∉ l.map Prod.fst → e.get s' = e.get s

theorem holds_of_assign {l : List Assignment} (nodup : (l.map Prod.fst).Nodup)
    {s s' : Settings Float} (read : assign s l = .ok s') : Holds l s s' := by
  induction l generalizing s with
  | nil =>
    cases read
    exact ⟨List.forall_mem_nil _, fun _ _ => rfl⟩
  | cons a rest ih =>
    obtain ⟨fresh, nodup⟩ := List.nodup_cons.mp nodup
    rw [assign, List.foldlM_cons] at read
    obtain ⟨t, first, later⟩ := bind_eq_ok_iff.mp read
    obtain ⟨c, denotes, rfl⟩ := readEntry_eq_ok_iff.mp first
    have holds := ih nodup later
    refine ⟨List.forall_mem_cons.mpr ⟨?_, holds.assigned⟩, ?_⟩
    · rwa [holds.kept a.1 fresh, get_put_of_denotes s denotes]
    · intro e absent
      rw [List.map_cons, List.mem_cons, not_or] at absent
      rw [holds.kept e absent.2, get_put_other s absent.1]

theorem exists_assign {l : List Assignment} (typed : ∀ a ∈ l, ∃ c, a.1.Denotes a.2 c)
    (s : Settings Float) : ∃ s', assign s l = .ok s' := by
  induction l generalizing s with
  | nil => exact ⟨s, rfl⟩
  | cons a rest ih =>
    obtain ⟨⟨c, denotes⟩, typed⟩ := List.forall_mem_cons.mp typed
    obtain ⟨s', later⟩ := ih typed (a.1.put s c)
    refine ⟨s', ?_⟩
    rw [assign, List.foldlM_cons]
    exact bind_eq_ok_iff.mpr ⟨_, readEntry_eq_ok_iff.mpr ⟨c, denotes, rfl⟩, later⟩

theorem Holds.unique {l : List Assignment} {s t u : Settings Float} (first : Holds l s t)
    (second : Holds l s u) : t = u := by
  refine get_ext fun e => ?_
  by_cases among : e ∈ l.map Prod.fst
  · obtain ⟨a, member, rfl⟩ := List.mem_map.mp among
    exact denotes_unique (first.assigned a member) (second.assigned a member)
  · rw [first.kept e among, second.kept e among]

theorem assign_eq_ok_iff {l : List Assignment} (nodup : (l.map Prod.fst).Nodup)
    {s s' : Settings Float} : assign s l = .ok s' ↔ Holds l s s' := by
  refine ⟨holds_of_assign nodup, fun holds => ?_⟩
  have typed : ∀ a ∈ l, ∃ c, a.1.Denotes a.2 c := fun a member => ⟨_, holds.assigned a member⟩
  obtain ⟨t, read⟩ := exists_assign typed s
  rw [read, (holds_of_assign nodup read).unique holds]

end Settings

end Strata
