import Strata.Proofs.ColorText
import Strata.Proofs.RunStages
import Strata.Proofs.SettingsReading

/-! Which texts are colours: six hexadecimal digits behind number signs, with white space around the
whole. One sign or none is the form that messages ask for, but more of them do not count either. A
text of any other form is no colour, and settings that have it for one are refused. -/
namespace Strata

namespace Color

open Text

/-- Six digits behind so many signs, with white space around the whole. -/
def IsSpelled (signs : Nat) (s : String) : Prop :=
  ∃ digits, trim s.toList = List.replicate signs '#' ++ digits ∧ IsSixDigits digits

theorem isSome_parse?_iff {s : String} : (parse? s).isSome ↔ ∃ signs, IsSpelled signs s := by
  simp only [Option.isSome_iff_exists, parse?_eq_some_iff]
  constructor
  · rintro ⟨c, signs, digits, split, same⟩
    exact ⟨signs, digits, split, isSixDigits_iff.mpr ⟨c, same⟩⟩
  · rintro ⟨signs, digits, split, six⟩
    obtain ⟨c, same⟩ := isSixDigits_iff.mp six
    exact ⟨c, signs, digits, split, same⟩

theorem parse?_eq_none_iff {s : String} : parse? s = none ↔ ∀ signs, ¬ IsSpelled signs s := by
  rw [← Option.not_isSome_iff_eq_none, isSome_parse?_iff, not_exists]

theorem IsSpelled.unique {m n : Nat} {s : String} (first : IsSpelled m s)
    (second : IsSpelled n s) : m = n := by
  obtain ⟨digits, split, six⟩ := first
  obtain ⟨digits', split', six'⟩ := second
  have lengths := congrArg List.length (split.symm.trans split')
  rw [List.length_append, List.length_append, List.length_replicate, List.length_replicate,
    six.count, six'.count] at lengths
  exact Nat.add_right_cancel lengths

end Color

namespace Settings

open Color

/-- A document has a text where a colour belongs: as a colour of its own or in the palette. -/
inductive HasColorText (doc : List (String × Toml.Value)) (s : String) : Prop
  | single {e : Entry} (colored : e.IsColor) (gives : Gives doc e (.string s))
  | listed {items : List Toml.Value} (gives : Gives doc .palette (.array items))
      (member : Toml.Value.string s ∈ items)

theorem HasColorText.isSome_parse? {doc : List (String × Toml.Value)} {s : String}
    (has : HasColorText doc s) (fits : Fits doc) : (Color.parse? s).isSome := by
  cases has with
  | single colored gives =>
    obtain ⟨_, denotes⟩ := fits.typed _ _ gives
    cases denotes with
    | color _ parsed => exact Option.isSome_of_eq_some parsed
  | listed gives member =>
    obtain ⟨_, denotes⟩ := fits.typed _ _ gives
    cases denotes with
    | palette parsed =>
      have all := parsed.imp fun _ _ same => And.intro (Option.isSome_of_eq_some same) same
      obtain ⟨text, among, same⟩ := List.mem_map.mp member
      cases same
      exact (List.forall₂_and_left _ _ |>.mp all).1 s among

theorem exists_error_of_hasColorText {toml : String} {doc : List (String × Toml.Value)} {s : String}
    (read : Toml.parse toml = some doc) (has : HasColorText doc s)
    (none : Color.parse? s = none) :
    ∃ e, Settings.parse toml = .error e ∧ e.kind = .configInvalid := by
  cases result : Settings.parse toml with
  | error e => exact ⟨e, rfl, kind_of_parse result⟩
  | ok settings =>
    obtain ⟨doc', read', fits, -⟩ := parse_eq_ok_iff.mp result
    cases read.symm.trans read'
    have found := has.isSome_parse? fits
    rw [none] at found
    cases found

end Settings

namespace Color

/-- Colours are six digits behind any number of signs. What is accepted is one sign at most and six
digits just where there are no further signs before them; a text of any other form is refused by
itself and in settings. -/
theorem parse?_accepts (s : String) :
    ((parse? s).isSome ↔ ∃ signs, IsSpelled signs s) ∧
      (((parse? s).isSome ↔ ∃ signs ≤ 1, IsSpelled signs s) ↔
        ¬ ∃ signs, 1 < signs ∧ IsSpelled signs s) ∧
      ((∀ signs, ¬ IsSpelled signs s) →
        Settings.readColor (.string s) = .error (.notAColor s) ∧
        ∀ toml doc, Toml.parse toml = some doc → Settings.HasColorText doc s →
          ∃ e, Settings.parse toml = .error e ∧ e.kind = .configInvalid) := by
  refine ⟨isSome_parse?_iff, ?_, ?_⟩
  · rw [isSome_parse?_iff]
    constructor
    · rintro agrees ⟨signs, many, spelled⟩
      obtain ⟨few, bound, spelled'⟩ := agrees.mp ⟨signs, spelled⟩
      have same := spelled.unique spelled'
      omega
    · intro none_surplus
      refine ⟨?_, fun ⟨signs, _, spelled⟩ => ⟨signs, spelled⟩⟩
      rintro ⟨signs, spelled⟩
      refine ⟨signs, ?_, spelled⟩
      by_contra many
      exact none_surplus ⟨signs, Nat.lt_of_not_le many, spelled⟩
  · intro other
    have none := parse?_eq_none_iff.mpr other
    refine ⟨by rw [Settings.readColor, none], ?_⟩
    intro toml doc read has
    exact Settings.exists_error_of_hasColorText read has none

/-- Two signs are one more than is asked for; a plus sign is none. -/
theorem parse?_accepts_doubled :
    let doubled := "##1f77b4"
    let other := "+1f77b"
    let toml := "[render]\nbackground = '+1f77b'"
    ((parse? doubled).isSome ∧ ¬ ∃ signs ≤ 1, IsSpelled signs doubled) ∧
      (∀ signs, ¬ IsSpelled signs other) ∧
      Settings.readColor (.string other) = .error (.notAColor other) ∧
      ∃ e, Settings.parse toml = .error e ∧ e.kind = .configInvalid := by
  intro doubled other toml
  obtain ⟨accepted, agrees, -⟩ := parse?_accepts doubled
  obtain ⟨-, -, refused⟩ := parse?_accepts other
  have spelled : IsSpelled 2 doubled :=
    ⟨['1', 'f', '7', '7', 'b', '4'], by decide +kernel,
      isSixDigits_iff.mpr ⟨⟨0x1f, 0x77, 0xb4⟩, by decide⟩⟩
  have found : (parse? doubled).isSome := accepted.mpr ⟨2, spelled⟩
  have surplus : ¬ ∃ signs ≤ 1, IsSpelled signs doubled := by
    intro few
    exact agrees.mp ⟨fun _ => few, fun _ => found⟩ ⟨2, by decide, spelled⟩
  have unspelled : ∀ signs, ¬ IsSpelled signs other :=
    parse?_eq_none_iff.mp (by decide +kernel)
  obtain ⟨unread, invalid⟩ := refused unspelled
  let render : List (String × Toml.Value) := [("background", .string other)]
  have read : Toml.parse toml = some [("render", .table render)] := by
    subst toml
    cbv
  have has : Settings.HasColorText [("render", .table render)] other :=
    .single (e := .background) trivial ⟨_, List.mem_singleton_self _, .render, render, ⟨rfl, rfl⟩,
      by decide, List.mem_singleton_self _⟩
  exact ⟨⟨found, surplus⟩, unspelled, unread, invalid toml _ read has⟩

end Color

end Strata
