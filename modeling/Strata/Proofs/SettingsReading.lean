import Mathlib
import Strata.Proofs.SettingsEntries
import Strata.Proofs.SettingsValidity
import Strata.Proofs.TomlTables

/-! Settings as a document gives them. Each of the eighteen entries has the value that the document
gives it and its default where there is none; a document is refused exactly for a key that is not
known, a value of another type, or settings that are not usable. Order plays no part in it. -/
namespace Strata

theorem find?_key_eq_some_iff {β : Type} {key : β → String} {l : List β}
    (nodup : (l.map key).Nodup) {k : String} {b : β} :
    (l.find? fun b => key b == k) = some b ↔ b ∈ l ∧ key b = k := by
  constructor
  · intro found
    exact ⟨List.mem_of_find?_eq_some found, by simpa using List.find?_some found⟩
  · rintro ⟨member, rfl⟩
    obtain ⟨c, found⟩ : ∃ c, (l.find? fun c => key c == key b) = some c :=
      Option.isSome_iff_exists.mp (List.find?_isSome.mpr ⟨b, member, by simp⟩)
    have same : key c = key b := by simpa using List.find?_some found
    rw [found, List.inj_on_of_nodup_map nodup (List.mem_of_find?_eq_some found) member same]

theorem find?_key_eq_none_iff {β : Type} {key : β → String} {l : List β} {k : String} :
    (l.find? fun b => key b == k) = none ↔ ¬ ∃ b ∈ l, key b = k := by
  simp [List.find?_eq_none]

namespace Section

open Settings

theorem nodup_keys (sec : Section) : (sec.entries.map Entry.key).Nodup := by
  cases sec <;> decide

theorem nodup_all : (all.map key).Nodup := by decide

theorem mem_all (sec : Section) : sec ∈ all := by cases sec <;> decide

theorem key_injective : Function.Injective key := fun sec sec' same =>
  List.inj_on_of_nodup_map nodup_all sec.mem_all sec'.mem_all same

/-- All keys that a document may have. -/
example : all.map (fun sec => (sec.key, sec.entries.map Entry.key)) = [
    ("layout", ["x_gap", "y_gap"]),
    ("style", ["palette"]),
    ("render", ["width", "height", "dpi", "font_size", "legend_font_size", "node_size",
      "border_width", "border_color", "edge_color", "edge_width", "edge_opacity", "curvature",
      "arrow_size", "background", "with_labels"])] := rfl

/-- No entry belongs to two sections. -/
theorem eq_of_mem_entries {sec sec' : Section} {e : Entry} (here : e ∈ sec.entries)
    (there : e ∈ sec'.entries) : sec = sec' := by
  have apart : ∀ sec' : Section, sec ≠ sec' → ∀ e ∈ sec.entries, e ∉ sec'.entries := by
    intro sec'
    cases sec <;> cases sec' <;> decide
  by_contra other
  exact apart sec' other e here there

/-- The values of a section with their names: those of a table, and those of an array by the places
of the entries. -/
def named? (sec : Section) : Toml.Value → Option (List (String × Toml.Value))
  | .table l => some l
  | .array items => some ((sec.entries.map Entry.key).zip items)
  | _ => none

theorem nodup_named? {sec : Section} {w : Toml.Value} (keyed : w.IsKeyed)
    {l : List (String × Toml.Value)} (named : sec.named? w = some l) :
    (l.map Prod.fst).Nodup := by
  cases keyed with
  | table nodup all => cases named; exact nodup
  | array all =>
    cases named
    rw [List.zip_eq_zip_take_min, List.map_fst_zip (by simp)]
    exact sec.nodup_keys.sublist (List.take_sublist _ _)
  | _ => cases named

/-- The keys of all named values are known. -/
def Knows (sec : Section) (l : List (String × Toml.Value)) : Prop :=
  ∀ q ∈ l, ∃ e ∈ sec.entries, e.key = q.1

/-- What named values assign to the entries of a section. -/
def assignments (sec : Section) (l : List (String × Toml.Value)) : List Assignment :=
  l.filterMap fun q => (sec.entries.find? fun e => e.key == q.1).map fun e => (e, q.2)

theorem mem_assignments {sec : Section} {l : List (String × Toml.Value)} {e : Entry}
    {v : Toml.Value} :
    (e, v) ∈ sec.assignments l ↔ e ∈ sec.entries ∧ (e.key, v) ∈ l := by
  simp only [assignments, List.mem_filterMap, Option.map_eq_some_iff,
    find?_key_eq_some_iff sec.nodup_keys]
  constructor
  · rintro ⟨q, member, f, ⟨listed, same⟩, made⟩
    cases made
    exact ⟨listed, same ▸ member⟩
  · rintro ⟨listed, member⟩
    exact ⟨_, member, e, ⟨listed, rfl⟩, rfl⟩

/-- Values with names of their own are assigned to entries of their own. -/
theorem nodup_assignments (sec : Section) {l : List (String × Toml.Value)}
    (nodup : (l.map Prod.fst).Nodup) : ((sec.assignments l).map Prod.fst).Nodup := by
  -- The keys of what is assigned are the names without the unknown ones.
  refine List.Nodup.of_map Entry.key (nodup.sublist ?_)
  induction l with
  | nil => exact .slnil
  | cons q rest ih =>
    have kept := ih (List.nodup_cons.mp nodup).2
    cases found : sec.entries.find? fun e => e.key == q.1 with
    | none => simpa [assignments, found] using kept.cons q.1
    | some e =>
      obtain ⟨-, same⟩ := (find?_key_eq_some_iff sec.nodup_keys).mp found
      simpa [assignments, found, same] using kept

theorem readTable_eq_ok_iff {sec : Section} {l : List (String × Toml.Value)}
    {s s' : Settings Float} :
    readTable sec s l = .ok s' ↔ sec.Knows l ∧ assign s (sec.assignments l) = .ok s' := by
  induction l generalizing s with
  | nil => exact ⟨fun read => ⟨List.forall_mem_nil _, read⟩, And.right⟩
  | cons q rest ih =>
    rw [Knows, List.forall_mem_cons]
    cases found : sec.entries.find? fun e => e.key == q.1 with
    | none => simp [readTable, found, find?_key_eq_none_iff.mp found]
    | some e =>
      have known : ∃ e ∈ sec.entries, e.key = q.1 :=
        ⟨e, (find?_key_eq_some_iff sec.nodup_keys).mp found⟩
      have first : sec.assignments (q :: rest) = (e, q.2) :: sec.assignments rest := by
        simp [assignments, found]
      rw [first, assign, List.foldlM_cons, bind_eq_ok_iff]
      simp only [readTable, found, bind_eq_ok_iff, ih, known, true_and]
      constructor
      · rintro ⟨t, read, knows, later⟩
        exact ⟨knows, t, read, later⟩
      · rintro ⟨knows, t, read, later⟩
        exact ⟨t, read, knows, later⟩

theorem readList_eq (s : Settings Float) (entries : List Entry) (items : List Toml.Value) :
    readList s entries items = assign s (entries.zip items) := by
  induction entries generalizing s items with
  | nil => rfl
  | cons e rest ih =>
    cases items with
    | nil => rfl
    | cons v items => simp only [readList, ih, List.zip_cons_cons, assign, List.foldlM_cons]

/-- Values by place are values under the keys of the places. -/
theorem assignments_zip (sec : Section) (items : List Toml.Value) :
    sec.assignments ((sec.entries.map Entry.key).zip items) = sec.entries.zip items := by
  rw [assignments, List.zip_map_left, List.filterMap_map,
    List.filterMap_congr (g := some) fun q member => ?_, List.filterMap_some]
  have found := (find?_key_eq_some_iff sec.nodup_keys).mpr ⟨(List.of_mem_zip member).1, rfl⟩
  simp [found]

theorem readSection_eq_ok_iff {s s' : Settings Float} {sec : Section} {w : Toml.Value} :
    readSection s sec w = .ok s' ↔
      ∃ l, sec.named? w = some l ∧ sec.Knows l ∧ assign s (sec.assignments l) = .ok s' := by
  cases w with
  | table l => simp [readSection, named?, readTable_eq_ok_iff]
  | array items =>
    have known : sec.Knows ((sec.entries.map Entry.key).zip items) := fun q member =>
      List.mem_map.mp (List.of_mem_zip member).1
    simp [readSection, named?, readList_eq, assignments_zip, known]
  | _ => simp [readSection, named?]

/-- What a document has under a key is this section with these named values. -/
structure IsGiven (sec : Section) (q : String × Toml.Value) (l : List (String × Toml.Value)) :
    Prop where
  key : sec.key = q.1
  named : sec.named? q.2 = some l

theorem find?_all_eq_some_iff {key : String} {sec : Section} :
    (all.find? fun sec => sec.key == key) = some sec ↔ sec.key = key := by
  rw [find?_key_eq_some_iff nodup_all, and_iff_right sec.mem_all]

end Section

namespace Settings

open Section

variable {doc doc' : List (String × Toml.Value)} {s s' : Settings Float}

/-- What an entry of a document assigns. -/
def part (q : String × Toml.Value) : List Assignment :=
  match all.find? fun sec => sec.key == q.1 with
  | none => []
  | some sec => match sec.named? q.2 with
    | none => []
    | some l => sec.assignments l

theorem part_eq {q : String × Toml.Value} {sec : Section} {l : List (String × Toml.Value)}
    (given : sec.IsGiven q l) : part q = sec.assignments l := by
  simp only [part, find?_all_eq_some_iff.mpr given.key, given.named]

theorem part_cases (q : String × Toml.Value) :
    part q = [] ∨ ∃ (sec : Section) (l : _), sec.IsGiven q l ∧ part q = sec.assignments l := by
  rw [part]
  split
  · exact .inl rfl
  · next sec found =>
    split
    · exact .inl rfl
    · next l named => exact .inr ⟨sec, l, ⟨find?_all_eq_some_iff.mp found, named⟩, rfl⟩

theorem mem_part {q : String × Toml.Value} {e : Entry} {v : Toml.Value} :
    (e, v) ∈ part q ↔
      ∃ (sec : Section) (l : _), sec.IsGiven q l ∧ e ∈ sec.entries ∧ (e.key, v) ∈ l := by
  constructor
  · intro member
    rcases part_cases q with none | ⟨sec, l, given, assigned⟩
    · simp [none] at member
    · rw [assigned] at member
      exact ⟨sec, l, given, mem_assignments.mp member⟩
  · rintro ⟨sec, l, given, assigned⟩
    exact part_eq given ▸ mem_assignments.mpr assigned

/-- A document gives an entry a value. -/
def Gives (doc : List (String × Toml.Value)) (e : Entry) (v : Toml.Value) : Prop :=
  ∃ q ∈ doc, ∃ (sec : Section) (l : _), sec.IsGiven q l ∧ e ∈ sec.entries ∧ (e.key, v) ∈ l

theorem mem_flatMap_part {e : Entry} {v : Toml.Value} :
    (e, v) ∈ doc.flatMap part ↔ Gives doc e v := by
  simp only [List.mem_flatMap, mem_part, Gives]

theorem nodup_part {q : String × Toml.Value} (keyed : q.2.IsKeyed) :
    ((part q).map Prod.fst).Nodup := by
  rcases part_cases q with none | ⟨sec, l, given, assigned⟩
  · rw [none]
    exact List.nodup_nil
  · rw [assigned]
    exact sec.nodup_assignments (nodup_named? keyed given.named)

/-- Entries of a document under different keys assign to different entries of the settings. -/
theorem disjoint_part {q q' : String × Toml.Value} (apart : q.1 ≠ q'.1) :
    ((part q).map Prod.fst).Disjoint ((part q').map Prod.fst) := by
  intro e here there
  obtain ⟨⟨_, v⟩, member, rfl⟩ := List.mem_map.mp here
  obtain ⟨⟨_, v'⟩, member', rfl⟩ := List.mem_map.mp there
  obtain ⟨sec, l, given, listed, -⟩ := mem_part.mp member
  obtain ⟨sec', l', given', listed', -⟩ := mem_part.mp member'
  exact apart (by rw [← given.key, ← given'.key, eq_of_mem_entries listed listed'])

theorem nodup_flatMap_part (keyed : (Toml.Value.table doc).IsKeyed) :
    ((doc.flatMap part).map Prod.fst).Nodup := by
  cases keyed with
  | table nodup all =>
    rw [List.map_flatMap, List.nodup_flatMap]
    exact ⟨fun q member => nodup_part (all q member),
      (List.pairwise_map.mp nodup).imp disjoint_part⟩

/-- Every entry of a document is a section, and the names in it are known. -/
def AreKnown (doc : List (String × Toml.Value)) : Prop :=
  ∀ q ∈ doc, ∃ (sec : Section) (l : _), sec.IsGiven q l ∧ sec.Knows l

theorem readSections_eq_ok_iff :
    readSections s doc = .ok s' ↔ AreKnown doc ∧ assign s (doc.flatMap part) = .ok s' := by
  induction doc generalizing s with
  | nil => exact ⟨fun read => ⟨List.forall_mem_nil _, read⟩, And.right⟩
  | cons q rest ih =>
    rw [AreKnown, List.forall_mem_cons, List.flatMap_cons, assign, List.foldlM_append,
      bind_eq_ok_iff]
    cases found : all.find? fun sec => sec.key == q.1 with
    | none =>
      have unknown (sec : Section) (l : _) : ¬ sec.IsGiven q l := fun given =>
        find?_key_eq_none_iff.mp found ⟨sec, sec.mem_all, given.key⟩
      simp [readSections, found, unknown]
    | some sec =>
      simp only [readSections, found, bind_eq_ok_iff, readSection_eq_ok_iff, ih]
      constructor
      · rintro ⟨t, ⟨l, named, knows, read⟩, known, later⟩
        have given : sec.IsGiven q l := ⟨find?_all_eq_some_iff.mp found, named⟩
        exact ⟨⟨⟨sec, l, given, knows⟩, known⟩, t, part_eq given ▸ read, later⟩
      · rintro ⟨⟨⟨sec', l, given, knows⟩, known⟩, t, read, later⟩
        obtain rfl : sec = sec' :=
          key_injective ((find?_all_eq_some_iff.mp found).trans given.key.symm)
        exact ⟨t, ⟨l, given.named, knows, part_eq given ▸ read⟩, known, later⟩

/-- A document with no unknown keys and no values of another type. -/
structure Fits (doc : List (String × Toml.Value)) : Prop where
  known : AreKnown doc
  typed : ∀ e v, Gives doc e v → ∃ c, e.Denotes v c

/-- Settings that are as the document says, and as by default where it says nothing. -/
structure Fills (doc : List (String × Toml.Value)) (s : Settings Float) : Prop where
  given : ∀ e v, Gives doc e v → e.Denotes v (e.get s)
  absent : ∀ e, (∀ v, ¬ Gives doc e v) → e.get s = e.get .default

theorem holds_iff_fills : Holds (doc.flatMap part) .default s ↔ Fills doc s := by
  constructor
  · intro holds
    refine ⟨fun e v gives => holds.assigned (e, v) (mem_flatMap_part.mpr gives), ?_⟩
    intro e absent
    refine holds.kept e fun among => ?_
    obtain ⟨⟨_, v⟩, member, rfl⟩ := List.mem_map.mp among
    exact absent v (mem_flatMap_part.mp member)
  · intro fills
    refine ⟨fun a member => fills.given a.1 a.2 (mem_flatMap_part.mp member), ?_⟩
    intro e fresh
    refine fills.absent e fun v gives => fresh ?_
    exact List.mem_map.mpr ⟨_, mem_flatMap_part.mpr gives, rfl⟩

theorem ofToml_eq_ok_iff (keyed : (Toml.Value.table doc).IsKeyed) :
    ofToml doc = .ok s ↔ Fits doc ∧ Fills doc s := by
  rw [ofToml, readSections_eq_ok_iff, assign_eq_ok_iff (nodup_flatMap_part keyed),
    holds_iff_fills]
  constructor
  · rintro ⟨known, fills⟩
    exact ⟨⟨known, fun e v gives => ⟨_, fills.given e v gives⟩⟩, fills⟩
  · rintro ⟨fits, fills⟩
    exact ⟨fits.known, fills⟩

/-- A document that fits says what the settings are. -/
theorem existsUnique_fills (keyed : (Toml.Value.table doc).IsKeyed) (fits : Fits doc) :
    ∃! s, Fills doc s := by
  obtain ⟨s, read⟩ := exists_assign (l := doc.flatMap part)
    (fun a member => fits.typed a.1 a.2 (mem_flatMap_part.mp member)) .default
  have holds := (assign_eq_ok_iff (nodup_flatMap_part keyed)).mp read
  exact ⟨s, holds_iff_fills.mp holds, fun t fills => (holds_iff_fills.mpr fills).unique holds⟩

/-- The same document with its sections, and the keys in them, in another order. -/
inductive Reordered : List (String × Toml.Value) → List (String × Toml.Value) → Prop
  | sections {doc doc' : List (String × Toml.Value)} (perm : doc.Perm doc') : Reordered doc doc'
  | keys (before after : List (String × Toml.Value)) (key : String)
      {l l' : List (String × Toml.Value)} (perm : l.Perm l') :
      Reordered (before ++ (key, .table l) :: after) (before ++ (key, .table l') :: after)
  | trans {doc doc' doc'' : List (String × Toml.Value)} (first : Reordered doc doc')
      (second : Reordered doc' doc'') : Reordered doc doc''

theorem Reordered.symm (reordered : Reordered doc doc') : Reordered doc' doc := by
  induction reordered with
  | sections perm => exact .sections perm.symm
  | keys before after key perm => exact .keys before after key perm.symm
  | trans _ _ ih ih' => exact .trans ih' ih

/-- What is given in one order is given in the other, up to the order of the names. -/
theorem Reordered.exists_isGiven (reordered : Reordered doc doc') {q : String × Toml.Value}
    (member : q ∈ doc) {sec : Section} {l : List (String × Toml.Value)}
    (given : sec.IsGiven q l) : ∃ q' ∈ doc', ∃ l', sec.IsGiven q' l' ∧ l.Perm l' := by
  induction reordered generalizing q l with
  | sections perm => exact ⟨q, perm.mem_iff.mp member, l, given, .refl l⟩
  | keys before after key perm =>
    rcases List.mem_append.mp member with early | late
    · exact ⟨q, List.mem_append_left _ early, l, given, .refl l⟩
    rcases List.mem_cons.mp late with rfl | late
    · -- This is the table whose names change places.
      obtain ⟨same, named⟩ := given
      cases named
      exact ⟨_, List.mem_append_right _ List.mem_cons_self, _, ⟨same, rfl⟩, perm⟩
    · exact ⟨q, List.mem_append_right _ (List.mem_cons_of_mem _ late), l, given, .refl l⟩
  | trans _ _ ih ih' =>
    obtain ⟨q', member', l', given', perm⟩ := ih member given
    obtain ⟨q'', member'', l'', given'', perm'⟩ := ih' member' given'
    exact ⟨q'', member'', l'', given'', perm.trans perm'⟩

theorem Reordered.areKnown (reordered : Reordered doc doc') (known : AreKnown doc) :
    AreKnown doc' := by
  induction reordered with
  | sections perm => exact fun q member => known q (perm.mem_iff.mpr member)
  | keys before after key perm =>
    obtain ⟨early, late⟩ := List.forall_mem_append.mp known
    obtain ⟨⟨sec, l, ⟨same, named⟩, knows⟩, late⟩ := List.forall_mem_cons.mp late
    cases named
    have knows' : sec.Knows _ := fun q member => knows q (perm.mem_iff.mpr member)
    exact List.forall_mem_append.mpr
      ⟨early, List.forall_mem_cons.mpr ⟨⟨sec, _, ⟨same, rfl⟩, knows'⟩, late⟩⟩
  | trans _ _ ih ih' => exact ih' (ih known)

theorem Reordered.gives (reordered : Reordered doc doc') {e : Entry} {v : Toml.Value}
    (gives : Gives doc e v) : Gives doc' e v := by
  obtain ⟨q, member, sec, l, given, listed, within⟩ := gives
  obtain ⟨q', member', l', given', perm⟩ := reordered.exists_isGiven member given
  exact ⟨q', member', sec, l', given', listed, perm.mem_iff.mp within⟩

theorem Reordered.fits (reordered : Reordered doc doc') (fits : Fits doc) : Fits doc' where
  known := reordered.areKnown fits.known
  typed e v gives := fits.typed e v (reordered.symm.gives gives)

theorem Reordered.fills (reordered : Reordered doc doc') (fills : Fills doc s) :
    Fills doc' s where
  given e v gives := fills.given e v (reordered.symm.gives gives)
  absent e absent := fills.absent e fun v gives => absent v (reordered.gives gives)

theorem parse_eq_ok_iff {text : String} :
    parse text = .ok s ↔
      ∃ doc, Toml.parse text = some doc ∧ Fits doc ∧ Fills doc s ∧ s.IsUsable := by
  rw [parse]
  cases read : Toml.parse text with
  | none => simp
  | some doc =>
    simp only [Option.some.injEq, exists_eq_left', bind_eq_ok_iff, mapError_eq_ok_iff,
      ofToml_eq_ok_iff (Toml.isKeyed_of_parse read), validated_eq_ok_iff]
    constructor
    · rintro ⟨_, ⟨fits, fills⟩, rfl, usable⟩
      exact ⟨fits, fills, usable⟩
    · rintro ⟨fits, fills, usable⟩
      exact ⟨s, ⟨fits, fills⟩, rfl, usable⟩

/-- The fault of a document that says settings that are not usable names the first that is not. -/
theorem exists_isNamed_of_parse {text : String} (read : Toml.parse text = some doc)
    (fits : Fits doc) (fills : Fills doc s) (unusable : ¬ s.IsUsable) :
    ∃ e name, parse text = .error e ∧ s.IsNamed name e := by
  have said := (ofToml_eq_ok_iff (Toml.isKeyed_of_parse read)).mpr ⟨fits, fills⟩
  obtain ⟨e, name, invalid, named⟩ := exists_isNamed unusable
  exact ⟨e, name, by simp [parse, read, said, invalid, bind, Except.bind, Except.mapError], named⟩

/-- Settings are read from the texts of documents that fit, where the settings that they say are
usable. A document that fits says all of the settings, and says the same in any order. -/
theorem parse_reads :
    (∀ text s, parse text = .ok s ↔
      ∃ doc, Toml.parse text = some doc ∧ Fits doc ∧ Fills doc s ∧ s.IsUsable) ∧
    (∀ text doc, Toml.parse text = some doc → Fits doc → ∃! s, Fills doc s) ∧
    ∀ text text' doc doc', Toml.parse text = some doc → Toml.parse text' = some doc' →
      Reordered doc doc' → ∀ s, parse text = .ok s ↔ parse text' = .ok s := by
  refine ⟨fun text s => parse_eq_ok_iff, fun text doc read => ?_, ?_⟩
  · exact existsUnique_fills (Toml.isKeyed_of_parse read)
  · intro text text' doc doc' read read' reordered s
    simp only [parse_eq_ok_iff, read, read', Option.some.injEq, exists_eq_left']
    constructor
    · rintro ⟨fits, fills, usable⟩
      exact ⟨reordered.fits fits, reordered.fills fills, usable⟩
    · rintro ⟨fits, fills, usable⟩
      exact ⟨reordered.symm.fits fits, reordered.symm.fills fills, usable⟩

theorem parse_reads_swapped :
    let text :=
      "[render]\nwith_labels = false\nedge_color = '#123456'\n[style]\npalette = ['#abcdef']"
    let swapped :=
      "[style]\npalette = ['#abcdef']\n[render]\nedge_color = '#123456'\nwith_labels = false"
    ∃ s doc, Toml.parse text = some doc ∧ (∃! t, Fills doc t) ∧ parse text = .ok s ∧
      parse swapped = .ok s ∧ s.figure.withLabels = false ∧ s.figure.dpi = 160 := by
  intro text swapped
  let render : List (String × Toml.Value) :=
    [("with_labels", .boolean false), ("edge_color", .string "#123456")]
  let render' : List (String × Toml.Value) :=
    [("edge_color", .string "#123456"), ("with_labels", .boolean false)]
  let style : String × Toml.Value := ("style", .table [("palette", .array [.string "#abcdef"])])
  have first : Toml.parse text = some [("render", .table render), style] := by
    subst text
    cbv
  have second : Toml.parse swapped = some [style, ("render", .table render')] := by
    subst swapped
    cbv
  have reordered : Reordered [("render", .table render), style]
      [style, ("render", .table render')] :=
    .trans (.keys [] [style] "render" (.swap _ _ [])) (.sections (.swap _ _ []))
  let s : Settings Float := { Settings.default with
    palette := [⟨0xab, 0xcd, 0xef⟩]
    figure := { Figure.default with withLabels := false, edgeColor := ⟨0x12, 0x34, 0x56⟩ } }
  have read : parse text = .ok s := toOption_eq_some_iff.mp (by decide +kernel)
  obtain ⟨doc, made, fits, -⟩ := (parse_reads.1 text s).mp read
  exact ⟨s, doc, made, parse_reads.2.1 text doc made fits, read,
    (parse_reads.2.2 text swapped _ _ first second reordered s).mp read, rfl, rfl⟩

end Settings

end Strata
