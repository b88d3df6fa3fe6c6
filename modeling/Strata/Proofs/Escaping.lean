import Strata.Proofs.MarkupScan

/-! Escaping as one substitution. It replaces five characters one after the other, each in the whole
text; none of these replacements puts in a character that a later one takes out, so together they
write every character for itself. What is written has no character with a meaning in markup left
but the ampersands of its entities, and is read back as the text that it was made of. -/
namespace Strata.Markup

/-- Replacements made in order, each in the whole text. -/
def replaceAll (table : List (Char × List Char)) (s : List Char) : List Char :=
  table.foldl (fun s entry => replace entry.1 entry.2 s) s

/-- What a table writes for a character; one that is not in it stands for itself. -/
def substitute (table : List (Char × List Char)) (c : Char) : List Char :=
  (table.lookup c).getD [c]

theorem substitute_cases (table : List (Char × List Char)) (c : Char) :
    (∃ entry ∈ table, entry.1 = c ∧ substitute table c = entry.2) ∨
      (∀ entry ∈ table, entry.1 ≠ c) ∧ substitute table c = [c] := by
  rw [substitute]
  cases found : table.lookup c with
  | some text =>
    obtain ⟨before, after, rfl, -⟩ := List.lookup_eq_some_iff.mp found
    exact .inl ⟨(c, text), by simp, rfl, rfl⟩
  | none =>
    refine .inr ⟨fun entry member same => ?_, rfl⟩
    have other := List.lookup_eq_none_iff.mp found entry member
    simp [same] at other

theorem substitute_of_not_mem {table : List (Char × List Char)} {c : Char}
    (absent : ∀ entry ∈ table, entry.1 ≠ c) : substitute table c = [c] := by
  rcases substitute_cases table c with ⟨entry, member, same, -⟩ | ⟨-, itself⟩
  · exact absurd same (absent entry member)
  · exact itself

/-- Replacing in order is substituting at once when no replacement puts in what a later one takes
out. -/
theorem replaceAll_eq_flatMap {table : List (Char × List Char)}
    (apart : table.Pairwise fun entry later => later.1 ∉ entry.2) (s : List Char) :
    replaceAll table s = s.flatMap (substitute table) := by
  induction table generalizing s with
  | nil => exact (List.flatMap_singleton' s).symm
  | cons entry rest ih =>
    obtain ⟨clean, apart⟩ := List.pairwise_cons.mp apart
    rw [replaceAll, List.foldl_cons, ← replaceAll, ih apart, replace, List.flatMap_assoc]
    refine List.flatMap_congr fun c _ => ?_
    by_cases here : c = entry.1
    · -- later replacements leave the text put in here as it is
      subst here
      have kept : entry.2.flatMap (substitute rest) = entry.2.flatMap fun x => [x] := by
        refine List.flatMap_congr fun x member => substitute_of_not_mem fun later among => ?_
        rintro rfl
        exact clean later among member
      rw [if_pos rfl, kept, List.flatMap_singleton', substitute, List.lookup_cons_self,
        Option.getD_some]
    · rw [if_neg here, List.flatMap_singleton, substitute, substitute, List.lookup_cons,
        beq_false_of_ne here]

def entities : List (Char × List Char) :=
  [('&', ampersand), ('<', less), ('>', greater), ('"', doubleQuote), ('\'', singleQuote)]

def written : Char → List Char
  | '&' => "&amp;".toList
  | '<' => "&lt;".toList
  | '>' => "&gt;".toList
  | '"' => "&quot;".toList
  | '\'' => "&apos;".toList
  | c => [c]

/-- The character is none of the five. -/
def IsOrdinary (c : Char) : Prop := c ∉ ['&', '<', '>', '"', '\'']

theorem substitute_entities (c : Char) : substitute entities c = written c := by
  unfold written
  split
  case h_6 ampersand less greater double single =>
    refine substitute_of_not_mem fun entry listed same => ?_
    have key : entry.1 ∈ entities.map Prod.fst := List.mem_map_of_mem listed
    simp only [entities, same, List.map_cons, List.map_nil, List.mem_cons, List.not_mem_nil,
      or_false] at key
    rcases key with key | key | key | key | key <;> contradiction
  all_goals rfl

theorem written_cases (c : Char) :
    (∃ entry ∈ entities, entry.1 = c ∧ written c = entry.2) ∨ IsOrdinary c ∧ written c = [c] := by
  rw [← substitute_entities]
  rcases substitute_cases entities c with entity | ⟨absent, itself⟩
  · exact .inl entity
  · refine .inr ⟨fun special => ?_, itself⟩
    obtain ⟨entry, member, same⟩ : ∃ entry ∈ entities, entry.1 = c :=
      List.mem_map.mp (show c ∈ entities.map Prod.fst from special)
    exact absent entry member same

theorem escape_eq_flatMap_written (s : List Char) : escape s = s.flatMap written := by
  have apart : entities.Pairwise fun entry later => later.1 ∉ entry.2 := by decide
  calc escape s = replaceAll entities s := rfl
    _ = s.flatMap (substitute entities) := replaceAll_eq_flatMap apart s
    _ = s.flatMap written := by rw [funext substitute_entities]

theorem escape_cons (c : Char) (s : List Char) : escape (c :: s) = written c ++ escape s := by
  rw [escape_eq_flatMap_written, escape_eq_flatMap_written, List.flatMap_cons]

theorem eq_ampersand_or_isOrdinary {s : List Char} {c : Char} (member : c ∈ escape s) :
    c = '&' ∨ IsOrdinary c := by
  have clean : ((entities.flatMap Prod.snd).all fun c =>
      c = '&' ∨ c ∉ ['&', '<', '>', '"', '\'']) = true := by decide
  rw [escape_eq_flatMap_written] at member
  obtain ⟨x, -, among⟩ := List.mem_flatMap.mp member
  rcases written_cases x with ⟨entry, listed, -, same⟩ | ⟨ordinary, same⟩
  · have inside : c ∈ entities.flatMap Prod.snd :=
      List.mem_flatMap.mpr ⟨entry, listed, same ▸ among⟩
    have plain := of_decide_eq_true (List.all_eq_true.mp clean c inside)
    exact plain
  · rw [same, List.mem_singleton] at among
    exact .inr (among ▸ ordinary)

theorem length_written_pos (c : Char) : 0 < (written c).length := by
  have some_text : ∀ entry ∈ entities, 0 < entry.2.length := by decide
  rcases written_cases c with ⟨entry, listed, -, same⟩ | ⟨-, same⟩
  · exact same ▸ some_text entry listed
  · simp [same]

theorem length_le_length_escape (s : List Char) : s.length ≤ (escape s).length := by
  induction s with
  | nil => exact Nat.zero_le _
  | cons c s ih =>
    have first := length_written_pos c
    rw [escape_cons, List.length_append, List.length_cons]
    omega

theorem length_lt_length_escape {s : List Char} {c : Char} (member : c ∈ s)
    (special : ¬ IsOrdinary c) : s.length < (escape s).length := by
  have long : ∀ entry ∈ entities, 1 < entry.2.length := by decide
  obtain ⟨before, after, rfl⟩ := List.append_of_mem member
  have grown : 1 < (written c).length := by
    rcases written_cases c with ⟨entry, listed, -, same⟩ | ⟨ordinary, -⟩
    · exact same ▸ long entry listed
    · exact absurd ordinary special
  have left := length_le_length_escape before
  have right := length_le_length_escape after
  rw [escape_append, escape_cons]
  simp only [List.length_append, List.length_cons]
  omega

theorem escape_eq_self_iff {s : List Char} : escape s = s ↔ ∀ c ∈ s, IsOrdinary c := by
  constructor
  · intro same c member
    by_contra special
    have longer := length_lt_length_escape member special
    rw [same] at longer
    exact Nat.lt_irrefl _ longer
  · intro ordinary
    have itself : ∀ c ∈ s, written c = [c] := by
      intro c member
      rcases written_cases c with ⟨entry, listed, same, -⟩ | ⟨-, same⟩
      · have key : entry.1 ∈ entities.map Prod.fst := List.mem_map_of_mem listed
        exact absurd (same ▸ key) (ordinary c member)
      · exact same
    rw [escape_eq_flatMap_written, List.flatMap_congr itself, List.flatMap_singleton']

/-- Behind its ampersand an entity is read as the character that it stands for. -/
theorem reference_entity {entry : Char × List Char} (listed : entry ∈ entities) :
    ∃ name, entry.2 = '&' :: name ∧
      ∀ s, reference (name ++ s) = some (.character entry.1, s) := by
  simp only [entities, List.mem_cons, List.not_mem_nil, or_false] at listed
  rcases listed with rfl | rfl | rfl | rfl | rfl
  all_goals exact ⟨_, rfl, fun s => rfl⟩

theorem unescapeWithin_written (bound : Nat) (c : Char) (s : List Char) :
    unescapeWithin (bound + 1) (written c ++ s) =
      (unescapeWithin bound s).map fun t => c :: t := by
  rcases written_cases c with ⟨entry, listed, rfl, same⟩ | ⟨ordinary, same⟩
  · obtain ⟨name, split, read⟩ := reference_entity listed
    rw [same, split, List.cons_append, unescapeWithin, read, Option.bind_eq_bind,
      Option.bind_some]
    dsimp only
    cases unescapeWithin bound s <;> rfl
  · have other : c ≠ '&' := fun same => ordinary (by simp [same])
    rw [same, List.singleton_append, unescapeWithin.eq_4 _ _ _ other]
    cases unescapeWithin bound s <;> rfl

theorem unescapeWithin_escape {bound : Nat} {s : List Char} (enough : s.length ≤ bound) :
    unescapeWithin bound (escape s) = some s := by
  induction s generalizing bound with
  | nil => exact unescapeWithin.eq_1 bound
  | cons c s ih =>
    obtain ⟨bound, rfl⟩ := Nat.exists_eq_add_one_of_ne_zero (Nat.ne_zero_of_lt enough)
    rw [escape_cons, unescapeWithin_written, ih (Nat.le_of_succ_le_succ enough), Option.map_some]

theorem unescape_escape (s : List Char) : unescape (escape s) = some s :=
  unescapeWithin_escape (length_le_length_escape s)

theorem escapeText_injective : Function.Injective escapeText := by
  intro s t same
  have letters : escape s.toList = escape t.toList := String.ofList_injective same
  have read := unescape_escape s.toList
  rw [letters, unescape_escape, Option.some.injEq] at read
  exact String.toList_injective read.symm

/-- Escaping writes every character of a text for itself, one of the five as its entity and any
other as it is. What it gives is plain to a reader of markup and is read back as the text. -/
theorem escapeText_substitutes :
    (∀ s, escapeText s = String.ofList (s.toList.flatMap written)) ∧
      (∀ s t, escapeText (s ++ t) = escapeText s ++ escapeText t) ∧
      (∀ s, ∀ c ∈ (escapeText s).toList, c ∉ ['<', '>', '"', '\'']) ∧
      (∀ s before behind, (escapeText s).toList = before ++ '&' :: behind →
        ∃ entity ∈ ["amp;", "lt;", "gt;", "quot;", "apos;"], entity.toList <+: behind) ∧
      (∀ s, unescape (escapeText s).toList = some s.toList) ∧
      Function.Injective escapeText ∧
      ∀ s, escapeText s = s ↔ ∀ c ∈ s.toList, IsOrdinary c := by
  refine ⟨?_, ?_, ?_, ?_, ?_, escapeText_injective, ?_⟩
  · intro s
    rw [escapeText, escape_eq_flatMap_written]
  · intro s t
    rw [escapeText, String.toList_append, escape_append, String.ofList_append]
    rfl
  · intro s c member
    rw [escapeText, String.toList_ofList] at member
    rcases eq_ampersand_or_isOrdinary member with rfl | ordinary
    · decide
    · exact fun special => ordinary (List.mem_cons_of_mem _ special)
  · intro s before behind here
    have scanned : Scan.scan (escapeText s) = some (s.toList.map .letter) :=
      Scan.scan_eq_some_iff.mpr (by
        rw [escapeText, String.toList_ofList]
        exact Scan.reads_escape s.toList)
    exact Scan.entity_of_scan scanned here
  · intro s
    rw [escapeText, String.toList_ofList, unescape_escape]
  · intro s
    rw [← escape_eq_self_iff, escapeText, ← String.toList_inj, String.toList_ofList]

/-- A text that looks like entities is escaped once more. -/
theorem escapeText_substitutes_doubled :
    let text := "&lt;&'"
    escapeText text = "&amp;lt;&amp;&apos;" ∧
      (escapeText text).toList = "&amp;lt;".toList ++ '&' :: "amp;&apos;".toList ∧
      (∃ entity ∈ ["amp;", "lt;", "gt;", "quot;", "apos;"],
        entity.toList <+: "amp;&apos;".toList) ∧
      escapeText text ≠ escapeText "&lt;<" := by
  intro text
  obtain ⟨substitutes, -, -, entity, -, injective, -⟩ := escapeText_substitutes
  have escaped : escapeText text = "&amp;lt;&amp;&apos;" := (substitutes text).trans (by decide)
  have here : (escapeText text).toList = "&amp;lt;".toList ++ '&' :: "amp;&apos;".toList :=
    escaped ▸ rfl
  exact ⟨escaped, here, entity text _ _ here, fun same => absurd (injective same) (by decide)⟩

end Strata.Markup
