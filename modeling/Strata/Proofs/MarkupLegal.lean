import Mathlib.Data.List.TakeWhile
import Strata.Markup.Reader

/-! Only legal characters can be read. Every part of the reader takes legal characters from the
front of the text and leaves the rest, so a text that was read to its end held nothing else. What
stands in front of the outermost element is not looked at as closely. -/
namespace Strata.Markup

theorem isLegal_of_isNamePart {c : Char} (part : isNamePart c = true) : isLegal c = true := by
  simp only [isNamePart, isNameStart, nameStarts] at part
  delta Char.isAlpha at part
  delta Char.isUpper Char.isLower at part
  simp only [Char.isDigit, List.any_cons, List.any_nil, Bool.or_false, Bool.or_eq_true,
    Bool.and_eq_true, decide_eq_true_eq, ge_iff_le, Char.ext_iff, UInt32.le_iff_toNat_le,
    ← UInt32.toNat_inj, Char.reduceVal, UInt32.reduceToNat, Char.toNat] at part
  simp only [isLegal, Bool.or_eq_true, Bool.and_eq_true, decide_eq_true_eq, Char.toNat]
  omega

theorem isLegal_of_isSpace {c : Char} (space : isSpace c = true) : isLegal c = true := by
  simp only [isSpace, Bool.or_eq_true, decide_eq_true_eq] at space
  rcases space with ((rfl | rfl) | rfl) | rfl <;> rfl

/-- What is left of a text behind legal characters. -/
def Leaves (s r : List Char) : Prop := ∃ front, s = front ++ r ∧ front.all isLegal

theorem Leaves.refl (s : List Char) : Leaves s s := ⟨[], rfl, rfl⟩

theorem Leaves.trans {s r q : List Char} (first : Leaves s r) (later : Leaves r q) :
    Leaves s q := by
  obtain ⟨front, rfl, legal⟩ := first
  obtain ⟨middle, rfl, legal'⟩ := later
  exact ⟨front ++ middle, by rw [List.append_assoc], by rw [List.all_append, legal, legal']; rfl⟩

theorem Leaves.cons {c : Char} {s r : List Char} (legal : isLegal c = true) (later : Leaves s r) :
    Leaves (c :: s) r := .trans ⟨[c], rfl, by simpa using legal⟩ later

theorem Leaves.dropWhile {p : Char → Bool} (legal : ∀ c, p c = true → isLegal c = true)
    (s : List Char) : Leaves s (s.dropWhile p) := by
  refine ⟨s.takeWhile p, List.takeWhile_append_dropWhile.symm, List.all_eq_true.mpr ?_⟩
  intro c member
  exact legal c (List.mem_takeWhile_imp member)

theorem leaves_skipSpace (s : List Char) : Leaves s (skipSpace s) :=
  .dropWhile (fun _ => isLegal_of_isSpace) s

theorem leaves_skipSpace_of {s r : List Char} (skipped : skipSpace s = r) : Leaves s r :=
  skipped ▸ leaves_skipSpace s

theorem leaves_spaces {s r : List Char} (read : spaces s = some r) : Leaves s r := by
  unfold spaces at read
  split at read
  · exact leaves_skipSpace_of (Option.some.inj read)
  · cases read

theorem leaves_equals {s r : List Char} (read : equals s = some r) : Leaves s r := by
  unfold equals at read
  split at read
  · next q skipped =>
    have behind : Leaves q r := leaves_skipSpace_of (Option.some.inj read)
    exact (leaves_skipSpace_of skipped).trans (.cons rfl behind)
  · cases read

theorem leaves_name {s r : List Char} {n : Name} (read : name s = some (n, r)) : Leaves s r := by
  have parts (t : List Char) : Leaves t (t.dropWhile isNamePart) :=
    .dropWhile (fun _ => isLegal_of_isNamePart) t
  simp only [name] at read
  split at read
  · next q dropped =>
    split at read <;> cases read
    exact (dropped ▸ parts s).trans (.cons rfl (parts q))
  · split at read <;> cases read
    exact parts s

theorem leaves_tagName {s r : List Char} {n : Name} (read : tagName s = some (n, r)) :
    Leaves s r :=
  leaves_name (Option.filter_eq_some_iff.mp read).1

theorem leaves_closingTag {s r : List Char} {n : Name} (read : closingTag s = some (n, r)) :
    Leaves s r := by
  simp only [closingTag, Option.bind_eq_bind, Option.bind_eq_some_iff] at read
  obtain ⟨⟨n, q⟩, named, read⟩ := read
  simp only at read
  split at read
  · next skipped =>
    cases read
    exact (leaves_name named).trans ((leaves_skipSpace_of skipped).trans (.cons rfl (.refl _)))
  · cases read

theorem leaves_plainName {s r n : List Char} (read : plainName s = some (n, r)) : Leaves s r := by
  simp only [plainName] at read
  split at read <;> cases read
  refine .dropWhile (fun c part => ?_) s
  rcases Bool.or_eq_true_iff.mp part with part | colon
  · exact isLegal_of_isNamePart part
  · rw [of_decide_eq_true colon]
    rfl

theorem leaves_legalUpTo {mark : String} (legal : mark.toList.all isLegal = true)
    {s text r : List Char} (read : legalUpTo mark s = some (text, r)) : Leaves s r := by
  obtain ⟨found, legalText⟩ := Option.filter_eq_some_iff.mp read
  refine ⟨text ++ mark.toList, upTo_append found, ?_⟩
  rw [List.all_append, legal, legalText]
  rfl

theorem leaves_comment {s r : List Char} (read : comment s = some r) : Leaves s r := by
  simp only [comment, Option.bind_eq_bind, Option.bind_eq_some_iff] at read
  obtain ⟨⟨text, q⟩, found, read⟩ := read
  simp only at read
  split at read
  · split at read <;> cases read
    exact (leaves_legalUpTo rfl found).trans (.cons rfl (.refl _))
  · cases read

theorem leaves_instruction {s r : List Char} (read : instruction s = some r) : Leaves s r := by
  simp only [instruction, Option.bind_eq_bind] at read
  split at read
  · cases read
  · simp only [Option.bind_eq_some_iff] at read
    obtain ⟨⟨n, q⟩, named, ⟨text, q'⟩, found, same⟩ := read
    cases same
    exact (leaves_plainName named).trans (leaves_legalUpTo rfl found)

theorem leaves_surroundings {bound : Nat} {s r : List Char}
    (read : surroundings bound s = some r) : Leaves s r := by
  induction bound generalizing s with
  | zero => cases read
  | succ bound ih =>
    unfold surroundings at read
    split at read
    · next skipped =>
      obtain ⟨q, commented, later⟩ := Option.bind_eq_some_iff.mp read
      have opened : Leaves s q := (leaves_skipSpace_of skipped).trans
        (.cons rfl (.cons rfl (.cons rfl (.cons rfl (leaves_comment commented)))))
      exact opened.trans (ih later)
    · next skipped =>
      obtain ⟨q, instructed, later⟩ := Option.bind_eq_some_iff.mp read
      have opened : Leaves s q := (leaves_skipSpace_of skipped).trans
        (.cons rfl (.cons rfl (leaves_instruction instructed)))
      exact opened.trans (ih later)
    · cases read
      exact leaves_skipSpace s

theorem leaves_quotedValue {s text r : List Char} (read : quotedValue s = some (text, r)) :
    Leaves s r := by
  obtain ⟨found, legal⟩ := Option.filter_eq_some_iff.mp read
  have legalText : text.all isLegal = true := by
    refine List.all_eq_true.mpr fun c member => ?_
    exact (Bool.and_eq_true_iff.mp (List.all_eq_true.mp legal c member)).1
  unfold quoted at found
  split at found
  · refine .cons rfl ⟨text ++ ['"'], upTo_append found, ?_⟩
    rw [List.all_append, legalText]
    rfl
  · refine .cons rfl ⟨text ++ ['\''], upTo_append found, ?_⟩
    rw [List.all_append, legalText]
    rfl
  · cases found

theorem leaves_characters {s text r : List Char} (read : characters s = some (text, r)) :
    Leaves s r := by
  simp only [characters] at read
  split at read
  · cases read
  · next fits =>
    cases read
    refine ⟨_, List.takeWhile_append_dropWhile.symm, ?_⟩
    simp only [Bool.or_eq_true, Bool.not_eq_true', not_or, Bool.not_eq_false] at fits
    exact fits.1

theorem isLegal_of_hexDigit? {c : Char} {d : Nat} (digit : Text.hexDigit? c = some d) :
    isLegal c = true := by
  have range : 0x20 ≤ c.toNat ∧ c.toNat ≤ 0x7E := by
    unfold Text.hexDigit? at digit
    simp only [Char.le_def, UInt32.le_iff_toNat_le, Char.reduceVal, UInt32.reduceToNat] at digit
    simp only [Char.toNat]
    split at digit
    · omega
    · split at digit
      · omega
      · split at digit
        · omega
        · cases digit
  simp only [isLegal, Bool.or_eq_true, Bool.and_eq_true, decide_eq_true_eq]
  omega

theorem all_isLegal_of_referenced? {s : List Char} {c : Char} (found : referenced? s = some c) :
    s.all isLegal = true := by
  have digits {base : Nat} {l : List Char} (numbered : numberedChar? base l = some c) :
      l.all isLegal = true := by
    simp only [numberedChar?, Bool.not_eq_true'] at numbered
    split at numbered
    · cases numbered
    · next given =>
      simp only [not_or, Bool.not_eq_false] at given
      refine List.all_eq_true.mpr ?_
      intro d member
      have digit := List.all_eq_true.mp given.2.1 d member
      split at digit
      · next known => exact isLegal_of_hexDigit? known
      · cases digit
  unfold referenced? at found
  split at found
  · exact List.all_eq_true.mpr (List.forall_mem_cons.mpr ⟨rfl, List.forall_mem_cons.mpr
      ⟨rfl, List.all_eq_true.mp (digits found)⟩⟩)
  · exact List.all_eq_true.mpr (List.forall_mem_cons.mpr ⟨rfl, List.all_eq_true.mp (digits found)⟩)
  · unfold namedChar? at found
    split at found <;> first | rfl | cases found

theorem leaves_reference {s r : List Char} {found : Reference}
    (read : reference s = some (found, r)) : Leaves s r := by
  unfold reference at read
  split at read
  · cases read
  · next c q dropped =>
    obtain ⟨_, meant, same⟩ := Option.map_eq_some_iff.mp read
    cases same
    have semicolon : c = ';' := by
      have stopped := List.head?_dropWhile_not (· != ';') s
      simpa [dropped] using stopped
    have legal : (s.takeWhile (· != ';')).all isLegal = true := by
      unfold Reference.ofText? at meant
      split at meant
      · next known => exact all_isLegal_of_referenced? known
      · split at meant
        · next plain =>
          obtain ⟨front, split, legal⟩ := leaves_plainName plain
          rwa [split, List.append_nil]
        · cases meant
    refine ⟨s.takeWhile (· != ';') ++ [';'], ?_, by rw [List.all_append, legal]; rfl⟩
    rw [semicolon] at dropped
    rw [List.append_assoc, List.singleton_append, ← dropped, List.takeWhile_append_dropWhile]

theorem leaves_settings {entities : Entities} {bound count : Nat} {a : Allowance} {s : List Char}
    {found : Settings} (read : settings entities bound count a s = some found) :
    Leaves s found.rest := by
  induction count generalizing a s found with
  | zero => cases read
  | succ count ih =>
    unfold settings at read
    split at read
    · next skipped =>
      cases read
      exact leaves_skipSpace_of skipped
    · next skipped =>
      cases read
      exact (leaves_skipSpace_of skipped).trans (.cons rfl (.cons rfl (.refl _)))
    · next skipped =>
      cases read
      exact (leaves_skipSpace_of skipped).trans (.cons rfl (.refl _))
    · simp only [Option.bind_eq_bind, Option.bind_eq_some_iff] at read
      obtain ⟨_, spaced, ⟨n, _⟩, named, _, equal, ⟨raw, _⟩, valued, _, _, later, others, same⟩ :=
        read
      cases same
      have rest := ih others
      exact (leaves_spaces spaced).trans <| (leaves_name named).trans <|
        (leaves_equals equal).trans <| (leaves_quotedValue valued).trans rest

theorem leaves_content {entities : Entities} {bound : Nat} {a : Allowance} {depth : Nat}
    {p last : Progress} {s r : List Char} {unused : Nat}
    (read : content entities bound a depth p s = some (last, unused, r)) : Leaves s r := by
  induction bound generalizing a depth p s with
  | zero =>
    unfold content at read
    split at read
    · cases read
      exact .refl _
    · cases read
      exact .refl _
    · cases read
    · next more => cases more
    · next more => cases more
    · next more _ _ _ => cases more
  | succ bound ih =>
    unfold content at read
    split at read
    · cases read
      exact .refl _
    · cases read
      exact .refl _
    · cases read
    · next same =>
      cases same
      refine .cons rfl ?_
      simp only [Option.bind_eq_bind] at read
      split at read <;> simp only [Option.bind_eq_some_iff] at read
      · obtain ⟨q, commented, read⟩ := read
        exact .cons rfl (.cons rfl (.cons rfl ((leaves_comment commented).trans (ih read))))
      · obtain ⟨⟨text, q⟩, found, read⟩ := read
        have legal : ['!', '[', 'C', 'D', 'A', 'T', 'A', '['].all isLegal = true := rfl
        exact Leaves.trans ⟨_, rfl, legal⟩ ((leaves_legalUpTo rfl found).trans (ih read))
      · obtain ⟨q, instructed, read⟩ := read
        exact .cons rfl ((leaves_instruction instructed).trans (ih read))
      · obtain ⟨⟨n, q⟩, closed, _, _, read⟩ := read
        exact .cons rfl ((leaves_closingTag closed).trans (ih read))
      · obtain ⟨⟨n, q⟩, named, found, set, _, _, read⟩ := read
        exact (leaves_tagName named).trans ((leaves_settings set).trans (ih read))
    · next same =>
      cases same
      refine .cons rfl ?_
      simp only [Option.bind_eq_bind, Option.bind_eq_some_iff] at read
      obtain ⟨⟨found, q⟩, referenced, read⟩ := read
      refine (leaves_reference referenced).trans ?_
      cases found with
      | character c => exact ih read
      | entity name =>
        simp only [Option.bind_eq_some_iff] at read
        -- the text of the entity is read apart from the one that it is named in
        obtain ⟨_, _, _, _, ⟨_, _, _⟩, _, read⟩ := read
        exact ih read
    · next same _ _ _ =>
      cases same
      simp only [Option.bind_eq_bind, Option.bind_eq_some_iff] at read
      obtain ⟨⟨text, q⟩, found, read⟩ := read
      exact (leaves_characters found).trans (ih read)

theorem leaves_outermost {entities : Entities} {bound : Nat} {s r : List Char} {p : Progress}
    (read : outermost entities bound s = some (p, r)) : Leaves s r := by
  unfold outermost at read
  split at read
  · simp only [Option.bind_eq_bind, Option.bind_eq_some_iff] at read
    obtain ⟨⟨n, q⟩, named, found, set, _, _, ⟨_, _, q'⟩, inner, same⟩ := read
    cases same
    exact .cons rfl <| (leaves_tagName named).trans <| (leaves_settings set).trans <|
      leaves_content inner
  · cases read

/-- A text that begins with a tag has nothing in front of its outermost element. -/
theorem prolog_of_tag {c : Char} (start : isNameStart c = true) (bound : Nat) (s : List Char) :
    prolog (bound + 1) ('<' :: c :: s) = some ([], '<' :: c :: s) := by
  have other {d : Char} (fails : isNameStart d = false) : c ≠ d := by
    rintro rfl
    rw [fails] at start
    cases start
  have mark : c ≠ '!' := other (by decide)
  have question : c ≠ '?' := other (by decide)
  have around : surroundings (bound + 1) ('<' :: c :: s) = some ('<' :: c :: s) := by
    simp [surroundings, skipSpace, isSpace, mark, question]
  have undeclared : skipDeclaration ('<' :: c :: s) = some ('<' :: c :: s) := by
    simp [skipDeclaration, Ne.symm question]
  have untyped : doctype (bound + 1) ('<' :: c :: s) = some ([], '<' :: c :: s) := by
    simp [doctype, Ne.symm mark]
  simp [prolog, undeclared, around, untyped]

/-- A text that begins with a tag and is read has legal characters alone. -/
theorem all_isLegal_of_read {text : String} {c : Char} {s : List Char}
    (tag : text.toList = '<' :: c :: s) (start : isNameStart c = true)
    {found : Reading} (reads : read text = some found) : text.toList.all isLegal = true := by
  simp only [read, Option.bind_eq_bind, Option.bind_eq_some_iff] at reads
  obtain ⟨⟨entities, r⟩, before, ⟨p, q⟩, element, behind, trailing, done⟩ := reads
  obtain ⟨bound, positive⟩ : ∃ bound, roundsOf text.toList = bound + 1 :=
    Nat.exists_eq_succ_of_ne_zero (by simp [roundsOf])
  rw [positive, tag, prolog_of_tag start] at before
  cases before
  split at done
  · next finished =>
    rw [List.isEmpty_iff.mp finished] at trailing
    have whole : Leaves ('<' :: c :: s) [] :=
      (leaves_outermost element).trans (leaves_surroundings trailing)
    obtain ⟨front, split, legal⟩ := whole
    rwa [tag, split, List.append_nil]
  · cases done

end Strata.Markup
