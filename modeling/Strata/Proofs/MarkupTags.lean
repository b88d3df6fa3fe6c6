import Strata.Proofs.MarkupScan

/-! Finding tags by how they begin. In a text that scans, a bracket with a name and a blank behind
it stands exactly where a tag of that name with attributes does; nothing else in the text looks like
one. -/
namespace Strata

/-- How often a word stands in a text, counted by the places where it begins. -/
def Text.occurrences (word : List Char) : List Char → Nat
  | [] => 0
  | c :: s => (if word.isPrefixOf (c :: s) then 1 else 0) + occurrences word s

namespace Markup.Scan

def Token.isNamed (name : String) : Token → Bool
  | opening n attributes | empty n attributes => n = name && !attributes.isEmpty
  | closing _ => false
  | letter _ => false

/-- A name is read, and an attribute behind it or a part of one. -/
def Mode.IsInside : Mode → Prop
  | .behind tag => tag.attributes ≠ []
  | .attribute .. | .equals .. | .value .. | .slash _ => True
  | .content | .reference _ | .start | .closing _ | .opening _ => False

/-- The tag that is read will have this name, and attributes. -/
def Mode.isNaming (name : String) : Mode → Bool
  | .behind tag | .slash tag => tag.name = name && !tag.attributes.isEmpty
  | .attribute tag _ | .equals tag _ | .value tag _ _ => tag.name = name
  | .content | .reference _ | .start | .closing _ | .opening _ => false

theorem step_inside (name : String) {m next : Mode} {c : Char} {found : List Token}
    (stepped : step m c = some (next, found)) (inside : m.IsInside) :
    found = [] ∧ next.IsInside ∧ next.isNaming name = m.isNaming name ∨
      ∃ t, found = [t] ∧ t.isNamed name = m.isNaming name := by
  cases m with
  | content | reference | start | closing | opening => exact inside.elim
  | _ =>
    simp only [step, stepBehind] at stepped
    repeat' split at stepped
    all_goals cases stepped
    all_goals simp_all [Mode.IsInside, Mode.isNaming, Token.isNamed]

theorem Reads.inside (name : String) {m : Mode} {s : List Char} {tokens : List Token}
    (reads : Reads m s tokens .content) (inside : m.IsInside) :
    ∃ t rest, tokens = t :: rest ∧ t.isNamed name = m.isNaming name := by
  induction s generalizing m tokens with
  | nil =>
    cases reads
    exact inside.elim
  | cons c s ih =>
    obtain ⟨next, found, rest, stepped, later, rfl⟩ := reads_cons_iff.mp reads
    rcases step_inside name stepped inside with ⟨rfl, still, same⟩ | ⟨t, rfl, named⟩
    · rw [← same]
      exact ih later still
    · exact ⟨t, rest, rfl, named⟩

theorem Reads.closing {read s : List Char} {tokens : List Token}
    (reads : Reads (.closing read) s tokens .content) :
    ∃ n rest, tokens = .closing n :: rest := by
  induction s generalizing read tokens with
  | nil => cases reads
  | cons c s ih =>
    obtain ⟨next, found, rest, stepped, later, rfl⟩ := reads_cons_iff.mp reads
    simp only [step] at stepped
    split at stepped
    · cases stepped
      exact ih later
    · split at stepped <;> cases stepped
      exact ⟨_, rest, rfl⟩

theorem Reads.opening {name : String} (named : name.toList.all isNameChar)
    {read s : List Char} {tokens : List Token}
    (reads : Reads (.opening read) s tokens .content) :
    ∃ t rest, tokens = t :: rest ∧
      (t.isNamed name = true ↔ ∃ more, name.toList = read ++ more ∧ more ++ [' '] <+: s) := by
  induction s generalizing read tokens with
  | nil => cases reads
  | cons c s ih =>
    obtain ⟨next, found, rest, stepped, later, rfl⟩ := reads_cons_iff.mp reads
    simp only [step] at stepped
    split at stepped
    · next letter =>
      cases stepped
      obtain ⟨t, others, rfl, same⟩ := ih later
      refine ⟨t, others, rfl, same.trans ⟨?_, ?_⟩⟩
      · rintro ⟨more, split, begins⟩
        exact ⟨c :: more, by simp [split], by simpa using begins⟩
      · rintro ⟨more, split, begins⟩
        cases more with
        | nil =>
          obtain ⟨rfl, _⟩ := List.cons_prefix_cons.mp begins
          exact absurd letter (by decide)
        | cons d more =>
          rw [List.cons_append, List.cons_prefix_cons] at begins
          obtain ⟨rfl, begins⟩ := begins
          exact ⟨more, by simp [split], begins⟩
    · next other =>
      -- the name ends here, so nothing but its end can stand in front of the blank
      have ends : (∃ more, name.toList = read ++ more ∧ more ++ [' '] <+: c :: s) ↔
          String.ofList read = name ∧ c = ' ' := by
        constructor
        · rintro ⟨more, split, begins⟩
          cases more with
          | nil =>
            rw [List.append_nil] at split
            exact ⟨by rw [← split, String.ofList_toList], (List.cons_prefix_cons.mp begins).1.symm⟩
          | cons d more =>
            obtain ⟨rfl, _⟩ := List.cons_prefix_cons.mp begins
            simp [split, other] at named
        · rintro ⟨rfl, rfl⟩
          exact ⟨[], by simp, by simp⟩
      simp only [stepBehind] at stepped
      split at stepped
      · next blank =>
        cases stepped
        obtain ⟨t, others, rfl, same⟩ := Reads.inside name later trivial
        refine ⟨t, others, rfl, ?_⟩
        rw [ends, same]
        simp [blank, Mode.isNaming]
      · next noBlank =>
        split at stepped
        · cases stepped
          obtain ⟨t, others, rfl, same⟩ := Reads.inside name later trivial
          exact ⟨t, others, rfl, by simp [ends, same, noBlank, Mode.isNaming]⟩
        · split at stepped <;> cases stepped
          exact ⟨_, rest, rfl, by simp [ends, noBlank, Token.isNamed]⟩

/-- Behind a bracket a name and a blank follow exactly where a tag of that name with attributes
comes next. -/
theorem Reads.start {name : String} (named : IsName name) {s : List Char} {tokens : List Token}
    (reads : Reads .start s tokens .content) :
    ∃ t rest, tokens = t :: rest ∧ (t.isNamed name = true ↔ name.toList ++ [' '] <+: s) := by
  obtain ⟨first, others, split⟩ : ∃ first others, name.toList = first :: others :=
    List.exists_cons_of_ne_nil (by simpa using named.1)
  cases s with
  | nil => cases reads
  | cons c s =>
    obtain ⟨next, found, rest, stepped, later, rfl⟩ := reads_cons_iff.mp reads
    simp only [step] at stepped
    split at stepped
    · cases stepped
      obtain ⟨t, rest, rfl, same⟩ := Reads.opening named.2 later
      refine ⟨t, rest, rfl, same.trans ?_⟩
      rw [split, List.cons_append, List.cons_prefix_cons]
      constructor
      · rintro ⟨_, same, begins⟩
        obtain ⟨rfl, rfl⟩ := List.cons.inj same
        exact ⟨rfl, begins⟩
      · rintro ⟨rfl, begins⟩
        exact ⟨others, rfl, begins⟩
    · next unnamed =>
      split at stepped <;> cases stepped
      obtain ⟨n, rest, rfl⟩ := Reads.closing later
      refine ⟨.closing n, rest, rfl, ?_⟩
      simp only [Token.isNamed, Bool.false_eq_true, false_iff]
      intro begins
      rw [split] at begins
      obtain ⟨rfl, _⟩ := List.cons_prefix_cons.mp begins
      have letters := named.2
      simp [split, unnamed] at letters

theorem step_less {m next : Mode} {found : List Token}
    (stepped : step m '<' = some (next, found)) : m = .content ∧ next = .start ∧ found = [] := by
  cases m <;> simp only [step, stepBehind] at stepped <;> grind [isNameChar, isValueChar]

theorem step_other {name : String} {m next : Mode} {c : Char} {found : List Token}
    (stepped : step m c = some (next, found)) (other : c ≠ '<') (rest : List Token) :
    ((found ++ rest).drop m.opened).countP (Token.isNamed name) =
      (rest.drop next.opened).countP (Token.isNamed name) := by
  cases m <;> simp only [step, stepBehind] at stepped <;>
    grind [Mode.opened, Token.isNamed]

theorem Reads.occurrences {name : String} (named : IsName name) {m : Mode} {s : List Char}
    {tokens : List Token} (reads : Reads m s tokens .content) :
    Text.occurrences ('<' :: name.toList ++ [' ']) s =
      (tokens.drop m.opened).countP (Token.isNamed name) := by
  induction s generalizing m tokens with
  | nil =>
    cases reads
    rfl
  | cons c s ih =>
    obtain ⟨next, found, rest, stepped, later, rfl⟩ := reads_cons_iff.mp reads
    rw [Text.occurrences, ih later]
    by_cases bracket : c = '<'
    · subst bracket
      obtain ⟨rfl, rfl, rfl⟩ := step_less stepped
      obtain ⟨t, rest, rfl, same⟩ := Reads.start named later
      simp [Mode.opened, List.countP_cons, same, Nat.add_comm, List.isPrefixOf_iff_prefix]
    · rw [step_other stepped bracket]
      simp [Ne.symm bracket]

/-- The tags of one name that have attributes are as many as the text has places that look like the
beginning of one. -/
theorem occurrences_of_scan {name s : String} {tokens : List Token} (named : IsName name)
    (scanned : scan s = some tokens) :
    Text.occurrences ('<' :: name.toList ++ [' ']) s.toList =
      tokens.countP (Token.isNamed name) :=
  Reads.occurrences named (scan_eq_some_iff.mp scanned)

end Markup.Scan

end Strata
