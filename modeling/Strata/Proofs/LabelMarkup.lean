import Strata.Proofs.MarkupSource

/-! Markup is separated into the text of the labels in it and all the rest, character by character.
For lines that hold a group of labels the outcome is known: the rest is what those lines would be
with labels that have no text. -/
namespace Strata.Markup.Scan

def Token.beginsLabels : Token → Bool
  | .opening "g" attributes => ⟨"class", "labels"⟩ ∈ attributes
  | _ => false

/-- Where a lexeme stands: outside the group of labels, between the elements of that group with some
of them open, or in the text of a label, of which some was read. -/
inductive Region where
  | outside
  | group (depth : Nat)
  | text (depth : Nat) (read : List Char)

/-- The place behind a token that stands outside the text of labels. -/
def Region.after : Region → Token → Region
  | .outside, t => if t.beginsLabels then .group 0 else .outside
  | .group depth, .opening "text" _ => .text depth []
  | .group depth, .opening _ _ => .group (depth + 1)
  | .group 0, .closing _ => .outside
  | .group (depth + 1), .closing _ => .group depth
  | r, _ => r

/-- A text without the characters of its labels, and what was taken out for each label. -/
structure Separated where
  kept : List Char
  erased : List (List Char)

def Separated.keep (source : List Char) (s : Separated) : Separated := ⟨source ++ s.kept, s.erased⟩

/-- The text of a label ends with its element and holds no other. -/
def separateFrom : Region → List Lexeme → Option Separated
  | .outside, [] => some ⟨[], []⟩
  | _, [] => none
  | .text depth read, ⟨.letter _, source⟩ :: rest =>
    separateFrom (.text depth (read ++ source)) rest
  | .text depth read, ⟨.closing _, source⟩ :: rest =>
    (separateFrom (.group depth) rest).map fun s => ⟨source ++ s.kept, read :: s.erased⟩
  | .text .., _ :: _ => none
  | r, x :: rest => (separateFrom (r.after x.token) rest).map (Separated.keep x.source)

def separate (text : String) : Option Separated := (lex text).bind (separateFrom .outside)

variable {l rest : List Lexeme} {depth : Nat}

@[simp] theorem Separated.keep_nil : Separated.keep [] = id := rfl

@[simp] theorem Separated.keep_keep (s t : List Char) (r : Separated) :
    (r.keep t).keep s = r.keep (s ++ t) := by
  simp [keep]

theorem separateFrom_outside_cons (x : Lexeme) (rest : List Lexeme) :
    separateFrom .outside (x :: rest) =
      (separateFrom (Region.outside.after x.token) rest).map (.keep x.source) := rfl

theorem separateFrom_group_cons (x : Lexeme) (rest : List Lexeme) :
    separateFrom (.group depth) (x :: rest) =
      (separateFrom ((Region.group depth).after x.token) rest).map (.keep x.source) := rfl

/-- What was read of a label that is not finished. -/
def Region.pending : Region → List Char
  | .text _ read => read
  | _ => []

theorem Region.pending_after {r : Region} (outside : r.pending = []) (t : Token) :
    (r.after t).pending = [] := by
  unfold after
  split
  · split <;> rfl
  all_goals first | rfl | exact outside

theorem separateFrom_perm {r : Region} {s : Separated} (separated : separateFrom r l = some s) :
    (s.kept ++ s.erased.flatten).Perm (r.pending ++ l.flatMap Lexeme.source) := by
  induction l generalizing r s with
  | nil =>
    cases r <;> cases separated
    exact .refl _
  | cons x l ih =>
    have passed {r : Region} (outside : r.pending = [])
        (kept : (separateFrom (r.after x.token) l).map (.keep x.source) = some s) :
        (s.kept ++ s.erased.flatten).Perm (r.pending ++ (x :: l).flatMap Lexeme.source) := by
      obtain ⟨later, behind, rfl⟩ := Option.map_eq_some_iff.mp kept
      have rest := ih behind
      rw [Region.pending_after outside, List.nil_append] at rest
      rw [outside, Separated.keep, List.append_assoc, List.nil_append, List.flatMap_cons]
      exact rest.append_left _
    cases r with
    | outside => exact passed rfl separated
    | group depth => exact passed rfl separated
    | text depth read =>
      obtain ⟨t, source⟩ := x
      cases t with
      | letter c => simpa [Region.pending] using ih (r := .text depth (read ++ source)) separated
      | closing name =>
        obtain ⟨later, behind, rfl⟩ := Option.map_eq_some_iff.mp separated
        have rest : (later.kept ++ later.erased.flatten).Perm (l.flatMap Lexeme.source) := ih behind
        have moved := List.perm_append_comm_assoc (source ++ later.kept) read later.erased.flatten
        refine moved.trans (List.Perm.append_left read ?_)
        rw [List.append_assoc, List.flatMap_cons]
        exact rest.append_left source
      | opening | empty => cases separated

/-- What is kept of a text and what is taken out make up the text. -/
theorem separate_perm {text : String} {s : Separated} (separated : separate text = some s) :
    (s.kept ++ s.erased.flatten).Perm text.toList := by
  obtain ⟨l, lexed, separated⟩ := Option.bind_eq_some_iff.mp separated
  have whole := separateFrom_perm separated
  rwa [source_of_lexFrom lexed] at whole

theorem separateFrom_outside (plain : ∀ x ∈ l, x.token.beginsLabels = false) (rest : List Lexeme) :
    separateFrom .outside (l ++ rest) =
      (separateFrom .outside rest).map (.keep (l.flatMap Lexeme.source)) := by
  induction l with
  | nil => simp
  | cons x l ih =>
    obtain ⟨first, others⟩ := List.forall_mem_cons.mp plain
    have stays : Region.outside.after x.token = .outside := by simp [Region.after, first]
    rw [List.cons_append, separateFrom_outside_cons, stays, ih others, Option.map_map]
    simp [Function.comp_def]

theorem separateFrom_group (letters : ∀ x ∈ l, ∃ c, x.token = .letter c) (rest : List Lexeme) :
    separateFrom (.group depth) (l ++ rest) =
      (separateFrom (.group depth) rest).map (.keep (l.flatMap Lexeme.source)) := by
  induction l with
  | nil => simp
  | cons x l ih =>
    obtain ⟨⟨c, letter⟩, others⟩ := List.forall_mem_cons.mp letters
    have stays : (Region.group depth).after x.token = .group depth := by simp [Region.after, letter]
    rw [List.cons_append, separateFrom_group_cons, stays, ih others, Option.map_map]
    simp [Function.comp_def]

theorem separateFrom_text (read content : List Char) (rest : List Lexeme) :
    separateFrom (.text depth read)
      ((content.map fun c => ⟨.letter c, escape [c]⟩) ++ rest) =
        separateFrom (.text depth (read ++ escape content)) rest := by
  induction content generalizing read with
  | nil => simp [escape, replace]
  | cons c content ih =>
    rw [List.map_cons, List.cons_append, separateFrom, ih, List.append_assoc, ← escape_append,
      List.singleton_append]

def labelLine (depth : Nat) (attributes : List Attribute) (content : String) : Line :=
  ⟨depth, textElement "text" attributes content⟩

theorem letter_of_mem_replicate {c : Char} {source : List Char} {n : Nat} :
    ∀ x ∈ List.replicate n (⟨.letter c, source⟩ : Lexeme), ∃ c, x.token = .letter c := by
  intro x member
  exact ⟨c, by rw [List.eq_of_mem_replicate member]⟩

theorem letter_of_mem_newline :
    ∀ x ∈ [(⟨.letter '\n', ['\n']⟩ : Lexeme)], ∃ c, x.token = .letter c := by
  simp

theorem plain_of_letters (letters : ∀ x ∈ l, ∃ c, x.token = .letter c) :
    ∀ x ∈ l, x.token.beginsLabels = false := by
  intro x member
  obtain ⟨c, letter⟩ := letters x member
  rw [letter]
  rfl

/-- The text of a label is taken out of its line. -/
theorem separateFrom_labelLine (indent : Nat) (attributes : List Attribute) (content : String) :
    separateFrom (.group depth) (lineLexemes (labelLine indent attributes content) ++ rest) =
      (separateFrom (.group depth) rest).map fun s =>
        ⟨(labelLine indent attributes "").render.toList ++ s.kept,
          escape content.toList :: s.erased⟩ := by
  have split : lineLexemes (labelLine indent attributes content) ++ rest =
      List.replicate (2 * indent) ⟨.letter ' ', [' ']⟩ ++
        ⟨.opening "text" attributes, (Piece.opening "text" attributes).render.toList⟩ ::
          ((content.toList.map fun c => ⟨.letter c, escape [c]⟩) ++
            ⟨.closing "text", (Piece.closing "text").render.toList⟩ ::
              ([⟨.letter '\n', ['\n']⟩] ++ rest)) := by
    simp [lineLexemes, labelLine, textElement, pieceLexemes, tokens]
  rw [split, separateFrom_group letter_of_mem_replicate, separateFrom_group_cons]
  simp only [Region.after]
  rw [separateFrom_text, separateFrom, separateFrom_group letter_of_mem_newline]
  simp only [Option.map_map]
  congr 1
  funext s
  simp [Separated.keep, labelLine, Line.render, textElement, Piece.render, Text.toList_pushn,
    List.flatMap_replicate, escapeText, escape, replace]

theorem separateFrom_labelLines {β : Type} (indent : Nat) (attributes : β → List Attribute)
    (content : β → String) (labels : List β) :
    separateFrom (.group depth)
        ((labels.map fun b => labelLine indent (attributes b) (content b)).flatMap lineLexemes ++
          rest) =
      (separateFrom (.group depth) rest).map fun s =>
        ⟨(renderLines (labels.map fun b => labelLine indent (attributes b) "")).toList ++ s.kept,
          (labels.map fun b => escape (content b).toList) ++ s.erased⟩ := by
  induction labels with
  | nil => simp [renderLines]
  | cons b labels ih =>
    rw [List.map_cons, List.flatMap_cons, List.append_assoc, separateFrom_labelLine, ih,
      Option.map_map]
    simp [Function.comp_def, renderLines]

/-- The lines of a group of labels. -/
def labelLines {β : Type} (outer inner closed : Nat) (attributes : β → List Attribute)
    (content : β → String) (labels : List β) : List Line :=
  ⟨outer, [.opening "g" [⟨"class", "labels"⟩]]⟩ ::
    (labels.map fun b => labelLine inner (attributes b) (content b)) ++ [⟨closed, [.closing "g"]⟩]

theorem separateFrom_openLabels (indent : Nat) :
    separateFrom .outside
        (lineLexemes ⟨indent, [.opening "g" [⟨"class", "labels"⟩]]⟩ ++ rest) =
      (separateFrom (.group 0) rest).map
        (.keep (Line.render ⟨indent, [.opening "g" [⟨"class", "labels"⟩]]⟩).toList) := by
  have split : lineLexemes ⟨indent, [.opening "g" [⟨"class", "labels"⟩]]⟩ ++ rest =
      List.replicate (2 * indent) ⟨.letter ' ', [' ']⟩ ++
        ⟨.opening "g" [⟨"class", "labels"⟩],
          (Piece.opening "g" [⟨"class", "labels"⟩]).render.toList⟩ ::
            ([⟨.letter '\n', ['\n']⟩] ++ rest) := by
    simp [lineLexemes, pieceLexemes, tokens]
  have opens : Region.outside.after (.opening "g" [⟨"class", "labels"⟩]) = .group 0 := rfl
  rw [split, separateFrom_outside (plain_of_letters letter_of_mem_replicate),
    separateFrom_outside_cons, opens, separateFrom_group letter_of_mem_newline]
  simp only [Option.map_map]
  congr 1
  funext s
  simp [Separated.keep, Line.render, Text.toList_pushn, List.flatMap_replicate]

theorem separateFrom_closeLabels (indent : Nat) :
    separateFrom (.group 0) (lineLexemes ⟨indent, [.closing "g"]⟩ ++ rest) =
      (separateFrom .outside rest).map (.keep (Line.render ⟨indent, [.closing "g"]⟩).toList) := by
  have split : lineLexemes ⟨indent, [.closing "g"]⟩ ++ rest =
      List.replicate (2 * indent) ⟨.letter ' ', [' ']⟩ ++
        ⟨.closing "g", (Piece.closing "g").render.toList⟩ ::
          ([⟨.letter '\n', ['\n']⟩] ++ rest) := by
    simp [lineLexemes, pieceLexemes, tokens]
  have closes : (Region.group 0).after (.closing "g") = .outside := rfl
  rw [split, separateFrom_group letter_of_mem_replicate, separateFrom_group_cons, closes,
    separateFrom_outside (plain_of_letters letter_of_mem_newline)]
  simp only [Option.map_map]
  congr 1
  funext s
  simp [Separated.keep, Line.render, Text.toList_pushn, List.flatMap_replicate]

theorem separateFrom_labelGroup {β : Type} (outer inner closed : Nat)
    (attributes : β → List Attribute) (content : β → String) (labels : List β) :
    separateFrom .outside
        ((labelLines outer inner closed attributes content labels).flatMap lineLexemes ++ rest) =
      (separateFrom .outside rest).map fun s =>
        ⟨(renderLines
            (labelLines outer inner closed attributes (fun _ => "") labels)).toList ++ s.kept,
          (labels.map fun b => escape (content b).toList) ++ s.erased⟩ := by
  rw [labelLines, List.flatMap_append, List.flatMap_cons, List.flatMap_singleton,
    List.append_assoc, List.append_assoc, separateFrom_openLabels, separateFrom_labelLines,
    separateFrom_closeLabels, Option.map_map, Option.map_map]
  congr 1
  funext s
  simp [Separated.keep, labelLines, renderLines]

/-- Of lines with one group of labels all is kept but the text in that group. -/
theorem separate_renderLines {β : Type} {before after : List Line} {outer inner closed : Nat}
    {attributes : β → List Attribute} {content : β → String} {labels : List β}
    (sound : ∀ line ∈ before ++ labelLines outer inner closed attributes content labels ++ after,
      ∀ p ∈ line.pieces, IsSound p)
    (plainBefore : ∀ t ∈ before.flatMap lineTokens, t.beginsLabels = false)
    (plainAfter : ∀ t ∈ after.flatMap lineTokens, t.beginsLabels = false) :
    separate (renderLines
        (before ++ labelLines outer inner closed attributes content labels ++ after)) =
      some ⟨(renderLines (before ++
          labelLines outer inner closed attributes (fun _ => "") labels ++ after)).toList,
        labels.map fun b => escape (content b).toList⟩ := by
  have plain {lines : List Line} (tokens : ∀ t ∈ lines.flatMap lineTokens, t.beginsLabels = false) :
      ∀ x ∈ lines.flatMap lineLexemes, x.token.beginsLabels = false := by
    intro x member
    exact tokens _ (map_token lines ▸ List.mem_map_of_mem member)
  have last := separateFrom_outside (plain plainAfter) []
  rw [List.append_nil] at last
  rw [separate, lex_renderLines sound, Option.bind_some, List.flatMap_append, List.flatMap_append,
    List.append_assoc, separateFrom_outside (plain plainBefore), separateFrom_labelGroup, last]
  simp [separateFrom, Separated.keep, flatMap_source, renderLines]

end Strata.Markup.Scan
