import Mathlib.Data.List.Basic
import Strata.Proofs.Balance
import Strata.Proofs.SvgPieces
import Strata.Run

/-! A picture is one tree of tags. The groups of a balanced drawing become elements that nest in the
same way, between the tags of the document's own element, and no text or name of a caller adds a tag
to them. -/
namespace Strata

open Markup.Scan

namespace Markup.Scan

/-- Tags that nest, with characters between them. -/
inductive Forest : List Token → Prop where
  | nil : Forest []
  | letter (c : Char) {rest : List Token} : Forest rest → Forest (.letter c :: rest)
  | empty (name : String) (attributes : List Attribute) {rest : List Token} : Forest rest →
      Forest (.empty name attributes :: rest)
  | element (name : String) (attributes : List Attribute) {inner rest : List Token} :
      Forest inner → Forest rest →
      Forest (.opening name attributes :: inner ++ .closing name :: rest)

theorem Forest.append {s t : List Token} (first : Forest s) (later : Forest t) :
    Forest (s ++ t) := by
  induction first with
  | nil => exact later
  | letter c _ ih => exact .letter c ih
  | empty name attributes _ ih => exact .empty name attributes ih
  | element name attributes inner _ _ ih =>
    rw [List.append_assoc]
    exact .element name attributes inner ih

theorem Forest.flatMap {β : Type} {f : β → List Token} {l : List β}
    (each : ∀ b ∈ l, Forest (f b)) : Forest (l.flatMap f) := by
  induction l with
  | nil => exact .nil
  | cons b rest ih =>
    obtain ⟨first, others⟩ := List.forall_mem_cons.mp each
    exact first.append (ih others)

theorem Forest.letters (l : List Char) : Forest (l.map .letter) := by
  induction l with
  | nil => exact .nil
  | cons c rest ih => exact .letter c ih

theorem Forest.indent (depth : Nat) : Forest (List.replicate (2 * depth) (.letter ' ')) := by
  simpa using Forest.letters (List.replicate (2 * depth) ' ')

theorem Forest.line {l : Line} (pieces : Forest (l.pieces.flatMap tokens)) :
    Forest (lineTokens l) :=
  ((Forest.indent l.depth).append pieces).append (.letter '\n' .nil)

/-- A line with a tag, lines that nest within it, and a line with the end of that tag. -/
theorem Forest.block {name : String} {attributes : List Attribute} {depth depth' : Nat}
    {inner rest : List Line} (nested : Forest (inner.flatMap lineTokens))
    (later : Forest (rest.flatMap lineTokens)) :
    Forest ((⟨depth, [.opening name attributes]⟩ :: inner ++
      ⟨depth', [.closing name]⟩ :: rest).flatMap lineTokens) := by
  have within : Forest (.letter '\n' :: inner.flatMap lineTokens ++
      List.replicate (2 * depth') (.letter ' ')) := .append (.letter '\n' nested) (.indent depth')
  have whole := (Forest.indent depth).append (.element name attributes within (.letter '\n' later))
  simpa [lineTokens, tokens] using whole

theorem forest_textElement (name : String) (attributes : List Attribute) (content : String) :
    Forest ((textElement name attributes content).flatMap tokens) := by
  have element := Forest.element name attributes (.letters content.toList) .nil
  simpa [textElement, tokens] using element

end Markup.Scan

namespace Svg

theorem forest_elements {c : Command Float} (apart : c.IsSingle) :
    ∀ line ∈ elements c, Forest (line.flatMap tokens) := by
  cases c with
  | canvas => exact List.forall_mem_nil _
  | openGroup => exact apart.elim
  | closeGroup => exact apart.elim
  | node => exact List.forall_mem_singleton.mpr (.empty _ _ .nil)
  | edge => exact List.forall_mem_singleton.mpr (.empty _ _ .nil)
  | label anchor content fontSize =>
    simp only [elements]
    split
    · exact List.forall_mem_nil _
    · exact List.forall_mem_singleton.mpr (forest_textElement ..)
  | legendTitle => exact List.forall_mem_singleton.mpr (forest_textElement ..)
  | legendEntry =>
    refine List.forall_mem_cons.mpr ⟨.empty _ _ .nil, ?_⟩
    exact List.forall_mem_singleton.mpr (forest_textElement ..)

theorem body_append (depth : Nat) (d e : Drawing Float) :
    body depth (d ++ e) = body depth d ++ body (d.foldl depthAfter depth) e := by
  induction d generalizing depth with
  | nil => rfl
  | cons c rest ih => rw [List.cons_append, body, body, ih, List.append_assoc, List.foldl_cons]

theorem body_group (depth : Nat) (kind key : String) (inner rest : Drawing Float) :
    ∃ depth', body depth (Drawing.group kind key inner ++ rest) =
      ⟨depth, [.opening "g" [⟨"class", groupClass kind key⟩]]⟩ :: body (depth + 1) inner ++
        ⟨depth', [.closing "g"]⟩ :: body depth' rest := by
  refine ⟨depthAt (inner.foldl depthAfter (depth + 1)) .closeGroup, ?_⟩
  rw [Drawing.group, List.cons_append, List.cons_append, List.append_assoc, body, body_append]
  rfl

/-- The lines of a balanced drawing nest as its groups do, wherever they are indented from. -/
theorem forest_body {d : Drawing Float} (balanced : d.Balanced) (depth : Nat) :
    Forest ((body depth d).flatMap lineTokens) := by
  induction balanced generalizing depth with
  | nil => exact .nil
  | single apart _ ih =>
    rw [body, List.flatMap_append, List.flatMap_map]
    exact (Forest.flatMap fun line member => .line (forest_elements apart line member)).append
      (ih _)
  | nested kind key _ _ nested later =>
    obtain ⟨depth', split⟩ := body_group depth kind key _ _
    rw [split]
    exact .block (nested _) (later _)

theorem forest_marker (id : String) (m : Marker) : Forest ((m.pieces id).flatMap tokens) :=
  .element _ _ (.empty _ _ .nil) .nil

theorem forest_definitions (d : Drawing Float) :
    Forest ((definitions d).flatMap lineTokens) := by
  unfold definitions
  split
  · exact .nil
  · refine .block ?_ .nil
    rw [List.flatMap_map]
    exact .flatMap fun m _ => .line (forest_marker _ _)

/-- The tokens that the document of a drawing is meant to have. -/
def documentTokens (d : Drawing Float) : List Token := (lines d).flatMap lineTokens

theorem scan_document (d : Drawing Float) : scan (document d) = some (documentTokens d) :=
  scan_renderLines (isSound_lines d)

/-- Between the tags of the document's own element everything nests. -/
theorem forest_document {d : Drawing Float} (balanced : d.Balanced) :
    ∃ attributes inner, documentTokens d =
      .opening "svg" attributes :: inner ++ [.closing "svg", .letter '\n'] ∧ Forest inner := by
  have covered : Forest (lineTokens ⟨1, [background (canvas d)]⟩) := .line (.empty _ _ .nil)
  have within := (forest_definitions d).append (covered.append (forest_body balanced 1))
  obtain ⟨attributes, opened⟩ : ∃ attributes, root (canvas d) = .opening "svg" attributes :=
    ⟨_, rfl⟩
  refine ⟨attributes, _, ?_, Forest.letter '\n' within⟩
  simp [documentTokens, lines, opened, lineTokens, tokens]

/-- A text is one element of the given name with properly nested tags in it and a line break behind
it. Its brackets are those of its tags, no value holds a character that ends it, and every ampersand
begins an entity. -/
structure IsDocument (name text : String) (found : List Token) : Prop where
  scanned : scan text = some found
  tree : ∃ attributes inner,
    found = .opening name attributes :: inner ++ [.closing name, .letter '\n'] ∧ Forest inner
  lefts : text.toList.count '<' = found.countP Token.isTag
  rights : text.toList.count '>' = found.countP Token.isTag
  values : ∀ t ∈ found, ∀ a ∈ t.attributes, ∀ c ∈ a.value.toList,
    c ≠ '"' ∧ c ≠ '<' ∧ c ≠ '>' ∧ c ≠ '&'
  entities : ∀ before behind, text.toList = before ++ '&' :: behind →
    ∃ entity ∈ ["amp;", "lt;", "gt;", "quot;", "apos;"], entity.toList <+: behind

/-- The documents of balanced drawings, and with them those of all scenes, are well formed. -/
theorem document_wellFormed :
    (∀ d : Drawing Float, d.Balanced → IsDocument "svg" (document d) (documentTokens d)) ∧
      ∀ (s : Scene Float) (f : Figure Float),
        IsDocument "svg" (s.svg f) (documentTokens (s.paint f)) := by
  have wellFormed (d : Drawing Float) (balanced : d.Balanced) :
      IsDocument "svg" (document d) (documentTokens d) := by
    have scanned := scan_document d
    have reads := scan_eq_some_iff.mp scanned
    refine ⟨scanned, forest_document balanced, reads.brackets.1, reads.brackets.2, ?_,
      fun _ _ here => entity_of_scan scanned here⟩
    intro t member a given c read
    have clean := List.all_eq_true.mp (reads.clean trivial t member a given) c read
    simpa [isValueChar, and_assoc] using clean
  refine ⟨wellFormed, ?_⟩
  intro s f
  exact wellFormed (s.paint f) (s.balanced_paint f)

/-- A label and the names of a group that look like markup. -/
theorem document_wellFormed_hostile :
    let d : Drawing Float := [.canvas 10 10 .white, .openGroup "\"><g " "</svg>",
      .label ⟨1, 1⟩ "</text>&<" 8, .closeGroup]
    d.Balanced ∧ IsDocument "svg" (document d) (documentTokens d) := by
  intro d
  have labelled : Drawing.Balanced [Command.label ⟨1, 1⟩ "</text>&<" (8 : Float)] :=
    .of_singles (List.forall_mem_singleton.mpr trivial)
  have balanced : d.Balanced :=
    .single (c := .canvas 10 10 .white) trivial (labelled.group "\"><g " "</svg>")
  exact ⟨balanced, document_wellFormed.1 d balanced⟩

end Svg

end Strata
