import Mathlib.Data.List.Basic
import Strata.Proofs.MarkupLegal
import Strata.Proofs.Painting
import Strata.Proofs.SvgDocument
import Strata.Settings.Validity

/-! The characters of a picture. Everything that a picture is written with is legal in markup, but
for the texts that are drawn in it: escaping leaves them the characters that no markup may hold, so
these are in the picture exactly when they are in a text. -/
namespace Strata

open Markup Markup.Scan

/-- Whether a document may hold all characters of a text. -/
def Markup.isLegalText (s : String) : Bool := s.toList.all isLegal

@[simp] theorem Markup.isLegalText_append (s t : String) :
    isLegalText (s ++ t) = (isLegalText s && isLegalText t) := by
  rw [isLegalText, String.toList_append, List.all_append]
  rfl

theorem Markup.isLegalText_join (l : List String) :
    isLegalText (String.join l) = l.all isLegalText := by
  induction l with
  | nil => rfl
  | cons s rest ih => rw [String.join_cons, isLegalText_append, ih, List.all_cons]

theorem Markup.isLegalText_pushn {c : Char} (legal : isLegal c = true) (s : String) (n : Nat) :
    isLegalText (s.pushn c n) = isLegalText s := by
  rw [isLegalText, Text.toList_pushn, List.all_append]
  simp [legal, isLegalText]

theorem isLegal_of_isPlainChar {c : Char} (plain : isPlainChar c = true) : isLegal c = true := by
  simp only [isPlainChar, Bool.and_eq_true, decide_eq_true_eq, Char.le_def,
    UInt32.le_iff_toNat_le, Char.reduceVal, UInt32.reduceToNat] at plain
  simp only [isLegal, Bool.or_eq_true, Bool.and_eq_true, decide_eq_true_eq, Char.toNat]
  omega

theorem IsPlain.isLegalText {s : String} (plain : IsPlain s) : isLegalText s = true := by
  refine List.all_eq_true.mpr ?_
  intro c member
  exact isLegal_of_isPlainChar (List.all_eq_true.mp plain c member)

theorem isLegalText_of_isName {s : String} (named : IsName s) : isLegalText s = true := by
  refine List.all_eq_true.mpr ?_
  intro c member
  exact isLegal_of_isPlainChar (isPlainChar_of_isNameChar (List.all_eq_true.mp named.2 c member))

theorem Markup.all_isLegal_replace {c : Char} {text : List Char} (legal : isLegal c = true)
    (texts : text.all isLegal = true) (s : List Char) :
    (replace c text s).all isLegal = s.all isLegal := by
  rw [replace, List.all_flatMap]
  refine congrArg s.all (funext fun x => ?_)
  by_cases same : x = c
  · rw [if_pos same, texts, same, legal]
  · simp [same]

/-- Escaping takes no character from a text that is not legal, and adds none. -/
theorem Markup.isLegalText_escapeText (s : String) :
    isLegalText (escapeText s) = isLegalText s := by
  simp +decide only [isLegalText, escapeText, escape, String.toList_ofList, all_isLegal_replace]

/-- What stands in a piece outside of tags. -/
def Markup.Piece.content : Piece → String
  | .text content => content
  | .opening .. | .closing .. | .empty .. => ""

namespace Markup.Piece

@[simp] theorem content_text (s : String) : (text s).content = s := rfl

@[simp] theorem content_opening (n : String) (l : List Attribute) :
    (opening n l).content = "" := rfl

@[simp] theorem content_closing (n : String) : (closing n).content = "" := rfl

@[simp] theorem content_empty (n : String) (l : List Attribute) : (empty n l).content = "" := rfl

end Markup.Piece

namespace Svg

theorem isLegalText_renderAttributes {l : List Attribute} (tidy : AreTidy l) :
    isLegalText (renderAttributes l) = true := by
  rw [renderAttributes, isLegalText_join, List.all_map, List.all_eq_true]
  intro a member
  obtain ⟨named, plain⟩ := tidy a member
  simp +decide [Attribute.render, isLegalText_of_isName named, plain.isLegalText]

theorem isLegalText_render {p : Piece} (tidy : IsTidy p) :
    isLegalText p.render = isLegalText p.content := by
  cases p with
  | text content => exact isLegalText_escapeText content
  | closing => simp +decide [Piece.render, isLegalText_of_isName tidy]
  | _ =>
    simp +decide [Piece.render, isLegalText_of_isName tidy.1,
      isLegalText_renderAttributes tidy.2]

theorem isLegalText_line {l : Line} (tidy : ∀ p ∈ l.pieces, IsTidy p) :
    isLegalText l.render = l.pieces.all fun p => isLegalText p.content := by
  have indent : isLegalText ("".pushn ' ' (2 * l.depth)) = true := isLegalText_pushn rfl "" _
  have newline : isLegalText "\n" = true := by decide
  rw [Line.render, isLegalText_append, isLegalText_append, indent, newline, Bool.true_and,
    Bool.and_true, isLegalText_join, List.all_map, Bool.eq_iff_iff, List.all_eq_true,
    List.all_eq_true]
  refine forall₂_congr fun p member => ?_
  rw [Function.comp_apply, isLegalText_render (tidy p member)]

theorem isLegalText_renderLines {l : List Line} (tidy : ∀ line ∈ l, ∀ p ∈ line.pieces, IsTidy p) :
    isLegalText (renderLines l) =
      l.all fun line => line.pieces.all fun p => isLegalText p.content := by
  rw [renderLines, isLegalText_join, List.all_map, Bool.eq_iff_iff, List.all_eq_true,
    List.all_eq_true]
  refine forall₂_congr fun line member => ?_
  rw [Function.comp_apply, isLegalText_line (tidy line member)]

end Svg

/-- The text that a command draws. -/
def Command.text {α : Type} : Command α → String
  | .label _ text _ | .legendTitle _ text _ | .legendEntry _ _ _ text _ => text
  | _ => ""

namespace Svg

theorem isLegalText_elements (c : Command Float) :
    ((elements c).all fun line => line.all fun p => isLegalText p.content) =
      isLegalText c.text := by
  have blank : isLegalText "" = true := by decide
  cases c with
  | label anchor content fontSize =>
    by_cases empty : content = ""
    · simp [elements, empty, Command.text, blank]
    · simp [elements, empty, Command.text, centeredText, textElement, blank]
  | _ =>
    simp [elements, Command.text, centeredText, Svg.text, textElement, circle, path, swatch,
      blank]

theorem isLegalText_body (d : Drawing Float) (depth : Nat) :
    ((body depth d).all fun line => line.pieces.all fun p => isLegalText p.content) =
      d.all fun c => isLegalText c.text := by
  induction d generalizing depth with
  | nil => rfl
  | cons c rest ih =>
    rw [body, List.all_append, ih, List.all_cons, ← isLegalText_elements, List.all_map]
    rfl

theorem isLegalText_definitions (d : Drawing Float) :
    ((definitions d).all fun line => line.pieces.all fun p => isLegalText p.content) = true := by
  have blank : isLegalText "" = true := by decide
  unfold definitions
  split <;> simp [Marker.pieces, blank]

/-- A document is legal exactly when all texts are that are drawn in it. -/
theorem isLegalText_document (d : Drawing Float) :
    isLegalText (document d) = d.all fun c => isLegalText c.text := by
  have blank : isLegalText "" = true := by decide
  rw [document, isLegalText_renderLines (isTidy_lines d), lines]
  simp [isLegalText_definitions, isLegalText_body, root, background, blank]

/-- The document begins with the tag of its element, so it is read only where it is legal. -/
theorem read_document_of_illegal {d : Drawing Float} (illegal : isLegalText (document d) = false) :
    read (document d) = none := by
  obtain ⟨rest, tag⟩ : ∃ rest, (document d).toList = '<' :: 's' :: rest := by
    simp [document, lines, renderLines, Line.render, root, Piece.render, Text.toList_pushn]
  by_contra reads
  obtain ⟨found, reads⟩ := Option.ne_none_iff_exists'.mp reads
  have legal := all_isLegal_of_read tag rfl reads
  rw [isLegalText, legal] at illegal
  cases illegal

end Svg

theorem Drawing.all_group {α : Type} {p : Command α → Bool} {kind key : String}
    (opening : p (.openGroup kind key) = true) (closing : p .closeGroup = true)
    (body : Drawing α) : (group kind key body).all p = body.all p := by
  simp [group, opening, closing]

namespace Scene

theorem isLegalText_legendLabel (layer : Nat) : isLegalText (legendLabel layer) = true := by
  have digits : IsPlain (toString layer) :=
    List.all_eq_true.mpr fun _ => Decimal.isPlainChar_of_mem_toString
  rw [legendLabel, isLegalText_append, digits.isLegalText, Bool.and_true]
  decide

variable {g : Graph} (spacing : Spacing Float) (palette : List Color) (f : Figure Float)

/-- Of the texts in the picture of a graph only labels can be illegal. -/
theorem isLegalText_svg (valid : g.Valid) :
    isLegalText ((ofGraph g spacing palette).svg f) =
      (!f.withLabels || g.nodeList.all fun n => isLegalText n.label) := by
  have blank : isLegalText "" = true := by decide
  have heading : isLegalText legendHeading = true := by decide
  have group (kind key : String) (body : Drawing Float) :
      (Drawing.group kind key body).all (fun c => isLegalText c.text) =
        body.all fun c => isLegalText c.text := Drawing.all_group blank blank body
  have canvas (width height : Float) (color : Color) :
      isLegalText (Command.canvas width height color).text = true := blank
  have edges : ((ofGraph g spacing palette).wholeEdges f).all (fun c => isLegalText c.text) := by
    rw [wholeEdges, List.all_flatMap, List.all_eq_true]
    intro relation _
    rw [group, List.all_map]
    exact List.all_eq_true.mpr fun _ _ => blank
  have nodes : ((ofGraph g spacing palette).wholeNodes f).all (fun c => isLegalText c.text) := by
    rw [wholeNodes, List.all_flatMap, List.all_eq_true]
    intro layer _
    rw [group, List.all_map]
    exact List.all_eq_true.mpr fun _ _ => blank
  have labels : ((ofGraph g spacing palette).wholeLabels f).all (fun c => isLegalText c.text) =
      g.nodeList.all fun n => isLegalText n.label := by
    rw [wholeLabels, group, List.all_map]
    rfl
  have legend : ((ofGraph g spacing palette).wholeLegend f).all (fun c => isLegalText c.text) := by
    rw [wholeLegend, group, List.all_cons, List.all_map, Bool.and_eq_true]
    exact ⟨heading, List.all_eq_true.mpr fun _ _ => isLegalText_legendLabel _⟩
  rw [svg, Svg.isLegalText_document, paint_whole valid, whole]
  simp only [List.cons_append, List.all_append, List.all_cons, canvas, edges, nodes]
  by_cases named : f.withLabels <;> by_cases bare : g.nodeList = []
  all_goals simp [named, bare, labels, legend]

/-- A picture that is not legal is no PNG. -/
theorem png_of_illegal [Raster.Renderer] {s : Scene Float} {f : Figure Float}
    (illegal : isLegalText (s.svg f) = false) :
    s.png f = .error (Raster.Defect.fault .notWellFormed) := by
  have unread : read (s.svg f) = none := Svg.read_document_of_illegal illegal
  simp only [png, Raster.rasterize, Raster.render, Raster.picture, unread]
  rfl

/-- Every character of a graph's picture is legal exactly when those of the labels in it are. A
picture with another character is given as SVG all the same, but not as PNG. -/
theorem svg_legal [Raster.Renderer] {nodes : List NodeRecord} {edges : List EdgeRecord} {g : Graph}
    (built : Graph.build nodes edges = .ok g) (spacing : Spacing Float) (palette : List Color)
    (f : Figure Float) :
    let s := ofGraph g spacing palette
    ((∀ c ∈ (s.svg f).toList, isLegal c = true) ↔
        (f.withLabels → ∀ n ∈ g.nodeList, ∀ c ∈ n.label.toList, isLegal c = true)) ∧
      ((∃ c ∈ (s.svg f).toList, isLegal c = false) →
        s.image f .svg = .ok (s.svg f).toUTF8 ∧
          ∃ e : Fault, s.image f .png = .error e ∧ e.kind = .renderFailed) := by
  intro s
  have labels := isLegalText_svg spacing palette f (Graph.valid_of_build built)
  refine ⟨?_, ?_⟩
  · rw [← List.all_eq_true]
    change isLegalText (s.svg f) = true ↔ _
    rw [labels]
    by_cases named : f.withLabels <;> simp [named, isLegalText, List.all_eq_true]
  · rintro ⟨c, member, other⟩
    have illegal : isLegalText (s.svg f) = false :=
      List.all_eq_false.mpr ⟨c, member, by simp [other]⟩
    have kind : (Raster.Defect.fault .notWellFormed).kind = .renderFailed := by
      simp [Raster.Defect.fault, Fault.renderFailed, Fault.causedBy]
    exact ⟨rfl, _, png_of_illegal illegal, kind⟩

/-- A document whose only id is a control character. -/
theorem svg_legal_control :
    let text := "\x7b\"nodes\":[\x7b\"id\":\"\\u0001\"\x7d]\x7d"
    let settings : Settings Float := .default
    settings.isValid = true ∧
      ∃ d g, (Document.parse text).toOption = some d ∧ Graph.build d.nodes d.edges = .ok g ∧
        let s := ofGraph g settings.spacing settings.palette
        (∃ c ∈ (s.svg settings.figure).toList, isLegal c = false) ∧
          s.image settings.figure .svg = .ok (s.svg settings.figure).toUTF8 ∧
          ∃ e : Fault, s.image settings.figure .png = .error e ∧ e.kind = .renderFailed := by
  intro text settings
  let nodes : List NodeRecord := [⟨"\x01", none, none, none⟩]
  have parsed : (Document.parse text).toOption = some ⟨nodes, []⟩ := by decide +kernel
  have named : ∀ r ∈ nodes, ¬ r.LacksId := by simp [nodes, NodeRecord.LacksId]
  let g := Graph.ofRecords nodes []
  have built : Graph.build nodes [] = .ok g := Graph.build_eq_ok_iff.mpr ⟨named, rfl⟩
  obtain ⟨labels, fails⟩ := svg_legal built settings.spacing settings.palette settings.figure
  have control : (⟨"\x01", "\x01", 0, "unknown"⟩ : Node) ∈ g.nodeList := by decide +kernel
  have illegal : ∃ c ∈ ((ofGraph g settings.spacing settings.palette).svg
      settings.figure).toList, isLegal c = false := by
    by_contra! legal
    have drawn := labels.mp (by simpa using legal) rfl _ control '\x01' (by decide +kernel)
    cases drawn
  exact ⟨by decide +kernel, _, g, parsed, built, illegal, fails illegal⟩

end Scene

end Strata
