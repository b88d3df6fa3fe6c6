import Mathlib.Data.List.Basic
import Strata.Proofs.MarkupTags
import Strata.Proofs.Painting
import Strata.Proofs.SvgDocument

/-! What can be read off a picture: the commands of its drawing in their order, each with the
colour, the dashes or the text that it was given, and the canvas as it was last set. A drawing is
the record of the calls that made it, so the record and the picture agree. -/
namespace Strata.Svg

open Markup Markup.Scan

/-- A tag of a picture, or a whole text element, with what it says of the drawing. -/
inductive Mark where
  | groupStart
  | groupEnd
  | circle (fill : String)
  | path (stroke : String) (dashed : Bool)
  | rect (fill : String)
  | text (content : String)
deriving DecidableEq

def value? (name : String) (l : List Attribute) : Option String :=
  (l.find? fun a => a.name = name).map Attribute.value

namespace Mark

/-- The mark of a tag that is one by itself. -/
def ofTag? : Token → Option Mark
  | .opening "g" _ => some groupStart
  | .closing "g" => some groupEnd
  | .empty "circle" l => (value? "fill" l).map circle
  | .empty "path" l =>
    (value? "stroke" l).map fun stroke => path stroke (value? "stroke-dasharray" l).isSome
  | .empty "rect" l => (value? "fill" l).map rect
  | _ => none

/-- The marks in order, where there is nothing else but white space between them. A text that is
open is given by its characters so far. -/
def read? : Option (List Char) → List Token → Option (List Mark)
  | none, [] => some []
  | none, .letter c :: rest => if isSpace c then read? none rest else none
  | none, .opening "text" _ :: rest => read? (some []) rest
  | none, t :: rest => (ofTag? t).bind fun m => (read? none rest).map (m :: ·)
  | some s, .letter c :: rest => read? (some (s ++ [c])) rest
  | some s, .closing "text" :: rest => (read? none rest).map (text (String.ofList s) :: ·)
  | some _, _ => none

def ofCommand : Command Float → List Mark
  | .canvas .. => []
  | .openGroup .. => [groupStart]
  | .closeGroup => [groupEnd]
  | .node _ _ style => [circle style.fill.text]
  | .edge _ style => [path style.color.text (!style.dashes.isEmpty)]
  | .label _ content _ => if content = "" then [] else [text content]
  | .legendTitle _ content _ => [text content]
  | .legendEntry _ color _ content _ => [rect color.text, text content]

end Mark

/-- The canvas that a drawing set last. -/
def lastCanvas? (d : Drawing Float) : Option Canvas :=
  (d.filterMap fun
    | .canvas width height background => some ⟨width, height, background⟩
    | _ => none).getLast?

/-- A document taken apart: the attributes of its own element, what precedes the background, the
attributes of the background, and the rest of the element. -/
structure Parts where
  root : List Attribute
  before : List Token
  cover : List Attribute
  inside : List Token

def Parts.tokens (p : Parts) : List Token :=
  .opening "svg" p.root :: p.before ++ .empty "rect" p.cover :: p.inside ++
    [.closing "svg", .letter '\n']

/-- The parts of a document say what the drawing is. -/
structure Depicts (d : Drawing Float) (p : Parts) : Prop where
  /-- The background is the first rectangle. -/
  first : ∀ l, .empty "rect" l ∉ p.before
  marks : Mark.read? none p.inside = some (d.flatMap Mark.ofCommand)
  size : ∀ c, lastCanvas? d = some c → value? "width" p.root = some (Decimal.plain.render c.width) ∧
    value? "height" p.root = some (Decimal.plain.render c.height)
  background : ∀ c, lastCanvas? d = some c → value? "fill" p.cover = some c.background.text

/-- Tokens are read as marks, whatever follows them. -/
def Shows (s : List Token) (l : List Mark) : Prop :=
  ∀ rest, Mark.read? none (s ++ rest) = (Mark.read? none rest).map (l ++ ·)

theorem Shows.nil : Shows [] [] := by
  intro rest
  simp

theorem Shows.append {s t : List Token} {l m : List Mark} (first : Shows s l) (later : Shows t m) :
    Shows (s ++ t) (l ++ m) := by
  intro rest
  rw [List.append_assoc, first, later, Option.map_map]
  simp only [Function.comp_def, List.append_assoc]

theorem Shows.blank {c : Char} (space : isSpace c = true) : Shows [.letter c] [] := by
  intro rest
  simp [Mark.read?, space]

theorem Shows.tag {t : Token} {m : Mark} (marked : Mark.ofTag? t = some m) : Shows [t] [m] := by
  intro rest
  have reads : Mark.read? none (t :: rest) =
      (Mark.ofTag? t).bind fun m => (Mark.read? none rest).map (m :: ·) := by
    unfold Mark.ofTag? at marked
    split at marked <;> simp_all [Mark.read?]
  rw [List.singleton_append, reads, marked]
  rfl

theorem Shows.piece {p : Piece} {t : Token} {m : Mark} (one : tokens p = [t])
    (marked : Mark.ofTag? t = some m) : Shows ([p].flatMap tokens) [m] := by
  simpa [one] using Shows.tag marked

theorem read?_letters (read content : List Char) (rest : List Token) :
    Mark.read? (some read) (content.map .letter ++ rest) =
      Mark.read? (some (read ++ content)) rest := by
  induction content generalizing read with
  | nil => simp
  | cons c content ih => simp [Mark.read?, ih]

theorem Shows.textElement (l : List Attribute) (content : String) :
    Shows ((textElement "text" l content).flatMap tokens) [.text content] := by
  intro rest
  have letters := read?_letters [] content.toList (.closing "text" :: rest)
  simpa [Markup.textElement, tokens, Mark.read?] using letters

theorem Shows.line {l : List Piece} {m : List Mark} (pieces : Shows (l.flatMap tokens) m)
    (depth : Nat) : Shows (lineTokens ⟨depth, l⟩) m := by
  have indent (n : Nat) : Shows (List.replicate n (.letter ' ')) [] := by
    induction n with
    | zero => exact .nil
    | succ n ih => exact Shows.append (.blank (c := ' ') rfl) ih
  have newline : Shows [.letter '\n'] [] := .blank rfl
  simpa [lineTokens] using ((indent (2 * depth)).append pieces).append newline

theorem Shows.single {l : List Piece} {m : List Mark} (pieces : Shows (l.flatMap tokens) m)
    (depth : Nat) : Shows (([l].map (Line.mk depth)).flatMap lineTokens) m := by
  simpa using Shows.line pieces depth

theorem shows_path (course : EdgePath Float) (style : EdgeStyle Float) :
    Shows ([path course style].flatMap tokens)
      [.path style.color.text (!style.dashes.isEmpty)] := by
  refine .piece rfl ?_
  by_cases solid : style.dashes.isEmpty <;> simp [Mark.ofTag?, value?, dashAttribute, solid]

theorem shows_elements (c : Command Float) (depth : Nat) :
    Shows (((elements c).map (Line.mk depth)).flatMap lineTokens) (Mark.ofCommand c) := by
  cases c with
  | canvas => exact .nil
  | openGroup kind key => exact .single (.piece rfl rfl) depth
  | closeGroup => exact .single (.piece rfl rfl) depth
  | node center radius style => exact .single (.piece rfl rfl) depth
  | edge course style => exact .single (shows_path course style) depth
  | label anchor content fontSize =>
    simp only [elements, Mark.ofCommand, String.isEmpty_iff]
    split
    · exact .nil
    · exact .single (.textElement _ content) depth
  | legendTitle anchor content fontSize => exact .single (.textElement _ content) depth
  | legendEntry r color anchor content fontSize =>
    have colored : Shows ([swatch r color].flatMap tokens) [.rect color.text] := .piece rfl rfl
    have named : Shows ((text anchor content fontSize).flatMap tokens) [.text content] :=
      .textElement _ content
    simpa [elements, Mark.ofCommand] using (colored.line depth).append (named.line depth)

theorem shows_body (d : Drawing Float) (depth : Nat) :
    Shows ((body depth d).flatMap lineTokens) (d.flatMap Mark.ofCommand) := by
  induction d generalizing depth with
  | nil => exact .nil
  | cons c rest ih =>
    rw [body, List.flatMap_append, List.flatMap_cons]
    exact (shows_elements c _).append (ih _)

theorem canvas_eq (d : Drawing Float) : canvas d = (lastCanvas? d).getD ⟨0, 0, .white⟩ := by
  have last (current : Canvas) : d.foldl (fun current c => match c with
      | .canvas width height background => ⟨width, height, background⟩
      | _ => current) current = (lastCanvas? d).getD current := by
    unfold lastCanvas?
    induction d generalizing current with
    | nil => rfl
    | cons c rest ih =>
      cases c <;> simp [ih, List.getLast?_cons]
  exact last _

def partsOf (d : Drawing Float) : Parts where
  root := [⟨"xmlns", "http://www.w3.org/2000/svg"⟩,
    ⟨"width", Decimal.plain.render (canvas d).width⟩,
    ⟨"height", Decimal.plain.render (canvas d).height⟩,
    ⟨"viewBox", "0 0 " ++ Decimal.plain.render (canvas d).width ++ " " ++
      Decimal.plain.render (canvas d).height⟩]
  before := .letter '\n' :: (definitions d).flatMap lineTokens ++ [.letter ' ', .letter ' ']
  cover := [⟨"x", "0"⟩, ⟨"y", "0"⟩, ⟨"width", "100%"⟩, ⟨"height", "100%"⟩,
    ⟨"fill", (canvas d).background.text⟩]
  inside := .letter '\n' :: (body 1 d).flatMap lineTokens

theorem tokens_partsOf (d : Drawing Float) : (partsOf d).tokens = documentTokens d := by
  simp [Parts.tokens, partsOf, documentTokens, lines, lineTokens, root, background, tokens]

theorem forall_line {P : Token → Prop} (letter : ∀ c, P (.letter c)) {l : Line}
    (pieces : ∀ t ∈ l.pieces.flatMap tokens, P t) : ∀ t ∈ lineTokens l, P t := by
  intro t member
  simp only [lineTokens, List.mem_append, List.mem_singleton] at member
  rcases member with (indent | within) | rfl
  · exact List.eq_of_mem_replicate indent ▸ letter _
  · exact pieces t within
  · exact letter _

theorem forall_definitions {P : Token → Prop} (letter : ∀ c, P (.letter c))
    (opening : P (.opening "defs" [])) (closing : P (.closing "defs"))
    (marker : ∀ id m, ∀ t ∈ (Marker.pieces id m).flatMap tokens, P t) (d : Drawing Float) :
    ∀ t ∈ (definitions d).flatMap lineTokens, P t := by
  unfold definitions
  split
  · simp
  · intro t member
    simp only [List.flatMap_append, List.flatMap_cons, List.flatMap_map, List.mem_append,
      List.flatMap_nil, List.append_nil, List.mem_flatMap] at member
    rcases member with (first | ⟨m, _, within⟩) | last
    · exact forall_line letter (by simpa [tokens] using opening) t first
    · exact forall_line letter (marker _ _) t within
    · exact forall_line letter (by simpa [tokens] using closing) t last

/-- The arrowheads hold neither rectangles nor circles. -/
theorem definitions_apart (d : Drawing Float) : ∀ t ∈ (definitions d).flatMap lineTokens,
    (∀ l, t ≠ .empty "rect" l) ∧ t.isNamed "circle" = false := by
  refine forall_definitions ?_ ?_ ?_ ?_ d
  · exact fun c => ⟨nofun, rfl⟩
  · exact ⟨nofun, rfl⟩
  · exact ⟨nofun, rfl⟩
  · simp [tokens, Marker.pieces, Token.isNamed]

theorem depicts_partsOf (d : Drawing Float) : Depicts d (partsOf d) := by
  refine ⟨?_, ?_, ?_, ?_⟩
  · intro l member
    have defined : Token.empty "rect" l ∈ (definitions d).flatMap lineTokens := by
      simpa [partsOf] using member
    exact (definitions_apart d _ defined).1 l rfl
  · have newline : Shows [.letter '\n'] [] := .blank rfl
    have reads := newline.append (shows_body d 1) []
    simpa [partsOf, Mark.read?] using reads
  · intro c last
    have current : canvas d = c := by rw [canvas_eq, last, Option.getD_some]
    subst current
    exact ⟨rfl, rfl⟩
  · intro c last
    have current : canvas d = c := by rw [canvas_eq, last, Option.getD_some]
    subst current
    rfl

theorem countP_elements (c : Command Float) (depth : Nat) :
    (((elements c).map (Line.mk depth)).flatMap lineTokens).countP
      (Token.isNamed "circle") = (Drawing.nodes [c]).length := by
  cases c with
  | label anchor content fontSize =>
    simp only [elements]
    split <;> simp [lineTokens, tokens, centeredText, textElement, Token.isNamed, Drawing.nodes]
  | _ =>
    simp [elements, lineTokens, tokens, centeredText, text, textElement, circle, path, swatch,
      Token.isNamed, Drawing.nodes]

theorem countP_body (d : Drawing Float) (depth : Nat) :
    ((body depth d).flatMap lineTokens).countP (Token.isNamed "circle") =
      d.nodes.length := by
  induction d generalizing depth with
  | nil => rfl
  | cons c rest ih =>
    rw [body, List.flatMap_append, List.countP_append, countP_elements, ih, ← List.length_append,
      ← Drawing.nodes_append, List.singleton_append]

theorem countP_document (d : Drawing Float) :
    (documentTokens d).countP (Token.isNamed "circle") = d.nodes.length := by
  have defined : ((definitions d).flatMap lineTokens).countP (Token.isNamed "circle") = 0 :=
    List.countP_eq_zero.mpr fun t member => by simp [(definitions_apart d t member).2]
  rw [← tokens_partsOf]
  simp [Parts.tokens, partsOf, Token.isNamed, defined, countP_body]

theorem occurrences_document (d : Drawing Float) :
    Text.occurrences "<circle ".toList (document d).toList = d.nodes.length := by
  have named : IsName "circle" := by decide
  rw [← countP_document]
  exact occurrences_of_scan named (scan_document d)

/-- The document of a drawing shows its commands and its canvas, and the circles that can be counted
in the text of a graph's picture are its nodes, whatever their labels say. -/
theorem document_depicts :
    (∀ d : Drawing Float, ∃ p : Parts, scan (document d) = some p.tokens ∧ Depicts d p) ∧
      ∀ {nodes : List NodeRecord} {edges : List EdgeRecord} {g : Graph},
        Graph.build nodes edges = .ok g → ∀ spacing palette f,
          Text.occurrences "<circle ".toList ((Scene.ofGraph g spacing palette).svg f).toList =
            g.nodeCount := by
  refine ⟨?_, ?_⟩
  · intro d
    exact ⟨partsOf d, by rw [tokens_partsOf, scan_document], depicts_partsOf d⟩
  · intro nodes edges g built spacing palette f
    have painted := Scene.paint_whole (Graph.valid_of_build built) spacing palette f
    rw [Scene.svg, occurrences_document, painted, Scene.length_nodes_whole, Scene.ofGraph_graph]

/-- Names that look like the beginning of a circle. -/
theorem document_depicts_hostile :
    let nodes : List NodeRecord :=
      [⟨"<circle ", none, none, none⟩, ⟨"b", "</text><circle r=\"1\"/>", none, none⟩]
    ∃ g, Graph.build nodes [] = .ok g ∧ Text.occurrences "<circle ".toList
      ((Scene.ofGraph g Spacing.default tab20).svg .default).toList = g.nodeCount := by
  intro nodes
  have named : ∀ r ∈ nodes, ¬ r.LacksId := by simp [nodes, NodeRecord.LacksId]
  have built : Graph.build nodes [] = .ok (Graph.ofRecords nodes []) :=
    Graph.build_eq_ok_iff.mpr ⟨named, rfl⟩
  exact ⟨_, built, document_depicts.2 built Spacing.default tab20 .default⟩

end Strata.Svg
