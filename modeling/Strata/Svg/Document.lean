import Std.Data.TreeMap
import Strata.Decimal.Form
import Strata.Drawing.Command
import Strata.Markup.Piece

/-! A drawing as an SVG document: the size, the arrowheads that edges refer to, the background, and
the elements of the commands in their order. Lengths have two decimal places. -/
namespace Strata.Svg

open Markup

def fontFamily : String := "DejaVu Sans, Bitstream Vera Sans, Arial, sans-serif"

def length (x : Float) : String := Decimal.fixed 2 x

def pair (p : Point Float) : String := length p.x ++ " " ++ length p.y

def pathData : EdgePath Float → String
  | .curve start control finish =>
    "M " ++ pair start ++ " Q " ++ pair control ++ " " ++ pair finish
  | .loop start control₁ control₂ finish =>
    "M " ++ pair start ++ " C " ++ pair control₁ ++ " " ++ pair control₂ ++ " " ++ pair finish

def markerId (color : Color) (size : Float) : String :=
  "arrow-" ++ String.ofList color.digits ++ "-" ++ Decimal.fixed 0 (size * 100)

/-- The classes of a group; a group without a key has only that of its kind. -/
def groupClass (kind key : String) : String :=
  if key.isEmpty then sanitize kind
  else sanitize kind ++ " " ++ sanitize kind ++ "-" ++ sanitize key

def dashAttribute (dashes : List Float) : List Attribute :=
  if dashes.isEmpty then []
  else [⟨"stroke-dasharray", " ".intercalate (dashes.map length)⟩]

/-- The place of a text's baseline for an anchor at half its height. -/
def baseline (anchor : Point Float) (fontSize : Float) : List Attribute :=
  [⟨"x", length anchor.x⟩, ⟨"y", length (anchor.y + 0.35 * fontSize)⟩]

def font (fontSize : Float) : List Attribute :=
  [⟨"font-family", fontFamily⟩, ⟨"font-size", length fontSize⟩, ⟨"fill", "#000000"⟩]

def centeredText (anchor : Point Float) (content : String) (fontSize : Float) : List Piece :=
  textElement "text"
    (baseline anchor fontSize ++ ⟨"text-anchor", "middle"⟩ :: font fontSize) content

def text (anchor : Point Float) (content : String) (fontSize : Float) : List Piece :=
  textElement "text" (baseline anchor fontSize ++ font fontSize) content

def circle (center : Point Float) (radius : Float) (style : NodeStyle Float) : Piece :=
  .empty "circle" [⟨"cx", length center.x⟩, ⟨"cy", length center.y⟩, ⟨"r", length radius⟩,
    ⟨"fill", style.fill.text⟩, ⟨"stroke", style.stroke.text⟩,
    ⟨"stroke-width", length style.strokeWidth⟩]

def path (course : EdgePath Float) (style : EdgeStyle Float) : Piece :=
  .empty "path" ([⟨"d", pathData course⟩, ⟨"fill", "none"⟩, ⟨"stroke", style.color.text⟩,
      ⟨"stroke-width", length style.width⟩, ⟨"opacity", length style.opacity⟩] ++
    dashAttribute style.dashes ++
    [⟨"marker-end", "url(#" ++ markerId style.color style.arrowSize ++ ")"⟩])

def swatch (r : Rect Float) (color : Color) : Piece :=
  .empty "rect" [⟨"x", length r.x⟩, ⟨"y", length r.y⟩, ⟨"width", length r.width⟩,
    ⟨"height", length r.height⟩, ⟨"fill", color.text⟩]

/-- The lines of a command. The canvas has none of its own, nor has an empty label. -/
def elements : Command Float → List (List Piece)
  | .canvas .. => []
  | .openGroup kind key => [[.opening "g" [⟨"class", groupClass kind key⟩]]]
  | .closeGroup => [[.closing "g"]]
  | .node center radius style => [[circle center radius style]]
  | .edge course style => [[path course style]]
  | .label anchor content fontSize =>
    if content.isEmpty then [] else [centeredText anchor content fontSize]
  | .legendTitle anchor content fontSize => [centeredText anchor content fontSize]
  | .legendEntry r color anchor content fontSize => [[swatch r color], text anchor content fontSize]

structure Marker where
  color : Color
  size : Float

/-- The arrowheads of a drawing by name; of several with one name the first counts. -/
def markers (d : Drawing Float) : Std.TreeMap String Marker :=
  d.edges.foldl
    (fun defined e => defined.insertIfNew (markerId e.2.color e.2.arrowSize)
      ⟨e.2.color, e.2.arrowSize⟩) ∅

def Marker.pieces (id : String) (m : Marker) : List Piece :=
  [.opening "marker" [⟨"id", id⟩, ⟨"viewBox", "0 0 10 10"⟩, ⟨"refX", "10"⟩, ⟨"refY", "5"⟩,
    ⟨"markerUnits", "userSpaceOnUse"⟩, ⟨"markerWidth", length m.size⟩,
    ⟨"markerHeight", length m.size⟩, ⟨"orient", "auto"⟩],
   .empty "path" [⟨"d", "M 0 0 L 10 5 L 0 10 z"⟩, ⟨"fill", m.color.text⟩],
   .closing "marker"]

/-- The section of the arrowheads, in ascending order of their names; none where there are no
edges. -/
def definitions (d : Drawing Float) : List Line :=
  match (markers d).toList with
  | [] => []
  | defined =>
    ⟨1, [.opening "defs" []]⟩ :: defined.map (fun m => ⟨2, m.2.pieces m.1⟩) ++
      [⟨1, [.closing "defs"]⟩]

/-- The depth of the lines of a command. The end of a group lies where its beginning does, and never
outside the document's element. -/
def depthAt (depth : Nat) : Command Float → Nat
  | .closeGroup => if depth ≤ 2 then 1 else depth - 1
  | _ => depth

def depthAfter (depth : Nat) : Command Float → Nat
  | .openGroup .. => depth + 1
  | c => depthAt depth c

def body : Nat → Drawing Float → List Line
  | _, [] => []
  | depth, c :: rest =>
    (elements c).map (Line.mk (depthAt depth c)) ++ body (depthAfter depth c) rest

structure Canvas where
  width : Float
  height : Float
  background : Color

/-- The canvas as it was last set; nothing in white before that. -/
def canvas (d : Drawing Float) : Canvas :=
  d.foldl (fun current c => match c with
    | .canvas width height background => ⟨width, height, background⟩
    | _ => current) ⟨0, 0, .white⟩

def root (c : Canvas) : Piece :=
  let width := Decimal.plain.render c.width
  let height := Decimal.plain.render c.height
  .opening "svg" [⟨"xmlns", "http://www.w3.org/2000/svg"⟩, ⟨"width", width⟩, ⟨"height", height⟩,
    ⟨"viewBox", "0 0 " ++ width ++ " " ++ height⟩]

def background (c : Canvas) : Piece :=
  .empty "rect" [⟨"x", "0"⟩, ⟨"y", "0"⟩, ⟨"width", "100%"⟩, ⟨"height", "100%"⟩,
    ⟨"fill", c.background.text⟩]

def lines (d : Drawing Float) : List Line :=
  ⟨0, [root (canvas d)]⟩ :: definitions d ++ ⟨1, [background (canvas d)]⟩ :: body 1 d ++
    [⟨0, [.closing "svg"]⟩]

def document (d : Drawing Float) : String := renderLines (lines d)

end Strata.Svg
