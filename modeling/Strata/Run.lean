import Strata.Drawing.Painting
import Strata.Raster.Rasterize
import Strata.Settings.Reading
import Strata.Storage.Basic
import Strata.Svg.Document

/-! One run: settings, then the input document, the graph, its layout and styles, and the picture.
Each stage sees no more than the results of those before it, and the first fault ends the run. A
picture is complete before the file system is touched, so a scene that cannot be rendered leaves no
trace. -/
namespace Strata

inductive ImageFormat where
  | png
  | svg
deriving DecidableEq, Repr

/-- The extension `svg`, in any case, asks for SVG; all other paths ask for PNG. -/
def ImageFormat.ofPath (path : String) : ImageFormat :=
  match Path.extension? path with
  | some extension => if Text.equalIgnoringCase extension "svg" then .svg else .png
  | none => .png

namespace Scene

def svg (s : Scene Float) (f : Figure Float) : String := Svg.document (s.paint f)

def png [Raster.Renderer] (s : Scene Float) (f : Figure Float) : Except Fault ByteArray :=
  Raster.rasterize f.dpi (s.svg f)

def image [Raster.Renderer] (s : Scene Float) (f : Figure Float) :
    ImageFormat → Except Fault ByteArray
  | .svg => .ok (s.svg f).toUTF8
  | .png => s.png f

variable {m : Type → Type} [Monad m] [Storage m] [Raster.Renderer]

/-- Writes the picture to a path, in the format that the path asks for, and makes the directories
that the path names. -/
def save (s : Scene Float) (f : Figure Float) (path : String) : ExceptT Fault m ImageFormat := do
  let format := ImageFormat.ofPath path
  let bytes ← liftM (s.image f format)
  match (Path.parent? path).filter fun parent => !parent.isEmpty with
  | some parent =>
    Storage.attempt (Storage.createDirectories parent) fun e =>
      e.fault "draw::save_image" "dir" parent
  | none => pure ()
  Storage.attempt (Storage.write path bytes) fun e => e.fault "draw::save_image" "path" path
  return format

end Scene

variable {m : Type → Type} [Monad m] [Storage m]

def Settings.load (path : String) : ExceptT Fault m (Settings Float) := do
  let text ← Storage.readText path "config::load"
  liftM ((Settings.parse text).mapError fun f => f.note "path" path)

/-- The settings in effect: the default ones, or those of a file, with overrides laid over them. -/
def Settings.resolve (path : Option String) (o : Overrides Float) :
    ExceptT Fault m (Settings Float) := do
  let s ← match path with
    | some path => Settings.load path
    | none => pure .default
  liftM { s with figure := o.apply s.figure }.validated

def Document.load (path : String) : ExceptT Fault m Document := do
  let text ← Storage.readText path "input::load_document"
  liftM ((Document.parse text).mapError fun f => f.note "path" path)

structure Job where
  input : String
  output : String
  settings : Settings Float

def defaultOutput : String := "graph.png"

structure Summary where
  output : String
  format : ImageFormat
  /-- The node records of the input. -/
  nodes : Nat
  /-- The edge records of the input. -/
  edges : Nat
  renderedNodes : Nat
  renderedEdges : Nat
  droppedEdges : Nat
deriving DecidableEq, Repr

def Summary.line (s : Summary) : String :=
  "Saved: " ++ s.output ++ "  (nodes=" ++ toString s.nodes ++ ", edges=" ++ toString s.edges ++ ")"

namespace Job

def graph (job : Job) (d : Document) : Except Fault Graph := do
  let g ← (Graph.ofDocument d).mapError Graph.MissingId.fault
  if g.isRenderable then return g
  else .error (((Fault.emptyGraph g.nodeCount g.edgeCount).during "pipeline::process").note
    "path" job.input)

def run [Raster.Renderer] (job : Job) : ExceptT Fault m Summary := do
  let d ← Document.load job.input
  let g ← liftM (job.graph d)
  let scene := Scene.ofGraph g job.settings.spacing job.settings.palette
  let format ← scene.save job.settings.figure job.output
  return {
    output := job.output, format
    nodes := d.nodes.length, edges := d.edges.length
    renderedNodes := g.nodeCount, renderedEdges := g.edgeCount, droppedEdges := g.droppedEdges }

end Job

end Strata
