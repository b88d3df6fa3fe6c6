import Strata.Compression
import Strata.Fault
import Strata.Raster.Extent

/-! From an SVG document to a PNG file of the same size. Reading the document and measuring its
surface is done here; the drawing itself, with the fonts of the machine, is left to a renderer. -/
namespace Strata.Raster

namespace Png

def signature : ByteArray := ⟨#[0x89, 0x50, 0x4E, 0x47, 0x0D, 0x0A, 0x1A, 0x0A]⟩

def number (bytes : ByteArray) (offset : Nat) : Nat :=
  (bytes.extract offset (offset + 4)).data.toList.foldl (fun n b => n * 256 + b.toNat) 0

def extent? (bytes : ByteArray) : Option Extent :=
  if bytes.size < 24 ∨ (bytes.extract 0 8).data ≠ signature.data then none
  else some ⟨number bytes 16, number bytes 20⟩

end Png

/-- Draws the elements of a picture on a surface and writes the surface as a PNG file, or tells why
it cannot be written. -/
class Renderer where
  render (dpi : Float) (roots : List Picture.Element) (surface : Extent) : Except String ByteArray

/-- What is documented of renderers: a file that is written is a PNG file of the surface's size. -/
class Renderer.KeepsSize [Renderer] : Prop where
  extent? {dpi : Float} {roots : List Picture.Element} {surface : Extent} {bytes : ByteArray} :
    surface.width < UInt32.size → surface.height < UInt32.size →
      render dpi roots surface = .ok bytes → Png.extent? bytes = some surface

inductive Defect where
  | notWellFormed
  | tooLarge
  | noPicture
  | noSize
  | tooWide (e : Extent)
  | notWritten (reason : String)
deriving DecidableEq, Repr

/-- The most pixels of a row; four bytes for each of them fit 31 bits. -/
def widthLimit : Nat := 536870911

def picture (svg : String) : Except Defect (List Picture.Element) := do
  let some reading := Markup.read svg | .error .notWellFormed
  let some roots := Picture.Element.ofDocument reading | .error .tooLarge
  if isPicture roots then .ok roots else .error .noPicture

def surface (dpi : Float) (roots : List Picture.Element) : Except Defect Extent := do
  let some size := size? dpi.toFloat32 (embedded? dpi.toFloat32) roots | .error .noSize
  let e := Extent.ofSize size
  if widthLimit < e.width then .error (.tooWide e) else .ok e

def Defect.reason : Defect → String
  | notWellFormed => "the text is not well-formed"
  | tooLarge => "there are too many elements"
  | noPicture => "the outermost element is not svg"
  | noSize => "the size is not positive"
  | tooWide _ => "the surface is too wide"
  | notWritten reason => reason

def Defect.fault (d : Defect) : Fault :=
  let failed (message : String) := (Fault.renderFailed message).during "raster::rasterize_png"
  match d with
  | tooWide e =>
    failed ("failed to allocate " ++ toString e.width ++ "x" ++ toString e.height ++ " surface")
  | notWritten reason => (failed ("failed to encode PNG: " ++ reason)).causedBy reason
  | _ => (failed ("failed to parse generated SVG: " ++ d.reason)).causedBy d.reason

def render [Renderer] (dpi : Float) (svg : String) : Except Defect ByteArray := do
  let roots ← picture svg
  let e ← surface dpi roots
  (Renderer.render dpi roots e).mapError .notWritten

def rasterize [Renderer] (dpi : Float) (svg : String) : Except Fault ByteArray :=
  (render dpi svg).mapError Defect.fault

namespace Png

open Compression (adler32 crc32)

def bigEndian (n : UInt32) : ByteArray :=
  ⟨#[(n >>> 24).toUInt8, (n >>> 16).toUInt8, (n >>> 8).toUInt8, n.toUInt8]⟩

def chunk (kind : String) (data : ByteArray) : ByteArray :=
  let body := kind.toUTF8 ++ data
  bigEndian data.size.toUInt32 ++ body ++ bigEndian (crc32 body)

def blockLimit : Nat := 65535

def block (last : Bool) (data : ByteArray) : ByteArray :=
  let size := data.size.toUInt16
  let inverse := ~~~size
  ⟨#[if last then 1 else 0, size.toUInt8, (size >>> 8).toUInt8, inverse.toUInt8,
    (inverse >>> 8).toUInt8]⟩ ++ data

def blocks (data : ByteArray) : Nat → Nat → ByteArray
  | 0, offset => block true (data.extract offset data.size)
  | full + 1, offset =>
    block false (data.extract offset (offset + blockLimit)) ++
      blocks data full (offset + blockLimit)

def stream (data : ByteArray) : ByteArray :=
  ⟨#[0x78, 0x01]⟩ ++ blocks data ((data.size - 1) / blockLimit) 0 ++ bigEndian (adler32 data)

/-- One bit of grey for each pixel, and no interlacing. -/
def header (e : Extent) : ByteArray :=
  bigEndian e.width.toUInt32 ++ bigEndian e.height.toUInt32 ++ ⟨#[1, 0, 0, 0, 0]⟩

def blankRows (e : Extent) : ByteArray := ⟨Array.replicate (e.height * (1 + (e.width + 7) / 8)) 0⟩

/-- A blank surface, transparent all over, its rows stored without compression. -/
def blank (e : Extent) : ByteArray :=
  signature ++ chunk "IHDR" (header e) ++ chunk "tRNS" ⟨#[0, 0]⟩ ++
    chunk "IDAT" (stream (blankRows e)) ++ chunk "IEND" ⟨#[]⟩

end Png

/-- The renderer of a machine without one: it leaves the surface blank. -/
instance Renderer.blank : Renderer where
  render _ _ surface := .ok (Png.blank surface)

end Strata.Raster
