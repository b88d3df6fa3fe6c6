import Strata.Compression
import Strata.Decimal.Exact
import Strata.Picture.Content
import Strata.Picture.Expansion
import Strata.Raster.Bitmap
import Strata.Text.DataUrl

/-! The size in pixels of a picture, from the attributes of its outermost element, and the pictures
that it holds in the addresses that lead to them. A side that is missing, or that is no length, is
the whole of the view box. Where there is no view box, sides that are shares are shares of a
hundred, and give way to what is drawn, if it reaches beyond the origin. A picture made of elements
shows no pictures inside of itself when it is embedded. -/
namespace Strata.Raster

open Picture (Attributes Box Element Length LengthUnit Size Surroundings)

structure Extent where
  width : Nat
  height : Nat
deriving DecidableEq, Repr

def defaultView : Box := ⟨0, 0, 100, 100⟩

def Length.ofHundred (l : Length) : Length :=
  if l.unit = .percent then ⟨l.number / 100 * 100, .pixel⟩ else l

/-- The size of what a picture without a view box draws, or the size that its sides give, if it
reaches nowhere or is not shown. -/
def drawnSize (dpi : Float32) (picture? : String → Option Size) (size : Size)
    (roots : List Element) : Size :=
  let l := (roots.head?.map fun e => e.level.attributes).getD []
  let s : Surroundings := { dpi := dpi, view := Box.ofSides 0 0 size.width size.height }
  let background := (l.lookup "background-color").any Picture.isColor
  if Picture.isHidden l then size
  else
    let b := Picture.contentBox s picture? background roots
    if (Size.mk b.right b.bottom).isVisible then ⟨b.right, b.bottom⟩ else size

/-- The size of a picture, from its outermost elements, the first of which gives the sides. The
sizes of embedded pictures are known by their addresses. -/
def size? (dpi : Float32) (picture? : String → Option Size) (roots : List Element) :
    Option Size := do
  let root ← roots.head?
  let l := root.level.attributes
  let length (name : String) : Length := ((l.lookup name).bind Length.ofText?).getD .whole
  let width := length "width"
  let height := length "height"
  let view := (l.lookup "viewBox").bind Picture.viewBox?
  let s := ({ dpi := dpi, view := view.getD defaultView } : Surroundings).enter root.level
  if view.isSome then
    (some ⟨s.pixels "width" width, s.pixels "height" height⟩).filter Size.isVisible
  else
    let size ← (some ⟨s.pixels "width" (Length.ofHundred width),
      s.pixels "height" (Length.ofHundred height)⟩).filter Size.isVisible
    if width.unit = .percent ∨ height.unit = .percent then
      return drawnSize dpi picture? size roots
    else return size

/-- The nearest number of whole pixels, at least one and at most 32 bits of them. -/
def wholePixels (x : Float32) : Nat :=
  Nat.max 1 (Nat.min ((Decimal.Exact.ofFloat x.toFloat).roundMagnitude) 4294967295)

def Extent.ofSize (s : Size) : Extent := ⟨wholePixels s.width, wholePixels s.height⟩

def isPicture (roots : List Element) : Bool := roots.head?.any fun e => e.level.kind == .svg

def embeddedDrawing? (dpi : Float32) (bytes : List UInt8) : Option Size := do
  let bytes ← if Compression.Gzip.mark.isPrefixOf bytes then Compression.Gzip.unpacked? bytes
    else some bytes
  let text ← String.fromUTF8? ⟨bytes.toArray⟩
  let roots ← Element.ofDocument (← Markup.read text)
  if isPicture roots then size? dpi (fun _ => none) roots else none

def embedded? (dpi : Float32) (address : String) : Option Size := do
  let u ← Text.DataUrl.ofText? address
  let bytes : ByteArray := ⟨u.bytes.toArray⟩
  match u.mediaType with
  | "image/png" | "image/jpeg" | "image/jpg" | "image/gif" | "image/webp" => Bitmap.size? bytes
  | "image/svg+xml" => embeddedDrawing? dpi u.bytes
  | "text/plain" =>
    if (BitmapFormat.ofBytes? bytes).any BitmapFormat.isPlain then Bitmap.size? bytes
    else embeddedDrawing? dpi u.bytes
  | _ => none

end Strata.Raster
