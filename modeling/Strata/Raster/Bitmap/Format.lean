/-! The formats of pictures made of pixels, and the numbers and marks in the bytes of a file by
which they are told apart. -/
namespace Strata.Raster

inductive ByteOrder where
  /-- The one that counts most. -/
  | big
  /-- The one that counts least. -/
  | little
deriving DecidableEq, Repr

def ByteOrder.value (o : ByteOrder) (l : List UInt8) : Nat :=
  match o with
  | big => l.foldl (fun n b => n * 256 + b.toNat) 0
  | little => l.foldr (fun b n => n * 256 + b.toNat) 0

namespace Bytes

def number? (bytes : ByteArray) (o : ByteOrder) (offset count : Nat) : Option Nat :=
  if bytes.size < offset + count then none
  else some (o.value (bytes.extract offset (offset + count)).data.toList)

def big? (bytes : ByteArray) (offset count : Nat) : Option Nat := number? bytes .big offset count

def little? (bytes : ByteArray) (offset count : Nat) : Option Nat :=
  number? bytes .little offset count

def hasAt (bytes : ByteArray) (offset : Nat) (mark : List UInt8) : Bool :=
  (bytes.extract offset (offset + mark.length)).data.toList == mark

def hasText (bytes : ByteArray) (offset : Nat) (mark : String) : Bool :=
  hasAt bytes offset mark.toUTF8.data.toList

end Bytes

inductive BitmapFormat where
  | jpeg
  | png
  | gif
  | tiff
  | webp
  | heif
  | jpegXl
  | bmp
  | photoshop
  | icon
  | aseprite
  | openExr
  | radiance
  | directDraw
  | ktx
  | qoi
  | farbfeld
  | portableMap
  | valve
  | interleaved
  | targa
deriving DecidableEq, Repr

namespace BitmapFormat

/-- Marks at offsets, any of which shows a format, in the order in which formats are tried. -/
def marks : List (BitmapFormat × Nat × List (List UInt8)) :=
  let texts (l : List String) : List (List UInt8) := l.map fun s => s.toUTF8.data.toList
  [(jpeg, 0, [[0xFF, 0xD8, 0xFF]]),
   (png, 0, [[0x89, 0x50, 0x4E, 0x47]]),
   (gif, 0, texts ["GIF8"]),
   (tiff, 0, [[0x49, 0x49, 0x2A, 0], [0x4D, 0x4D, 0, 0x2A]]),
   (webp, 8, texts ["WEBP"]),
   (heif, 8, texts ["heic", "heix", "heis", "hevs", "heim", "hevm", "hevc", "hevx", "avif", "avio",
     "avis", "MA1A", "MA1B", "jpeg", "jpgs", "mif1", "msf1", "mif2", "miaf"]),
   (jpegXl, 0, [[0xFF, 0x0A], [0, 0, 0, 0x0C, 0x4A, 0x58, 0x4C, 0x20]]),
   (bmp, 0, texts ["BM"]),
   (photoshop, 0, texts ["8BPS"]),
   (icon, 0, [[0, 0, 1, 0]]),
   (aseprite, 4, [[0xE0, 0xA5]]),
   (openExr, 0, [[0x76, 0x2F, 0x31, 0x01]]),
   (radiance, 0, texts ["#?RADIANCE\n", "#?RGBE\n"]),
   (directDraw, 0, texts ["DDS "]),
   (ktx, 0, [[0xAB, 0x4B, 0x54, 0x58, 0x20, 0x32, 0x30, 0xBB, 0x0D, 0x0A, 0x1A, 0x0A]]),
   (qoi, 0, texts ["qoif"]),
   (farbfeld, 0, texts ["farbfeld"]),
   (portableMap, 0, texts ["P1", "P2", "P3", "P4", "P5", "P6"]),
   (valve, 0, [[0x56, 0x54, 0x46, 0]]),
   (interleaved, 8, texts ["ILBM"])]

def holds (bytes : ByteArray) : BitmapFormat → Bool
  | webp => Bytes.hasText bytes 0 "RIFF"
  | heif => Bytes.hasText bytes 4 "ftyp"
  | interleaved => Bytes.hasText bytes 0 "FORM"
  | _ => true

def footer : List UInt8 := "TRUEVISION-XFILE.".toUTF8.data.toList ++ [0]

/-- The format of a file of at least twelve bytes. -/
def ofBytes? (bytes : ByteArray) : Option BitmapFormat :=
  let found := marks.find? fun (f, offset, l) =>
    f.holds bytes && l.any (Bytes.hasAt bytes offset)
  if bytes.size < 12 then none
  else match found with
    | some (f, _) => some f
    | none =>
      if footer.length ≤ bytes.size && Bytes.hasAt bytes (bytes.size - footer.length) footer then
        some targa
      else none

/-- Whether a file of the format shows what it is without a name for its type. -/
def isPlain (f : BitmapFormat) : Bool := [jpeg, png, gif, webp].contains f

end BitmapFormat

structure PixelSize where
  width : Nat
  height : Nat
deriving DecidableEq, Repr

namespace PixelSize

def area (s : PixelSize) : Nat := s.width * s.height

def larger (a b : PixelSize) : PixelSize := if b.area < a.area then a else b

def turned (s : PixelSize) : PixelSize := ⟨s.height, s.width⟩

end PixelSize

end Strata.Raster
