import Strata.Basic
import Strata.Picture.Length
import Strata.Raster.Bitmap.Boxes
import Strata.Raster.Bitmap.Format

/-! The sizes of pictures made of pixels, from the first bytes of a file, which in some formats are
words in lines. -/
namespace Strata.Raster

namespace Lines

def isBlank (b : UInt8) : Bool := [0x20, 0x09, 0x0A, 0x0C, 0x0D].contains b

/-- A number below 2^64, which a plus sign may precede. -/
def number? (word : List UInt8) : Option Nat :=
  let digits := if word.head? = some 0x2B then word.drop 1 else word
  let digits := digits.map fun b => Char.ofNat b.toNat
  let n := Text.value 10 digits
  if digits.isEmpty ∨ !digits.all Text.isDigit ∨ UInt64.size ≤ n then none else some n

def word (l : List UInt8) : Option (List UInt8 × List UInt8) :=
  let l := l.dropWhile isBlank
  match l.dropWhile fun b => !isBlank b with
  | _ :: r => some (l.takeWhile fun b => !isBlank b, r)
  | [] => none

/-- What follows remarks and blanks. A remark ends with its line. The bound limits the remarks. -/
def skipRemarks : Nat → List UInt8 → List UInt8
  | 0, l => l
  | bound + 1, l =>
    match l.dropWhile isBlank with
    | 0x23 :: r => skipRemarks bound (r.dropWhile (· != 0x0A))
    | r => r

/-- The size in a portable map, behind its mark: two words, with remarks in front of them. -/
def mapSize? (bytes : ByteArray) : Option PixelSize := do
  let l := bytes.data.toList.drop 2
  let (width, r) ← word (skipRemarks l.length l)
  let (height, _) ← word r
  return ⟨← number? width, ← number? height⟩

def words : Nat → List UInt8 → List (List UInt8)
  | 0, _ => []
  | bound + 1, l =>
    let l := l.dropWhile isBlank
    if l.isEmpty then []
    else
      (l.takeWhile fun b => !isBlank b) :: words bound (l.dropWhile fun b => !isBlank b)

def lineLimit : Nat := 256

/-- The size in the first of some lines that begins with a direction: four words, the second of
which is the height and the last one the width. -/
def radianceLines : Nat → List UInt8 → Option PixelSize
  | 0, _ => none
  | bound + 1, l =>
    let line := l.takeWhile (· != 0x0A)
    match l.dropWhile (· != 0x0A) with
    | [] => none
    | _ :: r =>
      let isDirection := ["-X", "+X", "-Y", "+Y"].any fun s =>
        s.toUTF8.data.toList.isPrefixOf line
      if lineLimit ≤ line.length then none
      else if isDirection then
        match words line.length line with
        | [_, height, _, width] => do return ⟨← number? width, ← number? height⟩
        | _ => none
      else radianceLines bound r

def radianceSize? (bytes : ByteArray) : Option PixelSize :=
  let l := bytes.data.toList
  radianceLines l.length ((l.dropWhile (· != 0x0A)).drop 1)

example : mapSize? "P6\n# c\n31 17\n255\n".toUTF8 = some ⟨31, 17⟩ := by decide +kernel

end Lines

namespace Bitmap

/-- Where the sides stand in a file: in numbers of so many bytes. -/
structure Place where
  order : ByteOrder
  count : Nat
  width : Nat
  height : Nat

def place? : BitmapFormat → Option Place
  | .png => some ⟨.big, 4, 16, 20⟩
  | .gif => some ⟨.little, 2, 6, 8⟩
  | .bmp => some ⟨.little, 4, 18, 22⟩
  | .photoshop => some ⟨.big, 4, 18, 14⟩
  | .aseprite => some ⟨.little, 2, 8, 10⟩
  | .directDraw => some ⟨.little, 4, 16, 12⟩
  | .ktx => some ⟨.little, 4, 20, 24⟩
  | .qoi => some ⟨.big, 4, 4, 8⟩
  | .farbfeld => some ⟨.big, 4, 8, 12⟩
  | .valve => some ⟨.little, 2, 16, 18⟩
  | .targa => some ⟨.little, 2, 12, 14⟩
  | _ => none

/-- The size in the first frame of a file of segments, from the segment at an offset on, inside of
so many files within the file. The bound limits the segments. -/
def frameSize? (bytes : ByteArray) : Nat → Nat → Nat → Option PixelSize
  | 0, _, _ => none
  | bound + 1, depth, offset => do
    let mark ← Bytes.big? bytes offset 1
    let kind ← Bytes.big? bytes (offset + 1) 1
    if mark ≠ 0xFF then none
    else if [0xC0, 0xC1, 0xC2, 0xC3, 0xC5, 0xC6, 0xC7, 0xC9, 0xCA, 0xCB, 0xCD, 0xCE,
        0xCF].contains kind && depth == 0 then
      return ⟨← Bytes.big? bytes (offset + 7) 2, ← Bytes.big? bytes (offset + 5) 2⟩
    else if kind = 0xD9 ∧ depth = 0 then none
    else
      let depth := if kind = 0xD8 then depth + 1 else if kind = 0xD9 then depth - 1 else depth
      let length ← Bytes.big? bytes (offset + 2) 2
      frameSize? bytes bound depth (offset + 2 + length)

def webpSize? (bytes : ByteArray) : Option PixelSize := do
  match ← Bytes.big? bytes 15 1 with
  | 0x20 => return ⟨← Bytes.little? bytes 0x1A 2, ← Bytes.little? bytes 0x1C 2⟩
  | 0x4C =>
    let n ← Bytes.little? bytes 0x15 4
    return ⟨n % 16384 + 1, n / 16384 % 16384 + 1⟩
  | 0x58 => return ⟨(← Bytes.little? bytes 0x18 3) + 1, (← Bytes.little? bytes 0x1B 3) + 1⟩
  | _ => none

/-- The sizes of so many icons, from an offset on, as far as they are there. No side stands for one
of 256 pixels. -/
def iconSizes (bytes : ByteArray) : Nat → Nat → List PixelSize
  | 0, _ => []
  | count + 1, offset =>
    let side (n : Nat) : Nat := if n = 0 then 256 else n
    match Bytes.big? bytes offset 1, Bytes.big? bytes (offset + 1) 1 with
    | some width, some height =>
      ⟨side width, side height⟩ :: iconSizes bytes count (offset + 16)
    | _, _ => []

def iconSize? (bytes : ByteArray) : Option PixelSize := do
  match iconSizes bytes (← Bytes.little? bytes 4 2) 6 with
  | first :: rest => return rest.foldl PixelSize.larger first
  | [] => none

def chunkSize? (bytes : ByteArray) : Nat → Nat → Option PixelSize
  | 0, _ => none
  | bound + 1, offset => do
    let length ← Bytes.big? bytes (offset + 4) 4
    if Bytes.hasText bytes offset "BMHD" then
      return ⟨← Bytes.big? bytes (offset + 8) 2, ← Bytes.big? bytes (offset + 10) 2⟩
    else chunkSize? bytes bound (offset + 8 + length + length % 2)

def text? (bytes : ByteArray) (offset : Nat) : Option (List UInt8 × Nat) :=
  let rest := bytes.data.toList.drop offset
  let text := rest.takeWhile (· != 0)
  if text.length < rest.length ∧ text.length < 255 then some (text, offset + text.length + 1)
  else none

def windowSize? (bytes : ByteArray) : Nat → Nat → Option PixelSize
  | 0, _ => none
  | bound + 1, offset => do
    let (name, offset) ← text? bytes offset
    if name.isEmpty then none
    else
      let (_, offset) ← text? bytes offset
      let length ← Bytes.little? bytes offset 4
      let corner (i : Nat) : Option Int :=
        (Bytes.little? bytes (offset + 4 + 4 * i) 4).map fun n => (n : Int).bmod (2 ^ 32)
      if name = "dataWindow".toUTF8.data.toList then
        return ⟨((← corner 2) - (← corner 0) + 1).toNat, ((← corner 3) - (← corner 1) + 1).toNat⟩
      else windowSize? bytes bound (offset + 4 + length)

def pixelSize? (bytes : ByteArray) : Option PixelSize := do
  let f ← BitmapFormat.ofBytes? bytes
  match place? f with
  | some p =>
    return ⟨← Bytes.number? bytes p.order p.width p.count,
      ← Bytes.number? bytes p.order p.height p.count⟩
  | none =>
    match f with
    | .jpeg => frameSize? bytes bytes.size 0 2
    | .webp => webpSize? bytes
    | .tiff => Tiff.size? bytes
    | .heif => Boxes.heifSize? bytes
    | .jpegXl => JpegXl.size? bytes
    | .icon => iconSize? bytes
    | .openExr => windowSize? bytes bytes.size 8
    | .radiance => Lines.radianceSize? bytes
    | .portableMap => Lines.mapSize? bytes
    | .interleaved => chunkSize? bytes bytes.size 12
    | _ => none

/-- The sides of a picture of pixels, both of which have to be there. -/
def size? (bytes : ByteArray) : Option Picture.Size :=
  ((pixelSize? bytes).map fun s =>
    ⟨Float32.ofNat s.width, Float32.ofNat s.height⟩).filter Picture.Size.isVisible

example : pixelSize? ("GIF89a".toUTF8 ++ ⟨#[2, 1, 3, 0, 0, 0]⟩) = some ⟨258, 3⟩ := by
  decide +kernel
example : pixelSize? ⟨#[0xFF, 0x0A, 0x03, 0, 0, 0, 0, 0, 0, 0, 0, 0, 0, 0, 0, 0]⟩ =
    some ⟨8, 16⟩ := by
  decide +kernel

end Bitmap

end Strata.Raster
