import Strata.Compression
import Strata.Raster.Bitmap.Format

/-! Sizes in files of boxes, which are parts with a length and a name in front of them, and in files
that list tagged values. -/
namespace Strata.Raster

open Compression (Bits)

namespace Boxes

/-- The length of the first box of a name, from an offset on, and the offset behind its name. The
bound limits the boxes. -/
def find? (bytes : ByteArray) (name : String) : Nat → Nat → Option (Nat × Nat)
  | 0, _ => none
  | bound + 1, offset => do
    let length ← Bytes.big? bytes offset 4
    if Bytes.hasText bytes (offset + 4) name then return (length, offset + 8)
    else if length < 8 then none
    else find? bytes name bound (offset + length)

/-- The largest size among properties, from an offset on, with so many bytes left for them, and in
how many quarters of a circle it is turned. A property that is none of these has to fit. -/
def properties (bytes : ByteArray) :
    Nat → Nat → Nat → Option PixelSize → Nat → Option (Option PixelSize × Nat)
  | 0, _, _, size, turns => some (size, turns)
  | bound + 1, offset, room, size, turns =>
    match Bytes.big? bytes offset 4, Bytes.big? bytes (offset + 4) 4 with
    | some length, some _ =>
      if length < 8 then none
      else if Bytes.hasText bytes (offset + 4) "ispe" then do
        let found : PixelSize :=
          ⟨← Bytes.big? bytes (offset + 12) 4, ← Bytes.big? bytes (offset + 16) 4⟩
        properties bytes bound (offset + 20) room
          (some (size.elim found fun s => found.larger s)) turns
      else if Bytes.hasText bytes (offset + 4) "irot" then do
        properties bytes bound (offset + 9) room size (← Bytes.big? bytes (offset + 8) 1)
      else if room ≤ length then some (size, turns)
      else properties bytes bound (offset + length) (room - length) size turns
    | _, _ => some (size, turns)

def heifSize? (bytes : ByteArray) : Option PixelSize := do
  let (_, offset) ← find? bytes "meta" bytes.size (← Bytes.big? bytes 0 4)
  let (_, offset) ← find? bytes "iprp" bytes.size (offset + 4)
  let (room, offset) ← find? bytes "ipco" bytes.size offset
  let (size, turns) ← properties bytes bytes.size offset room none 0
  let size ← size
  return if turns = 1 ∨ turns = 3 then size.turned else size

end Boxes

namespace JpegXl

def headerFrom (bytes : ByteArray) : Nat → Nat → List UInt8 → Option (List UInt8)
  | 0, _, _ => none
  | bound + 1, offset, found =>
    if 16 ≤ found.length then some (found.take 16)
    else do
      let length ← Bytes.big? bytes offset 4
      let (length, start) ←
        if length = 1 then (Bytes.big? bytes (offset + 8) 8).map fun n => (n, offset + 16)
        else some (length, offset + 8)
      let stop := if length = 0 then bytes.size else offset + length
      let part (skipped : Nat) : List UInt8 :=
        (bytes.extract (start + skipped) (Nat.min stop (start + skipped + 16))).data.toList
      let added := if Bytes.hasText bytes (offset + 4) "jxlc" then part 0
        else if Bytes.hasText bytes (offset + 4) "jxlp" then part 4
        else []
      if stop < start then none else headerFrom bytes bound stop (found ++ added)

def header? (bytes : ByteArray) : Option (List UInt8) :=
  if Bytes.hasAt bytes 0 [0xFF, 0x0A] then
    if bytes.size < 16 then none else some (bytes.data.toList.take 16)
  else headerFrom bytes bytes.size 12 []

/-- A side of a small picture is a number of eights; others have one of four lengths. -/
def side? (isSmall : Bool) (l : Bits) : Option (Nat × Bits) := do
  if isSmall then
    let (n, l) ← Bits.number? 5 l
    return (8 * (n + 1), l)
  else
    let (range, l) ← Bits.number? 2 l
    let (n, l) ← Bits.number? ([9, 13, 18, 30].getD range 0) l
    return (n + 1, l)

def ratios : List (Nat × Nat) := [(1, 1), (12, 10), (4, 3), (3, 2), (16, 9), (5, 4), (2, 1)]

def size? (bytes : ByteArray) : Option PixelSize := do
  let header ← header? bytes
  if header.take 2 ≠ [0xFF, 0x0A] then none
  else
    let (isSmall, l) ← Bits.number? 1 (Bits.ofBytes (header.drop 2))
    let (height, l) ← side? (isSmall = 1) l
    let (ratio, l) ← Bits.number? 3 l
    let (width, l) ← match ratio with
      | 0 => side? (isSmall = 1) l
      | n + 1 => (ratios[n]?).map fun (times, parts) => (height * times / parts, l)
    let (settings, l) ← Bits.number? 2 l
    let (turn, _) ← if settings = 2 then Bits.number? 3 l else some (0, l)
    let size : PixelSize := ⟨width, height⟩
    return if turn < 4 then size else size.turned

end JpegXl

namespace Tiff

def valueLength? (kind : Nat) : Option Nat :=
  if [1, 2, 6, 7].contains kind then some 1
  else if [3, 8].contains kind then some 2
  else if [4, 9, 11, 13].contains kind then some 4
  else if [5, 10, 12, 16, 17, 18].contains kind then some 8
  else none

/-- The size among so many entries from an offset on, behind others. It is there as soon as both
sides are; a side of another kind than whole numbers of two or four bytes is none. -/
def entries (bytes : ByteArray) (o : ByteOrder) :
    Nat → Nat → Option Nat → Option Nat → Option PixelSize
  | 0, _, _, _ => none
  | count + 1, offset, width, height => do
    let tag ← Bytes.number? bytes o offset 2
    let length ← valueLength? (← Bytes.number? bytes o (offset + 2) 2)
    let whole ← Bytes.number? bytes o (offset + 8) 4
    let value ← match length with
      | 2 => (Bytes.number? bytes o (offset + 8) 2).map some
      | 4 => some (some whole)
      | _ => some none
    let width := if tag = 256 then value else width
    let height := if tag = 257 then value else height
    match width, height with
    | some width, some height => return ⟨width, height⟩
    | _, _ => entries bytes o count (offset + 12) width height

def size? (bytes : ByteArray) : Option PixelSize := do
  let o : ByteOrder := if Bytes.hasText bytes 0 "II" then .little else .big
  let offset ← Bytes.number? bytes o 4 4
  if offset = 0 then none
  else entries bytes o (← Bytes.number? bytes o offset 2) (offset + 2) none none

end Tiff

end Strata.Raster
