import Strata.Decimal.Exact
import Strata.Markup.Name

/-! Numbers in the attributes of pictures, alone, in lists and with a unit: angles, lengths and
sizes of type. -/
namespace Strata.Picture

open Markup (skipSpace)

/-- An exponent, unless its mark begins the name of a unit. -/
def exponentLength : List Char → Nat
  | _ :: 'm' :: _ | _ :: 'x' :: _ => 0
  | c :: r =>
    if c = 'e' ∨ c = 'E' then
      let sign := if r.head? = some '+' ∨ r.head? = some '-' then 1 else 0
      1 + sign + ((r.drop sign).takeWhile Text.isDigit).length
    else 0
  | [] => 0

def number (s : List Char) : Option (Float × List Char) :=
  let sign := if s.head? = some '+' ∨ s.head? = some '-' then 1 else 0
  let whole := ((s.drop sign).takeWhile Text.isDigit).length
  let r := s.drop (sign + whole)
  let places := match r with
    | '.' :: f => 1 + (f.takeWhile Text.isDigit).length
    | _ => 0
  let taken := sign + whole + places + exponentLength (r.drop places)
  ((Decimal.literal? (String.ofList (s.take taken))).filter Float.isFinite).map fun x =>
    (x, s.drop taken)

def skipComma (s : List Char) : List Char :=
  let r := skipSpace s
  if r.head? = some ',' then r.drop 1 else r

/-- A number of a list, with the space around it and a comma behind it. -/
def listNumber (s : List Char) : Option (Float × List Char) :=
  (number (skipSpace s)).map fun (x, r) => (x, skipComma r)

def numbers : Nat → List Char → Option (List Float × List Char)
  | 0, s => some ([], s)
  | count + 1, s => do
    let (x, r) ← listNumber s
    let (rest, r) ← numbers count r
    return (x :: rest, r)

/-- A word of letters, digits, hyphens and underscores, which may be empty. -/
def word (s : List Char) : String × List Char :=
  let isPart (c : Char) : Bool := c.isAlphanum || c = '-' || c = '_'
  (String.ofList (s.takeWhile isPart), s.dropWhile isPart)

example : (numbers 2 "1,-2.5e1em".toList).map Prod.snd = some "em".toList := by decide +kernel

namespace Angle

def units : List (String × (Float → Float)) :=
  [("deg", id), ("grad", fun x => x * 180 / 200), ("rad", fun x => x * (180 / 3.141592653589793)),
   ("turn", fun x => x * 360)]

def unit? (s : List Char) : Option ((Float → Float) × List Char) :=
  (units.find? fun u => u.1.toList.isPrefixOf s).map fun u => (u.2, s.drop u.1.length)

def read (s : List Char) : Option (Float × List Char) :=
  (number (Markup.skipSpace s)).map fun (x, r) =>
    match unit? r with
    | some (degrees, r) => (degrees x, r)
    | none => (x, r)

def ofText? (s : String) : Option Float :=
  (read s.toList).bind fun (x, r) => if r.isEmpty then some x else none

end Angle

inductive LengthUnit where
  | pixel
  | em
  | ex
  | inch
  | centimetre
  | millimetre
  | point
  | pica
  | percent
deriving DecidableEq, Repr

structure Length where
  number : Float
  unit : LengthUnit

def LengthUnit.ofText? : List Char → Option LengthUnit
  | [] | ['p', 'x'] => some .pixel
  | ['e', 'm'] => some .em
  | ['e', 'x'] => some .ex
  | ['i', 'n'] => some .inch
  | ['c', 'm'] => some .centimetre
  | ['m', 'm'] => some .millimetre
  | ['p', 't'] => some .point
  | ['p', 'c'] => some .pica
  | ['%'] => some .percent
  | _ => none

namespace Length

def zero : Length := ⟨0, .pixel⟩

def whole : Length := ⟨100, .percent⟩

def ofText? (s : String) : Option Length := do
  let (x, r) ← Picture.number (Markup.skipSpace s.toList)
  return ⟨x, ← LengthUnit.ofText? r⟩

def read (s : List Char) : Option (Length × List Char) := do
  let (x, r) ← Picture.number (Markup.skipSpace s)
  let unit? (count : Nat) : Option (Length × List Char) :=
    if r.length < count then none
    else (LengthUnit.ofText? (r.take count)).map fun u => (⟨x, u⟩, r.drop count)
  return ((unit? 2).orElse fun _ => unit? 1).getD (⟨x, .pixel⟩, r)

/-- The pixels of a length at a resolution, in type of a size and beside a whole. -/
def pixels (l : Length) (dpi fontSize whole : Float32) : Float32 :=
  let n := l.number.toFloat32
  match l.unit with
  | .pixel => n
  | .em => n * fontSize
  | .ex => n * fontSize / 2
  | .inch => n * dpi
  | .centimetre => n * dpi / 2.54
  | .millimetre => n * dpi / 25.4
  | .point => n * dpi / 72
  | .pica => n * dpi / 6
  | .percent => whole * n / 100

end Length

def isVisibleLength (x : Float32) : Bool := 0 < x && x.isFinite

structure Size where
  width : Float32
  height : Float32
deriving Repr

def Size.isVisible (s : Size) : Bool := isVisibleLength s.width && isVisibleLength s.height

def defaultFontSize : Float32 := 12

/-- The steps from the middle of the scale, or from the size around. -/
def fontSteps : List (String × Int) :=
  [("xx-small", -3), ("x-small", -2), ("small", -1), ("medium", 0), ("large", 1), ("x-large", 2),
   ("xx-large", 3), ("smaller", -1), ("larger", 1)]

def power (x : Float32) : Nat → Float32
  | 0 => 1
  | 1 => x
  | 2 => x * x
  | n + 1 => x * power x n

def stepRatio (steps : Int) : Float32 :=
  if steps < 0 then 1 / power 1.2 steps.natAbs else power 1.2 steps.natAbs

/-- The size that a value gives to type, inside of type of another size. A word that is not known
changes nothing. -/
def fontSize (dpi outer : Float32) (value : String) : Float32 :=
  match Length.ofText? value with
  | some ⟨x, .percent⟩ => x.toFloat32 * outer * 0.01
  | some l => l.pixels dpi outer 0
  | none => outer * stepRatio ((fontSteps.lookup value).getD 0)

/-- Words that may stand before the size when a font is given in one value. -/
def fontWords : List String :=
  ["normal", "small-caps", "italic", "oblique", "bold", "bolder", "lighter", "100", "200", "300",
   "400", "500", "600", "700", "800", "900", "ultra-condensed", "extra-condensed", "condensed",
   "semi-condensed", "semi-expanded", "expanded", "extra-expanded", "ultra-expanded"]

def skipFontWords : Nat → List Char → List Char
  | 0, s => s
  | count + 1, s =>
    let (w, r) := word s
    if fontWords.contains w then skipFontWords count (Markup.skipSpace r) else s

def sizeText (s : List Char) : Option (List Char × List Char) :=
  if s.head?.any Text.isDigit then
    (Length.read s).map fun (_, r) => (s.take (s.length - r.length), r)
  else
    let (w, r) := word s
    if (fontSteps.lookup w).isSome then some (w.toList, r) else none

/-- The size in a value that gives a whole font: up to four words, the size, the height of lines
behind a slash, and the family, which may not be missing. -/
def sizeOfFont? (value : String) : Option String := do
  let (size, r) ← sizeText (skipFontWords 4 (Markup.skipSpace value.toList))
  let r := Markup.skipSpace r
  let r ← match r with
    | '/' :: r => do
      let (_, r) ← Length.read (Markup.skipSpace r)
      pure (Markup.skipSpace r)
    | r => pure r
  if r.isEmpty then none else return String.ofList size

example : sizeOfFont? "italic 25px sans-serif" = some "25px" := by decide +kernel

end Strata.Picture
