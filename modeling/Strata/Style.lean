import Strata.Basic
import Strata.Graph

/-! Opaque colours and the patterns of lines, and how a graph takes them: a layer has the colour of
its rank among the layers present, where the palette starts again when it is used up, and a relation
has a pattern when it is known. -/
namespace Strata

structure Color where
  red : UInt8
  green : UInt8
  blue : UInt8
deriving DecidableEq, Repr

namespace Color

def black : Color := ⟨0, 0, 0⟩
def white : Color := ⟨255, 255, 255⟩

def channelText (n : UInt8) : List Char :=
  [Text.hexChar (n.toNat / 16), Text.hexChar (n.toNat % 16)]

def digits (c : Color) : List Char :=
  channelText c.red ++ channelText c.green ++ channelText c.blue

def text (c : Color) : String := String.ofList ('#' :: c.digits)

def channel? (high low : Char) : Option UInt8 := do
  let h ← Text.hexDigit? high
  let l ← Text.hexDigit? low
  return UInt8.ofNat (16 * h + l)

def ofDigits? : List Char → Option Color
  | [r, r', g, g', b, b'] => do return ⟨← channel? r r', ← channel? g g', ← channel? b b'⟩
  | _ => none

/-- Reads six hexadecimal digits of either case, with any number of `#` in front of them and white
space around the whole. -/
def parse? (s : String) : Option Color :=
  ofDigits? ((Text.trim s.toList).dropWhile (· == '#'))

def rejection (s : String) : String := "invalid color '" ++ s ++ "', expected #rrggbb"

example : parse? " #1F77b4\n" = some ⟨0x1f, 0x77, 0xb4⟩ := by decide +kernel

end Color

/-- Twenty colours for telling classes apart, in pairs of a strong and a light shade. -/
def tab20 : List Color := [
  ⟨0x1f, 0x77, 0xb4⟩, ⟨0xae, 0xc7, 0xe8⟩, ⟨0xff, 0x7f, 0x0e⟩, ⟨0xff, 0xbb, 0x78⟩,
  ⟨0x2c, 0xa0, 0x2c⟩, ⟨0x98, 0xdf, 0x8a⟩, ⟨0xd6, 0x27, 0x28⟩, ⟨0xff, 0x98, 0x96⟩,
  ⟨0x94, 0x67, 0xbd⟩, ⟨0xc5, 0xb0, 0xd5⟩, ⟨0x8c, 0x56, 0x4b⟩, ⟨0xc4, 0x9c, 0x94⟩,
  ⟨0xe3, 0x77, 0xc2⟩, ⟨0xf7, 0xb6, 0xd2⟩, ⟨0x7f, 0x7f, 0x7f⟩, ⟨0xc7, 0xc7, 0xc7⟩,
  ⟨0xbc, 0xbd, 0x22⟩, ⟨0xdb, 0xdb, 0x8d⟩, ⟨0x17, 0xbe, 0xcf⟩, ⟨0x9e, 0xda, 0xe5⟩]

inductive LinePattern where
  | solid
  | longDash
  | dashed
  | shortDash
  | dashDot
  | dotted
  | dashDotDot
deriving DecidableEq, Repr

namespace LinePattern

/-- A relation that is not known is drawn solid. -/
def ofRelation : String → LinePattern
  | "depends_on" => solid
  | "invokes" => longDash
  | "exchanges" => dashed
  | "persists" => shortDash
  | "configures" => dashDot
  | "observes" => dotted
  | "contains" => dashDotDot
  | _ => solid

/-- The lengths of strokes and gaps in turn, in multiples of the line's width; none for a solid
line. -/
def dashes : LinePattern → List Nat
  | solid => []
  | longDash => [8, 3]
  | dashed => [4, 2]
  | shortDash => [2, 2]
  | dashDot => [6, 1, 1, 1]
  | dotted => [1, 1]
  | dashDotDot => [6, 1, 1, 1, 1, 1]

def isSolid (p : LinePattern) : Bool := p == solid

def name : LinePattern → String
  | solid => "Solid"
  | longDash => "LongDash"
  | dashed => "Dashed"
  | shortDash => "ShortDash"
  | dashDot => "DashDot"
  | dotted => "Dotted"
  | dashDotDot => "DashDotDot"

end LinePattern

structure StyleSheet where
  layerColors : List (Nat × Color)
  edgePatterns : List (String × LinePattern)
deriving DecidableEq, Repr

def paletteColor (palette : List Color) (rank : Nat) : Color :=
  (palette[rank % palette.length]?).getD .black

/-- The styles of a graph; an empty palette stands for the default one. -/
def StyleSheet.ofGraph (g : Graph) (palette : List Color) : StyleSheet :=
  let palette := if palette.isEmpty then tab20 else palette
  { layerColors := g.layers.zipIdx.map fun ranked => (ranked.1, paletteColor palette ranked.2)
    edgePatterns := g.relations.map fun r => (r, .ofRelation r) }

namespace StyleSheet

def layerColor (s : StyleSheet) (layer : Nat) : Color :=
  (s.layerColors.lookup layer).getD .black

/-- The pattern of a relation, whether the sheet has it or not. -/
def edgePattern (s : StyleSheet) (relation : String) : LinePattern :=
  (s.edgePatterns.lookup relation).getD (.ofRelation relation)

end StyleSheet

end Strata
