import Strata.Decimal.Exact
import Strata.Picture.Element
import Strata.Picture.Length

/-! Paints, with which the outlines of shapes are filled and stroked, the order in which that is
done, and lists of filters: effects, and links to elements that hold some. Which colour it is does
not matter here. -/
namespace Strata.Picture

def colorNames : List String :=
  ["aliceblue", "antiquewhite", "aqua", "aquamarine", "azure", "beige", "bisque", "black",
   "blanchedalmond", "blue", "blueviolet", "brown", "burlywood", "cadetblue", "chartreuse",
   "chocolate", "coral", "cornflowerblue", "cornsilk", "crimson", "cyan", "darkblue", "darkcyan",
   "darkgoldenrod", "darkgray", "darkgreen", "darkgrey", "darkkhaki", "darkmagenta",
   "darkolivegreen", "darkorange", "darkorchid", "darkred", "darksalmon", "darkseagreen",
   "darkslateblue", "darkslategray", "darkslategrey", "darkturquoise", "darkviolet", "deeppink",
   "deepskyblue", "dimgray", "dimgrey", "dodgerblue", "firebrick", "floralwhite", "forestgreen",
   "fuchsia", "gainsboro", "ghostwhite", "gold", "goldenrod", "gray", "green", "greenyellow",
   "grey", "honeydew", "hotpink", "indianred", "indigo", "ivory", "khaki", "lavender",
   "lavenderblush", "lawngreen", "lemonchiffon", "lightblue", "lightcoral", "lightcyan",
   "lightgoldenrodyellow", "lightgray", "lightgreen", "lightgrey", "lightpink", "lightsalmon",
   "lightseagreen", "lightskyblue", "lightslategray", "lightslategrey", "lightsteelblue",
   "lightyellow", "lime", "limegreen", "linen", "magenta", "maroon", "mediumaquamarine",
   "mediumblue", "mediumorchid", "mediumpurple", "mediumseagreen", "mediumslateblue",
   "mediumspringgreen", "mediumturquoise", "mediumvioletred", "midnightblue", "mintcream",
   "mistyrose", "moccasin", "navajowhite", "navy", "oldlace", "olive", "olivedrab", "orange",
   "orangered", "orchid", "palegoldenrod", "palegreen", "paleturquoise", "palevioletred",
   "papayawhip", "peachpuff", "peru", "pink", "plum", "powderblue", "purple",
   "red", "rosybrown", "royalblue", "saddlebrown", "salmon", "sandybrown", "seagreen", "seashell",
   "sienna", "silver", "skyblue", "slateblue", "slategray", "slategrey", "snow", "springgreen",
   "steelblue", "tan", "teal", "thistle", "tomato", "transparent", "turquoise", "violet", "wheat",
   "white", "whitesmoke", "yellow", "yellowgreen"]

def skipShare (s : List Char) : Option (List Char) := do
  let (_, r) ← number (Markup.skipSpace s)
  return skipComma (if r.head? = some '%' then r.drop 1 else r)

/-- What follows the lights of a colour. If the first one is no share, none of them is; it may have
a unit then, and the others have none. -/
def skipLights (s : List Char) : Option (List Char) := do
  let (l, r) ← Length.read s
  let r := skipComma r
  if l.unit = .percent then skipShare (← skipShare r) else (numbers 2 r).map Prod.snd

def skipHue (s : List Char) : Option (List Char) := do
  let (_, r) ← listNumber s
  skipShare (← skipShare r)

/-- What follows the opacity of a colour, which may be missing, and a closing bracket. -/
def skipOpacity (s : List Char) : Option (List Char) := do
  let s := Markup.skipSpace s
  let r ← if s.head? = some ')' then some s else (listNumber s).map Prod.snd
  match Markup.skipSpace r with
  | ')' :: r => return r
  | _ => none

def skipColor (s : List Char) : Option (List Char) :=
  match Markup.skipSpace s with
  | '#' :: r =>
    let digits := r.takeWhile fun c => (Text.hexDigit? c).isSome
    if [3, 4, 6, 8].contains digits.length then some (r.drop digits.length) else none
  | r =>
    let (name, r) := word r
    let name := name.map Char.toLower
    let arguments (skip : List Char → Option (List Char)) : Option (List Char) :=
      match r with
      | '(' :: r => (skip r).bind skipOpacity
      | _ => none
    if name = "rgb" ∨ name = "rgba" then arguments skipLights
    else if name = "hsl" ∨ name = "hsla" then arguments skipHue
    else if colorNames.contains name then some r
    else none

def isColor (s : String) : Bool := (skipColor s.toList).any fun r => (Markup.skipSpace r).isEmpty

inductive Paint where
  | nothing
  | color
  /-- What the shape is filled with that a marker stands on. -/
  | contextFill
  | contextStroke
  /-- Painted by an element, or by a colour where that is missing. -/
  | server (name : String) (fallback : Bool)
deriving DecidableEq, Repr

def Paint.ofText? (s : String) : Option Paint :=
  match String.ofList (Text.trim s.toList) with
  | "none" | "inherit" => some nothing
  | "currentColor" => some color
  | "context-fill" => some contextFill
  | "context-stroke" => some contextStroke
  | t =>
    if "url(".toList.isPrefixOf t.toList then do
      let (name, r) ← functionalName t.toList
      match String.ofList (Markup.skipSpace r) with
      | "" | "none" => return server name false
      | "currentColor" => return server name true
      | t => if isColor t then return server name true else none
    else if isColor t then some color
    else none

inductive Coat where
  | fill
  | stroke
  | markers
deriving DecidableEq, Repr

namespace Coat

def ofText? : String → Option Coat
  | "fill" => some fill
  | "stroke" => some stroke
  | "markers" => some markers
  | _ => none

def readWithin : Nat → List Char → Option (List Coat)
  | bound, [] => if bound < 3 then some [] else none
  | 0, _ :: _ => none
  | bound + 1, c :: r => do
    let (w, r) := word (Markup.skipSpace (c :: r))
    let coat ← ofText? w
    let rest ← readWithin bound (Markup.skipSpace r)
    return coat :: rest

def usual : List Coat := [fill, stroke, markers]

/-- The order that a text asks for: what it does not name comes behind. -/
def order (s : String) : List Coat :=
  match readWithin 3 s.toList with
  | some l => if l.Nodup then l ++ usual.filter fun c => !l.contains c else usual
  | none => usual

example : order "fill markers" = [fill, markers, stroke] := by decide +kernel

end Coat

example : Paint.ofText? "url(#a) RED" = some (.server "a" true) := by decide +kernel
example : isColor "rgb(1, 2%, 3)" = false ∧ isColor "hsl(120deg, 50%, 50%)" = false := by
  decide +kernel

inductive FilterEntry where
  /-- It says all itself. -/
  | effect
  | link (name : String)
deriving DecidableEq, Repr

namespace FilterEntry

def isNegative (x : Float) : Bool := (Decimal.Exact.ofFloat x).negative

def skipLength (signed : Bool) (s : List Char) : Option (List Char) := do
  let (l, r) ← Length.read s
  if l.unit = .percent || !signed && isNegative l.number then none else some r

def skipAmount (s : List Char) : Option (List Char) := do
  let (x, r) ← number s
  if isNegative x then none else return if r.head? = some '%' then r.drop 1 else r

def skipShade (s : List Char) : Option (List Char) :=
  let current := "currentColor".toList
  if current.isPrefixOf s then some (s.drop current.length) else skipColor s

/-- What follows a shadow: two lengths, a third one that may be missing, and a colour in front of
them or behind them, if there is one. -/
def skipShadow (s : List Char) : Option (List Char) := do
  let first := skipShade s
  let r ← skipLength true (Markup.skipSpace (first.getD s))
  let r := Markup.skipSpace (← skipLength true (Markup.skipSpace r))
  let r ← if (number r).isSome then (skipLength false r).map Markup.skipSpace else some r
  if first.isSome then return r else return (skipShade r).getD r

/-- What follows an angle. One without a unit is nothing. -/
def skipTurn (s : List Char) : Option (List Char) := do
  let (x, r) ← number (Markup.skipSpace s)
  match Angle.unit? r with
  | some (_, r) => return r
  | none => if x == 0 then return r else none

def optional (skip : List Char → Option (List Char)) (s : List Char) : Option (List Char) :=
  if s.head? = some ')' then some s else skip s

def arguments (name : String) (s : List Char) : Option (FilterEntry × List Char) :=
  match name with
  | "url" =>
    match s with
    | '#' :: r =>
      let isPart (c : Char) : Bool := c != ' ' && c != ')'
      let target := r.takeWhile isPart
      if target.isEmpty then none else some (link (String.ofList target), r.dropWhile isPart)
    | _ => none
  | "blur" => (optional (skipLength false) s).map fun r => (effect, r)
  | "drop-shadow" => (skipShadow s).map fun r => (effect, r)
  | "hue-rotate" => (optional skipTurn s).map fun r => (effect, r)
  | _ =>
    if ["brightness", "contrast", "grayscale", "invert", "opacity", "saturate",
        "sepia"].contains name then
      (optional skipAmount s).map fun r => (effect, r)
    else none

/-- The filters of a list, so many at most; a word for nothing ends it. -/
def listWithin : Nat → List Char → Option (List FilterEntry)
  | 0, _ => none
  | bound + 1, s =>
    let s := Markup.skipSpace s
    if s.isEmpty || "none".toList.isPrefixOf s then some []
    else
      let (name, r) := word s
      match Markup.skipSpace r with
      | '(' :: r => do
        let (found, r) ← arguments name (Markup.skipSpace r)
        match Markup.skipSpace r with
        | ')' :: r => return found :: (← listWithin bound r)
        | _ => none
      | _ => none

def ofText (s : String) : List FilterEntry := (listWithin (s.toList.length + 1) s.toList).getD []

example : ofText "url(#a) blur(2px)none" = [link "a", effect] := by decide +kernel

end FilterEntry

end Strata.Picture
