/-! Markup as it is written: a sequence of tags and texts, in lines with their indentation. The five
characters with a meaning in markup are written as entities in texts; attribute values stand as they
are, and names are reduced to letters, digits and hyphens. -/
namespace Strata.Markup

def replace (c : Char) (text : List Char) (s : List Char) : List Char :=
  s.flatMap fun x => if x = c then text else [x]

def ampersand : List Char := "&amp;".toList
def less : List Char := "&lt;".toList
def greater : List Char := "&gt;".toList
def doubleQuote : List Char := "&quot;".toList
def singleQuote : List Char := "&apos;".toList

/-- The ampersand is replaced first, so that those of the other entities stay. -/
def escape (s : List Char) : List Char :=
  replace '\'' singleQuote <| replace '"' doubleQuote <| replace '>' greater <|
    replace '<' less <| replace '&' ampersand s

def escapeText (s : String) : String := String.ofList (escape s.toList)

theorem replace_append (c : Char) (text s t : List Char) :
    replace c text (s ++ t) = replace c text s ++ replace c text t := List.flatMap_append

theorem escape_append (s t : List Char) : escape (s ++ t) = escape s ++ escape t := by
  simp [escape, replace_append]

def isNameChar (c : Char) : Bool := c.isAlphanum || c = '-'

/-- A name for use in an attribute, with an underscore for every other character. -/
def sanitize (s : String) : String :=
  String.ofList (s.toList.map fun c => if isNameChar c then c else '_')

example : escapeText "a<b> & 'c'" = "a&lt;b&gt; &amp; &apos;c&apos;" := by decide +kernel

structure Attribute where
  name : String
  value : String
deriving DecidableEq, Repr

inductive Piece where
  | opening (name : String) (attributes : List Attribute)
  | closing (name : String)
  /-- An element without content, in one tag. -/
  | empty (name : String) (attributes : List Attribute)
  | text (content : String)
deriving DecidableEq, Repr

def Attribute.render (a : Attribute) : String := " " ++ a.name ++ "=\"" ++ a.value ++ "\""

def renderAttributes (l : List Attribute) : String := String.join (l.map Attribute.render)

def Piece.render : Piece → String
  | opening name attributes => "<" ++ name ++ renderAttributes attributes ++ ">"
  | closing name => "</" ++ name ++ ">"
  | empty name attributes => "<" ++ name ++ renderAttributes attributes ++ "/>"
  | text content => escapeText content

/-- A line, two blanks in for each level of depth. -/
structure Line where
  depth : Nat
  pieces : List Piece
deriving DecidableEq, Repr

def Line.render (l : Line) : String :=
  "".pushn ' ' (2 * l.depth) ++ String.join (l.pieces.map Piece.render) ++ "\n"

def renderLines (l : List Line) : String := String.join (l.map Line.render)

/-- An element that holds nothing but a text. -/
def textElement (name : String) (attributes : List Attribute) (content : String) : List Piece :=
  [.opening name attributes, .text content, .closing name]

end Strata.Markup
