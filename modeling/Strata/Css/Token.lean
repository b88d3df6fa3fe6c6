import Strata.Basic

/-! The parts that style sheets are made of: space and comments, identifiers, quoted texts and the
terms of values. A failure leaves the text where it occurred, since reading goes on from there. -/
namespace Strata.Css

/-- A step of reading, or what was left when it could not be done. -/
abbrev Scan := Except (List Char)

def isSpace (c : Char) : Bool :=
  c = ' ' || c = '\t' || c = '\n' || c = '\r' || c = '\x0c'

def skipSpace (s : List Char) : List Char := s.dropWhile isSpace

/-- Letters, the underscore, and what lies beyond the first letters of Latin-1. -/
def isIdentStart (c : Char) : Bool := c.isAlpha || c = '_' || 237 < c.toNat

def isIdentPart (c : Char) : Bool := isIdentStart c || c.isDigit || c = '-'

/-- Skips space and comments, from inside of a comment or not. Every comment has to end. -/
def skipAsideFrom : Bool → List Char → Scan (List Char)
  | true, [] => .error []
  | true, '*' :: '/' :: r => skipAsideFrom false r
  | true, _ :: r => skipAsideFrom true r
  | false, '/' :: '*' :: r => skipAsideFrom true r
  | false, [] => .ok []
  | false, c :: r => if isSpace c then skipAsideFrom false r else .ok (c :: r)

def skipAside (s : List Char) : Scan (List Char) := skipAsideFrom false s

def commentEnd : List Char → Scan (List Char)
  | [] => .error []
  | '*' :: '/' :: r => .ok r
  | _ :: r => commentEnd r

/-- An identifier may begin with a hyphen, which is taken even if nothing follows it. -/
def ident (s : List Char) : Scan (List Char × List Char) :=
  let (hyphen, r) := match s with
    | '-' :: r => (['-'], r)
    | r => ([], r)
  match r with
  | [] => if hyphen.isEmpty then .error [] else .ok (hyphen, [])
  | c :: _ =>
    if isIdentStart c then .ok (hyphen ++ r.takeWhile isIdentPart, r.dropWhile isIdentPart)
    else .error r

def quotedEnd (quote : Char) (previous : Char) : List Char → Scan (List Char × List Char)
  | [] => .error []
  | c :: r =>
    if c = quote ∧ previous ≠ '\\' then .ok ([], r)
    else (quotedEnd quote c r).map fun found => (c :: found.1, found.2)

def quoted : List Char → Scan (List Char × List Char)
  | '"' :: r => quotedEnd '"' '"' r
  | '\'' :: r => quotedEnd '\'' '\'' r
  | r => .error r

def skipIdent (s : List Char) : List Char :=
  match ident s with
  | .ok (_, r) => r
  | .error r => r

def skipNumber (s : List Char) : List Char :=
  let r := match s.dropWhile Text.isDigit with
    | '.' :: f => f.dropWhile Text.isDigit
    | r => r
  match r with
  | '%' :: r => r
  | r => skipIdent r

/-- What follows a term of a value: a colour, a number with its unit, a quoted text, a comma, a
word, or a function with its arguments. -/
def skipTerm : List Char → Scan (List Char)
  | [] => .error []
  | '#' :: r =>
    match ident r with
    | .ok (_, r) => .ok r
    | .error r => .ok (r.dropWhile fun c => (Text.hexDigit? c).isSome)
  | ',' :: r => .ok r
  | c :: r =>
    if c = '+' ∨ c = '-' ∨ c = '.' ∨ Text.isDigit c then .ok (skipNumber r)
    else if c = '"' ∨ c = '\'' then (quoted (c :: r)).map Prod.snd
    else
      match ident (c :: r) with
      | .error r => .error r
      | .ok (_, '(' :: r) =>
        match r.dropWhile (· != ')') with
        | _ :: r => .ok r
        | [] => .error []
      | .ok (_, r) => .ok r

example : (skipTerm "url(#a) b".toList).toOption = some " b".toList := by decide +kernel

end Strata.Css
