import Strata.Basic
import Strata.Toml.Value

/-! What stands between the parts of a TOML text, and its strings and keys. Loops over characters
are bounded by the length of the text. -/
namespace Strata.Toml

def isBlank (c : Char) : Bool := c = ' ' || c = '\t'

def skipBlank (s : List Char) : List Char := s.dropWhile isBlank

def lineBreak? : List Char → Option (List Char)
  | '\n' :: r => some r
  | '\r' :: '\n' :: r => some r
  | _ => none

def isText (c : Char) : Bool := c = '\t' || 0x20 ≤ c.toNat && c.toNat ≠ 0x7F

def skipComment : List Char → List Char
  | '#' :: r => r.dropWhile isText
  | s => s

def endOfLine? (s : List Char) : Option (List Char) :=
  match skipComment (skipBlank s) with
  | [] => some []
  | r => lineBreak? r

def skipSpace : List Char → List Char
  | ' ' :: r => skipSpace r
  | '\t' :: r => skipSpace r
  | '\n' :: r => skipSpace r
  | '\r' :: '\n' :: r => skipSpace r
  | s => s

/-- Skips blanks, line breaks and comments; the flag tells that a comment has begun. -/
def skipVoid : Bool → List Char → List Char
  | _, [] => []
  | _, '\n' :: r => skipVoid false r
  | _, '\r' :: '\n' :: r => skipVoid false r
  | true, c :: r => if isText c then skipVoid true r else c :: r
  | false, c :: r =>
    if isBlank c then skipVoid false r
    else if c = '#' then skipVoid true r
    else c :: r

/-- A character given by its number in a fixed count of hexadecimal digits; surrogates are none. -/
def codePoint (count : Nat) : Reader Char := fun s =>
  let digits := s.take count
  let n := Text.value 16 digits
  if digits.length = count ∧ digits.all (fun d => (Text.hexDigit? d).isSome) ∧ n.isValidChar then
    some (Char.ofNat n, s.drop count)
  else none

def escape : Reader Char
  | '"' :: r => some ('"', r)
  | '\\' :: r => some ('\\', r)
  | 'b' :: r => some ('\x08', r)
  | 'f' :: r => some ('\x0c', r)
  | 'n' :: r => some ('\n', r)
  | 'r' :: r => some ('\r', r)
  | 't' :: r => some ('\t', r)
  | 'u' :: r => codePoint 4 r
  | 'U' :: r => codePoint 8 r
  | _ => none

/-- The characters of a string on one line, up to its closing quote. Between double quotes a
backslash escapes. -/
def lineString (quote : Char) : Nat → Reader (List Char)
  | 0, _ => none
  | _ + 1, [] => none
  | bound + 1, c :: r =>
    if c = quote then some ([], r)
    else if c = '\\' ∧ quote = '"' then do
      let (e, r) ← escape r
      let (rest, r) ← lineString quote bound r
      return (e :: rest, r)
    else if isText c then do
      let (rest, r) ← lineString quote bound r
      return (c :: rest, r)
    else none

/-- What follows a backslash at the end of a line, with the space around the line break. -/
def continuation? (s : List Char) : Option (List Char) :=
  (lineBreak? (skipBlank s)).map skipSpace

/-- The characters of a string over several lines, up to its three closing quotes, which one or two
quotes of its own may precede. -/
def blockString (quote : Char) : Nat → Reader (List Char)
  | 0, _ => none
  | _ + 1, [] => none
  | bound + 1, c :: r =>
    if c = quote then
      let run := ((c :: r).takeWhile (· == quote)).length
      let rest := (c :: r).drop run
      if 5 < run then none
      else if 3 ≤ run then some (List.replicate (run - 3) quote, rest)
      else do
        let (more, rest) ← blockString quote bound rest
        return (List.replicate run quote ++ more, rest)
    else match lineBreak? (c :: r) with
      | some r => do
        let (more, r) ← blockString quote bound r
        return ('\n' :: more, r)
      | none =>
        if c = '\\' ∧ quote = '"' then
          match continuation? r with
          | some r => blockString quote bound r
          | none => do
            let (e, r) ← escape r
            let (more, r) ← blockString quote bound r
            return (e :: more, r)
        else if isText c then do
          let (more, r) ← blockString quote bound r
          return (c :: more, r)
        else none

def asString (read : Reader (List Char)) : Reader String := fun s =>
  (read s).map fun found => (String.ofList found.1, found.2)

def quoted : Reader String
  | '"' :: r => asString (lineString '"' (r.length + 1)) r
  | '\'' :: r => asString (lineString '\'' (r.length + 1)) r
  | _ => none

/-- A string over several lines; a line break directly behind its quotes is not part of it. -/
def block (quote : Char) (r : List Char) : Option (String × List Char) :=
  let body := (lineBreak? r).getD r
  asString (blockString quote (body.length + 1)) body

def string : Reader String
  | '"' :: '"' :: '"' :: r => block '"' r
  | '\'' :: '\'' :: '\'' :: r => block '\'' r
  | s => quoted s

def isKeyChar (c : Char) : Bool := c.isAlphanum || c = '_' || c = '-'

def simpleKey : Reader String := fun s =>
  let s := skipBlank s
  let bare := s.takeWhile isKeyChar
  if bare.isEmpty then (quoted s).map fun found => (found.1, skipBlank found.2)
  else some (String.ofList bare, skipBlank (s.dropWhile isKeyChar))

def keyParts : Nat → Reader (List String)
  | 0, _ => none
  | bound + 1, s => do
    let (part, r) ← simpleKey s
    match r with
    | '.' :: r =>
      let (rest, r) ← keyParts bound r
      return (part :: rest, r)
    | _ => return ([part], r)

/-- One more than the parts that a key may have, and than the depth to which values nest. -/
def nestingLimit : Nat := 80

def key : Reader (List String) := keyParts (nestingLimit - 1)

example : string "'''a''''b".toList = some ("a'", ['b']) := by decide +kernel
example : (key "a . \"b.c\" = 1".toList).map Prod.fst = some ["a", "b.c"] := by decide +kernel

end Strata.Toml
