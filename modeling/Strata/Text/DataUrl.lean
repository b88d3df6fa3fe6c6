import Strata.Basic

/-! Addresses that hold what they lead to: a media type, a comma, and the bytes, in percent encoding
or in 64 symbols, four of which stand for three bytes. -/
namespace Strata.Text.Base64

def value? (b : UInt8) : Option Nat :=
  let n := b.toNat
  if 65 ≤ n ∧ n ≤ 90 then some (n - 65)
  else if 97 ≤ n ∧ n ≤ 122 then some (n - 71)
  else if 48 ≤ n ∧ n ≤ 57 then some (n + 4)
  else if n = 43 then some 62
  else if n = 47 then some 63
  else none

def isSpace (b : UInt8) : Bool := b = 32 || b = 9 || b = 10 || b = 12 || b = 13

/-- The bytes of values. Two or three values at the end are one byte or two. -/
def bytes : List Nat → List UInt8
  | a :: b :: c :: d :: rest =>
    let n := ((a * 64 + b) * 64 + c) * 64 + d
    UInt8.ofNat (n / 65536) :: UInt8.ofNat (n / 256) :: UInt8.ofNat n :: bytes rest
  | [a, b, c] =>
    let n := (a * 64 + b) * 64 + c
    [UInt8.ofNat (n / 1024), UInt8.ofNat (n / 4)]
  | [a, b] => [UInt8.ofNat ((a * 64 + b) / 16)]
  | _ => []

/-- The bytes that symbols stand for. One symbol on its own stands for nothing, and equals signs
have to fill up four. -/
def decode? (l : List UInt8) : Option (List UInt8) := do
  let l := l.filter fun b => !isSpace b
  let values ← (l.takeWhile (· != 61)).mapM value?
  let filling := l.dropWhile (· != 61)
  let missing := (4 - values.length % 4) % 4
  if filling.all (· == 61) && missing != 3 && (filling.isEmpty || filling.length == missing) then
    return bytes values
  else none

example : (decode? "TWFu IFk=".toUTF8.data.toList) = some "Man Y".toUTF8.data.toList := by
  decide +kernel
example : decode? "T===".toUTF8.data.toList = none := by decide +kernel

end Strata.Text.Base64

namespace Strata.Text

structure DataUrl where
  mediaType : String
  bytes : List UInt8
deriving DecidableEq, Repr

namespace DataUrl

/-- Tabs and ends of lines, which do not count in addresses. -/
def isBreak (b : UInt8) : Bool := b = 9 || b = 10 || b = 13

def isEdge (b : UInt8) : Bool := b ≤ 32

def lower (b : UInt8) : UInt8 := if 65 ≤ b ∧ b ≤ 90 then b + 32 else b

def trimEndWhile (p : UInt8 → Bool) (l : List UInt8) : List UInt8 :=
  (l.reverse.dropWhile p).reverse

def skipLetters : List UInt8 → List UInt8 → Option (List UInt8)
  | [], l => some l
  | _ :: _, [] => none
  | c :: rest, b :: l =>
    if isBreak b then skipLetters (c :: rest) l
    else if lower b = c then skipLetters rest l
    else none

def afterScheme? (s : String) : Option (List UInt8) :=
  (skipLetters "data:".toUTF8.data.toList (s.toUTF8.data.toList.dropWhile isEdge)).map
    (trimEndWhile isEdge)

def hexDigit? (b : UInt8) : Option Nat := Text.hexDigit? (Char.ofNat b.toNat)

/-- The bytes of a body, up to a fragment. -/
def decoded : List UInt8 → List UInt8
  | [] => []
  | b :: l =>
    if b = 35 then []
    else if isBreak b then decoded l
    else if b = 37 then
      match l with
      | h :: d :: rest =>
        match hexDigit? h, hexDigit? d with
        | some x, some y => UInt8.ofNat (16 * x + y) :: decoded rest
        | _, _ => b :: decoded (h :: d :: rest)
      | l => b :: decoded l
    else b :: decoded l

def beforeBase64? (header : List UInt8) : Option (List UInt8) := do
  match (← skipLetters "46esab".toUTF8.data.toList header.reverse).dropWhile (· == 32) with
  | 59 :: l => return l.reverse
  | _ => none

/-- What may stand in a media type. A byte that is encoded in an address counts as well. -/
def isToken (b : UInt8) : Bool :=
  b < 32 || 127 ≤ b || 48 ≤ b && b ≤ 57 || 65 ≤ b && b ≤ 90 || 97 ≤ b && b ≤ 122 ||
    ("!#$%&'*+-.^_|~".toUTF8.data.contains b || b = 96)

def mediaType? (header : List UInt8) : Option String :=
  let kind := header.takeWhile (· != 47)
  let rest := header.dropWhile (· != 47)
  let subtype := trimEndWhile (· == 32) ((rest.drop 1).takeWhile (· != 59))
  let isName (l : List UInt8) : Bool := !l.isEmpty && l.all isToken
  if isName kind && !rest.isEmpty && isName subtype then
    some (String.ofList ((kind ++ 47 :: subtype).map fun b => Char.ofNat (lower b).toNat))
  else none

def ofText? (s : String) : Option DataUrl := do
  let l ← afterScheme? s
  let header := l.takeWhile fun b => b != 44 && b != 35
  match l.dropWhile fun b => b != 44 && b != 35 with
  | 44 :: body =>
    let header := header.filter fun b => !isBreak b
    let header := trimEndWhile (· == 32) (header.dropWhile (· == 32))
    let media (l : List UInt8) : String := (mediaType? (trimEndWhile (· == 32) l)).getD "text/plain"
    match beforeBase64? header with
    | some kind => return ⟨media kind, ← Base64.decode? (decoded body)⟩
    | none => return ⟨media header, decoded body⟩
  | _ => none

example : ofText? "data:Image/PNG;x=y ; base64,QQ%3d%3d#z" = some ⟨"image/png", [65]⟩ := by
  decide +kernel

end DataUrl

end Strata.Text
