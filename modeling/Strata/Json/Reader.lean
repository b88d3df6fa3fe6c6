import Strata.Basic
import Strata.Json.Value

/-! Reading JSON text, and why a text is not JSON, and where. A place is a count of bytes: those
read when the fault was seen, the offending byte included where it was read or looked at. Loops over
items and characters are bounded by the length of the text, since every round takes at least one
character; nesting is bounded by a fixed depth. -/
namespace Strata.Json

inductive Error.Cause where
  | endInList
  | endInObject
  | endInString
  | endInValue
  | notAValue
  | notAWord
  | noColon
  | noListSeparator
  | noObjectSeparator
  | keyNotString
  | trailingComma
  | invalidNumber
  | numberOutOfRange
  | invalidEscape
  | loneSurrogate
  | unfinishedSurrogate
  | controlCharacter
  | tooDeep
  | trailingCharacters
deriving DecidableEq, Repr

structure Error where
  cause : Error.Cause
  /-- The number of bytes of the text that count as read. -/
  offset : Nat
deriving DecidableEq, Repr

namespace Error

def Cause.text : Cause → String
  | endInList => "EOF while parsing a list"
  | endInObject => "EOF while parsing an object"
  | endInString => "EOF while parsing a string"
  | endInValue => "EOF while parsing a value"
  | notAValue => "expected value"
  | notAWord => "expected ident"
  | noColon => "expected \x60:\x60"
  | noListSeparator => "expected \x60,\x60 or \x60]\x60"
  | noObjectSeparator => "expected \x60,\x60 or \x60\x7d\x60"
  | keyNotString => "key must be a string"
  | trailingComma => "trailing comma"
  | invalidNumber => "invalid number"
  | numberOutOfRange => "number out of range"
  | invalidEscape => "invalid escape"
  | loneSurrogate => "lone leading surrogate in hex escape"
  | unfinishedSurrogate => "unexpected end of hex escape"
  | controlCharacter => "control character (\\u0000-\\u001F) found while parsing a string"
  | tooDeep => "recursion limit exceeded"
  | trailingCharacters => "trailing characters"

/-- The line that holds a byte offset and the number of bytes behind the line's start. `read` bytes
stand in front of the text, whose first line has the number `line` and began at byte `start`. -/
def position (offset read line start : Nat) : List Char → Nat × Nat
  | [] => (line, offset - start)
  | c :: rest =>
    if c = '\n' ∧ read < offset then position offset (read + 1) (line + 1) (read + 1) rest
    else position offset (read + c.utf8Size) line start rest

def message (e : Error) (text : String) : String :=
  let (line, column) := position e.offset 0 1 0 text.toList
  e.cause.text ++ " at line " ++ toString line ++ " column " ++ toString column

example : (Error.mk .endInValue 4).message "[1,\n" =
    "EOF while parsing a value at line 2 column 0" := by decide +kernel

end Error

/-- The text still to be read, and the number of bytes in front of it. -/
structure Cursor where
  rest : List Char
  offset : Nat

abbrev Reader (β : Type) := Cursor → Except Error (β × Cursor)

namespace Cursor

def advance (c : Cursor) : Cursor :=
  match c.rest with
  | [] => c
  | ch :: rest => ⟨rest, c.offset + ch.utf8Size⟩

def skip (c : Cursor) (count : Nat) : Cursor := ⟨c.rest.drop count, c.offset + count⟩

def isBlank (ch : Char) : Bool := ch = ' ' || ch = '\t' || ch = '\n' || ch = '\r'

def skipBlank (c : Cursor) : Cursor := c.skip (c.rest.takeWhile isBlank).length

/-- A fault seen after everything in front of the cursor was read. -/
def fault (c : Cursor) (cause : Error.Cause) : Error := ⟨cause, c.offset⟩

/-- A fault seen by reading, or looking at, one byte more, if there is one. -/
def faultHere (c : Cursor) (cause : Error.Cause) : Error :=
  ⟨cause, if c.rest.isEmpty then c.offset else c.offset + 1⟩

end Cursor

def word (expected : List Char) (c : Cursor) : Except Error Cursor :=
  match expected with
  | [] => .ok c
  | e :: expected =>
    match c.rest with
    | [] => .error (c.fault .endInValue)
    | ch :: _ => if ch = e then word expected c.advance else .error (c.faultHere .notAWord)

/-- Appends digits to a significand for as long as it stays below `limit`; also the number of digits
left over. -/
def accumulate (limit : Nat) : Nat → List Char → Nat × Nat
  | significand, [] => (significand, 0)
  | significand, d :: digits =>
    let next := significand * 10 + (d.toNat - 48)
    if next < limit then accumulate limit next digits else (significand, digits.length + 1)

def powerOfTen (e : Nat) : Float := Float.ofScientific 1 false e

/-- The significand times a power of ten, in at most three rounded steps; nothing when it is beyond
the reach of binary64. -/
def scale (significand : Nat) (exponent : Int) : Option Float :=
  let f := Float.ofNat significand
  if 308 < exponent then if significand = 0 then some f else none
  else if 0 ≤ exponent then
    let g := f * powerOfTen exponent.toNat
    if g.isInf then none else some g
  else if -308 ≤ exponent then some (f / powerOfTen (-exponent).toNat)
  else if -616 ≤ exponent then some (f / powerOfTen 308 / powerOfTen (-exponent - 308).toNat)
  else some (f / powerOfTen 308 / powerOfTen 308)

def real (negative : Bool) (significand : Nat) (exponent : Int) (c : Cursor) :
    Except Error (Number × Cursor) :=
  match scale significand exponent with
  | some f => .ok (.real (if negative then -f else f), c)
  | none => .error (c.fault .numberOutOfRange)

def exponentPart (negative : Bool) (significand : Nat) (exponent : Int) (c : Cursor) :
    Except Error (Number × Cursor) :=
  let c := c.advance
  let (down, c) := match c.rest with
    | '+' :: _ => (false, c.advance)
    | '-' :: _ => (true, c.advance)
    | _ => (false, c)
  let digits := c.rest.takeWhile Text.isDigit
  if c.rest.isEmpty then .error (c.fault .endInValue)
  else if digits.isEmpty then .error (c.faultHere .invalidNumber)
  else
    let (e, left) := accumulate 2147483648 0 digits
    let finish := c.skip digits.length
    if left = 0 then real negative significand (if down then exponent - e else exponent + e) finish
    else if significand = 0 ∨ down then .ok (.real (if negative then -0.0 else 0.0), finish)
    else .error ((c.skip (digits.length - left + 1)).fault .numberOutOfRange)

def afterFraction (negative : Bool) (significand : Nat) (exponent : Int) (c : Cursor) :
    Except Error (Number × Cursor) :=
  match c.rest with
  | 'e' :: _ | 'E' :: _ => exponentPart negative significand exponent c
  | _ => real negative significand exponent c

def fractionPart (negative : Bool) (significand : Nat) (exponent : Int) (c : Cursor) :
    Except Error (Number × Cursor) :=
  let digits := c.rest.takeWhile Text.isDigit
  if c.rest.isEmpty then .error (c.fault .endInValue)
  else if digits.isEmpty then .error (c.faultHere .invalidNumber)
  else
    let (significand, left) := accumulate (Nat.pow 2 64) significand digits
    afterFraction negative significand (exponent - (digits.length - left : Nat))
      (c.skip digits.length)

/-- What follows the whole part of a number. Digits beyond the significand's 64 bits raise the
exponent. -/
def afterWhole (negative : Bool) (digits : List Char) (c : Cursor) :
    Except Error (Number × Cursor) :=
  let (significand, left) := accumulate (Nat.pow 2 64) 0 digits
  match c.rest with
  | '.' :: _ => fractionPart negative significand left c.advance
  | 'e' :: _ | 'E' :: _ => exponentPart negative significand left c
  | _ =>
    if 0 < left then real negative significand left c
    else if !negative then .ok (.whole significand, c)
    else if 0 < significand ∧ significand ≤ Nat.pow 2 63 then .ok (.whole (-significand), c)
    else .ok (.real (-Float.ofNat significand), c)

def unsigned (negative : Bool) (c : Cursor) : Except Error (Number × Cursor) :=
  let digits := c.rest.takeWhile Text.isDigit
  match digits with
  | [] => .error (if c.rest.isEmpty then c.fault .endInValue else c.faultHere .invalidNumber)
  | '0' :: _ :: _ => .error (c.advance.faultHere .invalidNumber)
  | _ => afterWhole negative digits (c.skip digits.length)

/-- The characters that cover the next bytes, `count` of them or a little more. -/
def takeBytes : Nat → List Char → Option (List Char × List Char)
  | 0, rest => some ([], rest)
  | _ + 1, [] => none
  | count + 1, ch :: rest =>
    (takeBytes (count + 1 - ch.utf8Size) rest).map fun taken => (ch :: taken.1, taken.2)

def hexFour (c : Cursor) : Except Error (Nat × Cursor) :=
  match takeBytes 4 c.rest with
  | none => .error ⟨.endInString, c.rest.foldl (fun n d => n + d.utf8Size) c.offset⟩
  | some (digits, rest) =>
    if digits.all fun d => (Text.hexDigit? d).isSome then
      .ok (Text.value 16 digits, ⟨rest, c.offset + 4⟩)
    else .error ⟨.invalidEscape, c.offset + 4⟩

def pairMark (expected : Char) (c : Cursor) : Except Error Cursor :=
  match c.rest with
  | [] => .error (c.fault .endInString)
  | ch :: _ => if ch = expected then .ok c.advance else .error (c.faultHere .unfinishedSurrogate)

/-- A character given by one code unit, or by two that form a surrogate pair. -/
def unicodeEscape (c : Cursor) : Except Error (Char × Cursor) := do
  let (first, c) ← hexFour c
  if 0xDC00 ≤ first ∧ first ≤ 0xDFFF then .error (c.fault .loneSurrogate)
  else if first < 0xD800 ∨ 0xDBFF < first then .ok (Char.ofNat first, c)
  else
    let c ← pairMark '\\' c
    let c ← pairMark 'u' c
    let (second, c) ← hexFour c
    if second < 0xDC00 ∨ 0xDFFF < second then .error (c.fault .loneSurrogate)
    else .ok (Char.ofNat ((first - 0xD800) * 0x400 + (second - 0xDC00) + 0x10000), c)

def escape (c : Cursor) : Except Error (Char × Cursor) :=
  match c.rest with
  | [] => .error (c.fault .endInString)
  | 'u' :: _ => unicodeEscape c.advance
  | ch :: _ =>
    let plain : Option Char := match ch with
      | '"' => some '"'
      | '\\' => some '\\'
      | '/' => some '/'
      | 'b' => some '\x08'
      | 'f' => some '\x0c'
      | 'n' => some '\n'
      | 'r' => some '\r'
      | 't' => some '\t'
      | _ => none
    match plain with
    | some p => .ok (p, c.advance)
    | none => .error (c.faultHere .invalidEscape)

/-- The characters up to the closing quote, put in front of `before` in reverse. -/
def characters : Nat → List Char → Cursor → Except Error (String × Cursor)
  | 0, _, c => .error (c.fault .endInString)
  | bound + 1, before, c =>
    match c.rest with
    | [] => .error (c.fault .endInString)
    | '"' :: _ => .ok (String.ofList before.reverse, c.advance)
    | '\\' :: _ => do
      let (ch, c) ← escape c.advance
      characters bound (ch :: before) c
    | ch :: _ =>
      if ch.toNat < 0x20 then .error (c.faultHere .controlCharacter)
      else characters bound (ch :: before) c.advance

def stringBody (bound : Nat) (c : Cursor) : Except Error (String × Cursor) :=
  characters bound [] c

/-- The items of an array up to its bracket; `before` holds those already read, in reverse. -/
def items (item : Reader Value) : Nat → List Value → Reader (List Value)
  | 0, _, c => .error (c.faultHere .endInList)
  | bound + 1, before, c =>
    let c := c.skipBlank
    match c.rest with
    | [] => .error (c.faultHere .endInList)
    | ']' :: _ => .ok (before.reverse, c.advance)
    | ch :: _ =>
      if before.isEmpty then do
        let (v, c) ← item c
        items item bound [v] c
      else if ch = ',' then
        let c := c.advance.skipBlank
        match c.rest with
        | [] => .error (c.faultHere .endInValue)
        | ']' :: _ => .error (c.faultHere .trailingComma)
        | _ => do
          let (v, c) ← item c
          items item bound (v :: before) c
      else .error (c.faultHere .noListSeparator)

def member (bound : Nat) (item : Reader Value) : Reader (String × Value) := fun c => do
  let (key, c) ← stringBody bound c.advance
  let c := c.skipBlank
  match c.rest with
  | [] => .error (c.faultHere .endInObject)
  | ':' :: _ =>
    let (v, c) ← item c.advance
    .ok ((key, v), c)
  | _ => .error (c.faultHere .noColon)

def members (length : Nat) (item : Reader Value) :
    Nat → List (String × Value) → Reader (List (String × Value))
  | 0, _, c => .error (c.faultHere .endInObject)
  | bound + 1, before, c =>
    let c := c.skipBlank
    match c.rest with
    | [] => .error (c.faultHere .endInObject)
    | '\x7d' :: _ => .ok (before.reverse, c.advance)
    | ch :: _ =>
      if before.isEmpty then
        if ch = '"' then do
          let (m, c) ← member length item c
          members length item bound [m] c
        else .error (c.faultHere .keyNotString)
      else if ch = ',' then
        let c := c.advance.skipBlank
        match c.rest with
        | [] => .error (c.faultHere .endInValue)
        | '"' :: _ => do
          let (m, c) ← member length item c
          members length item bound (m :: before) c
        | '\x7d' :: _ => .error (c.faultHere .trailingComma)
        | _ => .error (c.faultHere .keyNotString)
      else .error (c.faultHere .noObjectSeparator)

def valueWith (length : Nat) (item : Option (Reader Value)) : Reader Value := fun c => do
  let c := c.skipBlank
  match c.rest with
  | [] => .error (c.faultHere .endInValue)
  | 'n' :: _ => return (.null, ← word "ull".toList c.advance)
  | 't' :: _ => return (.bool true, ← word "rue".toList c.advance)
  | 'f' :: _ => return (.bool false, ← word "alse".toList c.advance)
  | '-' :: _ =>
    let (n, c) ← unsigned true c.advance
    return (.number n, c)
  | '"' :: _ =>
    let (s, c) ← stringBody length c.advance
    return (.string s, c)
  | '[' :: _ =>
    let some item := item | .error (c.faultHere .tooDeep)
    let (vs, c) ← items item length [] c.advance
    return (.array vs, c)
  | '\x7b' :: _ =>
    let some item := item | .error (c.faultHere .tooDeep)
    let (ms, c) ← members length item length [] c.advance
    return (Value.ofMembers ms, c)
  | ch :: _ =>
    if Text.isDigit ch then
      let (n, c) ← unsigned false c
      return (.number n, c)
    else .error (c.faultHere .notAValue)

/-- A value in which arrays and objects nest at most `depth` deep, in a text of `length`
characters. -/
def value (length : Nat) : Nat → Reader Value
  | 0 => valueWith length none
  | depth + 1 => valueWith length (some (value length depth))

def maxDepth : Nat := 127

def parse (text : String) : Except Error Value := do
  let (v, c) ← value (text.length + 1) maxDepth ⟨text.toList, 0⟩
  let c := c.skipBlank
  if c.rest.isEmpty then return v else .error (c.faultHere .trailingCharacters)

end Strata.Json
