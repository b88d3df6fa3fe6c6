import Strata.Decimal.Exact
import Strata.Toml.Value

/-! Numbers, dates and times of TOML. -/
namespace Strata.Toml

/-- Digits and what follows them; one underscore may stand between two digits. -/
def digitsFrom (isDigit : Char → Bool) : List Char → List Char × List Char
  | [] => ([], [])
  | '_' :: d :: r =>
    if isDigit d then let (more, r) := digitsFrom isDigit r; (d :: more, r) else ([], '_' :: d :: r)
  | d :: r =>
    if isDigit d then let (more, r) := digitsFrom isDigit r; (d :: more, r) else ([], d :: r)

def digits (isDigit : Char → Bool) : Reader (List Char)
  | d :: r => if isDigit d then
      let (more, r) := digitsFrom isDigit r
      some (d :: more, r)
    else none
  | [] => none

def fits (n : Int) : Bool := -(Nat.pow 2 63 : Nat) ≤ n && n < (Nat.pow 2 63 : Nat)

def integer? (n : Int) : Option Value := if fits n then some (.integer n) else none

def based (base : Nat) : Reader Value := fun s => do
  let isDigit (c : Char) : Bool := match Text.hexDigit? c with
    | some d => d < base
    | none => false
  let (ds, r) ← digits isDigit s
  let n ← integer? (Text.value base ds)
  return (n, r)

/-- The whole part of a decimal number: no zero in front of other digits. -/
def wholePart : Reader (List Char)
  | '0' :: r => some (['0'], r)
  | s => digits Text.isDigit s

def fraction? : List Char → Option (Option (List Char) × List Char)
  | '.' :: r => (digits Text.isDigit r).map fun found => (some found.1, found.2)
  | s => some (none, s)

def signedExponent : Reader Int := fun s =>
  let (negative, s) := match s with
    | '-' :: r => (true, r)
    | '+' :: r => (false, r)
    | r => (false, r)
  (digits Text.isDigit s).map fun found =>
    let n : Int := Text.value 10 found.1
    (if negative then -n else n, found.2)

def scientific? : List Char → Option (Option Int × List Char)
  | 'e' :: r | 'E' :: r => (signedExponent r).map fun found => (some found.1, found.2)
  | s => some (none, s)

/-- A decimal number; a point or an exponent makes it a float. A positive float may not lie beyond
the reach of the format. -/
def decimal (negative : Bool) : Reader Value := fun s => do
  let (whole, r) ← wholePart s
  let (fraction, r) ← fraction? r
  let (exponent, r) ← scientific? r
  if fraction.isNone ∧ exponent.isNone then
    let n : Int := Text.value 10 whole
    let v ← integer? (if negative then -n else n)
    return (v, r)
  else
    let places := fraction.getD []
    let x := Decimal.nearest (Text.value 10 (whole ++ places)) (exponent.getD 0 - places.length)
    if negative then return (.float (-x), r)
    else if x.isInf then none
    else return (.float x, r)

def unsigned (negative : Bool) : Reader Value
  | 'i' :: 'n' :: 'f' :: r =>
    let x := Float.ofBits 0x7FF0000000000000
    some (.float (if negative then -x else x), r)
  | 'n' :: 'a' :: 'n' :: r =>
    let x := Float.ofBits 0x7FF8000000000000
    some (.float (if negative then -x else x), r)
  | s => decimal negative s

def number : Reader Value
  | '0' :: 'x' :: r => based 16 r
  | '0' :: 'o' :: r => based 8 r
  | '0' :: 'b' :: r => based 2 r
  | '-' :: r => unsigned true r
  | '+' :: r => unsigned false r
  | s => unsigned false s

/-- A number of a fixed count of digits, between bounds. -/
def part (count least most : Nat) : Reader Nat := fun s =>
  let ds := s.take count
  let n := Text.value 10 ds
  if ds.length = count ∧ ds.all Text.isDigit ∧ least ≤ n ∧ n ≤ most then some (n, s.drop count)
  else none

def expect (c : Char) : List Char → Option (List Char)
  | d :: r => if d = c then some r else none
  | [] => none

def isLeap (year : Nat) : Bool := year % 4 = 0 && (year % 100 ≠ 0 || year % 400 = 0)

def daysOf (year month : Nat) : Nat :=
  if month = 2 then if isLeap year then 29 else 28
  else if month = 4 ∨ month = 6 ∨ month = 9 ∨ month = 11 then 30
  else 31

def date? (s : List Char) : Option (List Char) := do
  let (year, r) ← part 4 0 9999 s
  let (month, r) ← part 2 1 12 (← expect '-' r)
  let (_, r) ← part 2 1 (daysOf year month) (← expect '-' r)
  return r

def time? (s : List Char) : Option (List Char) := do
  let (_, r) ← part 2 0 23 s
  let (_, r) ← part 2 0 59 (← expect ':' r)
  let (_, r) ← part 2 0 60 (← expect ':' r)
  match r with
  | '.' :: d :: rest => if Text.isDigit d then return rest.dropWhile Text.isDigit else return r
  | _ => return r

/-- What follows a distance from universal time. -/
def offset? : List Char → Option (List Char)
  | 'Z' :: r | 'z' :: r => some r
  | '+' :: r | '-' :: r => do
    let (_, r) ← part 2 0 23 r
    let (_, r) ← part 2 0 59 (← expect ':' r)
    return r
  | _ => none

def dayTime? : List Char → Option (List Char)
  | 'T' :: r | 't' :: r | ' ' :: r => do
    let r ← time? r
    return (offset? r).getD r
  | _ => none

def datetime : Reader Value := fun s => do
  let r ← match date? s with
    | some r => some ((dayTime? r).getD r)
    | none => time? s
  return (.datetime (String.ofList (s.take (s.length - r.length))), r)

end Strata.Toml
