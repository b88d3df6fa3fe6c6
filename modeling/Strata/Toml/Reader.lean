import Strata.Toml.Number
import Strata.Toml.Text
import Strata.Toml.Value

/-! Reading TOML text. Loops are bounded by the length of the text, since every round takes at least
one character; nesting is bounded by a fixed depth. -/
namespace Strata.Toml

def items (item : Reader Value) : Nat → Reader (List Value)
  | 0, _ => none
  | bound + 1, s =>
    match skipVoid false s with
    | ']' :: r => some ([], r)
    | s => do
      let (v, r) ← item s
      match skipVoid false r with
      | ',' :: r =>
        let (rest, r) ← items item bound r
        return (v :: rest, r)
      | ']' :: r => return ([v], r)
      | _ => none

def pair (item : Reader Value) : Reader (List String × String × Value) := fun s => do
  let (path, r) ← key s
  let name ← path.getLast?
  let (v, r) ← item (skipBlank (← expect '=' r))
  return ((path.dropLast, name, v), r)

/-- The pairs of an inline table up to its brace, behind those already read. -/
def pairs (item : Reader Value) : Nat → Entries → Reader Entries
  | 0, _, _ => none
  | bound + 1, entries, s => do
    let ((path, name, v), r) ← pair item s
    let entries ← assign path name v entries
    match skipBlank r with
    | ',' :: r => pairs item bound entries r
    | '\x7d' :: r => return (entries, r)
    | _ => none

def inlineTable (item : Reader Value) : Reader Value := fun s =>
  match skipBlank s with
  | '\x7d' :: r => some (.table [], r)
  | _ => (pairs item (s.length + 1) [] s).map fun found => (.table (toEntries found.1), found.2)

def stringValue : Reader Value := fun s => (string s).map fun found => (.string found.1, found.2)

def valueWith (item : Option (Reader Value)) : Reader Value := fun s =>
  match s with
  | '"' :: _ | '\'' :: _ => stringValue s
  | '[' :: r => do
    let (vs, r) ← items (← item) (r.length + 1) r
    return (.array vs, r)
  | '\x7b' :: r => do inlineTable (← item) r
  | 't' :: 'r' :: 'u' :: 'e' :: r => some (.boolean true, r)
  | 'f' :: 'a' :: 'l' :: 's' :: 'e' :: r => some (.boolean false, r)
  | _ => (datetime s).or (number s)

/-- A value in which arrays and inline tables nest at most `depth` deep. -/
def value : Nat → Reader Value
  | 0 => valueWith none
  | depth + 1 => valueWith (some (value depth))

/-- A document that is read so far: its entries, and the header that the next pairs stand under. -/
structure Sheet where
  entries : Entries
  header : List String

/-- Reads a header in brackets behind the opening ones, and opens what it names. -/
def header (finish : List Char → Option (List Char))
    (opening : String → Origin → Entries → Option Entries) (entries : Entries) : Reader Sheet :=
  fun s => do
    let (path, r) ← key s
    let name ← path.getLast?
    let entries ← descend .implicit (opening name) .header path.dropLast entries
    return (⟨entries, path⟩, ← finish r)

def statement (sheet : Sheet) : Reader Sheet := fun s => do
  let ((path, name, v), r) ← pair (value (nestingLimit - 1)) s
  let entries ← descend .implicit (fun _ => assign path name v) .header sheet.header sheet.entries
  return ({ sheet with entries }, r)

def closeTwo (s : List Char) : Option (List Char) := do expect ']' (← expect ']' s)

/-- A line, behind its blanks and without its end; a line may be empty. -/
def line (sheet : Sheet) : Reader Sheet
  | '[' :: '[' :: r => header closeTwo openRow sheet.entries r
  | '[' :: r => header (expect ']') openTable sheet.entries r
  | s => match skipComment s with
    | [] => some (sheet, [])
    | c :: r => if (lineBreak? (c :: r)).isSome then some (sheet, c :: r) else statement sheet s

def lines : Nat → Sheet → List Char → Option Sheet
  | 0, _, _ => none
  | bound + 1, sheet, s => do
    let (sheet, r) ← line sheet (skipBlank s)
    match ← endOfLine? r with
    | [] => return sheet
    | r => lines bound sheet r

def skipMark : List Char → List Char
  | '\ufeff' :: r => r
  | s => s

def parse (text : String) : Option (List (String × Value)) := do
  let s := skipMark text.toList
  let sheet ← lines (s.length + 1) ⟨[], []⟩ s
  return toEntries sheet.entries

end Strata.Toml
