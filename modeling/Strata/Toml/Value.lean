import Strata.Basic

/-! TOML values. The entries of a table are in the order in which the text defines them, one for
each key. While a text is being read, a table remembers how it came about, since that decides what
may still be added to it. -/
namespace Strata.Toml

inductive Value where
  | string (s : String)
  | integer (n : Int)
  | float (x : Float)
  | boolean (b : Bool)
  | datetime (text : String)
  | array (items : List Value)
  | table (entries : List (String × Value))

abbrev Reader (β : Type) := List Char → Option (β × List Char)

inductive Origin where
  /-- Named on the way to another table by a header. -/
  | implicit
  /-- Named on the way to a value by a key with points. -/
  | dotted
  | header
deriving DecidableEq, Repr

inductive Draft where
  | value (v : Value)
  | table (origin : Origin) (entries : List (String × Draft))
  | rows (tables : List (List (String × Draft)))

abbrev Entries := List (String × Draft)

/-- Changes the table that a path leads to. Tables missing on the way are made with the given
origin, an array leads to its last table, and a key with points does not pass through a table that
has a header. -/
def descend (made : Origin) (change : Origin → Entries → Option Entries) :
    Origin → List String → Entries → Option Entries
  | origin, [], entries => change origin entries
  | _, key :: path, entries =>
    match entries.lookup key with
    | none => do
      let inner ← descend made change made path []
      return Keyed.put key (.table made inner) entries
    | some (.table origin inner) =>
      if made = .dotted ∧ origin = .header then none
      else do
        let inner ← descend made change origin path inner
        return Keyed.put key (.table origin inner) entries
    | some (.rows tables) => do
      let last ← tables.getLast?
      let inner ← descend made change .header path last
      return Keyed.put key (.rows (tables.dropLast ++ [inner])) entries
    | some (.value _) => none

/-- Opens a table; one that so far was only implied moves behind the others. -/
def openTable (key : String) (_ : Origin) (entries : Entries) : Option Entries :=
  match entries.lookup key with
  | none => some (entries ++ [(key, .table .header [])])
  | some (.table .implicit inner) =>
    some (entries.filter (fun e => e.1 != key) ++ [(key, .table .header inner)])
  | some _ => none

def openRow (key : String) (_ : Origin) (entries : Entries) : Option Entries :=
  match entries.lookup key with
  | none => some (entries ++ [(key, .rows [[]])])
  | some (.rows tables) => some (Keyed.put key (.rows (tables ++ [[]])) entries)
  | some _ => none

def define (key : String) (v : Value) (entries : Entries) : Option Entries :=
  if entries.any fun e => e.1 == key then none else some (entries ++ [(key, .value v)])

/-- Gives a key with points its value; the table that holds it must have come about through such
keys. -/
def assign (path : List String) (key : String) (v : Value) (entries : Entries) :
    Option Entries :=
  descend .dotted
    (fun origin inner => if path.isEmpty ∨ origin = .dotted then define key v inner else none)
    .header path entries

mutual

def Draft.toValue : Draft → Value
  | .value v => v
  | .table _ entries => .table (toEntries entries)
  | .rows tables => .array (toTables tables)

def toEntries : List (String × Draft) → List (String × Value)
  | [] => []
  | (key, d) :: rest => (key, d.toValue) :: toEntries rest

def toTables : List (List (String × Draft)) → List Value
  | [] => []
  | entries :: rest => .table (toEntries entries) :: toTables rest

end

end Strata.Toml
