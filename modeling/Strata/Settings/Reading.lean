import Strata.Settings.Validity
import Strata.Text.Quoted
import Strata.Toml.Reader

/-! Settings from TOML text. A document names what differs from the default; its tables are read in
the order of the text, and the first entry that does not fit ends the reading. Validity is looked at
afterwards. -/
namespace Strata

inductive Section where
  | layout
  | style
  | render
deriving DecidableEq, Repr

inductive Entry where
  | measure (m : Measure)
  | palette
  | borderColor
  | edgeColor
  | background
  | withLabels
deriving DecidableEq, Repr

def Entry.key : Entry → String
  | measure m => m.key
  | palette => "palette"
  | borderColor => "border_color"
  | edgeColor => "edge_color"
  | background => "background"
  | withLabels => "with_labels"

namespace Section

def all : List Section := [layout, style, render]

def key : Section → String
  | layout => "layout"
  | style => "style"
  | render => "render"

/-- The entries of a section in the order in which a list gives them. -/
def entries : Section → List Entry
  | layout => [.measure .xGap, .measure .yGap]
  | style => [.palette]
  | render =>
    [.measure .width, .measure .height, .measure .dpi, .measure .fontSize,
     .measure .legendFontSize, .measure .nodeSize, .measure .borderWidth, .borderColor, .edgeColor,
     .measure .edgeWidth, .measure .edgeOpacity, .measure .curvature, .measure .arrowSize,
     .background, .withLabels]

end Section

namespace Settings

inductive Expected where
  | number
  | boolean
  | text
  | list
  | table (s : Section)
deriving DecidableEq, Repr

def Expected.name : Expected → String
  | number => "f64"
  | boolean => "a boolean"
  | text => "a string"
  | list => "a sequence"
  | .table .layout => "struct LayoutConfig"
  | .table .style => "struct StyleConfig"
  | .table .render => "struct RenderConfig"

/-- Why a TOML document holds no settings. -/
inductive Mismatch where
  | notToml
  | unknownKey (key : String) (known : List String)
  | wrongType (found : Toml.Value) (expected : Expected)
  | notAColor (text : String)

def readNumber : Toml.Value → Except Mismatch Float
  | .float x => .ok x
  | .integer n => .ok (Float.ofInt n)
  | v => .error (.wrongType v .number)

def readBoolean : Toml.Value → Except Mismatch Bool
  | .boolean b => .ok b
  | v => .error (.wrongType v .boolean)

def readColor : Toml.Value → Except Mismatch Color
  | .string s => match Color.parse? s with
    | some c => .ok c
    | none => .error (.notAColor s)
  | v => .error (.wrongType v .text)

def readPalette : Toml.Value → Except Mismatch (List Color)
  | .array items => items.mapM readColor
  | v => .error (.wrongType v .list)

def readEntry (s : Settings Float) (v : Toml.Value) :
    Entry → Except Mismatch (Settings Float)
  | .measure m => do return m.set s (← readNumber v)
  | .palette => do return { s with palette := ← readPalette v }
  | .borderColor => do return { s with figure := { s.figure with borderColor := ← readColor v } }
  | .edgeColor => do return { s with figure := { s.figure with edgeColor := ← readColor v } }
  | .background => do return { s with figure := { s.figure with background := ← readColor v } }
  | .withLabels => do return { s with figure := { s.figure with withLabels := ← readBoolean v } }

def readTable (sec : Section) (s : Settings Float) :
    List (String × Toml.Value) → Except Mismatch (Settings Float)
  | [] => .ok s
  | (key, v) :: rest =>
    match sec.entries.find? fun e => e.key == key with
    | none => .error (.unknownKey key (sec.entries.map Entry.key))
    | some e => do readTable sec (← readEntry s v e) rest

/-- Reads the values of a section without names, in the order of its entries; values beyond the
last entry count for nothing. -/
def readList (s : Settings Float) : List Entry → List Toml.Value → Except Mismatch (Settings Float)
  | e :: entries, v :: rest => do readList (← readEntry s v e) entries rest
  | _, _ => .ok s

/-- The key under which a date or time takes the place of a table. -/
def datetimeKey : String := "$__toml_private_datetime"

def readSection (s : Settings Float) (sec : Section) :
    Toml.Value → Except Mismatch (Settings Float)
  | .table entries => readTable sec s entries
  | .array items => readList s sec.entries items
  | .datetime _ => .error (.unknownKey datetimeKey (sec.entries.map Entry.key))
  | v => .error (.wrongType v (.table sec))

def readSections (s : Settings Float) :
    List (String × Toml.Value) → Except Mismatch (Settings Float)
  | [] => .ok s
  | (key, v) :: rest =>
    match Section.all.find? fun sec => sec.key == key with
    | none => .error (.unknownKey key (Section.all.map Section.key))
    | some sec => do readSections (← readSection s sec v) rest

def ofToml (entries : List (String × Toml.Value)) : Except Mismatch (Settings Float) :=
  readSections .default entries

def ticked (s : String) : String := "\x60" ++ s ++ "\x60"

def expectation : List String → String
  | [a] => "expected " ++ ticked a
  | [a, b] => "expected " ++ ticked a ++ " or " ++ ticked b
  | known => "expected one of " ++ ", ".intercalate (known.map ticked)

/-- A number with at least one place behind the point. -/
def pointed (x : Float) : String :=
  let text := Decimal.plain.render x
  if x.isFinite && !text.toList.contains '.' then text ++ ".0" else text

def describe : Toml.Value → String
  | .string s => "string " ++ Text.quoted s
  | .integer n => "integer " ++ ticked (toString n)
  | .float x => "floating point " ++ ticked (pointed x)
  | .boolean b => "boolean " ++ ticked (if b then "true" else "false")
  | .array _ => "sequence"
  | .table _ | .datetime _ => "map"

def Mismatch.message : Mismatch → String
  | notToml => "<toml syntax>"
  | unknownKey key known => "unknown field " ++ ticked key ++ ", " ++ expectation known
  | wrongType found expected =>
    "invalid type: " ++ describe found ++ ", expected " ++ expected.name
  | notAColor text => Color.rejection text

def Mismatch.fault (e : Mismatch) : Fault :=
  ((Fault.mk .configInvalid e.message "" [] none).during "config::from_toml_str").causedBy e.message

def parse (text : String) : Except Fault (Settings Float) := do
  let some entries := Toml.parse text | .error Mismatch.notToml.fault
  let s ← (ofToml entries).mapError Mismatch.fault
  s.validated

end Settings

end Strata
