import Strata.Decimal.Exact
import Strata.Run
import Strata.Settings.Basic
import Strata.Text.Visible

/-! The command: its arguments, what it shows, and the status with which it ends. Arguments are
options with a value and flags, all by name. An option's value is looked at only when the next
option or flag is met, or at the end; a word that cannot be placed is refused before that. -/
namespace Strata.CommandLine

inductive Parameter where
  | input
  | output
  | config
  | width
  | height
  | fontSize
  | dpi
deriving DecidableEq, Repr

inductive Flag where
  | noLabels
  | version
  | help
deriving DecidableEq, Repr

namespace Parameter

def all : List Parameter := [input, output, config, width, height, fontSize, dpi]

def name : Parameter → String
  | input => "in"
  | output => "out"
  | config => "config"
  | width => "w"
  | height => "h"
  | fontSize => "font"
  | dpi => "dpi"

def valueName : Parameter → String
  | input | output | config => "FILE"
  | width | height => "INCHES"
  | fontSize => "PT"
  | dpi => "DPI"

def text (o : Parameter) : String := "--" ++ o.name ++ " <" ++ o.valueName ++ ">"

end Parameter

namespace Flag

def all : List Flag := [noLabels, version, help]

def name : Flag → String
  | noLabels => "no-labels"
  | version => "version"
  | help => "help"

def text (f : Flag) : String := "--" ++ f.name

end Flag

inductive Misuse where
  | unexpected (word : String)
  | unexpectedValue (flag : Flag) (value : String)
  | missingValue (p : Parameter)
  | repeated (text : String)
  | notANumber (p : Parameter) (value : String)
  | missingInput
deriving DecidableEq, Repr

/-- What was given stands in a message as far as it shows. -/
def Misuse.message : Misuse → String
  | unexpected word => "unexpected argument '" ++ Text.visible word ++ "' found"
  | unexpectedValue flag value =>
    "unexpected value '" ++ Text.visible value ++ "' for '" ++ flag.text ++
      "' found; no more were expected"
  | missingValue o => "a value is required for '" ++ o.text ++ "' but none was supplied"
  | repeated text => "the argument '" ++ text ++ "' cannot be used multiple times"
  | notANumber o value =>
    "invalid value '" ++ Text.visible value ++ "' for '" ++ o.text ++ "': " ++
      if value.isEmpty then "cannot parse float from empty string" else "invalid float literal"
  | missingInput => "the following required arguments were not provided:"

inductive Stop where
  | misuse (m : Misuse)
  | version
  | help
deriving DecidableEq, Repr

structure Given where
  input : Option String := none
  output : Option String := none
  config : Option String := none
  overrides : Overrides Float := {}

namespace Given

def has (g : Given) : Parameter → Bool
  | .input => g.input.isSome
  | .output => g.output.isSome
  | .config => g.config.isSome
  | .width => g.overrides.width.isSome
  | .height => g.overrides.height.isSome
  | .fontSize => g.overrides.fontSize.isSome
  | .dpi => g.overrides.dpi.isSome

def file (o : Parameter) (value : String) : Except Stop String :=
  if value.isEmpty then .error (.misuse (.missingValue o)) else .ok value

def number (o : Parameter) (value : String) : Except Stop Float :=
  match Decimal.literal? value with
  | some x => .ok x
  | none => .error (.misuse (.notANumber o value))

def take (g : Given) (o : Parameter) (value : String) : Except Stop Given := do
  if g.has o then .error (.misuse (.repeated o.text))
  else match o with
    | .input => return { g with input := some (← file o value) }
    | .output => return { g with output := some (← file o value) }
    | .config => return { g with config := some (← file o value) }
    | .width =>
      return { g with overrides := { g.overrides with width := some (← number o value) } }
    | .height =>
      return { g with overrides := { g.overrides with height := some (← number o value) } }
    | .fontSize =>
      return { g with overrides := { g.overrides with fontSize := some (← number o value) } }
    | .dpi => return { g with overrides := { g.overrides with dpi := some (← number o value) } }

def takeFlag (g : Given) : Flag → Except Stop Given
  | .noLabels =>
    if g.overrides.noLabels then .error (.misuse (.repeated Flag.noLabels.text))
    else .ok { g with overrides := { g.overrides with noLabels := true } }
  | .version => .error .version
  | .help => .error .help

end Given

/-- An option whose value is not looked at yet, or not even given. -/
inductive Pending where
  | none
  | awaiting (o : Parameter)
  | holding (o : Parameter) (value : String)
deriving DecidableEq, Repr

def Pending.settle (p : Pending) (g : Given) : Except Stop Given :=
  match p with
  | .none => .ok g
  | .awaiting o => .error (.misuse (.missingValue o))
  | .holding o value => g.take o value

/-- A word with two hyphens, its value behind an equals sign apart. -/
def long? : List Char → Option (String × Option String)
  | '-' :: '-' :: r =>
    let value := match r.dropWhile (· != '=') with
      | [] => none
      | _ :: v => some (String.ofList v)
    some (String.ofList (r.takeWhile (· != '=')), value)
  | _ => none

/-- The first letter of a word with one hyphen; a hyphen alone is no such word. -/
def short? : List Char → Option Char
  | '-' :: c :: _ => if c = '-' then none else some c
  | _ => none

/-- A word in front, by what it may be: the values given, and what is pending, behind it. -/
def word (g : Given) (p : Pending) (w : String) : Except Stop (Given × Pending) :=
  match long? w.toList, short? w.toList with
  | some (name, value), _ =>
    match Parameter.all.find? fun o => o.name == name, Flag.all.find? fun f => f.name == name with
    | some o, _ => do
      let g ← p.settle g
      match value with
      | some value => return (← g.take o value, .none)
      | none => return (g, .awaiting o)
    | none, some f =>
      match value with
      | some value => .error (.misuse (.unexpectedValue f value))
      | none => do return (← (← p.settle g).takeFlag f, .none)
    | none, none => .error (.misuse (.unexpected ("--" ++ name)))
  | none, some letter =>
    if letter = 'V' then do return (← (← p.settle g).takeFlag .version, .none)
    else if letter = 'h' then do return (← (← p.settle g).takeFlag .help, .none)
    else .error (.misuse (.unexpected (String.ofList ['-', letter])))
  | none, none =>
    match p with
    | .awaiting o => .ok (g, .holding o w)
    | _ => .error (.misuse (.unexpected w))

/-- The remaining words. Behind two hyphens alone no word has a place. -/
def words (g : Given) (p : Pending) : List String → Except Stop Given
  | [] => p.settle g
  | "--" :: rest =>
    match rest with
    | [] => p.settle g
    | w :: _ => .error (.misuse (.unexpected w))
  | w :: rest => do
    let (g, p) ← word g p w
    words g p rest

/-- What a command line asks for: a file to read is always among it. -/
structure Request where
  input : String
  output : Option String
  config : Option String
  overrides : Overrides Float

def parse (arguments : List String) : Except Stop Request := do
  let g ← words {} .none arguments
  match g.input with
  | some input => return ⟨input, g.output, g.config, g.overrides⟩
  | none => .error (.misuse .missingInput)

structure Outcome where
  exit : UInt8
  output : String
  errors : String
deriving DecidableEq, Repr

def versionLine : String := "archviz 0.1.0\n"

def helpText : String :=
  "archviz: draw a layered architecture graph from JSON\n\n" ++
  "Usage: archviz [OPTIONS] --in <FILE>\n\nOptions:\n" ++
  "      --in <FILE>      Input JSON file with \x60nodes\x60 and \x60edges\x60\n" ++
  "      --out <FILE>     Output image path; \x60.svg\x60 writes SVG, anything else PNG " ++
  "[default: graph.png]\n" ++
  "      --config <FILE>  TOML file with layout, style and render settings\n" ++
  "      --w <INCHES>     Figure width in inches [default: 14]\n" ++
  "      --h <INCHES>     Figure height in inches [default: 9]\n" ++
  "      --font <PT>      Label font size in points [default: 8]\n" ++
  "      --dpi <DPI>      Output resolution in dots per inch [default: 160]\n" ++
  "      --no-labels      Do not draw node labels\n" ++
  "  -h, --help           Print help\n" ++
  "  -V, --version        Print version\n"

def Outcome.ofStop : Stop → Outcome
  | .misuse m => ⟨2, "", "error: " ++ m.message ++ "\n"⟩
  | .version => ⟨0, versionLine, ""⟩
  | .help => ⟨0, helpText, ""⟩

/-- A graph without anything to draw is reported by its message alone. -/
def Outcome.ofFault (f : Fault) : Outcome :=
  match f.kind with
  | .emptyGraph => ⟨f.exitCode, "", f.message ++ "\n"⟩
  | _ => ⟨f.exitCode, "", "Error: " ++ f.render ++ "\n"⟩

def Outcome.ofSummary (s : Summary) : Outcome := ⟨0, s.line ++ "\n", ""⟩

variable {m : Type → Type} [Monad m] [Storage m] [Raster.Renderer]

def Request.run (r : Request) : ExceptT Fault m Summary := do
  let settings ← Settings.resolve r.config r.overrides
  Job.run ⟨r.input, r.output.getD defaultOutput, settings⟩

def execute (arguments : List String) : m Outcome := do
  match parse arguments with
  | .error stop => return .ofStop stop
  | .ok request =>
    match ← request.run.run with
    | .ok summary => return .ofSummary summary
    | .error f => return .ofFault f

end Strata.CommandLine
