/-! The part of a text that shows where a terminal's commands have no effect. Escape sequences and
control characters are left out. Tabs and line ends stay; they interrupt a sequence, and what
follows them shows up to the next control. -/
namespace Strata.Text

/-- What the characters to come belong to. -/
inductive Passage where
  | plain
  | escape
  /-- An escape that began with a mark from the blank to the slash. -/
  | marked
  | control
  | command
  /-- The head of a string for a device, at its beginning, in its numbers, and in its marks. -/
  | opening
  | numbers
  | marks
  | device
deriving DecidableEq, Repr

def isFeed (c : Char) : Bool := c = '\t' || c = '\n' || c = '\x0c' || c = '\r'

def isShown (c : Char) : Bool := isFeed c || ' ' ≤ c && c != '\x7f'

/-- Whether the byte that ends a string for a device is one of those in which a character is
written. -/
def holdsTerminator (c : Char) : Bool := (String.utf8EncodeChar c).contains 0x9C

namespace Passage

def ofEscape (c : Char) : Passage :=
  if c = '[' then control
  else if c = ']' then command
  else if c = 'P' then opening
  else if c = 'X' || c = '^' || c = '_' then device
  else if ' ' ≤ c && c ≤ '/' then marked
  else if '0' ≤ c && c ≤ '~' then plain
  else escape

def ofHead (p : Passage) (c : Char) : Passage :=
  let isNumber := '0' ≤ c && c ≤ '9' || c = ';'
  if ' ' ≤ c && c ≤ '/' then marks
  else if '0' ≤ c && c ≤ '?' then
    if p = opening && c != ':' || p = numbers && isNumber then numbers else device
  else if '@' ≤ c && c ≤ '~' then device
  else p

def next (p : Passage) (c : Char) : Passage :=
  match p with
  | plain => plain
  | escape => ofEscape c
  | marked => if '0' ≤ c && c ≤ '~' then plain else p
  | control => if '@' ≤ c && c ≤ '~' then plain else p
  | command => if c = '\x07' then plain else p
  | opening | numbers | marks => p.ofHead c
  | device => if holdsTerminator c then plain else p

/-- Whether a feed interrupts the passage, and shows. -/
def admitsFeed : Passage → Bool
  | plain | escape | marked | control => true
  | _ => false

end Passage

structure Display where
  passage : Passage
  /-- A feed interrupted the passage. -/
  paused : Bool
deriving DecidableEq, Repr

namespace Display

def start : Display := ⟨.plain, false⟩

/-- The display behind a character, and whether the character shows. A letter beyond ASCII ends a
passage that was interrupted. -/
def step (d : Display) (c : Char) : Display × Bool :=
  if c = '\x1b' then (⟨.escape, false⟩, false)
  else if c = '\x18' || c = '\x1a' then (start, false)
  else if d.paused || d.passage = .plain then
    if isShown c then (if c ≤ '\x7f' then d else start, true) else (⟨d.passage, false⟩, false)
  else if isFeed c && d.passage.admitsFeed then (⟨d.passage, true⟩, true)
  else (⟨d.passage.next c, false⟩, false)

def shown (d : Display) : List Char → List Char
  | [] => []
  | c :: r =>
    let (next, shows) := d.step c
    if shows then c :: next.shown r else next.shown r

end Display

def visible (s : String) : String := String.ofList (Display.start.shown s.toList)

example : visible "\x1b[31mred\x1b[0m \x1b(Bz\x08" = "red z" := by decide +kernel
example : visible "\x1b[1\tab\x01mc" = "\tabc" := by decide +kernel

end Strata.Text
