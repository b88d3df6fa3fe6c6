import Mathlib.Data.List.Basic
import Strata.Markup.Entity
import Strata.Markup.Piece

/-! Scanning markup from left to right into tags and the characters between them. A scan goes on
only where every angle bracket delimits a tag, every ampersand begins one of the five entities and
every attribute value is free of all three, so what it accepts says where the tags of a text are. -/
namespace Strata

theorem Text.toList_pushn (s : String) (c : Char) (n : Nat) :
    (s.pushn c n).toList = s.toList ++ List.replicate n c := by
  rw [String.pushn_eq_repeat_push]
  induction n with
  | zero => simp [Nat.repeat]
  | succ n ih => rw [Nat.repeat, String.toList_push, ih, List.append_assoc, List.replicate_succ']

namespace Markup.Scan

inductive Token where
  | opening (name : String) (attributes : List Attribute)
  | closing (name : String)
  | empty (name : String) (attributes : List Attribute)
  | letter (c : Char)
deriving DecidableEq

namespace Token

def attributes : Token → List Attribute
  | opening _ attributes => attributes
  | empty _ attributes => attributes
  | closing _ => []
  | letter _ => []

def isTag : Token → Bool
  | letter _ => false
  | _ => true

end Token

/-- A tag that is open, with the attributes read so far. -/
structure Tag where
  name : String
  attributes : List Attribute
deriving DecidableEq

/-- What a scan is in the middle of. -/
inductive Mode where
  | content
  | reference (name : List Char)
  /-- Behind an opening bracket. -/
  | start
  | closing (name : List Char)
  | opening (name : List Char)
  /-- Behind the name of a tag, or behind one of its attributes. -/
  | behind (tag : Tag)
  | attribute (tag : Tag) (name : List Char)
  | equals (tag : Tag) (name : List Char)
  | value (tag : Tag) (name value : List Char)
  /-- Behind the slash that ends an empty tag. -/
  | slash (tag : Tag)
deriving DecidableEq

/-- What a value may hold as it is. -/
def isValueChar (c : Char) : Bool := c ≠ '"' && c ≠ '<' && c ≠ '>' && c ≠ '&'

def stepBehind (tag : Tag) (c : Char) : Option (Mode × List Token) :=
  if c = ' ' then some (.attribute tag [], [])
  else if c = '/' then some (.slash tag, [])
  else if c = '>' then some (.content, [.opening tag.name tag.attributes])
  else none

def step : Mode → Char → Option (Mode × List Token)
  | .content, c =>
    if c = '<' then some (.start, [])
    else if c = '&' then some (.reference [], [])
    else if c = '>' then none
    else some (.content, [.letter c])
  | .reference name, c =>
    if isNameChar c then some (.reference (name ++ [c]), [])
    else if c = ';' then
      match namedChar? name with
      | some named => some (.content, [.letter named])
      | none => none
    else none
  | .start, c =>
    if isNameChar c then some (.opening [c], [])
    else if c = '/' then some (.closing [], [])
    else none
  | .closing name, c =>
    if isNameChar c then some (.closing (name ++ [c]), [])
    else if c = '>' ∧ name ≠ [] then some (.content, [.closing (String.ofList name)])
    else none
  | .opening name, c =>
    if isNameChar c then some (.opening (name ++ [c]), [])
    else stepBehind ⟨String.ofList name, []⟩ c
  | .behind tag, c => stepBehind tag c
  | .attribute tag name, c =>
    if isNameChar c then some (.attribute tag (name ++ [c]), [])
    else if c = '=' ∧ name ≠ [] then some (.equals tag name, [])
    else none
  | .equals tag name, c => if c = '"' then some (.value tag name [], []) else none
  | .value tag name value, c =>
    if isValueChar c then some (.value tag name (value ++ [c]), [])
    else if c = '"' then
      some (.behind ⟨tag.name, tag.attributes ++ [⟨String.ofList name, String.ofList value⟩]⟩, [])
    else none
  | .slash tag, c => if c = '>' then some (.content, [.empty tag.name tag.attributes]) else none

def run : Mode → List Char → Option (Mode × List Token)
  | m, [] => some (m, [])
  | m, c :: s => do
    let (next, found) ← step m c
    let (last, rest) ← run next s
    return (last, found ++ rest)

/-- The tokens of a text; none where it breaks off within a tag or cannot be scanned. -/
def scan (s : String) : Option (List Token) :=
  match run .content s.toList with
  | some (.content, tokens) => some tokens
  | _ => none

/-- A run over a text, from one mode to another. -/
def Reads (m : Mode) (s : List Char) (tokens : List Token) (last : Mode) : Prop :=
  run m s = some (last, tokens)

theorem Reads.nil (m : Mode) : Reads m [] [] m := rfl

theorem reads_cons_iff {m last : Mode} {c : Char} {s : List Char} {tokens : List Token} :
    Reads m (c :: s) tokens last ↔ ∃ next found rest,
      step m c = some (next, found) ∧ Reads next s rest last ∧ tokens = found ++ rest := by
  simp only [Reads, run, Option.bind_eq_bind, Option.bind_eq_some_iff, Option.pure_def,
    Option.some.injEq, Prod.mk.injEq, Prod.exists]
  constructor
  · rintro ⟨next, found, stepped, _, rest, later, rfl, rfl⟩
    exact ⟨next, found, rest, stepped, later, rfl⟩
  · rintro ⟨next, found, rest, stepped, later, rfl⟩
    exact ⟨next, found, stepped, last, rest, later, rfl, rfl⟩

theorem Reads.cons {m next last : Mode} {c : Char} {s : List Char} {found rest : List Token}
    (stepped : step m c = some (next, found)) (later : Reads next s rest last) :
    Reads m (c :: s) (found ++ rest) last :=
  reads_cons_iff.mpr ⟨next, found, rest, stepped, later, rfl⟩

theorem Reads.single {m next : Mode} {c : Char} {found : List Token}
    (stepped : step m c = some (next, found)) : Reads m [c] found next := by
  simpa using Reads.cons stepped (.nil next)

theorem reads_append_iff {m last : Mode} {s t : List Char} {tokens : List Token} :
    Reads m (s ++ t) tokens last ↔ ∃ between found rest,
      Reads m s found between ∧ Reads between t rest last ∧ tokens = found ++ rest := by
  induction s generalizing m tokens with
  | nil =>
    constructor
    · intro reads
      exact ⟨m, [], tokens, .nil m, reads, rfl⟩
    · rintro ⟨_, _, rest, ⟨⟩, later, rfl⟩
      exact later
  | cons c s ih =>
    rw [List.cons_append, reads_cons_iff]
    constructor
    · rintro ⟨next, first, _, stepped, reads, rfl⟩
      obtain ⟨between, found, rest, before, later, rfl⟩ := ih.mp reads
      exact ⟨between, first ++ found, rest, before.cons stepped, later,
        (List.append_assoc _ _ _).symm⟩
    · rintro ⟨between, _, rest, before, later, rfl⟩
      obtain ⟨next, first, found, stepped, reads, rfl⟩ := reads_cons_iff.mp before
      exact ⟨next, first, found ++ rest, stepped, ih.mpr ⟨between, found, rest, reads, later, rfl⟩,
        List.append_assoc _ _ _⟩

theorem Reads.append {m between last : Mode} {s t : List Char} {found rest : List Token}
    (before : Reads m s found between) (later : Reads between t rest last) :
    Reads m (s ++ t) (found ++ rest) last :=
  reads_append_iff.mpr ⟨between, found, rest, before, later, rfl⟩

theorem scan_eq_some_iff {s : String} {tokens : List Token} :
    scan s = some tokens ↔ Reads .content s.toList tokens .content := by
  rw [scan, Reads]
  split
  · next found => simp [found]
  · next other =>
    simp only [reduceCtorEq, false_iff]
    exact other tokens

/-- How many opening brackets were read whose tags are not found yet. -/
def Mode.opened : Mode → Nat
  | .content | .reference _ => 0
  | _ => 1

/-- Values without quotes, brackets and ampersands. -/
def Clean (attributes : List Attribute) : Prop :=
  ∀ a ∈ attributes, a.value.toList.all isValueChar

/-- The values read so far are clean. -/
def Mode.Clean : Mode → Prop
  | .behind tag | .attribute tag _ | .equals tag _ | .slash tag => Scan.Clean tag.attributes
  | .value tag _ text => Scan.Clean tag.attributes ∧ text.all isValueChar
  | .content | .reference _ | .start | .closing _ | .opening _ => True

theorem step_brackets {m next : Mode} {c : Char} {found : List Token}
    (stepped : step m c = some (next, found)) :
    [c].count '<' + m.opened = found.countP Token.isTag + next.opened ∧
      [c].count '>' = found.countP Token.isTag := by
  have named : isNameChar c = true → c ≠ '<' ∧ c ≠ '>' := by
    intro plain
    constructor <;> rintro rfl <;> revert plain <;> decide
  -- a step over a bracket opens a tag or finds it; a step over anything else does neither
  cases m <;> simp only [step, stepBehind] at stepped <;>
    grind [Mode.opened, Token.isTag, isValueChar]

theorem Reads.brackets {m last : Mode} {s : List Char} {tokens : List Token}
    (reads : Reads m s tokens last) :
    s.count '<' + m.opened = tokens.countP Token.isTag + last.opened ∧
      s.count '>' = tokens.countP Token.isTag := by
  induction s generalizing m tokens with
  | nil =>
    cases reads
    exact ⟨rfl, rfl⟩
  | cons c s ih =>
    obtain ⟨next, found, rest, stepped, later, rfl⟩ := reads_cons_iff.mp reads
    have first := step_brackets stepped
    have others := ih later
    rw [← List.singleton_append, List.count_append, List.count_append, List.countP_append]
    omega

theorem step_clean {m next : Mode} {c : Char} {found : List Token}
    (stepped : step m c = some (next, found)) (clean : m.Clean) :
    next.Clean ∧ ∀ t ∈ found, Clean t.attributes := by
  cases m <;> simp only [step, stepBehind] at stepped <;>
    grind [Mode.Clean, Clean, Token.attributes, String.toList_ofList]

theorem Reads.clean {m last : Mode} {s : List Char} {tokens : List Token}
    (reads : Reads m s tokens last) (clean : m.Clean) : ∀ t ∈ tokens, Clean t.attributes := by
  induction s generalizing m tokens with
  | nil =>
    cases reads
    exact fun _ member => nomatch member
  | cons c s ih =>
    obtain ⟨next, found, rest, stepped, later, rfl⟩ := reads_cons_iff.mp reads
    obtain ⟨still, first⟩ := step_clean stepped clean
    intro t member
    rcases List.mem_append.mp member with here | there
    · exact first t here
    · exact ih later still t there

theorem step_ampersand {m next : Mode} {found : List Token}
    (stepped : step m '&' = some (next, found)) : next = .reference [] := by
  have unnamed : isNameChar '&' = false := by decide
  have unvalued : isValueChar '&' = false := by decide
  cases m <;> simp [step, stepBehind, unnamed, unvalued] at stepped
  exact stepped.1.symm

theorem Reads.reference {name s : List Char} {tokens : List Token}
    (reads : Reads (.reference name) s tokens .content) :
    ∃ more rest, s = more ++ ';' :: rest ∧ (namedChar? (name ++ more)).isSome := by
  induction s generalizing name tokens with
  | nil => cases reads
  | cons c s ih =>
    obtain ⟨next, found, rest, stepped, later, rfl⟩ := reads_cons_iff.mp reads
    simp only [step] at stepped
    split at stepped
    · cases stepped
      obtain ⟨more, behind, rfl, known⟩ := ih later
      exact ⟨c :: more, behind, rfl, by simpa using known⟩
    · split at stepped
      · next ends =>
        subst ends
        refine ⟨[], s, rfl, ?_⟩
        cases known : namedChar? name with
        | none => simp [known] at stepped
        | some named => simp [known]
      · cases stepped

theorem entity_of_namedChar? {name : List Char} (known : (namedChar? name).isSome) :
    ∃ entity ∈ ["amp;", "lt;", "gt;", "quot;", "apos;"], entity.toList = name ++ [';'] := by
  unfold namedChar? at known
  split at known <;> simp at known ⊢

/-- Every ampersand of a text that scans begins one of the entities. -/
theorem entity_of_scan {s : String} {tokens : List Token} (scanned : scan s = some tokens)
    {before behind : List Char} (here : s.toList = before ++ '&' :: behind) :
    ∃ entity ∈ ["amp;", "lt;", "gt;", "quot;", "apos;"], entity.toList <+: behind := by
  rw [scan_eq_some_iff, here] at scanned
  obtain ⟨m, _, _, _, reads, rfl⟩ := reads_append_iff.mp scanned
  obtain ⟨next, _, _, stepped, later, rfl⟩ := reads_cons_iff.mp reads
  rw [step_ampersand stepped] at later
  obtain ⟨name, rest, rfl, known⟩ := later.reference
  obtain ⟨entity, listed, same⟩ := entity_of_namedChar? known
  exact ⟨entity, listed, rest, by simp [same]⟩

def IsName (s : String) : Prop := s ≠ "" ∧ s.toList.all isNameChar

instance (s : String) : Decidable (IsName s) := inferInstanceAs (Decidable (_ ∧ _))

def IsValue (s : String) : Prop := s.toList.all isValueChar

instance (s : String) : Decidable (IsValue s) := inferInstanceAs (Decidable (_ = true))

def AreSound (attributes : List Attribute) : Prop :=
  ∀ a ∈ attributes, IsName a.name ∧ IsValue a.value

/-- A piece that is read as it was meant. Any text is. -/
def IsSound : Piece → Prop
  | .opening name attributes => IsName name ∧ AreSound attributes
  | .closing name => IsName name
  | .empty name attributes => IsName name ∧ AreSound attributes
  | .text _ => True

/-- What reading a piece gives. -/
def tokens : Piece → List Token
  | .opening name attributes => [.opening name attributes]
  | .closing name => [.closing name]
  | .empty name attributes => [.empty name attributes]
  | .text content => content.toList.map .letter

def lineTokens (l : Line) : List Token :=
  List.replicate (2 * l.depth) (.letter ' ') ++ l.pieces.flatMap tokens ++ [.letter '\n']

theorem reads_gathered {p : Char → Bool} (gather : List Char → Mode)
    (more : ∀ read c, p c = true → step (gather read) c = some (gather (read ++ [c]), []))
    {s : List Char} (all : s.all p = true) (read : List Char) :
    Reads (gather read) s [] (gather (read ++ s)) := by
  induction s generalizing read with
  | nil => rw [List.append_nil]; exact .nil _
  | cons c s ih =>
    rw [List.all_cons, Bool.and_eq_true] at all
    rw [List.append_cons]
    exact .cons (more read c all.1) (ih all.2 _)

theorem reads_attribute {a : Attribute} (named : IsName a.name) (valued : IsValue a.value)
    (tag : Tag) :
    Reads (.behind tag) a.render.toList [] (.behind ⟨tag.name, tag.attributes ++ [a]⟩) := by
  have some_name : a.name.toList ≠ [] := by simpa using named.1
  have blank : Reads (.behind tag) [' '] [] (.attribute tag []) := rfl
  have name : Reads (.attribute tag []) a.name.toList [] (.attribute tag a.name.toList) :=
    reads_gathered (.attribute tag) (fun _ _ h => if_pos h) named.2 []
  have equals : Reads (.attribute tag a.name.toList) ['='] [] (.equals tag a.name.toList) :=
    .single (if_pos ⟨rfl, some_name⟩)
  have quote : Reads (.equals tag a.name.toList) ['"'] [] (.value tag a.name.toList []) := rfl
  have value : Reads (.value tag a.name.toList []) a.value.toList []
      (.value tag a.name.toList a.value.toList) :=
    reads_gathered (.value tag a.name.toList) (fun _ _ h => if_pos h) valued []
  have close : Reads (.value tag a.name.toList a.value.toList) ['"'] []
      (.behind ⟨tag.name, tag.attributes ++ [a]⟩) := by
    refine .single ?_
    simp only [step, String.ofList_toList]
    rfl
  have whole := ((((blank.append name).append equals).append quote).append value).append close
  simpa [Attribute.render] using whole

theorem reads_attributes {l : List Attribute} (sound : AreSound l) (tag : Tag) :
    Reads (.behind tag) (renderAttributes l).toList []
      (.behind ⟨tag.name, tag.attributes ++ l⟩) := by
  rw [renderAttributes, String.toList_join]
  induction l generalizing tag with
  | nil => rw [List.append_nil]; exact .nil _
  | cons a l ih =>
    obtain ⟨named, valued⟩ := sound a List.mem_cons_self
    have rest := ih (fun b member => sound b (List.mem_cons_of_mem _ member))
      ⟨tag.name, tag.attributes ++ [a]⟩
    rw [← List.append_cons] at rest
    exact (reads_attribute named valued tag).append rest

/-- Behind its name a tag goes on as it does behind an attribute. -/
theorem reads_behind_name {name : List Char} {c : Char} {s : List Char} {tokens : List Token}
    {last : Mode} (ends : isNameChar c = false)
    (reads : Reads (.behind ⟨String.ofList name, []⟩) (c :: s) tokens last) :
    Reads (.opening name) (c :: s) tokens last := by
  obtain ⟨next, found, rest, stepped, later, rfl⟩ := reads_cons_iff.mp reads
  exact .cons ((if_neg (by simp [ends])).trans stepped) later

theorem reads_tag {name : String} {l : List Attribute} (named : IsName name) (sound : AreSound l)
    {c : Char} {s : List Char} {tokens : List Token} {last : Mode} (ends : isNameChar c = false)
    (reads : Reads (.behind ⟨name, l⟩) (c :: s) tokens last) :
    Reads .content ('<' :: name.toList ++ (renderAttributes l).toList ++ c :: s) tokens last := by
  obtain ⟨first, others, split⟩ : ∃ first others, name.toList = first :: others :=
    List.exists_cons_of_ne_nil (by simpa using named.1)
  have named := named.2
  rw [split, List.all_cons, Bool.and_eq_true] at named
  have start : Reads .content ['<'] [] .start := rfl
  have initial : Reads .start [first] [] (.opening [first]) := .single (if_pos named.1)
  have letters : Reads (.opening [first]) others [] (.opening name.toList) := by
    rw [split]
    exact reads_gathered .opening (fun _ _ h => if_pos h) named.2 [first]
  have behind : Reads (.behind ⟨String.ofList name.toList, []⟩)
      ((renderAttributes l).toList ++ c :: s) tokens last := by
    rw [String.ofList_toList]
    exact (reads_attributes sound ⟨name, []⟩).append reads
  have rest : Reads (.opening name.toList) ((renderAttributes l).toList ++ c :: s) tokens last := by
    cases l with
    | nil => exact reads_behind_name ends behind
    | cons a l =>
      have blank : (renderAttributes (a :: l)).toList ++ c :: s =
          ' ' :: (a.render.toList.tail ++ (renderAttributes l).toList ++ c :: s) := by
        simp [renderAttributes, Attribute.render]
      rw [blank] at behind ⊢
      exact reads_behind_name rfl behind
  have whole := ((start.append initial).append letters).append rest
  simpa [split] using whole

theorem reads_escape (s : List Char) : Reads .content (escape s) (s.map .letter) .content := by
  induction s with
  | nil => exact .nil _
  | cons c s ih =>
    have first : Reads .content (escape [c]) [.letter c] .content := by
      by_cases special : c ∈ ['&', '<', '>', '"', '\'']
      · simp only [List.mem_cons, List.not_mem_nil, or_false] at special
        rcases special with rfl | rfl | rfl | rfl | rfl <;> rfl
      · simp only [List.mem_cons, List.not_mem_nil, or_false, not_or] at special
        obtain ⟨ampersand, less, greater, double, single⟩ := special
        have same : escape [c] = [c] := by
          simp [escape, replace, ampersand, less, greater, double, single]
        rw [same]
        exact .single (by simp [step, less, ampersand, greater])
    have split : escape (c :: s) = escape [c] ++ escape s := escape_append [c] s
    rw [split]
    exact first.append ih

theorem reads_piece {p : Piece} (sound : IsSound p) :
    Reads .content p.render.toList (tokens p) .content := by
  cases p with
  | opening name l =>
    have closed : Reads (.behind ⟨name, l⟩) ['>'] [.opening name l] .content := rfl
    simpa [Piece.render, tokens] using reads_tag sound.1 sound.2 (by decide) closed
  | closing name =>
    have some_name : name.toList ≠ [] := by simpa using sound.1
    have start : Reads .content ['<', '/'] [] (.closing []) := rfl
    have letters : Reads (.closing []) name.toList [] (.closing name.toList) :=
      reads_gathered .closing (fun _ _ h => if_pos h) sound.2 []
    have close : Reads (.closing name.toList) ['>'] [.closing name] .content := by
      refine .single ?_
      have ends : isNameChar '>' = false := by decide
      simp [step, some_name, ends]
    simpa [Piece.render, tokens] using (start.append letters).append close
  | empty name l =>
    have closed : Reads (.behind ⟨name, l⟩) ['/', '>'] [.empty name l] .content := rfl
    simpa [Piece.render, tokens] using reads_tag sound.1 sound.2 (by decide) closed
  | text content => simpa [Piece.render, tokens, escapeText] using reads_escape content.toList

theorem reads_pieces {l : List Piece} (sound : ∀ p ∈ l, IsSound p) :
    Reads .content (l.flatMap fun p => p.render.toList) (l.flatMap tokens) .content := by
  induction l with
  | nil => exact .nil _
  | cons p l ih =>
    have first := reads_piece (sound p List.mem_cons_self)
    exact first.append (ih fun q member => sound q (List.mem_cons_of_mem _ member))

theorem reads_line {l : Line} (sound : ∀ p ∈ l.pieces, IsSound p) :
    Reads .content l.render.toList (lineTokens l) .content := by
  have blank : Reads .content [' '] [.letter ' '] .content := rfl
  have indent (n : Nat) : Reads .content (List.replicate n ' ')
      (List.replicate n (.letter ' ')) .content := by
    induction n with
    | zero => exact .nil _
    | succ n ih => exact blank.append ih
  have newline : Reads .content ['\n'] [.letter '\n'] .content := rfl
  have whole := ((indent (2 * l.depth)).append (reads_pieces sound)).append newline
  simpa [Line.render, lineTokens, Text.toList_pushn, String.toList_join, List.flatMap_map]
    using whole

/-- Lines of sound pieces are read as those pieces. -/
theorem scan_renderLines {l : List Line} (sound : ∀ line ∈ l, ∀ p ∈ line.pieces, IsSound p) :
    scan (renderLines l) = some (l.flatMap lineTokens) := by
  rw [scan_eq_some_iff, renderLines, String.toList_join, List.flatMap_map]
  induction l with
  | nil => exact .nil _
  | cons line l ih =>
    have first := reads_line (sound line List.mem_cons_self)
    exact first.append (ih fun other member => sound other (List.mem_cons_of_mem _ member))

end Markup.Scan

end Strata
