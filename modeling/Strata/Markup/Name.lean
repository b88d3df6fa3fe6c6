/-! Characters and names of markup, after XML 1.0, and text between marks: values in quotes, and the
comments and instructions beside the content of a document. Elements and attributes have names in
two parts, with a colon between them; everything else that has a name may hold colons anywhere. -/
namespace Strata.Markup

/-- Whether a document may hold the character at all: no control but tabs and line ends, and neither
of the last two code points of the basic plane. -/
def isLegal (c : Char) : Bool :=
  let n := c.toNat
  n = 0x9 || n = 0xA || n = 0xD || 0x20 ≤ n && n ≤ 0xFFFD || 0x10000 ≤ n

def isSpace (c : Char) : Bool := c = ' ' || c = '\t' || c = '\n' || c = '\r'

def skipSpace (s : List Char) : List Char := s.dropWhile isSpace

/-- The code points beyond ASCII that may begin a name, as closed ranges. -/
def nameStarts : List (Nat × Nat) :=
  [(0xC0, 0xD6), (0xD8, 0xF6), (0xF8, 0x2FF), (0x370, 0x37D), (0x37F, 0x1FFF), (0x200C, 0x200D),
   (0x2070, 0x218F), (0x2C00, 0x2FEF), (0x3001, 0xD7FF), (0xF900, 0xFDCF), (0xFDF0, 0xFFFD),
   (0x10000, 0xEFFFF)]

def isNameStart (c : Char) : Bool :=
  c.isAlpha || c = '_' || nameStarts.any fun r => r.1 ≤ c.toNat && c.toNat ≤ r.2

def isNamePart (c : Char) : Bool :=
  isNameStart c || c.isDigit || c = '-' || c = '.' || c.toNat = 0xB7 ||
    0x300 ≤ c.toNat && c.toNat ≤ 0x36F || 0x203F ≤ c.toNat && c.toNat ≤ 0x2040

/-- A name in two parts; the first is empty where there is no colon. -/
structure Name where
  space : List Char
  base : List Char
deriving DecidableEq, Repr

def startsName : List Char → Bool
  | [] => false
  | c :: _ => isNameStart c

def name (s : List Char) : Option (Name × List Char) :=
  let first := s.takeWhile isNamePart
  match s.dropWhile isNamePart with
  | ':' :: r =>
    let base := r.takeWhile isNamePart
    let rest := r.dropWhile isNamePart
    if (first.isEmpty || startsName first) && startsName base && rest.head? != some ':' then
      some (⟨first, base⟩, rest)
    else none
  | rest => if startsName first then some (⟨[], first⟩, rest) else none

/-- A name in which a colon is a letter. -/
def plainName (s : List Char) : Option (List Char × List Char) :=
  let isPart (c : Char) : Bool := isNamePart c || c = ':'
  if startsName s || s.head? = some ':' then some (s.takeWhile isPart, s.dropWhile isPart)
  else none

example : name "a:b:c".toList = none ∧ (plainName "a:b:c".toList).isSome := by decide +kernel

def upTo (mark : List Char) : List Char → Option (List Char × List Char)
  | [] => none
  | c :: r =>
    if mark.isPrefixOf (c :: r) then some ([], (c :: r).drop mark.length)
    else (upTo mark r).map fun found => (c :: found.1, found.2)

def legalUpTo (mark : String) (s : List Char) : Option (List Char × List Char) :=
  (upTo mark.toList s).filter fun found => found.1.all isLegal

def quoted : List Char → Option (List Char × List Char)
  | '"' :: r => upTo ['"'] r
  | '\'' :: r => upTo ['\''] r
  | _ => none

/-- The value of an attribute as written: legal, and no opening bracket in it. -/
def quotedValue (s : List Char) : Option (List Char × List Char) :=
  (quoted s).filter fun found => found.1.all fun c => isLegal c && c != '<'

def equals (s : List Char) : Option (List Char) :=
  match skipSpace s with
  | '=' :: r => some (skipSpace r)
  | _ => none

def spaces (s : List Char) : Option (List Char) :=
  if s.head?.any isSpace then some (skipSpace s) else none

/-- What follows a comment, behind its opening: two hyphens only at its end. -/
def comment (s : List Char) : Option (List Char) := do
  let (text, r) ← legalUpTo "--" s
  match r with
  | '>' :: r => if text.getLast? = some '-' then none else return r
  | _ => none

def instruction (s : List Char) : Option (List Char) := do
  if "xml ".toList.isPrefixOf s then none
  else
    let (_, r) ← plainName s
    let (_, r) ← legalUpTo "?>" r
    return r

def surroundings : Nat → List Char → Option (List Char)
  | 0, _ => none
  | bound + 1, s =>
    match skipSpace s with
    | '<' :: '!' :: '-' :: '-' :: r => do surroundings bound (← comment r)
    | '<' :: '?' :: r => do surroundings bound (← instruction r)
    | r => some r

theorem upTo_append {mark s front rest : List Char} (h : upTo mark s = some (front, rest)) :
    s = front ++ mark ++ rest := by
  induction s generalizing front with
  | nil => simp [upTo] at h
  | cons c r ih =>
    rw [upTo] at h
    split at h
    · next hp =>
      obtain ⟨t, ht⟩ := List.isPrefixOf_iff_prefix.1 hp
      simp only [Option.some.injEq, Prod.mk.injEq] at h
      obtain ⟨rfl, rfl⟩ := h
      simp [← ht]
    · obtain ⟨⟨f, r'⟩, hf, he⟩ := Option.map_eq_some_iff.1 h
      simp only [Prod.mk.injEq] at he
      obtain ⟨rfl, rfl⟩ := he
      simp [ih hf]

example : comment " a - b -->c".toList = some ['c'] ∧ comment " a --->".toList = none := by
  decide +kernel

end Strata.Markup
