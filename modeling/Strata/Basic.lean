import Std.Data.TreeMap

/-! What the other modules rest on: white space and digits, lists of pairs with one pair for each
key, and lists gathered by a key. -/
namespace Strata.Text

/-- The code points with the property White_Space, as closed ranges. -/
def blankRanges : List (Nat × Nat) :=
  [(0x09, 0x0D), (0x20, 0x20), (0x85, 0x85), (0xA0, 0xA0), (0x1680, 0x1680), (0x2000, 0x200A),
   (0x2028, 0x2029), (0x202F, 0x202F), (0x205F, 0x205F), (0x3000, 0x3000)]

def isBlank (c : Char) : Bool :=
  blankRanges.any fun r => r.1 ≤ c.toNat && c.toNat ≤ r.2

def trimStart (s : List Char) : List Char := s.dropWhile isBlank
def trimEnd (s : List Char) : List Char := (s.reverse.dropWhile isBlank).reverse
def trim (s : List Char) : List Char := trimEnd (trimStart s)

example : trim "\u2003 a b\u00a0\n".toList = "a b".toList := by decide

def isDigit (c : Char) : Bool := '0' ≤ c && c ≤ '9'

def hexDigit? (c : Char) : Option Nat :=
  if '0' ≤ c ∧ c ≤ '9' then some (c.toNat - 48)
  else if 'a' ≤ c ∧ c ≤ 'f' then some (c.toNat - 87)
  else if 'A' ≤ c ∧ c ≤ 'F' then some (c.toNat - 55)
  else none

def hexChar (d : Nat) : Char := Char.ofNat (if d < 10 then 48 + d else 87 + d)

/-- The number that digits denote in a base, most significant first. A character that is no digit
adds nothing. -/
def value (base : Nat) (s : List Char) : Nat :=
  s.foldl (fun n c => match hexDigit? c with | some d => n * base + d | none => n) 0

def equalIgnoringCase (s t : String) : Bool :=
  s.toList.map Char.toLower == t.toList.map Char.toLower

end Strata.Text

namespace Strata.Keyed

variable {κ β : Type} [BEq κ]

/-- Sets the value of a key: in its place, or behind the others when it is new. -/
def put (key : κ) (b : β) : List (κ × β) → List (κ × β)
  | [] => [(key, b)]
  | (k, a) :: rest => if k == key then (key, b) :: rest else (k, a) :: put key b rest

variable [LawfulBEq κ]

theorem lookup_put_same (key : κ) (b : β) (l : List (κ × β)) :
    (put key b l).lookup key = some b := by
  induction l with
  | nil => simp [put]
  | cons e rest ih =>
    obtain ⟨k, a⟩ := e
    by_cases hk : k = key
    · simp [put, hk]
    · simp [put, hk, List.lookup_cons, beq_eq_false_iff_ne.mpr (Ne.symm hk), ih]

theorem lookup_put_other {key j : κ} (h : j ≠ key) (b : β) (l : List (κ × β)) :
    (put key b l).lookup j = l.lookup j := by
  have hj : (j == key) = false := beq_eq_false_iff_ne.mpr h
  induction l with
  | nil => simp [put, List.lookup_cons, hj]
  | cons e rest ih =>
    obtain ⟨k, a⟩ := e
    by_cases hk : k = key
    · simp [put, hk, List.lookup_cons, hj]
    · simp [put, hk, List.lookup_cons, ih]

end Strata.Keyed

namespace Strata

variable {κ β : Type} [Ord κ]

/-- One group for each key that occurs, keys ascending; a group keeps the order of the list. -/
def groupBy (key : β → κ) (l : List β) : Std.TreeMap κ (List β) :=
  l.foldl (fun groups b => groups.alter (key b) fun group => some (group.getD [] ++ [b])) ∅

def distinct (l : List κ) : List κ :=
  (l.foldl (fun seen k => seen.insert k ()) (∅ : Std.TreeMap κ Unit)).keys

end Strata
