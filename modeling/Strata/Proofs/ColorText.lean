import Strata.Proofs.LayerReading
import Strata.Style

/-! Colours as text. A text denotes a colour when, behind white space and number signs, its digits
are those of the colour in either case. So the text of a colour is read as that colour, and two
texts mean one colour just when their last six characters agree but for the case. Places in a text
may be counted in bytes for this: what is cut has one byte to the character. -/
namespace Strata

namespace Text

theorem toNat_hexChar {d : Nat} (small : d < 16) :
    (hexChar d).toNat = if d < 10 then 48 + d else 87 + d := by
  interval_cases d <;> rfl

theorem toNat_toLower (c : Char) :
    c.toLower.toNat = if 65 ≤ c.toNat ∧ c.toNat ≤ 90 then c.toNat + 32 else c.toNat := by
  simp only [Char.toLower, ge_iff_le, UInt32.le_iff_toNat_le, Char.reduceVal, UInt32.reduceToNat,
    Char.toNat_val]
  split
  · rw [← Char.toNat_val, UInt32.toNat_add, Char.toNat_val]
    simp
    omega
  · rfl

theorem le_iff_toNat_le {a b : Char} : a ≤ b ↔ a.toNat ≤ b.toNat := UInt32.le_iff_toNat_le

theorem hexDigit?_eq_some_iff {c : Char} {d : Nat} :
    hexDigit? c = some d ↔ d < 16 ∧ c.toLower = hexChar d := by
  have same : c.toLower = hexChar d ↔ c.toLower.toNat = (hexChar d).toNat := Char.toNat_inj.symm
  by_cases small : d < 16
  · simp only [hexDigit?, le_iff_toNat_le, Char.reduceToNat, same, toNat_toLower,
      toNat_hexChar small]
    grind
  · simp only [hexDigit?, le_iff_toNat_le, Char.reduceToNat, small, false_and, iff_false]
    grind

def IsHexDigit (c : Char) : Prop :=
  ('0' ≤ c ∧ c ≤ '9') ∨ ('a' ≤ c ∧ c ≤ 'f') ∨ ('A' ≤ c ∧ c ≤ 'F')

instance (c : Char) : Decidable (IsHexDigit c) := inferInstanceAs (Decidable (_ ∨ _ ∨ _))

theorem IsHexDigit.bounds {c : Char} (digit : IsHexDigit c) : 48 ≤ c.toNat ∧ c.toNat ≤ 102 := by
  simp only [IsHexDigit, le_iff_toNat_le, Char.reduceToNat] at digit
  omega

theorem isHexDigit_iff {c : Char} : IsHexDigit c ↔ ∃ d, hexDigit? c = some d := by
  rw [← Option.isSome_iff_exists, IsHexDigit, hexDigit?]
  split
  · next digit => simp [digit]
  · split
    · next lower => simp [lower]
    · split
      · next upper => simp [upper]
      · next digit lower upper => simp [digit, lower, upper]

end Text

namespace Color

open Text

variable {s : String} {c : Color} {l : List Char}

theorem channel?_eq_some_iff {a b : Char} {n : UInt8} :
    channel? a b = some n ↔ [a.toLower, b.toLower] = channelText n := by
  have bound : n.toNat < 256 := n.toNat_lt
  simp only [channel?, Option.bind_eq_bind, Option.bind_eq_some_iff, hexDigit?_eq_some_iff,
    Option.pure_def, Option.some.injEq, channelText, List.cons.injEq, and_true]
  constructor
  · rintro ⟨high, ⟨small, first⟩, low, ⟨small', second⟩, rfl⟩
    have value : (UInt8.ofNat (16 * high + low)).toNat = 16 * high + low := by
      rw [UInt8.toNat_ofNat']
      omega
    rw [value, first, second]
    constructor
    · congr 1
      omega
    · congr 1
      omega
  · rintro ⟨first, second⟩
    refine ⟨_, ⟨by omega, first⟩, _, ⟨by omega, second⟩, ?_⟩
    rw [Nat.div_add_mod, UInt8.ofNat_toNat]

/-- Six characters denote the colour whose digits they are in lower case. -/
theorem ofDigits?_eq_some_iff : ofDigits? l = some c ↔ l.map Char.toLower = c.digits := by
  obtain ⟨red, green, blue⟩ := c
  constructor
  · intro read
    unfold ofDigits? at read
    split at read
    · next r r' g g' b b' =>
      simp only [Option.bind_eq_bind, Option.bind_eq_some_iff, Option.pure_def, Option.some.injEq,
        mk.injEq, channel?_eq_some_iff] at read
      obtain ⟨_, first, _, second, _, third, rfl, rfl, rfl⟩ := read
      rw [digits, ← first, ← second, ← third]
      rfl
    · cases read
  · intro same
    have count : l.length = 6 := by simpa [digits, channelText] using congrArg List.length same
    match l, count with
    | [r, r', g, g', b, b'], _ =>
      have parts : [r.toLower, r'.toLower] ++ [g.toLower, g'.toLower] ++ [b.toLower, b'.toLower] =
          channelText red ++ channelText green ++ channelText blue := same
      obtain ⟨parts, third⟩ := List.append_inj parts rfl
      obtain ⟨first, second⟩ := List.append_inj parts rfl
      rw [ofDigits?, channel?_eq_some_iff.mpr first, channel?_eq_some_iff.mpr second,
        channel?_eq_some_iff.mpr third]
      rfl

structure IsSixDigits (l : List Char) : Prop where
  count : l.length = 6
  all : ∀ x ∈ l, IsHexDigit x

theorem isSixDigits_iff : IsSixDigits l ↔ ∃ c : Color, l.map Char.toLower = c.digits := by
  simp only [← ofDigits?_eq_some_iff]
  constructor
  · rintro ⟨count, all⟩
    match l, count with
    | [r, r', g, g', b, b'], _ =>
      simp only [List.forall_mem_cons, isHexDigit_iff] at all
      obtain ⟨⟨_, hr⟩, ⟨_, hr'⟩, ⟨_, hg⟩, ⟨_, hg'⟩, ⟨_, hb⟩, ⟨_, hb'⟩, -⟩ := all
      simp only [ofDigits?, channel?, hr, hr', hg, hg', hb, hb']
      exact ⟨_, rfl⟩
  · rintro ⟨c, read⟩
    unfold ofDigits? at read
    split at read
    · next r r' g g' b b' =>
      simp only [channel?, Option.bind_eq_bind, Option.bind_eq_some_iff] at read
      obtain ⟨_, ⟨_, hr, _, hr', -⟩, _, ⟨_, hg, _, hg', -⟩, _, ⟨_, hb, _, hb', -⟩, -⟩ := read
      refine ⟨rfl, ?_⟩
      simp only [List.forall_mem_cons, isHexDigit_iff]
      exact ⟨⟨_, hr⟩, ⟨_, hr'⟩, ⟨_, hg⟩, ⟨_, hg'⟩, ⟨_, hb⟩, ⟨_, hb'⟩, List.forall_mem_nil _⟩
    · cases read

theorem dropWhile_sign {signs : Nat} (six : IsSixDigits l) :
    (List.replicate signs '#' ++ l).dropWhile (· == '#') = l := by
  have sign : ∀ x ∈ List.replicate signs '#', (x == '#') = true := by
    intro x member
    rw [List.eq_of_mem_replicate member]
    rfl
  rw [List.dropWhile_append_of_pos sign]
  obtain ⟨first, rest, rfl⟩ :=
    List.exists_cons_of_ne_nil (List.ne_nil_of_length_eq_add_one six.count)
  have other : first ≠ '#' := by
    rintro rfl
    exact absurd (six.all _ List.mem_cons_self) (by decide)
  rw [List.dropWhile_cons_of_neg (by simpa using other)]

/-- A colour is read from its digits, with any number of signs in front of them. -/
theorem parse?_eq_some_iff : parse? s = some c ↔ ∃ signs digits,
    trim s.toList = List.replicate signs '#' ++ digits ∧ digits.map Char.toLower = c.digits := by
  rw [parse?, ofDigits?_eq_some_iff]
  constructor
  · intro same
    let signs := (trim s.toList).takeWhile (· == '#')
    have all : signs = List.replicate signs.length '#' :=
      List.eq_replicate_of_mem fun x member => by simpa using List.mem_takeWhile_imp member
    refine ⟨signs.length, _, ?_, same⟩
    rw [← all, List.takeWhile_append_dropWhile]
  · rintro ⟨signs, digits, split, same⟩
    rw [split, dropWhile_sign (isSixDigits_iff.mpr ⟨c, same⟩), same]

theorem map_toLower_digits (c : Color) : c.digits.map Char.toLower = c.digits := by
  have digit : ∀ d < 16, (hexChar d).toLower = hexChar d := by decide
  have bound (n : UInt8) : n.toNat < 256 := n.toNat_lt
  have channel (n : UInt8) : (channelText n).map Char.toLower = channelText n := by
    have := bound n
    simp only [channelText, List.map_cons, List.map_nil]
    rw [digit _ (by omega), digit _ (by omega)]
  simp only [digits, List.map_append, channel]

/-- A colour is read from any spelling of it: white space around it, a sign or none, and digits of
either case. -/
theorem parse?_spelling (before sign digits after : List Char)
    (leading : ∀ x ∈ before, isBlank x = true) (trailing : ∀ x ∈ after, isBlank x = true)
    (signed : sign ∈ [[], ['#']]) (same : digits.map Char.toLower = c.digits) :
    parse? (String.ofList (before ++ sign ++ digits ++ after)) = some c := by
  have six : IsSixDigits digits := isSixDigits_iff.mpr ⟨c, same⟩
  obtain ⟨signs, rfl⟩ : ∃ signs, sign = List.replicate signs '#' := by
    simp only [List.mem_cons, List.not_mem_nil, or_false] at signed
    rcases signed with rfl | rfl
    · exact ⟨0, rfl⟩
    · exact ⟨1, rfl⟩
  refine parse?_eq_some_iff.mpr ⟨signs, digits, ?_, same⟩
  rw [String.toList_ofList, List.append_assoc before]
  refine trim_eq leading trailing ?_ ?_
  · intro none
    have count := six.count
    simp [(List.append_eq_nil_iff.mp none).2] at count
  · intro x member
    rcases List.mem_append.mp member with sign | digit
    · rw [List.eq_of_mem_replicate sign]
      rfl
    · have bounds := (six.all x digit).bounds
      exact not_isBlank_of_bounds (by omega) (by omega)

/-- The last six characters of a text without the white space around it. -/
def lastSix (s : String) : List Char := (trim s.toList).rtake 6

theorem lastSix_of_parse? (read : parse? s = some c) :
    IsSixDigits (lastSix s) ∧ (lastSix s).map Char.toLower = c.digits := by
  obtain ⟨signs, digits, split, same⟩ := parse?_eq_some_iff.mp read
  have six : IsSixDigits digits := isSixDigits_iff.mpr ⟨c, same⟩
  have last : lastSix s = digits := by
    rw [lastSix, split, List.rtake, List.length_append, six.count, Nat.add_sub_cancel,
      List.drop_left]
  rw [last]
  exact ⟨six, same⟩

theorem parse?_text (c : Color) : parse? c.text = some c := by
  have read := parse?_spelling [] ['#'] c.digits [] (List.forall_mem_nil _)
    (List.forall_mem_nil _) (by simp) (map_toLower_digits c)
  rwa [List.append_nil, List.nil_append] at read

theorem eq_iff_lastSix {t : String} {d : Color} (read : parse? s = some c)
    (read' : parse? t = some d) :
    c = d ↔ (lastSix s).map Char.toLower = (lastSix t).map Char.toLower := by
  rw [(lastSix_of_parse? read).2, (lastSix_of_parse? read').2]
  constructor
  · rintro rfl
    rfl
  · intro same
    have back := ofDigits?_eq_some_iff.mpr (map_toLower_digits c)
    have back' := ofDigits?_eq_some_iff.mpr (map_toLower_digits d)
    rw [same, back'] at back
    exact (Option.some.inj back).symm

end Color

namespace Text

/-- A text cut behind a number of bytes; within a character there is no cut. -/
def cut? (bytes : Nat) : List Char → Option (List Char × List Char)
  | [] => if bytes = 0 then some ([], []) else none
  | c :: s =>
    if bytes = 0 then some ([], c :: s)
    else if c.utf8Size ≤ bytes then
      (cut? (bytes - c.utf8Size) s).map fun (front, rest) => (c :: front, rest)
    else none

def slice? (first last : Nat) (s : List Char) : Option (List Char) := do
  let (_, behind) ← cut? first s
  let (inside, _) ← cut? (last - first) behind
  return inside

example : slice? 2 4 "aé€".toList = none ∧ slice? 1 3 "aé€".toList = some ['é'] := by decide

def byteSize (s : List Char) : Nat := (s.map Char.utf8Size).sum

def byteOfDigits? (digits : List Char) : Option UInt8 := do
  let n ← digits.foldlM (fun n x => do
    let d ← hexDigit? x
    if 16 * n + d < 256 then some (16 * n + d) else none) 0
  return UInt8.ofNat n

/-- A number below 256 in hexadecimal digits, which may have a plus sign. -/
def byte? : List Char → Option UInt8
  | [] | ['+'] => none
  | '+' :: digits => byteOfDigits? digits
  | digits => byteOfDigits? digits

theorem IsHexDigit.utf8Size {c : Char} (digit : IsHexDigit c) : c.utf8Size = 1 := by
  have bounds := digit.bounds
  have ascii : c.val ≤ 127 := by
    rw [UInt32.le_iff_toNat_le, Char.toNat_val]
    exact bounds.2.trans (by decide)
  exact if_pos ascii

theorem byteSize_of_hexDigits {s : List Char} (all : ∀ x ∈ s, IsHexDigit x) :
    byteSize s = s.length := by
  rw [byteSize, List.map_congr_left fun x member => (all x member).utf8Size]
  simp

end Text

namespace Color

open Text

/-- Reads a colour by places counted in bytes; there is no answer at all where a place lies within a
character. -/
def parseAtBytes? (s : String) : Option (Option Color) :=
  let hex := (trim s.toList).dropWhile (· == '#')
  if byteSize hex ≠ 6 ∨ ¬ ∀ x ∈ hex, IsHexDigit x then some none
  else do
    let red ← slice? 0 2 hex
    let green ← slice? 2 4 hex
    let blue ← slice? 4 6 hex
    return do return ⟨← byte? red, ← byte? green, ← byte? blue⟩

theorem byte?_pair {a b : Char} (digit : IsHexDigit a) (digit' : IsHexDigit b) :
    byte? [a, b] = channel? a b := by
  obtain ⟨high, read⟩ := isHexDigit_iff.mp digit
  obtain ⟨low, read'⟩ := isHexDigit_iff.mp digit'
  have small := (hexDigit?_eq_some_iff.mp read).1
  have small' := (hexDigit?_eq_some_iff.mp read').1
  have unsigned : a ≠ '+' := by
    rintro rfl
    exact absurd digit (by decide)
  have digits : byte? [a, b] = byteOfDigits? [a, b] := byte?.eq_4 _ (by simp) (by simp [unsigned])
    (by simp [unsigned])
  have first : high < 256 := by omega
  have whole : 16 * high + low < 256 := by omega
  simp [digits, byteOfDigits?, channel?, read, read', first, whole]

/-- No place lies within a character, and counting bytes makes no difference. -/
theorem parseAtBytes?_eq (s : String) : parseAtBytes? s = some (parse? s) := by
  rw [parseAtBytes?, parse?]
  generalize (trim s.toList).dropWhile (· == '#') = hex
  split
  · next guard =>
    have none : ofDigits? hex = none := by
      refine Option.eq_none_iff_forall_ne_some.mpr fun c read => ?_
      have six := isSixDigits_iff.mpr ⟨c, ofDigits?_eq_some_iff.mp read⟩
      rcases guard with size | other
      · exact size ((byteSize_of_hexDigits six.all).trans six.count)
      · exact other six.all
    rw [none]
  · next guard =>
    simp only [not_or, not_not] at guard
    obtain ⟨size, all⟩ := guard
    have count : hex.length = 6 := (byteSize_of_hexDigits all).symm.trans size
    match hex, count with
    | [r, r', g, g', b, b'], _ =>
      simp only [List.forall_mem_cons] at all
      obtain ⟨hr, hr', hg, hg', hb, hb', -⟩ := all
      simp [slice?, cut?, hr.utf8Size, hr'.utf8Size, hg.utf8Size, hg'.utf8Size, hb.utf8Size,
        hb'.utf8Size, ofDigits?, byte?_pair hr hr', byte?_pair hg hg', byte?_pair hb hb']

/-- A colour is read from every spelling of it. A text that is read ends in the digits of its
colour, so writing what was read gives one form for each colour, and what is read does not depend on
counting characters or bytes. -/
theorem parse?_spellings :
    (∀ c : Color, parse? c.text = some c) ∧
      (∀ (c : Color) (before sign digits after : List Char), (∀ x ∈ before, isBlank x = true) →
        (∀ x ∈ after, isBlank x = true) → sign ∈ [[], ['#']] →
        digits.map Char.toLower = c.digits →
        parse? (String.ofList (before ++ sign ++ digits ++ after)) = some c) ∧
      (∀ s c, parse? s = some c →
        IsSixDigits (lastSix s) ∧ (lastSix s).map Char.toLower = c.digits) ∧
      (∀ s t, (parse? s).map text = some t → (parse? t).map text = some t) ∧
      (∀ s t c d, parse? s = some c → parse? t = some d →
        (c = d ↔ (lastSix s).map Char.toLower = (lastSix t).map Char.toLower)) ∧
      ∀ s, parseAtBytes? s = some (parse? s) := by
  refine ⟨parse?_text, ?_, fun _ _ => lastSix_of_parse?, ?_, fun _ _ _ _ => eq_iff_lastSix,
    parseAtBytes?_eq⟩
  · intro c before sign digits after leading trailing signed same
    exact parse?_spelling before sign digits after leading trailing signed same
  · intro s t normal
    obtain ⟨c, -, rfl⟩ := Option.map_eq_some_iff.mp normal
    rw [parse?_text, Option.map_some]

theorem parse?_spellings_mixed :
    let c : Color := ⟨0x1f, 0x77, 0xb4⟩
    let spelling := "\u2003#1F77b4\n"
    let other := "1f77B4 "
    parse? spelling = some c ∧ parse? other = some c ∧
      (lastSix spelling).map Char.toLower = c.digits ∧
      (lastSix spelling).map Char.toLower = (lastSix other).map Char.toLower ∧
      (parse? spelling).map text = some c.text ∧ (parse? c.text).map text = some c.text ∧
      parseAtBytes? "€€" = some none := by
  intro c spelling other
  obtain ⟨-, reads, ends, normal, same, bytes⟩ := parse?_spellings
  have blank (x : Char) (known : isBlank x = true) : ∀ y ∈ [x], isBlank y = true := by
    simpa using known
  have read : parse? spelling = some c :=
    reads c ['\u2003'] ['#'] ['1', 'F', '7', '7', 'b', '4'] ['\n'] (blank _ rfl) (blank _ rfl)
      (by simp) (by decide)
  have read' : parse? other = some c :=
    reads c [] [] ['1', 'f', '7', '7', 'B', '4'] [' '] (List.forall_mem_nil _) (blank _ rfl)
      (by simp) (by decide)
  have written : (parse? spelling).map text = some c.text := by rw [read, Option.map_some]
  exact ⟨read, read', (ends spelling c read).2, (same spelling other c c read read').mp rfl,
    written, normal spelling c.text written, bytes "€€"⟩

end Color

end Strata
