import Mathlib
import Strata.Document

/-! Which layer a value denotes, said without words of a fixed width: whole numbers by themselves,
other numbers by their exact value and texts by the number that their digits denote, whatever their
count. Reading gives this layer whenever there is one, so no step in between loses a layer or makes
one up. -/
namespace Strata

namespace Text

theorem trim_eq {before middle after : List Char} (leading : ∀ c ∈ before, isBlank c = true)
    (trailing : ∀ c ∈ after, isBlank c = true) (some : middle ≠ [])
    (clean : ∀ c ∈ middle, isBlank c = false) : trim (before ++ middle ++ after) = middle := by
  have start : trimStart (before ++ middle ++ after) = middle ++ after := by
    obtain ⟨first, rest, rfl⟩ := List.exists_cons_of_ne_nil some
    have shown := clean first List.mem_cons_self
    rw [trimStart, List.append_assoc, List.dropWhile_append_of_pos leading, List.cons_append,
      List.dropWhile_cons_of_neg (by simp [shown])]
  have finish : trimEnd (middle ++ after) = middle := by
    obtain ⟨last, rest, reversed⟩ := List.exists_cons_of_ne_nil (List.reverse_ne_nil_iff.mpr some)
    have shown := clean last (List.mem_reverse.mp (reversed ▸ List.mem_cons_self))
    rw [trimEnd, List.reverse_append, List.dropWhile_append_of_pos (by simpa using trailing),
      reversed, List.dropWhile_cons_of_neg (by simp [shown]), ← reversed, List.reverse_reverse]
  rw [trim, start, finish]

/-- What is taken off a text is white space at either end. -/
theorem exists_trim (s : List Char) : ∃ before after, s = before ++ trim s ++ after ∧
    (∀ c ∈ before, isBlank c = true) ∧ ∀ c ∈ after, isBlank c = true := by
  refine ⟨s.takeWhile isBlank, ((trimStart s).reverse.takeWhile isBlank).reverse, ?_, ?_, ?_⟩
  · have finish : trim s ++ ((trimStart s).reverse.takeWhile isBlank).reverse = trimStart s := by
      rw [trim, trimEnd, ← List.reverse_append, List.takeWhile_append_dropWhile,
        List.reverse_reverse]
    rw [List.append_assoc, finish, trimStart, List.takeWhile_append_dropWhile]
  · intro c member
    exact List.mem_takeWhile_imp member
  · intro c member
    exact List.mem_takeWhile_imp (List.mem_reverse.mp member)

theorem isDigit_iff {c : Char} : isDigit c = true ↔ '0' ≤ c ∧ c ≤ '9' := by
  simp [isDigit]

theorem not_isBlank_of_bounds {c : Char} (lower : 33 ≤ c.toNat) (upper : c.toNat ≤ 126) :
    isBlank c = false := by
  simp only [isBlank, blankRanges, List.any_cons, List.any_nil, Bool.or_false,
    Bool.or_eq_false_iff, Bool.and_eq_false_iff, decide_eq_false_iff_not]
  omega

end Text

namespace Decimal

open Float.Model

/-- The number that an unpacked pattern stands for; infinities and NaN count as zero. -/
def signedValue : UnpackedFloat → ℚ
  | .finite .positive mantissa exponent _ => mantissa * 2 ^ exponent
  | .finite .negative mantissa exponent _ => -(mantissa * 2 ^ exponent)
  | _ => 0

/-- The exact value of a binary64 number. -/
def valueOf (x : Float) : ℚ := signedValue x.toModel.unpack

def Exact.value (e : Exact) : ℚ :=
  if e.negative then -(e.mantissa * 2 ^ e.scale) else e.mantissa * 2 ^ e.scale

/-- The whole number next to a number on the side of zero. -/
def towardZero (q : ℚ) : ℤ := if 0 ≤ q then ⌊q⌋ else ⌈q⌉

section

variable (b : BitVec 64)

theorem toNat_unpackMantissa :
    (@UnpackedFloat.unpackMantissa .binary64 b).toNat = b.toNat % Nat.pow 2 52 := by
  simp [UnpackedFloat.unpackMantissa_def]

theorem toNat_unpackExponent :
    (@UnpackedFloat.unpackExponent .binary64 b).toNat = b.toNat / Nat.pow 2 52 % 2048 := by
  simp [UnpackedFloat.unpackExponent_def, Nat.shiftRight_eq_div_pow]

theorem ofBitVec_unpackSign : UnpackedFloat.Sign.ofBitVec (@UnpackedFloat.unpackSign .binary64 b) =
    if Nat.pow 2 63 ≤ b.toNat then .negative else .positive := by
  have bound := b.isLt
  have sign : (@UnpackedFloat.unpackSign .binary64 b).toNat = b.toNat / Nat.pow 2 63 := by
    simp [UnpackedFloat.unpackSign_def, Nat.shiftRight_eq_div_pow]
    omega
  have plus : @UnpackedFloat.unpackSign .binary64 b = 0#1 ↔ ¬ Nat.pow 2 63 ≤ b.toNat := by
    rw [← BitVec.toNat_inj, sign]
    simp
  rw [UnpackedFloat.Sign.ofBitVec]
  simp only [plus, ite_not]

theorem toNat_leading_unpackMantissa :
    (1#1 ++ @UnpackedFloat.unpackMantissa .binary64 b).toNat =
      Nat.pow 2 52 + b.toNat % Nat.pow 2 52 := by
  rw [BitVec.toNat_append, ← Nat.shiftLeft_add_eq_or_of_lt (BitVec.isLt _), toNat_unpackMantissa]
  rfl

end

theorem signedValue_finite (negative : Prop) [Decidable negative] (mantissa : Nat) (exponent : Int)
    (positive : 0 < mantissa) (narrow : Bool) :
    signedValue (.finite (if negative then .negative else .positive) mantissa exponent positive) =
      (Exact.mk (decide negative) mantissa exponent narrow).value := by
  by_cases below : negative <;> simp [below, signedValue, Exact.value]

/-- The fields of a pattern, taken from its bits by division, give its value. -/
theorem value_ofFloat {x : Float} (finite : x.isFinite = true) :
    (Exact.ofFloat x).value = valueOf x := by
  let b : BitVec 64 := x.toBits.toBitVec
  have bits : x.toBits.toNat = b.toNat := rfl
  have unpacked : valueOf x = signedValue (UnpackedFloat.unpack .binary64 b) := rfl
  replace finite : (UnpackedFloat.unpack .binary64 b).isFinite = true := finite
  have small : @UnpackedFloat.unpackExponent .binary64 b = 0#11 ↔
      b.toNat / Nat.pow 2 52 % 2048 = 0 := by
    rw [← BitVec.toNat_inj, toNat_unpackExponent]
    rfl
  have blank : @UnpackedFloat.unpackMantissa .binary64 b = 0#52 ↔
      b.toNat % Nat.pow 2 52 = 0 := by
    rw [← BitVec.toNat_inj, toNat_unpackMantissa]
    rfl
  rw [unpacked, Exact.ofFloat, bits]
  -- Both sides now split on the exponent alike: all ones, zero, and the rest.
  unfold UnpackedFloat.unpack at finite ⊢
  simp only [ofBitVec_unpackSign, small, toNat_unpackExponent, blank] at finite ⊢
  split at finite
  · split at finite <;> simp [UnpackedFloat.isFinite] at finite
  · next notLast =>
    rw [if_neg notLast]
    split
    · split
      · next none => simp [Exact.value, signedValue, none]
      · next zero _ =>
        simp only [toNat_unpackMantissa, signedValue_finite _ _ _ _ false, zero]
        rfl
    · have leading := toNat_leading_unpackMantissa b
      simp only [signedValue_finite _ _ _ _ false, leading]
      rfl

theorem towardZero_neg (q : ℚ) : towardZero (-q) = -towardZero q := by
  unfold towardZero
  rcases lt_trichotomy q 0 with below | rfl | above
  · rw [if_pos (by linarith), if_neg (by linarith), Int.floor_neg]
  · simp
  · rw [if_neg (by linarith), if_pos above.le, Int.ceil_neg]

theorem truncate_eq (e : Exact) : e.truncate = towardZero e.value := by
  have magnitude : (e.mantissa * 2 ^ e.scale : ℚ) = e.numerator / e.denominator := by
    rw [Exact.numerator, Exact.denominator]
    rcases le_total 0 e.scale with up | down
    · have none : (-e.scale).toNat = 0 := by omega
      rw [none]
      conv_lhs => rw [← Int.toNat_of_nonneg up, zpow_natCast]
      simp
    · have none : e.scale.toNat = 0 := by omega
      have same : e.scale = -((-e.scale).toNat : ℤ) := by omega
      rw [none]
      conv_lhs => rw [same, zpow_neg, zpow_natCast]
      simp [div_eq_mul_inv]
  have floor :
      towardZero (e.numerator / e.denominator : ℚ) = (e.numerator / e.denominator : ℕ) := by
    rw [towardZero, if_pos (by positivity), Rat.floor_natCast_div_natCast]
    rfl
  rw [Exact.truncate, Exact.value, magnitude]
  split
  · rw [towardZero_neg, floor]
  · rw [floor]

end Decimal

namespace Layer

/-- The number that digits denote in decimal, whatever their count. -/
def decimal (digits : List Char) : Nat :=
  Nat.ofDigits 10 (digits.reverse.map fun c => c.toNat - '0'.toNat)

/-- A whole number written in decimal: at most one sign, then one digit or more. -/
def IsNumeral (s : List Char) (k : Int) : Prop :=
  ∃ sign digits, s = sign ++ digits ∧ digits ≠ [] ∧ (∀ c ∈ digits, '0' ≤ c ∧ c ≤ '9') ∧
    (sign = ['-'] ∧ k = -decimal digits ∨ (sign = [] ∨ sign = ['+']) ∧ k = decimal digits)

def signed (negative : Bool) (n : Nat) : Int := if negative then -n else n

theorem decimal_cons (c : Char) (rest : List Char) :
    decimal (c :: rest) = (c.toNat - 48) * 10 ^ rest.length + decimal rest := by
  simp [decimal, Nat.ofDigits_append]
  ring

theorem word?_cases (n : Int) : word? n = none ∨ word? n = some n := by
  unfold word?
  split
  · exact .inr rfl
  · exact .inl rfl

theorem word?_eq_none_of_le {negative : Bool} {n m : Nat} (less : n ≤ m)
    (wide : word? (signed negative n) = none) : word? (signed negative m) = none := by
  unfold word? at wide ⊢
  split at wide
  · cases wide
  · next outside =>
    rw [if_neg]
    cases negative <;> simp only [signed, ↓reduceIte, Bool.false_eq_true] at outside ⊢ <;> omega

theorem ofInt?_eq_none_of_wide {n : Int} (wide : word? n = none) : ofInt? n = none := by
  unfold word? at wide
  split at wide
  · cases wide
  · next outside =>
    simp only [Nat.reducePow, Nat.pow_eq] at outside
    unfold ofInt? limit
    rw [if_neg]
    omega

theorem ofInt?_eq_some_iff {n : Int} {k : Nat} : ofInt? n = some k ↔ n = k ∧ k < limit := by
  unfold ofInt?
  split <;> simp only [Option.some.injEq, reduceCtorEq, false_iff] <;> omega

theorem digits?_eq (negative : Bool) (s : List Char) (n : Nat)
    (fits : word? (signed negative n) = some (signed negative n)) :
    digits? negative (signed negative n) s =
      if s.all Text.isDigit then word? (signed negative (n * 10 ^ s.length + decimal s))
      else none := by
  -- Magnitudes only grow with each digit: a step that leaves the words is not made good by the
  -- digits behind it, so the loop gives up just where the whole number does not fit.
  induction s generalizing n with
  | nil => simpa [digits?, decimal] using fits.symm
  | cons c rest ih =>
    rw [digits?, List.all_cons]
    by_cases digit : Text.isDigit c = true
    · have shifted : signed negative n * 10 = signed negative (n * 10) := by
        cases negative <;> simp [signed]
      have next : (if negative = true then signed negative (n * 10) - (c.toNat - 48 : Nat)
          else signed negative (n * 10) + (c.toNat - 48 : Nat)) =
            signed negative (n * 10 + (c.toNat - 48)) := by
        cases negative <;> simp [signed]
        omega
      have whole : n * 10 ^ (rest.length + 1) + decimal (c :: rest) =
          (n * 10 + (c.toNat - 48)) * 10 ^ rest.length + decimal rest := by
        rw [decimal_cons]
        ring
      have least : n * 10 + (c.toNat - 48) ≤
          n * 10 ^ (rest.length + 1) + decimal (c :: rest) := by
        have scaled := Nat.le_mul_of_pos_right (n * 10 + (c.toNat - 48))
          (Nat.pow_pos (show 0 < 10 by decide) : 0 < 10 ^ rest.length)
        omega
      rw [if_pos digit, digit, Bool.true_and, shifted, List.length_cons]
      simp only [Option.bind_eq_bind]
      rcases word?_cases (signed negative (n * 10)) with wide | fits
      · rw [wide, word?_eq_none_of_le (by omega) wide]
        simp
      · rw [fits, Option.bind_some, next]
        rcases word?_cases (signed negative (n * 10 + (c.toNat - 48))) with wide | fits
        · rw [wide, word?_eq_none_of_le least wide]
          simp
        · rw [fits, Option.bind_some, ih _ fits, whole]
    · simp [digit]

theorem digits?_bind_eq_some_iff {negative : Bool} {digits : List Char} {k : Nat} :
    (if digits.isEmpty = true then none else digits? negative 0 digits).bind ofInt? = some k ↔
      (digits ≠ [] ∧ (∀ c ∈ digits, '0' ≤ c ∧ c ≤ '9') ∧
        signed negative (decimal digits) = k) ∧ k < limit := by
  have start : signed negative 0 = 0 := by cases negative <;> rfl
  have read := digits?_eq negative digits 0 (by rw [start]; rfl)
  rw [start, Nat.zero_mul, Nat.zero_add] at read
  have narrow : (word? (signed negative (decimal digits))).bind ofInt? =
      ofInt? (signed negative (decimal digits)) := by
    rcases word?_cases (signed negative (decimal digits)) with wide | fits
    · rw [wide, ofInt?_eq_none_of_wide wide]
      rfl
    · rw [fits]
      rfl
  by_cases none : digits = []
  · simp [none]
  · rw [if_neg (by simpa using none), read]
    simp only [← Text.isDigit_iff, ← List.all_eq_true]
    split
    · next all => simp [none, all, narrow, ofInt?_eq_some_iff]
    · next other => simp [other]

theorem splitSign_cases (s : List Char) : (∃ r, s = '-' :: r ∧ splitSign s = (true, r)) ∨
    (∃ r, s = '+' :: r ∧ splitSign s = (false, r)) ∨ splitSign s = (false, s) := by
  unfold splitSign
  split <;> simp

theorem splitSign_of_digits {s : List Char} (all : ∀ c ∈ s, '0' ≤ c ∧ c ≤ '9') :
    splitSign s = (false, s) := by
  rcases splitSign_cases s with ⟨r, rfl, _⟩ | ⟨r, rfl, _⟩ | bare
  · exact absurd (all '-' List.mem_cons_self) (by decide)
  · exact absurd (all '+' List.mem_cons_self) (by decide)
  · exact bare

theorem isNumeral_iff {s : List Char} {k : Int} : IsNumeral s k ↔
    (splitSign s).2 ≠ [] ∧ (∀ c ∈ (splitSign s).2, '0' ≤ c ∧ c ≤ '9') ∧
      signed (splitSign s).1 (decimal (splitSign s).2) = k := by
  constructor
  · rintro ⟨sign, digits, rfl, some, all, ⟨rfl, value⟩ | ⟨rfl | rfl, value⟩⟩
    · exact ⟨some, all, value.symm⟩
    · rw [List.nil_append, splitSign_of_digits all]
      exact ⟨some, all, value.symm⟩
    · exact ⟨some, all, value.symm⟩
  · rcases splitSign_cases s with ⟨r, rfl, split⟩ | ⟨r, rfl, split⟩ | split
    all_goals
      rw [split]
      rintro ⟨some, all, value⟩
    · exact ⟨['-'], r, rfl, some, all, .inl ⟨rfl, value.symm⟩⟩
    · exact ⟨['+'], r, rfl, some, all, .inr ⟨.inr rfl, value.symm⟩⟩
    · exact ⟨[], s, rfl, some, all, .inr ⟨.inl rfl, value.symm⟩⟩

theorem wholeNumber?_bind_eq_some_iff {s : List Char} {k : Nat} :
    (wholeNumber? s).bind ofInt? = some k ↔ IsNumeral s k ∧ k < limit := by
  rw [wholeNumber?, digits?_bind_eq_some_iff, isNumeral_iff]

/-- A numeral holds no white space. -/
theorem IsNumeral.clean {s : List Char} {k : Int} (numeral : IsNumeral s k) :
    s ≠ [] ∧ ∀ c ∈ s, Text.isBlank c = false := by
  obtain ⟨sign, digits, rfl, some, all, value⟩ := numeral
  refine ⟨List.append_ne_nil_of_right_ne_nil _ some, ?_⟩
  intro c member
  rcases List.mem_append.mp member with front | behind
  · have signs : c = '-' ∨ c = '+' := by
      rcases value with ⟨rfl, _⟩ | ⟨rfl | rfl, _⟩ <;> simp_all
    rcases signs with rfl | rfl <;> rfl
  · obtain ⟨lower, upper⟩ := all c behind
    simp only [Char.le_def, UInt32.le_iff_toNat_le, Char.reduceVal, UInt32.reduceToNat]
      at lower upper
    exact Text.not_isBlank_of_bounds (Nat.le_trans (by decide) lower)
      (Nat.le_trans upper (by decide))

/-- The whole number that a value gives for a layer, before it is held against the range of
layers. -/
inductive Denotes : Json.Value → Int → Prop
  | whole (n : Int) : Denotes (.number (.whole n)) n
  | real {x : Float} (finite : x.isFinite = true) :
      Denotes (.number (.real x)) (Decimal.towardZero (Decimal.valueOf x))
  | text {s : String} {k : Int} {before middle after : List Char}
      (split : s.toList = before ++ middle ++ after)
      (leading : ∀ c ∈ before, Text.isBlank c = true)
      (trailing : ∀ c ∈ after, Text.isBlank c = true)
      (numeral : IsNumeral middle k) : Denotes (.string s) k

theorem denotes_string_iff {s : String} {k : Int} :
    Denotes (.string s) k ↔ IsNumeral (Text.trim s.toList) k := by
  constructor
  · intro denotes
    cases denotes with
    | text split leading trailing numeral =>
      obtain ⟨some, clean⟩ := numeral.clean
      rw [split, Text.trim_eq leading trailing some clean]
      exact numeral
  · intro numeral
    obtain ⟨before, after, split, leading, trailing⟩ := Text.exists_trim s.toList
    exact .text split leading trailing numeral

theorem ofReal?_eq_some_iff {x : Float} {k : Nat} : ofReal? x = some k ↔
    x.isFinite = true ∧ Decimal.towardZero (Decimal.valueOf x) = k ∧ k < limit := by
  unfold ofReal?
  by_cases finite : x.isFinite = true
  · rw [Decimal.truncate_eq, Decimal.value_ofFloat finite]
    generalize Decimal.towardZero (Decimal.valueOf x) = n
    simp only [finite, true_and]
    split
    · exact ofInt?_eq_some_iff
    · next beyond =>
      simp only [reduceCtorEq, false_iff]
      omega
  · simp [finite]

theorem ofJson?_eq_some_iff {v : Json.Value} {k : Nat} :
    ofJson? v = some k ↔ Denotes v k ∧ k < limit := by
  cases v with
  | number n =>
    cases n with
    | whole n =>
      rw [ofJson?, ofInt?_eq_some_iff]
      refine and_congr_left fun _ => ⟨?_, ?_⟩
      · rintro rfl
        exact .whole _
      · generalize (k : Int) = m
        rintro ⟨⟩
        rfl
    | real x =>
      rw [ofJson?, ofReal?_eq_some_iff, ← and_assoc]
      refine and_congr_left fun _ => ⟨?_, ?_⟩
      · rintro ⟨finite, same⟩
        exact same ▸ .real finite
      · generalize (k : Int) = m
        rintro ⟨⟩
        next finite => exact ⟨finite, rfl⟩
  | string s => rw [ofJson?, wholeNumber?_bind_eq_some_iff, denotes_string_iff]
  | null | bool | array | object =>
    simp only [ofJson?, reduceCtorEq, false_iff, not_and]
    rintro ⟨⟩

/-- A value is read as the layer that it denotes, and is refused where it denotes none. -/
theorem ofJson_denotes (v : Json.Value) :
    (∀ k, ofJson v = .ok k ↔ Denotes v k ∧ k ≤ 4294967295) ∧
      (∀ f, ofJson v = .error f ↔ f = fault v ∧ ¬ ∃ k : Nat, Denotes v k ∧ k ≤ 4294967295) ∧
      (fault v).kind = .fieldCoercion := by
  have denotes (k : Nat) : ofJson? v = some k ↔ Denotes v k ∧ k ≤ 4294967295 := by
    rw [ofJson?_eq_some_iff, limit, Nat.lt_succ_iff]
  simp only [← denotes, ofJson]
  refine ⟨?_, ?_, rfl⟩
  · intro k
    cases ofJson? v <;> simp
  · intro f
    cases ofJson? v <;> simp [eq_comm]

example : ofJson? (.string "\u2003-00000000000000000000000000000000000000000000000000\n") = some 0 ∧
    ofJson? (.string "170141183460469231731687303715884105728") = none := by decide +kernel

end Layer

end Strata
