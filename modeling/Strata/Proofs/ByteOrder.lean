import Std.Data.TreeMap

/-! The order of texts, which goes by characters, is the order of their UTF-8 bytes: ordered maps
with texts for keys list them by bytes. -/
namespace Strata.Text

/-- The bytes of a text in UTF-8. -/
def utf8 (s : String) : List UInt8 := s.toUTF8.data.toList

theorem utf8_eq_flatMap (s : String) : utf8 s = s.toList.flatMap String.utf8EncodeChar := by
  have encoded : s.toByteArray = s.toList.utf8Encode := String.utf8Encode_toList.symm
  simp only [utf8, String.toUTF8_eq_toByteArray, encoded, List.utf8Encode, List.data_toByteArray]

/-- A lesser character has the lesser bytes, whatever follows them. -/
theorem utf8EncodeChar_lt {c d : Char} (h : c < d) (s t : List UInt8) :
    String.utf8EncodeChar c ++ s < String.utf8EncodeChar d ++ t := by
  have below : c.val.toNat < d.val.toNat := h
  have top : d.val.toNat < 0x110000 := by
    rcases d.valid with low | high
    · have : d.val.toNat < 0xd800 := low
      omega
    · exact high.2
  have first (n : Nat) : (n % 8 + 240) % 256 = n % 8 + 240 := by omega
  have later (n : Nat) : (n % 64 + 128) % 256 = n % 64 + 128 := by omega
  have twice (n : Nat) : n / 4096 = n / 64 / 64 := by omega
  have thrice (n : Nat) : n / 262144 = n / 64 / 64 / 64 := by omega
  unfold String.utf8EncodeChar
  generalize c.val.toNat = v at *
  generalize d.val.toNat = w at *
  -- One goal for each pair of lengths; within a length the bytes are digits in base 64.
  simp only
  repeat' split
  all_goals simp only [List.cons_append, List.nil_append, List.cons_lt_cons_iff,
    UInt8.lt_iff_toNat_lt, ← UInt8.toNat_inj, UInt8.toNat_ofNat', Nat.reducePow, first, later,
    twice, thrice]
  all_goals omega

theorem utf8_lt_of_lt {s t : String} (h : s < t) : utf8 s < utf8 t := by
  have chars : s.toList < t.toList := String.lt_iff.mp h
  rw [utf8_eq_flatMap, utf8_eq_flatMap]
  generalize s.toList = l at chars
  generalize t.toList = m at chars
  induction chars with
  | @nil c rest =>
    rw [List.flatMap_cons]
    cases bytes : String.utf8EncodeChar c with
    | nil => exact absurd bytes String.utf8EncodeChar_ne_nil
    | cons b more => exact List.nil_lt_cons b _
  | cons _ ih => exact List.append_left_lt ih
  | rel less => exact utf8EncodeChar_lt less _ _

theorem lt_iff_utf8_lt (s t : String) : s < t ↔ utf8 s < utf8 t := by
  constructor
  · exact utf8_lt_of_lt
  · intro h
    rcases Std.lt_trichotomy s t with less | same | greater
    · exact less
    · exact absurd h (same ▸ List.lt_irrefl _)
    · exact absurd (utf8_lt_of_lt greater) (List.lt_asymm h)

theorem compare_eq_lt_iff_utf8 (s t : String) : compare s t = .lt ↔ utf8 s < utf8 t := by
  rw [← lt_iff_utf8_lt]
  exact compareOfLessAndEq_eq_lt

end Strata.Text
