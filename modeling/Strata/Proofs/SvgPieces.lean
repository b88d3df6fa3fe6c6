import Mathlib.Data.List.Basic
import Strata.Proofs.Grouping
import Strata.Proofs.MarkupScan
import Strata.Svg.Document

/-! Every piece of a picture is read as it was meant. What a caller hands over comes into attribute
values as a number, a colour or a name that was made safe, and none of these can end a value. -/
namespace Strata

open Markup.Scan

/-- The printable characters of ASCII, but for the four that no value may hold. Numbers, colours and
names are written with them alone. -/
def isPlainChar (c : Char) : Bool := ' ' ≤ c && c ≤ '~' && isValueChar c

def IsPlain (s : String) : Prop := s.toList.all isPlainChar

instance (s : String) : Decidable (IsPlain s) := inferInstanceAs (Decidable (_ = true))

theorem IsPlain.isValue {s : String} (plain : IsPlain s) : IsValue s := by
  refine List.all_eq_true.mpr ?_
  intro c member
  have plainChar := List.all_eq_true.mp plain c member
  simp only [isPlainChar, Bool.and_eq_true] at plainChar
  exact plainChar.2

theorem isPlain_ofList {l : List Char} (all : ∀ c ∈ l, isPlainChar c = true) :
    IsPlain (String.ofList l) := by
  rw [IsPlain, String.toList_ofList, List.all_eq_true]
  exact all

theorem isPlain_append_iff {s t : String} : IsPlain (s ++ t) ↔ IsPlain s ∧ IsPlain t := by
  rw [IsPlain, String.toList_append, List.all_append, Bool.and_eq_true]
  rfl

theorem isPlain_append {s t : String} (hs : IsPlain s) (ht : IsPlain t) : IsPlain (s ++ t) :=
  isPlain_append_iff.mpr ⟨hs, ht⟩

theorem isPlainChar_of_isNameChar {c : Char} (named : Markup.isNameChar c = true) :
    isPlainChar c = true := by
  simp only [Markup.isNameChar, Char.isAlphanum] at named
  delta Char.isAlpha at named
  delta Char.isUpper Char.isLower at named
  simp only [Char.isDigit, Bool.or_eq_true, Bool.and_eq_true, decide_eq_true_eq, ge_iff_le,
    Char.ext_iff, UInt32.le_iff_toNat_le, ← UInt32.toNat_inj, Char.reduceVal,
    UInt32.reduceToNat] at named
  simp only [isPlainChar, isValueChar, Bool.and_eq_true, decide_eq_true_eq, Char.le_def, ne_eq,
    UInt32.le_iff_toNat_le, Char.ext_iff, ← UInt32.toNat_inj, Char.reduceVal, UInt32.reduceToNat]
  omega

theorem isPlainChar_of_isDigit {c : Char} (digit : c.isDigit = true) : isPlainChar c = true :=
  isPlainChar_of_isNameChar (by simp [Markup.isNameChar, Char.isAlphanum, digit])

namespace Decimal

theorem isPlainChar_of_mem_toString {n : Nat} {c : Char} (member : c ∈ (toString n).toList) :
    isPlainChar c = true := by
  have digits : (toString n).toList = Nat.toDigits 10 n := Nat.toList_repr
  rw [digits] at member
  exact isPlainChar_of_isDigit
    (Nat.isDigit_of_mem_toDigits (by decide) (by decide) member)

theorem isPlainChar_of_mem_zeros {n : Nat} {c : Char} (member : c ∈ List.replicate n '0') :
    isPlainChar c = true := by
  rw [List.eq_of_mem_replicate member]
  rfl

theorem isPlain_withPoint (places units : Nat) : IsPlain (withPoint places units) := by
  let digits := (toString units).toList
  let padded := List.replicate (places + 1 - digits.length) '0' ++ digits
  have all : ∀ c ∈ padded, isPlainChar c = true := by
    intro c member
    rcases List.mem_append.mp member with zero | digit
    · exact isPlainChar_of_mem_zeros zero
    · exact isPlainChar_of_mem_toString digit
  rw [withPoint]
  refine isPlain_append (isPlain_ofList fun c member => all c (List.mem_of_mem_take member)) ?_
  split
  · decide
  · refine isPlain_append (by decide) ?_
    exact isPlain_ofList fun c member => all c (List.mem_of_mem_drop member)

theorem isPlain_fixed (places : Nat) (x : Float) : IsPlain (fixed places x) := by
  unfold fixed
  split
  · decide
  · refine isPlain_append ?_ ?_
    · split <;> decide
    · split
      · exact isPlain_withPoint _ _
      · decide

theorem isPlain_zeros (n : Nat) : IsPlain (zeros n) := by
  rw [IsPlain, zeros, Text.toList_pushn, List.all_eq_true]
  intro c member
  exact isPlainChar_of_mem_zeros (by simpa using member)

theorem isPlain_layoutPositional (f : Form) (n : Nat) (exponent : Int) :
    IsPlain (f.layoutPositional (toString n) exponent) := by
  have all : ∀ c ∈ (toString n).toList, isPlainChar c = true :=
    fun _ => isPlainChar_of_mem_toString
  have digits : IsPlain (toString n) := List.all_eq_true.mpr all
  unfold Form.layoutPositional
  simp only
  split
  · refine isPlain_append (isPlain_append digits (isPlain_zeros _)) ?_
    split <;> decide
  · split
    · refine isPlain_append (isPlain_append ?_ (by decide)) ?_
      · exact isPlain_ofList fun c member => all c (List.mem_of_mem_take member)
      · exact isPlain_ofList fun c member => all c (List.mem_of_mem_drop member)
    · exact isPlain_append (isPlain_append (by decide) (isPlain_zeros _)) digits

theorem isPlain_plain (x : Float) : IsPlain (plain.render x) := by
  unfold Form.render
  split
  · decide
  · refine isPlain_append ?_ ?_
    · split <;> decide
    · split
      · exact isPlain_layoutPositional plain _ _
      · decide

end Decimal

theorem Color.isPlainChar_of_mem_digits (color : Color) {c : Char} (member : c ∈ color.digits) :
    isPlainChar c = true := by
  have digit : ∀ d < 16, isPlainChar (Text.hexChar d) = true := by decide
  have channel (n : UInt8) : ∀ c ∈ channelText n, isPlainChar c = true := by
    have small : n.toNat < 256 := n.toNat_lt
    intro c member
    simp only [channelText, List.mem_cons, List.not_mem_nil, or_false] at member
    rcases member with rfl | rfl
    · exact digit _ (by omega)
    · exact digit _ (by omega)
  simp only [digits, List.mem_append] at member
  rcases member with (red | green) | blue
  · exact channel _ c red
  · exact channel _ c green
  · exact channel _ c blue

theorem Color.isPlain_text (color : Color) : IsPlain color.text := by
  refine isPlain_ofList ?_
  intro c member
  rcases List.mem_cons.mp member with rfl | digit
  · rfl
  · exact color.isPlainChar_of_mem_digits digit

theorem Markup.isPlain_sanitize (s : String) : IsPlain (sanitize s) := by
  refine isPlain_ofList ?_
  intro c member
  obtain ⟨given, _, rfl⟩ := List.mem_map.mp member
  split
  · next plain => exact isPlainChar_of_isNameChar plain
  · rfl

namespace Svg

theorem isPlain_length (x : Float) : IsPlain (length x) := Decimal.isPlain_fixed 2 x

theorem isPlain_pair (p : Point Float) : IsPlain (pair p) :=
  isPlain_append (isPlain_append (isPlain_length _) (by decide)) (isPlain_length _)

theorem isPlain_pathData (course : EdgePath Float) : IsPlain (pathData course) := by
  cases course <;> simp +decide only [pathData, isPlain_append_iff, isPlain_pair]

theorem isPlain_markerId (color : Color) (size : Float) : IsPlain (markerId color size) := by
  have digits : IsPlain (String.ofList color.digits) :=
    isPlain_ofList fun _ => color.isPlainChar_of_mem_digits
  exact isPlain_append (isPlain_append (isPlain_append (by decide) digits) (by decide))
    (Decimal.isPlain_fixed 0 _)

theorem isPlain_groupClass (kind key : String) : IsPlain (groupClass kind key) := by
  unfold groupClass
  split
  · exact Markup.isPlain_sanitize kind
  · simp +decide only [isPlain_append_iff, Markup.isPlain_sanitize]

theorem isPlain_dashes (dashes : List Float) : IsPlain (" ".intercalate (dashes.map length)) := by
  induction dashes with
  | nil => decide
  | cons d rest ih =>
    rw [List.map_cons]
    by_cases last : rest = []
    · rw [last, List.map_nil, String.intercalate_singleton]
      exact isPlain_length d
    · rw [String.intercalate_cons_of_ne_nil (by simpa using last)]
      exact isPlain_append (isPlain_append (isPlain_length d) (by decide)) ih

/-- Names and plain values. -/
def AreTidy (attributes : List Markup.Attribute) : Prop :=
  ∀ a ∈ attributes, IsName a.name ∧ IsPlain a.value

/-- A piece with plain values alone. Its text may be any. -/
def IsTidy : Markup.Piece → Prop
  | .opening name attributes => IsName name ∧ AreTidy attributes
  | .closing name => IsName name
  | .empty name attributes => IsName name ∧ AreTidy attributes
  | .text _ => True

theorem AreTidy.areSound {l : List Markup.Attribute} (tidy : AreTidy l) : AreSound l :=
  fun a member => ⟨(tidy a member).1, (tidy a member).2.isValue⟩

theorem IsTidy.isSound {p : Markup.Piece} (tidy : IsTidy p) : IsSound p := by
  cases p with
  | opening => exact ⟨tidy.1, tidy.2.areSound⟩
  | closing => exact tidy
  | empty => exact ⟨tidy.1, tidy.2.areSound⟩
  | text => trivial

theorem areTidy_cons {a : Markup.Attribute} {l : List Markup.Attribute} :
    AreTidy (a :: l) ↔ (IsName a.name ∧ IsPlain a.value) ∧ AreTidy l := List.forall_mem_cons

theorem areTidy_append {l m : List Markup.Attribute} :
    AreTidy (l ++ m) ↔ AreTidy l ∧ AreTidy m := List.forall_mem_append

theorem areTidy_nil : AreTidy [] := List.forall_mem_nil _

theorem isTidy_circle (center : Point Float) (radius : Float) (style : NodeStyle Float) :
    IsTidy (circle center radius style) := by
  simp +decide only [circle, IsTidy, areTidy_cons, areTidy_nil, isPlain_length,
    Color.isPlain_text]

theorem areTidy_dashAttribute (dashes : List Float) : AreTidy (dashAttribute dashes) := by
  unfold dashAttribute
  split
  · exact areTidy_nil
  · simp +decide only [areTidy_cons, areTidy_nil, isPlain_dashes]

theorem isTidy_path (course : EdgePath Float) (style : EdgeStyle Float) :
    IsTidy (path course style) := by
  simp +decide only [path, IsTidy, areTidy_cons, areTidy_append, areTidy_nil, isPlain_pathData,
    isPlain_length, Color.isPlain_text, areTidy_dashAttribute, isPlain_append_iff,
    isPlain_markerId]

theorem isTidy_swatch (r : Rect Float) (color : Color) : IsTidy (swatch r color) := by
  simp +decide only [swatch, IsTidy, areTidy_cons, areTidy_nil, isPlain_length,
    Color.isPlain_text]

theorem isTidy_textElement {name : String} {l : List Markup.Attribute} (named : IsName name)
    (sound : AreTidy l) (content : String) :
    ∀ p ∈ Markup.textElement name l content, IsTidy p := by
  intro p member
  simp only [Markup.textElement, List.mem_cons, List.not_mem_nil, or_false] at member
  rcases member with rfl | rfl | rfl
  · exact ⟨named, sound⟩
  · trivial
  · exact named

theorem areTidy_baseline (anchor : Point Float) (fontSize : Float) :
    AreTidy (baseline anchor fontSize) := by
  simp +decide only [baseline, areTidy_cons, areTidy_nil, isPlain_length]

theorem areTidy_font (fontSize : Float) : AreTidy (font fontSize) := by
  simp +decide only [font, areTidy_cons, areTidy_nil, isPlain_length]

theorem isTidy_elements (c : Command Float) : ∀ line ∈ elements c, ∀ p ∈ line, IsTidy p := by
  have centered (anchor : Point Float) (content : String) (fontSize : Float) :
      ∀ p ∈ centeredText anchor content fontSize, IsTidy p :=
    isTidy_textElement (by decide) (areTidy_append.mpr ⟨areTidy_baseline anchor fontSize,
      areTidy_cons.mpr ⟨by decide, areTidy_font fontSize⟩⟩) content
  have leading (anchor : Point Float) (content : String) (fontSize : Float) :
      ∀ p ∈ text anchor content fontSize, IsTidy p :=
    isTidy_textElement (by decide) (areTidy_append.mpr ⟨areTidy_baseline anchor fontSize,
      areTidy_font fontSize⟩) content
  cases c with
  | canvas => exact List.forall_mem_nil _
  | openGroup kind key =>
    simp +decide [elements, IsTidy, areTidy_cons, areTidy_nil, isPlain_groupClass]
  | closeGroup => simp +decide [elements, IsTidy]
  | node center radius style => simp [elements, isTidy_circle]
  | edge course style => simp [elements, isTidy_path]
  | label anchor content fontSize =>
    simp only [elements]
    split
    · exact List.forall_mem_nil _
    · exact List.forall_mem_singleton.mpr (centered _ _ _)
  | legendTitle anchor content fontSize =>
    exact List.forall_mem_singleton.mpr (centered _ _ _)
  | legendEntry r color anchor content fontSize =>
    refine List.forall_mem_cons.mpr ⟨?_, List.forall_mem_singleton.mpr (leading _ _ _)⟩
    exact List.forall_mem_singleton.mpr (isTidy_swatch r color)

/-- The arrowhead of a name is that of the first edge that has this name for its own. -/
theorem getElem?_markers (d : Drawing Float) (id : String) :
    (markers d)[id]? = (d.edges.find? fun e => markerId e.2.color e.2.arrowSize = id).map
      fun e => ⟨e.2.color, e.2.arrowSize⟩ := by
  rw [markers, getElem?_foldl_insertIfNew (β := Marker) (γ := EdgePath Float × EdgeStyle Float)
    (fun e => markerId e.2.color e.2.arrowSize) (fun e => ⟨e.2.color, e.2.arrowSize⟩),
    Std.TreeMap.getElem?_emptyc, Option.none_or]

/-- Every arrowhead is that of an edge. -/
theorem edge_of_marker {d : Drawing Float} {id : String} {m : Marker}
    (member : (id, m) ∈ (markers d).toList) : ∃ e ∈ d.edges,
      id = markerId e.2.color e.2.arrowSize ∧ m = ⟨e.2.color, e.2.arrowSize⟩ := by
  have found : (markers d)[id]? = some m := Std.TreeMap.mem_toList_iff_getElem?_eq_some.mp member
  rw [getElem?_markers, Option.map_eq_some_iff] at found
  obtain ⟨e, first, rfl⟩ := found
  have same := List.find?_some first
  exact ⟨e, List.mem_of_find?_eq_some first, (of_decide_eq_true same).symm, rfl⟩

theorem isTidy_marker {id : String} (valued : IsPlain id) (m : Marker) :
    ∀ p ∈ m.pieces id, IsTidy p := by
  simp +decide [Marker.pieces, IsTidy, areTidy_cons, areTidy_nil, valued, isPlain_length,
    Color.isPlain_text]

theorem isTidy_definitions (d : Drawing Float) :
    ∀ line ∈ definitions d, ∀ p ∈ line.pieces, IsTidy p := by
  have named : IsName "defs" := by decide
  have arrows : ∀ m ∈ (markers d).toList, ∀ p ∈ m.2.pieces m.1, IsTidy p := by
    rintro ⟨id, m⟩ member
    obtain ⟨e, _, rfl, rfl⟩ := edge_of_marker member
    exact isTidy_marker (isPlain_markerId _ _) _
  unfold definitions
  split
  · exact List.forall_mem_nil _
  · refine List.forall_mem_append.mpr ⟨List.forall_mem_cons.mpr ⟨?_, ?_⟩, ?_⟩
    · exact List.forall_mem_singleton.mpr ⟨named, areTidy_nil⟩
    · exact List.forall_mem_map.mpr arrows
    · exact List.forall_mem_singleton.mpr (List.forall_mem_singleton.mpr named)

theorem isTidy_body (depth : Nat) (d : Drawing Float) :
    ∀ line ∈ body depth d, ∀ p ∈ line.pieces, IsTidy p := by
  induction d generalizing depth with
  | nil => exact List.forall_mem_nil _
  | cons c rest ih =>
    refine List.forall_mem_append.mpr ⟨?_, ih _⟩
    rw [List.forall_mem_map]
    exact isTidy_elements c

theorem isTidy_lines (d : Drawing Float) :
    ∀ line ∈ lines d, ∀ p ∈ line.pieces, IsTidy p := by
  have named : IsName "svg" := by decide
  have opened : IsTidy (root (canvas d)) := by
    simp +decide only [root, IsTidy, areTidy_cons, areTidy_nil, isPlain_append_iff,
      Decimal.isPlain_plain]
  have covered : IsTidy (background (canvas d)) := by
    simp +decide only [background, IsTidy, areTidy_cons, areTidy_nil, Color.isPlain_text]
  refine List.forall_mem_append.mpr ⟨List.forall_mem_append.mpr ⟨List.forall_mem_cons.mpr ⟨?_, ?_⟩,
    List.forall_mem_cons.mpr ⟨?_, isTidy_body 1 d⟩⟩, ?_⟩
  · exact List.forall_mem_singleton.mpr opened
  · exact isTidy_definitions d
  · exact List.forall_mem_singleton.mpr covered
  · exact List.forall_mem_singleton.mpr (List.forall_mem_singleton.mpr named)

theorem isSound_lines (d : Drawing Float) :
    ∀ line ∈ lines d, ∀ p ∈ line.pieces, IsSound p := by
  intro line member p within
  exact (isTidy_lines d line member p within).isSound

end Svg

end Strata
