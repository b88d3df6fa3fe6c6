import Strata.Proofs.StorageCalls

/-! The sizes of PNG files. A surface is measured before anything is drawn on it, and every renderer
that keeps to its surface, the blank one among them, gives a picture of that size. -/
namespace Strata

namespace Raster

namespace Png

theorem number_bigEndian (front rest : ByteArray) {n : Nat} (fits : n < UInt32.size) :
    number (front ++ (bigEndian n.toUInt32 ++ rest)) front.size = n := by
  have four : (front ++ (bigEndian n.toUInt32 ++ rest)).extract front.size (front.size + 4) =
      bigEndian n.toUInt32 :=
    (ByteArray.extract_append_size_add (i := 0) (j := 4)).trans
      (ByteArray.extract_append_eq_left rfl)
  have same : n.toUInt32.toNat = n := UInt32.toNat_ofNat_of_lt' fits
  rw [number, four]
  simp only [bigEndian, List.foldl_cons, List.foldl_nil, UInt32.toNat_toUInt8,
    UInt32.toNat_shiftRight, UInt32.toNat_ofNat, Nat.shiftRight_eq_div_pow, same]
  simp only [Nat.reduceMod, Nat.reducePow, UInt32.size] at *
  omega

/-- What a file begins with in front of the sides: its signature, and the length and the name of the
first chunk. -/
def opening : ByteArray := signature ++ bigEndian 13 ++ "IHDR".toUTF8

theorem extent?_opening {e : Extent} (width : e.width < UInt32.size)
    (height : e.height < UInt32.size) (rest : ByteArray) :
    extent? (opening ++ (bigEndian e.width.toUInt32 ++ (bigEndian e.height.toUInt32 ++ rest))) =
      some e := by
  have long : 24 ≤ (opening ++ (bigEndian e.width.toUInt32 ++
      (bigEndian e.height.toUInt32 ++ rest))).size := by
    have sizes : opening.size = 16 ∧ ∀ n : UInt32, (bigEndian n).size = 4 :=
      ⟨by decide, fun _ => rfl⟩
    simp only [ByteArray.size_append, sizes]
    omega
  have signed : (opening ++ (bigEndian e.width.toUInt32 ++
      (bigEndian e.height.toUInt32 ++ rest))).extract 0 8 = signature := by
    rw [opening, ByteArray.append_assoc, ByteArray.append_assoc]
    exact ByteArray.extract_append_eq_left rfl
  have first := number_bigEndian opening (bigEndian e.height.toUInt32 ++ rest) width
  have second := number_bigEndian (opening ++ bigEndian e.width.toUInt32) rest height
  rw [ByteArray.append_assoc] at second
  rw [extent?, if_neg (not_or.mpr ⟨Nat.not_lt.mpr long, not_not_intro (by rw [signed])⟩)]
  exact congrArg some (congr (congrArg Extent.mk first) second)

theorem extent?_blank {e : Extent} (width : e.width < UInt32.size)
    (height : e.height < UInt32.size) : extent? (blank e) = some e := by
  have opened : ∃ rest, blank e = opening ++
      (bigEndian e.width.toUInt32 ++ (bigEndian e.height.toUInt32 ++ rest)) := by
    simp only [blank, chunk, opening, header, ByteArray.append_assoc]
    exact ⟨_, rfl⟩
  obtain ⟨rest, eq⟩ := opened
  rw [eq, extent?_opening width height]

end Png

instance Renderer.blank_keepsSize : Renderer.blank.KeepsSize where
  extent? width height drawn := by
    cases drawn
    exact Png.extent?_blank width height

/-- A surface that can be allocated, and whose sides fit the fields of a header. -/
structure Extent.IsAllocable (e : Extent) : Prop where
  width_pos : 0 < e.width
  width_le : e.width ≤ widthLimit
  height_pos : 0 < e.height
  height_lt : e.height < UInt32.size

theorem wholePixels_mem (x : Float32) : 0 < wholePixels x ∧ wholePixels x < UInt32.size := by
  have eq : wholePixels x =
      max 1 (min (Decimal.Exact.ofFloat x.toFloat).roundMagnitude 4294967295) := rfl
  rw [UInt32.size]
  omega

theorem surface_cases (dpi : Float) (roots : List Picture.Element) :
    let size? := size? dpi.toFloat32 (embedded? dpi.toFloat32) roots
    (size? = none ∧ surface dpi roots = .error .noSize) ∨
      ∃ size, size? = some size ∧
        (widthLimit < (Extent.ofSize size).width ∧
            surface dpi roots = .error (.tooWide (.ofSize size)) ∨
          (Extent.ofSize size).width ≤ widthLimit ∧ surface dpi roots = .ok (.ofSize size)) := by
  intro size?
  cases sized : size? with
  | none => exact .inl ⟨rfl, by simp only [surface, size?, sized]⟩
  | some size =>
    refine .inr ⟨size, rfl, ?_⟩
    by_cases wide : widthLimit < (Extent.ofSize size).width
    · exact .inl ⟨wide, by simp only [surface, size?, sized, if_pos wide]⟩
    · exact .inr ⟨Nat.not_lt.mp wide, by simp only [surface, size?, sized, if_neg wide]⟩

theorem isAllocable_of_surface {dpi : Float} {roots : List Picture.Element} {e : Extent}
    (measured : surface dpi roots = .ok e) : e.IsAllocable := by
  rcases surface_cases dpi roots with ⟨-, eq⟩ | ⟨size, -, ⟨-, eq⟩ | ⟨narrow, eq⟩⟩
  all_goals cases eq.symm.trans measured
  exact ⟨(wholePixels_mem _).1, narrow, (wholePixels_mem _).1, (wholePixels_mem _).2⟩

theorem render_eq_ok_iff [Renderer] {dpi : Float} {svg : String} {bytes : ByteArray} :
    render dpi svg = .ok bytes ↔ ∃ roots e, picture svg = .ok roots ∧ surface dpi roots = .ok e ∧
      Renderer.render dpi roots e = .ok bytes := by
  simp only [render, bind_eq_ok_iff, mapError_eq_ok_iff, exists_and_left]

/-- A file that comes of a document has the size for which the document was measured. -/
theorem rasterize_extent [Renderer] [Renderer.KeepsSize] {dpi : Float} {svg : String}
    {bytes : ByteArray} (drawn : rasterize dpi svg = .ok bytes) :
    ∃ roots e, picture svg = .ok roots ∧ surface dpi roots = .ok e ∧ e.IsAllocable ∧
      Png.extent? bytes = some e := by
  obtain ⟨roots, e, read, measured, written⟩ :=
    render_eq_ok_iff.mp (mapError_eq_ok_iff.mp drawn)
  have allocable := isAllocable_of_surface measured
  have width : e.width < UInt32.size := Nat.lt_of_le_of_lt allocable.width_le (by decide)
  exact ⟨roots, e, read, measured, allocable,
    Renderer.KeepsSize.extent? width allocable.height_lt written⟩

theorem picture_ne_notWritten {svg reason : String} : picture svg ≠ .error (.notWritten reason) := by
  intro failed
  unfold picture at failed
  split at failed
  · split at failed
    · split at failed <;> cases failed
    · cases failed
  · cases failed

theorem surface_ne_notWritten {dpi : Float} {roots : List Picture.Element} {reason : String} :
    surface dpi roots ≠ .error (.notWritten reason) := by
  intro failed
  rcases surface_cases dpi roots with ⟨-, eq⟩ | ⟨size, -, ⟨-, eq⟩ | ⟨-, eq⟩⟩
  all_goals cases eq.symm.trans failed

/-- A renderer is asked once its surface is measured, and only its own refusal tells of a file that
could not be written. -/
theorem render_eq_notWritten_iff [Renderer] {dpi : Float} {svg reason : String} :
    render dpi svg = .error (.notWritten reason) ↔ ∃ roots e, picture svg = .ok roots ∧
      surface dpi roots = .ok e ∧ Renderer.render dpi roots e = .error reason := by
  simp only [render, bind_eq_error_iff, mapError_eq_error_iff, picture_ne_notWritten,
    surface_ne_notWritten, false_or, Defect.notWritten.injEq, exists_eq_right, exists_and_left]

end Raster

theorem Scene.image_png_extent [Raster.Renderer] [Raster.Renderer.KeepsSize] {s : Scene Float}
    {f : Figure Float} {bytes : ByteArray} (drawn : s.image f .png = .ok bytes) :
    ∃ roots e, Raster.picture (s.svg f) = .ok roots ∧ Raster.surface f.dpi roots = .ok e ∧
      Raster.Png.extent? bytes = some e := by
  rw [image, png] at drawn
  obtain ⟨roots, e, read, measured, -, size⟩ := Raster.rasterize_extent drawn
  exact ⟨roots, e, read, measured, size⟩

end Strata
