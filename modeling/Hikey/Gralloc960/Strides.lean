import Hikey.Foundation.CheckedInt
import Hikey.Gralloc960.BufferSize

/-!
# Strides of uncompressed buffers (`mali_gralloc_bufferallocation.cpp`)

The stride in bytes is rounded up on its own, so that it is the stride in pixels times the size of a
pixel for some remainders of the width only.  The computations of `Hikey.Gralloc960.BufferSize` wrap
around; here they are also carried out in the type `int`, where an overflow is no result.
-/

namespace Hikey

/-! ## The source, without overflow -/

/-- What a helper computes, as numbers. -/
structure CheckedStride where
  pixelStride : ℕ
  byteStride : ℕ
  size : ℕ

/-- The stride of rows of `width` pixels. -/
def checkedStride (base width bytes : ℕ) : Option ℕ := do
  let stride ← intOf (width * bytes)
  intAlign base stride

/-- `get_rgb_stride_and_size`, uncompressed. -/
def checkedRgb (width height pixelSize : ℕ) : Option CheckedStride := do
  let stride ← checkedStride 64 width pixelSize
  let size ← intOf (stride * height)
  return ⟨stride / pixelSize, stride, size⟩

/-- The packed formats. -/
def checkedPacked (width height bytes : ℕ) : Option CheckedStride := do
  let pixelStride ← intAlign 128 width
  let stride ← checkedStride 128 width bytes
  let size ← intOf (stride * height)
  return ⟨pixelStride, stride, size⟩

/-- The height that `get_yuv_pX10_stride_and_size` goes on with. -/
def checkedHeight (vss height : ℕ) : Option ℕ := if vss = 2 then intAlign 2 height else some height

/-- `get_yuv_pX10_stride_and_size`. -/
def checkedPX10 (width height vss : ℕ) : Option CheckedStride := do
  let h ← checkedHeight vss height
  let pixelStride ← intAlign 128 width
  let stride ← checkedStride 128 width 2
  let chroma ← intOf (stride * (h / vss))
  let luma ← intOf (stride * h)
  let size ← intOf (luma + chroma)
  return ⟨pixelStride, stride, size⟩

/-- `get_yuv_y0l2_stride_and_size`. -/
def checkedY0l2 (width height : ℕ) : Option CheckedStride := do
  let h ← intAlign 2 height
  let pixelStride ← intAlign 128 width
  let stride ← checkedStride 128 width 4
  let size ← intOf (stride * h)
  return ⟨pixelStride, stride, size / 2⟩

/-- The formats without AFBC whose strides are computed so. -/
inductive PlainFormat
  | rgb8888
  | rgb888
  | rgb565
  | yuv422
  | p010
  | p210
  | y210
  | y0l2
  | y410
deriving DecidableEq, Repr

/-- The helper of a format. -/
def PlainFormat.strideAndSize (f : PlainFormat) (width height : U32) : Option StrideAndSize :=
  match f with
  | .rgb8888 => some (getRgbStrideAndSize width height 4 .uncompressed)
  | .rgb888 => some (getRgbStrideAndSize width height 3 .uncompressed)
  | .rgb565 => some (getRgbStrideAndSize width height 2 .uncompressed)
  | .yuv422 => some (getYuv422StrideAndSize width height)
  | .p010 => getYuvPX10StrideAndSize width height 2
  | .p210 => getYuvPX10StrideAndSize width height 1
  | .y210 => some (getYuvY210StrideAndSize width height)
  | .y0l2 => some (getYuvY0l2StrideAndSize width height)
  | .y410 => some (getYuvY410StrideAndSize width height)

/-- The helper of a format, without overflow. -/
def PlainFormat.checked (f : PlainFormat) (width height : ℕ) : Option CheckedStride :=
  match f with
  | .rgb8888 => checkedRgb width height 4
  | .rgb888 => checkedRgb width height 3
  | .rgb565 => checkedRgb width height 2
  | .yuv422 => checkedPacked width height 2
  | .p010 => checkedPX10 width height 2
  | .p210 => checkedPX10 width height 1
  | .y210 | .y410 => checkedPacked width height 4
  | .y0l2 => checkedY0l2 width height

/-! ## What the strides are for -/

/-- The bytes of a pixel in a row of the first plane. -/
def PlainFormat.bytes : PlainFormat → ℕ
  | .rgb8888 | .y210 | .y0l2 | .y410 => 4
  | .rgb888 => 3
  | .rgb565 | .yuv422 | .p010 | .p210 => 2

/-- The rows of the first plane in memory; those of `Y0L2` hold two rows of pixels. -/
def PlainFormat.rows (f : PlainFormat) (height : ℕ) : ℕ :=
  match f with
  | .p010 => alignUp 2 height
  | .y0l2 => alignUp 2 height / 2
  | _ => height

/-- The rows of the other planes. -/
def PlainFormat.otherRows (f : PlainFormat) (height : ℕ) : ℕ :=
  match f with
  | .p010 => alignUp 2 height / 2
  | .p210 => height
  | _ => 0

/-- The strides of a buffer belong together and its size covers all planes, and nothing has
overflowed. -/
structure StridesExact (f : PlainFormat) (width height : ℕ) : Prop where
  noOverflow : (f.checked width height).isSome
  relation : ∀ s, f.strideAndSize (intWord width) (intWord height) = some s →
    s.byteStride.toNat = s.pixelStride.toNat * f.bytes
  covers : ∀ s, f.strideAndSize (intWord width) (intWord height) = some s →
    width * f.bytes ≤ s.byteStride.toNat
  size : ∀ s, f.strideAndSize (intWord width) (intWord height) = some s →
    s.byteStride.toNat * f.rows height + s.byteStride.toNat * f.otherRows height ≤ s.size.toNat

/-- What rows are rounded up to. -/
def PlainFormat.base : PlainFormat → ℕ
  | .rgb8888 | .rgb888 | .rgb565 => 64
  | _ => 128

/-- The rows that the size is computed from; those of `Y0L2` are counted twice before a division by
two. -/
def PlainFormat.countedRows (f : PlainFormat) (height : ℕ) : ℕ :=
  match f with
  | .p010 => alignUp 2 height + alignUp 2 height / 2
  | .p210 => height + height
  | .y0l2 => alignUp 2 height
  | _ => height

/-- The remainder of the width makes the rounded number of bytes that of the rounded number of
pixels. -/
def PlainFormat.FitsRemainder (f : PlainFormat) (width : ℕ) : Prop :=
  f = .rgb8888 ∨ f = .rgb565 ∨ width % f.base = 0 ∨
    f.base * (f.bytes - 1) < width % f.base * f.bytes

instance (f : PlainFormat) (width : ℕ) : Decidable (f.FitsRemainder width) :=
  inferInstanceAs (Decidable (_ ∨ _ ∨ _ ∨ _))

/-! ## When nothing overflows -/

section Checked

variable {base width height bytes vss stride : ℕ} {s : CheckedStride}

lemma checkedStride_eq_some :
    checkedStride base width bytes = some stride ↔
      width * bytes + (base - 1) < 2 ^ 31 ∧ alignUp base (width * bytes) = stride := by
  simp only [checkedStride, Option.bind_eq_bind, Option.bind_eq_some_iff, intOf_eq_some,
    intAlign_eq_some]
  constructor
  · rintro ⟨n, ⟨-, rfl⟩, hadd, halign⟩
    exact ⟨hadd, halign⟩
  · rintro ⟨hadd, halign⟩
    exact ⟨_, ⟨by omega, rfl⟩, hadd, halign⟩

/-- A product of the stride with some rows is only a number if the stride is. -/
lemma stride_fits (hbase : 0 < base) (hdvd : base ∣ 2 ^ 31) {rows : ℕ} (hrows : 0 < rows)
    (h : alignUp base (width * bytes) * rows < 2 ^ 31) : width * bytes + (base - 1) < 2 ^ 31 := by
  refine add_lt_of_alignUp_lt hbase hdvd (lt_of_le_of_lt ?_ h)
  exact Nat.le_mul_of_pos_right _ hrows

lemma checkedRgb_eq_some (hheight : 0 < height) :
    checkedRgb width height bytes = some s ↔ alignUp 64 (width * bytes) * height < 2 ^ 31 ∧
      s = ⟨alignUp 64 (width * bytes) / bytes, alignUp 64 (width * bytes),
        alignUp 64 (width * bytes) * height⟩ := by
  simp only [checkedRgb, Option.bind_eq_bind, Option.bind_eq_some_iff, checkedStride_eq_some,
    intOf_eq_some,
    Option.pure_def, Option.some.injEq]
  constructor
  · rintro ⟨_, ⟨-, rfl⟩, _, ⟨hsize, rfl⟩, rfl⟩
    exact ⟨hsize, rfl⟩
  · rintro ⟨hsize, rfl⟩
    exact ⟨_, ⟨stride_fits (by decide) (by decide) hheight hsize, rfl⟩, _, ⟨hsize, rfl⟩, rfl⟩

lemma checkedPacked_eq_some (hbytes : 0 < bytes) (hheight : 0 < height) :
    checkedPacked width height bytes = some s ↔ alignUp 128 (width * bytes) * height < 2 ^ 31 ∧
      s = ⟨alignUp 128 width, alignUp 128 (width * bytes),
        alignUp 128 (width * bytes) * height⟩ := by
  simp only [checkedPacked, Option.bind_eq_bind, Option.bind_eq_some_iff, intAlign_eq_some,
    checkedStride_eq_some,
    intOf_eq_some, Option.pure_def, Option.some.injEq]
  constructor
  · rintro ⟨_, ⟨-, rfl⟩, _, ⟨-, rfl⟩, _, ⟨hsize, rfl⟩, rfl⟩
    exact ⟨hsize, rfl⟩
  · rintro ⟨hsize, rfl⟩
    have hfits := stride_fits (by decide) (by decide) hheight hsize
    have hle : width ≤ width * bytes := Nat.le_mul_of_pos_right _ hbytes
    exact ⟨_, ⟨by omega, rfl⟩, _, ⟨hfits, rfl⟩, _, ⟨hsize, rfl⟩, rfl⟩

lemma alignUp_two_fits (hwidth : 0 < width) (hbytes : 0 < bytes)
    (h : alignUp 128 (width * bytes) * alignUp 2 height < 2 ^ 31) : height + 1 < 2 ^ 31 := by
  have hstride : 128 ≤ alignUp 128 (width * bytes) := by
    have hle := le_alignUp (n := width * bytes) (by decide : 0 < 128)
    obtain ⟨q, hq⟩ := dvd_alignUp 128 (width * bytes)
    have hpos : 0 < width * bytes := Nat.mul_pos hwidth hbytes
    omega
  have hle := le_alignUp (n := height) (by decide : 0 < 2)
  have hprod : 128 * height ≤ alignUp 128 (width * bytes) * alignUp 2 height :=
    Nat.mul_le_mul hstride hle
  omega

/-- The height of a format of which two rows share their chroma samples. -/
lemma checkedPX10_eq_some (hwidth : 0 < width) (hheight : 0 < height) (hvss : vss = 1 ∨ vss = 2) :
    checkedPX10 width height vss = some s ↔
      alignUp 128 (width * 2) * (alignUp vss height + alignUp vss height / vss) < 2 ^ 31 ∧
      s = ⟨alignUp 128 width, alignUp 128 (width * 2),
        alignUp 128 (width * 2) * (alignUp vss height + alignUp vss height / vss)⟩ := by
  have hone : alignUp 1 height = height := alignUp_of_dvd (by decide) (one_dvd _)
  have hh (h : ℕ) : checkedHeight vss height = some h ↔
      (vss = 2 → height + 1 < 2 ^ 31) ∧ alignUp vss height = h := by
    rcases hvss with rfl | rfl
    · simp [checkedHeight, hone]
    · simp [checkedHeight, intAlign_eq_some]
  simp only [checkedPX10, Option.bind_eq_bind, Option.bind_eq_some_iff, hh, intAlign_eq_some,
    checkedStride_eq_some,
    intOf_eq_some, Option.pure_def, Option.some.injEq]
  constructor
  · rintro ⟨_, ⟨-, rfl⟩, _, ⟨-, rfl⟩, _, ⟨-, rfl⟩, _, ⟨-, rfl⟩, _, ⟨-, rfl⟩, _, ⟨hsize, rfl⟩, rfl⟩
    exact ⟨by rwa [Nat.mul_add], by rw [Nat.mul_add]⟩
  · rintro ⟨hsize, rfl⟩
    rw [Nat.mul_add] at hsize
    have hle : height ≤ alignUp vss height := le_alignUp (by omega)
    have hluma : alignUp 128 (width * 2) * alignUp vss height < 2 ^ 31 := by omega
    have hfits := stride_fits (by decide) (by decide) (by omega : 0 < alignUp vss height) hluma
    refine ⟨_, ⟨?_, rfl⟩, _, ⟨by omega, rfl⟩, _, ⟨hfits, rfl⟩, _, ⟨by omega, rfl⟩, _, ⟨hluma, rfl⟩,
      _, ⟨hsize, rfl⟩,
      by rw [Nat.mul_add]⟩
    rintro rfl
    exact alignUp_two_fits hwidth (by decide) hluma

lemma checkedY0l2_eq_some (hwidth : 0 < width) (hheight : 0 < height) :
    checkedY0l2 width height = some s ↔ alignUp 128 (width * 4) * alignUp 2 height < 2 ^ 31 ∧
      s = ⟨alignUp 128 width, alignUp 128 (width * 4),
        alignUp 128 (width * 4) * alignUp 2 height / 2⟩ := by
  simp only [checkedY0l2, Option.bind_eq_bind, Option.bind_eq_some_iff, intAlign_eq_some,
    checkedStride_eq_some,
    intOf_eq_some, Option.pure_def, Option.some.injEq]
  constructor
  · rintro ⟨_, ⟨-, rfl⟩, _, ⟨-, rfl⟩, _, ⟨-, rfl⟩, _, ⟨hsize, rfl⟩, rfl⟩
    exact ⟨hsize, rfl⟩
  · rintro ⟨hsize, rfl⟩
    have hle : height ≤ alignUp 2 height := le_alignUp (by decide)
    have hfits := stride_fits (by decide) (by decide) (by omega : 0 < alignUp 2 height) hsize
    exact ⟨_, ⟨alignUp_two_fits hwidth (by decide) hsize, rfl⟩, _, ⟨by omega, rfl⟩, _, ⟨hfits, rfl⟩,
      _, ⟨hsize, rfl⟩,
      rfl⟩

end Checked

/-! ## The words of the code -/

section Words

variable {base width height bytes : ℕ} {s : CheckedStride}

/-- The word of a rounded number; `a` is the base in the code. -/
lemma grallocAlign_eq (k base : ℕ) (a : U32) {n : ℕ} (hk : k < 31) (hbase : base = 2 ^ k)
    (ha : a = intWord base)
    (hn : n + (base - 1) < 2 ^ 31) : grallocAlign (intWord n) a = intWord (alignUp base n) := by
  subst hbase ha
  exact intWord_align hk hn

lemma alignUp_lt {n : ℕ} (hn : n + (base - 1) < 2 ^ 31) : alignUp base n < 2 ^ 31 :=
  lt_of_le_of_lt (alignUp_le base n) hn

/-- The words of what a helper computes. -/
def CheckedStride.words (s : CheckedStride) : StrideAndSize :=
  ⟨intWord s.pixelStride, intWord s.byteStride, intToSize (intWord s.size)⟩

lemma getRgbStrideAndSize_checked (hbytes : bytes < 2 ^ 31)
    (h : checkedRgb width height bytes = some s) :
    getRgbStrideAndSize (intWord width) (intWord height)
      (intWord bytes) .uncompressed = s.words := by
  simp only [checkedRgb, Option.bind_eq_bind, Option.bind_eq_some_iff, checkedStride_eq_some,
    intOf_eq_some,
    Option.pure_def, Option.some.injEq] at h
  obtain ⟨_, ⟨hstride, rfl⟩, _, ⟨hsize, rfl⟩, rfl⟩ := h
  simp only [getRgbStrideAndSize, CheckedStride.words, intWord_mul,
    grallocAlign_eq 6 64 64 (by decide) rfl rfl hstride, intWord_sdiv (alignUp_lt hstride) hbytes]

lemma getPackedStrideAndSize_checked (h : checkedPacked width height bytes = some s) :
    getPackedStrideAndSize (intWord width) (intWord height) (intWord bytes) = s.words := by
  simp only [checkedPacked, Option.bind_eq_bind, Option.bind_eq_some_iff, intAlign_eq_some,
    checkedStride_eq_some,
    intOf_eq_some, Option.pure_def, Option.some.injEq] at h
  obtain ⟨_, ⟨hpixel, rfl⟩, _, ⟨hstride, rfl⟩, _, ⟨hsize, rfl⟩, rfl⟩ := h
  simp only [getPackedStrideAndSize, CheckedStride.words, intWord_mul,
    grallocAlign_eq 7 128 128 (by decide) rfl rfl hpixel,
      grallocAlign_eq 7 128 128 (by decide) rfl rfl hstride]

lemma getYuvPX10StrideAndSize_checked {vss : ℕ} (hvss : vss = 1 ∨ vss = 2)
    (h : checkedPX10 width height vss = some s) (hheight : height < 2 ^ 31) :
    getYuvPX10StrideAndSize (intWord width) (intWord height) (intWord vss) = some s.words := by
  simp only [checkedPX10, Option.bind_eq_bind, Option.bind_eq_some_iff, intAlign_eq_some,
    checkedStride_eq_some,
    intOf_eq_some, Option.pure_def, Option.some.injEq] at h
  obtain ⟨h', hh', _, ⟨hpixel, rfl⟩, _, ⟨hstride, rfl⟩, _, ⟨hchroma, rfl⟩, _, ⟨hluma, rfl⟩, _,
    ⟨hsize, rfl⟩, rfl⟩ := h
  have hrow : intWord width * 2 = intWord (width * 2) := intWord_mul width 2
  rcases hvss with rfl | rfl
  · obtain rfl : height = h' := by simpa [checkedHeight] using hh'
    have hguard : ¬((intWord 1).slt 1 ∨ (2 : U32).slt (intWord 1)) := by decide
    have hone : intWord 1 ≠ 2 := by decide
    simp only [getYuvPX10StrideAndSize, hguard, if_false, hone, hrow,
      grallocAlign_eq 7 128 128 (by decide) rfl rfl hpixel, grallocAlign_eq 7 128 128 (by decide)
        rfl rfl hstride,
      intWord_sdiv hheight (by decide : 1 < 2 ^ 31), intWord_mul, intWord_add, CheckedStride.words]
  · obtain ⟨hadd, rfl⟩ : height + 1 < 2 ^ 31 ∧ alignUp 2 height = h' := by
      simpa [checkedHeight, intAlign_eq_some] using hh'
    have hguard : ¬((2 : U32).slt 1 ∨ (2 : U32).slt 2) := by decide
    have htwo : intWord 2 = 2 := rfl
    have hhalf : (intWord (alignUp 2 height)).sdiv 2 = intWord (alignUp 2 height / 2) :=
      intWord_sdiv (alignUp_lt hadd) (by decide : 2 < 2 ^ 31)
    simp only [getYuvPX10StrideAndSize, hguard, if_false, htwo, if_true, hrow,
      grallocAlign_eq 1 2 2 (by decide) rfl rfl hadd, grallocAlign_eq 7 128 128 (by decide)
        rfl rfl hpixel,
      grallocAlign_eq 7 128 128 (by decide) rfl rfl hstride, hhalf, intWord_mul, intWord_add,
        CheckedStride.words]

lemma getYuvY0l2StrideAndSize_checked (h : checkedY0l2 width height = some s) :
    getYuvY0l2StrideAndSize (intWord width) (intWord height) = s.words := by
  simp only [checkedY0l2, Option.bind_eq_bind, Option.bind_eq_some_iff, intAlign_eq_some,
    checkedStride_eq_some,
    intOf_eq_some, Option.pure_def, Option.some.injEq] at h
  obtain ⟨_, ⟨hheight, rfl⟩, _, ⟨hpixel, rfl⟩, _, ⟨hstride, rfl⟩, _, ⟨hsize, rfl⟩, rfl⟩ := h
  have hrow : intWord width * 4 = intWord (width * 4) := intWord_mul width 4
  have hhalf : (intWord (alignUp 128 (width * 4) * alignUp 2 height)).sdiv 2 =
      intWord (alignUp 128 (width * 4) * alignUp 2 height / 2) :=
        intWord_sdiv hsize (by decide : 2 < 2 ^ 31)
  simp only [getYuvY0l2StrideAndSize, CheckedStride.words, hrow,
    grallocAlign_eq 1 2 2 (by decide) rfl rfl hheight, grallocAlign_eq 7 128 128 (by decide)
      rfl rfl hpixel,
    grallocAlign_eq 7 128 128 (by decide) rfl rfl hstride, intWord_mul, hhalf]

/-- Where nothing overflows, the helper of a format computes the same numbers. -/
lemma PlainFormat.strideAndSize_checked {f : PlainFormat} (h : f.checked width height = some s)
    (hheight : height < 2 ^ 31) :
    f.strideAndSize (intWord width) (intWord height) = some s.words := by
  cases f with
  | rgb8888 => exact congrArg some (getRgbStrideAndSize_checked (by decide) h)
  | rgb888 => exact congrArg some (getRgbStrideAndSize_checked (by decide) h)
  | rgb565 => exact congrArg some (getRgbStrideAndSize_checked (by decide) h)
  | yuv422 => exact congrArg some (getPackedStrideAndSize_checked h)
  | p010 => exact getYuvPX10StrideAndSize_checked (.inr rfl) h hheight
  | p210 => exact getYuvPX10StrideAndSize_checked (.inl rfl) h hheight
  | y210 => exact congrArg some (getPackedStrideAndSize_checked h)
  | y0l2 => exact congrArg some (getYuvY0l2StrideAndSize_checked h)
  | y410 => exact congrArg some (getPackedStrideAndSize_checked h)

end Words

/-! ## Strides of a format -/

section Format

variable {f : PlainFormat} {width height : ℕ} {s : CheckedStride}

/-- The stride in pixels: of RGB a quotient, of the other formats rounded up on its own. -/
def PlainFormat.pixelStride (f : PlainFormat) (width : ℕ) : ℕ :=
  match f with
  | .rgb8888 | .rgb888 | .rgb565 => alignUp 64 (width * f.bytes) / f.bytes
  | _ => alignUp 128 width

/-- The bytes that are counted, of which `Y0L2` takes half. -/
def PlainFormat.counted (f : PlainFormat) (width height : ℕ) : ℕ :=
  alignUp f.base (width * f.bytes) * f.countedRows height

/-- The size of a buffer. -/
def PlainFormat.idealSize (f : PlainFormat) (width height : ℕ) : ℕ :=
  match f with
  | .y0l2 => f.counted width height / 2
  | _ => f.counted width height

lemma PlainFormat.bytes_pos (f : PlainFormat) : 0 < f.bytes := by
  cases f <;> decide

/-- A helper goes through exactly if the counted bytes are a number of type `int`. -/
lemma PlainFormat.checked_eq_some (hwidth : 0 < width) (hheight : 0 < height) :
    f.checked width height = some s ↔ f.counted width height < 2 ^ 31 ∧
      s = ⟨f.pixelStride width, alignUp f.base (width * f.bytes), f.idealSize width height⟩ := by
  cases f with
  | rgb8888 => exact checkedRgb_eq_some hheight
  | rgb888 => exact checkedRgb_eq_some hheight
  | rgb565 => exact checkedRgb_eq_some hheight
  | yuv422 => exact checkedPacked_eq_some (by decide) hheight
  | p010 => exact checkedPX10_eq_some hwidth hheight (.inr rfl)
  | p210 =>
    have hone : alignUp 1 height = height := alignUp_of_dvd (by decide) (one_dvd _)
    have h := checkedPX10_eq_some (s := s) hwidth hheight (.inl rfl)
    rw [hone, Nat.div_one] at h
    exact h
  | y210 => exact checkedPacked_eq_some (by decide) hheight
  | y0l2 => exact checkedY0l2_eq_some hwidth hheight
  | y410 => exact checkedPacked_eq_some (by decide) hheight

/-- Three bytes for each pixel: the rounded row is one of whole pixels exactly if it is the row of
the rounded width. -/
lemma three_dvd_alignUp_iff : 3 ∣ alignUp 64 (width * 3) ↔ alignUp 64
    (width * 3) = alignUp 64 width * 3 := by
  constructor
  · rintro ⟨c, hc⟩
    have h64 : 64 ∣ c := by
      have hdvd := dvd_alignUp 64 (width * 3)
      rw [hc] at hdvd
      exact (by decide : Nat.Coprime 64 3).dvd_of_dvd_mul_left hdvd
    have hle := le_alignUp (n := width * 3) (by decide : 0 < 64)
    have hlow : alignUp 64 width ≤ c := alignUp_le_of_dvd (by decide) h64 (by omega)
    have hhigh : alignUp 64 (width * 3) ≤ alignUp 64 width * 3 :=
      alignUp_le_of_dvd (by decide) ((dvd_alignUp 64 width).mul_right 3)
        (Nat.mul_le_mul_right 3 (le_alignUp (by decide)))
    omega
  · intro h
    exact ⟨alignUp 64 width, by rw [h, Nat.mul_comm]⟩

/-- The strides belong together exactly for some remainders of the width. -/
lemma PlainFormat.relation_iff :
    alignUp f.base (width * f.bytes) = f.pixelStride width * f.bytes ↔ f.FitsRemainder width := by
  have hwhole {b : ℕ} (hb : b ∣ 64) : alignUp 64 (width * b) = alignUp 64 (width * b) / b * b :=
    (Nat.div_mul_cancel (hb.trans (dvd_alignUp 64 _))).symm
  have hmul (b : ℕ) (hb : 0 < b) := alignUp_mul_iff (n := width) (by decide : 0 < 128) hb
  cases f with
  | rgb8888 => exact iff_of_true (hwhole (by decide)) (.inl rfl)
  | rgb565 => exact iff_of_true (hwhole (by decide)) (.inr (.inl rfl))
  | rgb888 =>
    have hthree : alignUp 64 (width * 3) = alignUp 64 (width * 3) / 3 * 3 ↔
        3 ∣ alignUp 64 (width * 3) :=
      ⟨fun h => Dvd.intro_left _ h.symm, fun h => (Nat.div_mul_cancel h).symm⟩
    have h := (hthree.trans three_dvd_alignUp_iff).trans (alignUp_mul_iff (by decide) (by decide))
    simp only [PlainFormat.FitsRemainder, reduceCtorEq, false_or]
    exact h
  | yuv422 | p010 | p210 =>
    simp only [PlainFormat.FitsRemainder, reduceCtorEq, false_or]
    exact hmul 2 (by decide)
  | y210 | y0l2 | y410 =>
    simp only [PlainFormat.FitsRemainder, reduceCtorEq, false_or]
    exact hmul 4 (by decide)

/-- The size is that of all rows in memory. -/
lemma PlainFormat.idealSize_eq (f : PlainFormat) (width height : ℕ) :
    f.idealSize width height = alignUp f.base
      (width * f.bytes) * (f.rows height + f.otherRows height) := by
  cases f with
  | y0l2 =>
    obtain ⟨q, hq⟩ := dvd_alignUp 2 height
    simp only [PlainFormat.idealSize, PlainFormat.counted, PlainFormat.countedRows,
      PlainFormat.rows,
      PlainFormat.otherRows, hq, Nat.add_zero]
    rw [Nat.mul_left_comm, Nat.mul_div_cancel_left _ (by decide),
      Nat.mul_div_cancel_left _ (by decide)]
  | _ => rfl

lemma PlainFormat.height_le (f : PlainFormat) (height : ℕ) : height ≤ f.countedRows height := by
  have hle := le_alignUp (n := height) (by decide : 0 < 2)
  cases f <;> simp only [PlainFormat.countedRows] <;> omega

lemma PlainFormat.stride_pos (hwidth : 0 < width) : 0 < alignUp f.base (width * f.bytes) := by
  have hbase : 0 < f.base := by cases f <;> decide
  exact lt_of_lt_of_le (Nat.mul_pos hwidth f.bytes_pos) (le_alignUp hbase)

lemma PlainFormat.pixelStride_le (f : PlainFormat) (width : ℕ) :
    f.pixelStride width ≤ alignUp f.base (width * f.bytes) := by
  have hle : alignUp 128 width ≤ alignUp 128 (width * f.bytes) :=
    alignUp_mono (by decide) (Nat.le_mul_of_pos_right _ f.bytes_pos)
  cases f <;> first | exact hle | exact Nat.div_le_self _ _

/-- What the words of the code are, where nothing overflows. -/
lemma PlainFormat.strideAndSize_eq (hwidth : 0 < width) (hheight : 0 < height)
    (hcounted : f.counted width height < 2 ^ 31) :
    ∃ s, f.strideAndSize (intWord width) (intWord height) = some s ∧
      s.pixelStride.toNat = f.pixelStride width ∧
      s.byteStride.toNat = alignUp f.base (width * f.bytes) ∧
        s.size.toNat = f.idealSize width height := by
  have hpos := PlainFormat.stride_pos (f := f) hwidth
  have hrows := f.height_le height
  have hle : alignUp f.base (width * f.bytes) ≤ f.counted width height :=
    Nat.le_mul_of_pos_right _ (by omega)
  have hheight' : height ≤ f.counted width height :=
    hrows.trans (Nat.le_mul_of_pos_left _ hpos)
  have hpixel := f.pixelStride_le width
  have hsize : f.idealSize width height ≤ f.counted width height := by
    cases f <;> first | exact le_rfl | exact Nat.div_le_self _ _
  refine ⟨_, PlainFormat.strideAndSize_checked
    ((PlainFormat.checked_eq_some hwidth hheight).mpr ⟨hcounted, rfl⟩)
    (by omega), ?_, ?_, ?_⟩
  · exact toNat_intWord (n := f.pixelStride width) (by omega)
  · exact toNat_intWord (n := alignUp f.base (width * f.bytes)) (by omega)
  · exact signExtend_intWord (n := f.idealSize width height) (by omega)

/-- The strides and the size of an uncompressed buffer are right exactly if the bytes that are
counted are a number of type `int` and the remainder of the width fits the size of a pixel. -/
theorem strides_exact_iff (f : PlainFormat) (width height : ℕ) (hwidth : 0 < width)
    (hheight : 0 < height) :
    StridesExact f width height ↔
      alignUp f.base (width * f.bytes) * f.countedRows height < 2 ^ 31 ∧ f.FitsRemainder width := by
  constructor
  · intro hexact
    obtain ⟨s, hs⟩ := Option.isSome_iff_exists.mp hexact.noOverflow
    have hcounted := ((PlainFormat.checked_eq_some hwidth hheight).mp hs).1
    obtain ⟨s, hs, hpixel, hbyte, -⟩ := PlainFormat.strideAndSize_eq hwidth hheight hcounted
    have hrelation := hexact.relation s hs
    rw [hpixel, hbyte] at hrelation
    exact ⟨hcounted, PlainFormat.relation_iff.mp hrelation⟩
  · rintro ⟨hcounted, hfits⟩
    obtain ⟨s, hs, hpixel, hbyte, hsize⟩ := PlainFormat.strideAndSize_eq hwidth hheight hcounted
    have hunique {s' : StrideAndSize}
        (hs' : f.strideAndSize (intWord width) (intWord height) = some s') : s' = s :=
      Option.some.inj (hs'.symm.trans hs)
    have hbase : 0 < f.base := by cases f <;> decide
    refine ⟨?_, fun s' hs' => ?_, fun s' hs' => ?_, fun s' hs' => ?_⟩
    · rw [(PlainFormat.checked_eq_some hwidth hheight).mpr ⟨hcounted, rfl⟩]
      rfl
    · rw [hunique hs', hpixel, hbyte, PlainFormat.relation_iff.mpr hfits]
    · rw [hunique hs', hbyte]
      exact le_alignUp hbase
    · rw [hunique hs', hbyte, hsize, f.idealSize_eq, Nat.mul_add]

end Format

/-- One pixel of `RGB_888` in a row: the stride of 64 bytes is not one of whole pixels. -/
theorem strides_rgb888_fails :
    ¬∀ (f : PlainFormat) (width height : ℕ), 0 < width → 0 < height →
      StridesExact f width height := by
  intro h
  have hrelation := (h .rgb888 1 1 (by decide) (by decide)).relation _ rfl
  exact absurd hrelation (by decide)

/-- An image in high definition. -/
theorem strides_exact_hd : StridesExact .rgb888 1920 1080 :=
  (strides_exact_iff .rgb888 1920 1080 (by decide) (by decide)).mpr ⟨by decide, by decide⟩

end Hikey
