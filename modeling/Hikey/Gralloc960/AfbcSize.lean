import Hikey.Gralloc960.Strides

/-!
# Headers of compressed buffers (`mali_gralloc_bufferallocation.cpp`)

A compressed buffer starts with a header of 16 bytes for every block of 16 times 16 pixels.  All
functions take the body and the blocks of the aligned surface, except for the one for 10-bit 4:2:0:
it aligns half of the rows, which loses an odd one, and counts the blocks of the rows as they are.
-/

namespace Hikey

/-! ## The source, without overflow -/

/-- The alignments of width, height and body for RGB. -/
def rgbAfbcAlign : AllocType → Option (ℕ × ℕ × ℕ)
  | .uncompressed => none
  | .afbcTiledHeadersBasic => some (128, 128, 4096)
  | .afbcTiledHeadersWideblk => some (256, 64, 4096)
  | .afbcPadded => some (64, 16, 1024)
  | .afbcWideblk => some (32, 16, 1024)
  | .afbc => some (16, 16, 1024)

/-- The alignments of width, height and body for YUV. -/
def yuvAfbcAlign : AllocType → Option (ℕ × ℕ × ℕ)
  | .afbcPadded => none
  | type => rgbAfbcAlign type

/-- The size of a body and of the header for the blocks of `w` times `h` pixels. -/
def checkedAfbcSize (alignment w h body : ℕ) : Option ℕ := do
  let blocks ← intOf (w / 16 * h)
  let bytes ← intOf (blocks / 16 * 16)
  let header ← intAlign alignment bytes
  intOf (body + header)

/-- The internal height. -/
def checkedVideoHeight (video : Bool) (height : ℕ) : Option ℕ :=
  if video then intOf (height + 16) else some height

/-- The size in `get_rgb_stride_and_size`, compressed. -/
def checkedAfbcRgb (pixelSize width height : ℕ) (type : AllocType) : Option ℕ := do
  let stride ← checkedStride 64 width pixelSize
  let _ ← intOf (stride * height)
  let (wAlign, hAlign, alignment) ← rgbAfbcAlign type
  let w ← intAlign wAlign width
  let h ← intAlign hAlign height
  let stride ← checkedStride 64 w pixelSize
  let body ← intOf (stride * h)
  checkedAfbcSize alignment w h body

/-- The size in `get_afbc_yuv420_8bit_stride_and_size`, with the internal height. -/
def checkedAfbcYuv420 (video : Bool) (width height : ℕ) (type : AllocType) : Option (ℕ × ℕ) := do
  let internalHeight ← checkedVideoHeight video height
  let (wAlign, hAlign, alignment) ← yuvAfbcAlign type
  let w ← intAlign wAlign width
  let h ← intAlign hAlign internalHeight
  let chroma ← intAlign 16 (w / 2)
  let row ← intOf (w + chroma)
  let body ← intOf (row * h)
  let size ← checkedAfbcSize alignment w h body
  return (size, internalHeight)

/-- The size in `get_afbc_yuv422_8bit_stride_and_size`. -/
def checkedAfbcYuv422 (width height : ℕ) (type : AllocType) : Option ℕ := do
  let (wAlign, hAlign, alignment) ← yuvAfbcAlign type
  let w ← intAlign wAlign width
  let h ← intAlign hAlign height
  let luma ← intOf (w * h)
  let body ← intOf (luma * 2)
  checkedAfbcSize alignment w h body

/-- The widths that the helpers for 10 bits accept. -/
def multipleOfFour (width : ℕ) : Option ℕ := if width % 4 = 0 then some width else none

lemma multipleOfFour_eq_some {width n : ℕ} :
    multipleOfFour width = some n ↔ width % 4 = 0 ∧ width = n := by
  simp [multipleOfFour]

/-- The size in `get_yuv420_10bit_afbc_stride_and_size`, with the internal height. -/
def checkedAfbcYuv420Ten (video : Bool) (width height : ℕ) (type : AllocType) : Option (ℕ × ℕ) := do
  let width ← multipleOfFour width
  let internalHeight ← checkedVideoHeight video height
  let (wAlign, hAlign, alignment) ← yuvAfbcAlign type
  let w ← intAlign wAlign width
  let h ← intAlign hAlign (internalHeight / 2)
  let stride ← checkedStride 16 w 4
  let body ← intOf (stride * h)
  let size ← checkedAfbcSize alignment w internalHeight body
  return (size, internalHeight)

/-- The size in `get_yuv422_10bit_afbc_stride_and_size`. -/
def checkedAfbcYuv422Ten (width height : ℕ) (type : AllocType) : Option ℕ := do
  let width ← multipleOfFour width
  let (wAlign, hAlign, alignment) ← yuvAfbcAlign type
  let w ← intAlign wAlign width
  let h ← intAlign hAlign height
  let stride ← checkedStride 16 w 2
  let luma ← intOf (stride * h)
  let body ← intOf (luma * 2)
  checkedAfbcSize alignment w h body

/-- The formats that can be compressed. -/
inductive AfbcFormat
  | rgb (pixelSize : ℕ)
  | yuv420
  | yuv422
  | yuv420Ten
  | yuv422Ten

/-- The helper of a format, with the internal height. -/
def AfbcFormat.strideAndSize (f : AfbcFormat) (video : Bool) (width height : U32)
    (type : AllocType) :
    Option (StrideAndSize × U32) :=
  match f with
  | .rgb pixelSize => some (getRgbStrideAndSize width height (intWord pixelSize) type, height)
  | .yuv420 => getAfbcYuv420StrideAndSize video width height type
  | .yuv422 => (getAfbcYuv422StrideAndSize width height type).map fun s => (s, height)
  | .yuv420Ten => getYuv420TenBitAfbcStrideAndSize video width height type
  | .yuv422Ten => (getYuv422TenBitAfbcStrideAndSize width height type).map fun s => (s, height)

/-- The size of a format and the internal height, without overflow; the arguments are of type `int`
as well. -/
def AfbcFormat.checked (f : AfbcFormat) (video : Bool) (width height : ℕ) (type : AllocType) :
    Option (ℕ × ℕ) := do
  let width ← intOf width
  let height ← intOf height
  match f with
  | .rgb pixelSize => (checkedAfbcRgb pixelSize width height type).map fun size => (size, height)
  | .yuv420 => checkedAfbcYuv420 video width height type
  | .yuv422 => (checkedAfbcYuv422 width height type).map fun size => (size, height)
  | .yuv420Ten => checkedAfbcYuv420Ten video width height type
  | .yuv422Ten => (checkedAfbcYuv422Ten width height type).map fun size => (size, height)

/-! ## What the size is for -/

/-- The alignments of width, height and body that a type requires. -/
def AfbcFormat.align (f : AfbcFormat) (type : AllocType) : Option (ℕ × ℕ × ℕ) :=
  match f with
  | .rgb _ => rgbAfbcAlign type
  | _ => yuvAfbcAlign type

/-- The bytes of the body of a surface of `h` rows with `w` pixels each, both aligned. -/
def AfbcFormat.body (f : AfbcFormat) (w h : ℕ) : ℕ :=
  match f with
  | .rgb pixelSize => alignUp 64 (w * pixelSize) * h
  | .yuv420 => (w + alignUp 16 (w / 2)) * h
  | .yuv422 => w * h * 2
  -- a row of the body packs two rows of the surface
  | .yuv420Ten => alignUp 16 (w * 4) * (h / 2)
  | .yuv422Ten => alignUp 16 (w * 2) * h * 2

/-- The size covers the body and a header for every block of the aligned surface. -/
def AfbcCovers (f : AfbcFormat) (video : Bool) (width height : ℕ) (type : AllocType) : Prop :=
  ∀ s internalHeight,
    f.strideAndSize video (intWord width) (intWord height) type = some (s, internalHeight) →
    ∀ wAlign hAlign alignment, f.align type = some (wAlign, hAlign, alignment) →
      f.body (alignUp wAlign width) (alignUp hAlign internalHeight.toNat) +
          16 * (alignUp wAlign width / 16 * (alignUp hAlign internalHeight.toNat / 16)) ≤
        s.size.toNat

/-- The rows of the surface, with those for cropping. -/
def surfaceHeight (video : Bool) (height : ℕ) : ℕ := if video then height + 16 else height

/-- The half block of the body that is left out for a single row behind pairs of aligned blocks, in
header entries. -/
def missingEntries (w hAlign h : ℕ) : ℕ := if h % (2 * hAlign) = 1 then w * hAlign / 8 else 0

/-- For 10-bit 4:2:0, the header is made of units of 64 entries, or of 256 with tiled headers.
Unless the halved rows are aligned to half a block too much, no unit ends between the blocks of the
rows of the surface and those of the aligned rows, together with the bytes that the body leaves out.
-/
def AfbcFormat.SizeFits (f : AfbcFormat) (video : Bool) (width height : ℕ) (type : AllocType) :
    Prop :=
  match f with
  | .yuv420Ten => ∀ wAlign hAlign alignment, yuvAfbcAlign type = some (wAlign, hAlign, alignment) →
    let w := alignUp wAlign width
    let h := surfaceHeight video height
    (2 ≤ h % (2 * hAlign) ∧ h % (2 * hAlign) ≤ hAlign) ∨
      ∀ k, w / 16 * h / 16 ≤ alignment / 16 * k →
        w / 16 * (alignUp hAlign h / 16) + missingEntries w hAlign h ≤ alignment / 16 * k
  | _ => True

/-! ## The words of the code -/

section Words

variable {f : AfbcFormat} {video : Bool}
  {width height w h body alignment size internalHeight pixelSize : ℕ}
  {type : AllocType}

/-- The word of a power of two. -/
structure AlignWord (a : U32) (base : ℕ) : Prop where
  word : a = intWord base
  pow : ∃ k < 31, base = 2 ^ k

lemma AlignWord.align {a : U32} {base n : ℕ} (ha : AlignWord a base)
    (hn : n + (base - 1) < 2 ^ 31) :
    grallocAlign (intWord n) a = intWord (alignUp base n) := by
  obtain ⟨k, hk, hbase⟩ := ha.pow
  exact grallocAlign_eq k base a hk hbase ha.word hn

/-- The alignments of the code for YUV. -/
lemma afbcYuvAlign_eq {wAlign hAlign : ℕ}
    (h : yuvAfbcAlign type = some (wAlign, hAlign, alignment)) :
    ∃ wa ha a, afbcYuvAlign type = some (wa, ha, a) ∧ AlignWord wa wAlign ∧ AlignWord ha hAlign ∧
      AlignWord a alignment := by
  cases type <;> cases h
  case afbc => exact ⟨_, _, _, rfl, ⟨rfl, 4, by decide, rfl⟩, ⟨rfl, 4, by decide, rfl⟩,
    ⟨rfl, 10, by decide, rfl⟩⟩
  case afbcWideblk =>
    exact ⟨_, _, _, rfl, ⟨rfl, 5, by decide, rfl⟩, ⟨rfl, 4, by decide, rfl⟩,
      ⟨rfl, 10, by decide, rfl⟩⟩
  case afbcTiledHeadersBasic =>
    exact ⟨_, _, _, rfl, ⟨rfl, 7, by decide, rfl⟩, ⟨rfl, 7, by decide, rfl⟩,
      ⟨rfl, 12, by decide, rfl⟩⟩
  case afbcTiledHeadersWideblk =>
    exact ⟨_, _, _, rfl, ⟨rfl, 8, by decide, rfl⟩, ⟨rfl, 6, by decide, rfl⟩,
      ⟨rfl, 12, by decide, rfl⟩⟩

/-- The helper for RGB, with the alignments of the code. -/
lemma getRgbStrideAndSize_eq {wAlign hAlign : ℕ}
    (h : rgbAfbcAlign type = some (wAlign, hAlign, alignment)) :
    ∃ wa ha a, AlignWord wa wAlign ∧ AlignWord ha hAlign ∧ AlignWord a alignment ∧
      ∀ width height pixelSize, getRgbStrideAndSize width height pixelSize type =
        let w := grallocAlign width wa
        let h := grallocAlign height ha
        let stride := grallocAlign (w * pixelSize) 64
        ⟨stride.sdiv pixelSize, stride,
          intToSize (stride * h + afbcHeader ((w.sdiv 16 * h).sdiv 16) a)⟩ := by
  cases type <;> cases h
  case afbc => exact ⟨16, 16, 1024, ⟨rfl, 4, by decide, rfl⟩, ⟨rfl, 4, by decide, rfl⟩,
    ⟨rfl, 10, by decide, rfl⟩,
    fun _ _ _ => rfl⟩
  case afbcWideblk => exact ⟨32, 16, 1024, ⟨rfl, 5, by decide, rfl⟩, ⟨rfl, 4, by decide, rfl⟩,
    ⟨rfl, 10, by decide, rfl⟩, fun _ _ _ => rfl⟩
  case afbcPadded => exact ⟨64, 16, 1024, ⟨rfl, 6, by decide, rfl⟩, ⟨rfl, 4, by decide, rfl⟩,
    ⟨rfl, 10, by decide, rfl⟩, fun _ _ _ => rfl⟩
  case afbcTiledHeadersBasic =>
    exact ⟨128, 128, 4096, ⟨rfl, 7, by decide, rfl⟩, ⟨rfl, 7, by decide, rfl⟩,
    ⟨rfl, 12, by decide, rfl⟩, fun _ _ _ => rfl⟩
  case afbcTiledHeadersWideblk =>
    exact ⟨256, 64, 4096, ⟨rfl, 8, by decide, rfl⟩, ⟨rfl, 6, by decide, rfl⟩,
    ⟨rfl, 12, by decide, rfl⟩, fun _ _ _ => rfl⟩

/-- The bytes of a size. -/
lemma checkedAfbcSize_eq_some : checkedAfbcSize alignment w h body = some size ↔
    w / 16 * h < 2 ^ 31 ∧ w / 16 * h / 16 * 16 + (alignment - 1) < 2 ^ 31 ∧
      body + alignUp alignment (w / 16 * h / 16 * 16) < 2 ^ 31 ∧
      body + alignUp alignment (w / 16 * h / 16 * 16) = size := by
  simp only [checkedAfbcSize, Option.bind_eq_bind, Option.bind_eq_some_iff, intOf_eq_some,
    intAlign_eq_some]
  constructor
  · rintro ⟨_, ⟨hblocks, rfl⟩, _, ⟨-, rfl⟩, _, ⟨hheader, rfl⟩, hsize, rfl⟩
    exact ⟨hblocks, hheader, hsize, rfl⟩
  · rintro ⟨hblocks, hheader, hsize, rfl⟩
    exact ⟨_, ⟨hblocks, rfl⟩, _, ⟨by omega, rfl⟩, _, ⟨hheader, rfl⟩, hsize, rfl⟩

/-- The size of the code, once the body is a word. -/
lemma afbcSize_words {a : U32} (ha : AlignWord a alignment) (hw : w < 2 ^ 31)
    (hsize : checkedAfbcSize alignment w h body = some size) :
    (intToSize (intWord body + afbcHeader (((intWord w).sdiv 16 * intWord h).sdiv 16) a)).toNat =
    size := by
  obtain ⟨hblocks, hheader, hsum, rfl⟩ := checkedAfbcSize_eq_some.mp hsize
  have hdiv {n : ℕ} (hn : n < 2 ^ 31) : (intWord n).sdiv 16 = intWord (n / 16) :=
    intWord_sdiv hn (by decide : 16 < 2 ^ 31)
  have hmul (n : ℕ) : intWord n * 16 = intWord (n * 16) := intWord_mul n 16
  rw [hdiv hw, intWord_mul, hdiv hblocks, afbcHeader, hmul, ha.align hheader, intWord_add]
  exact signExtend_intWord hsum

lemma videoHeight_eq (h : checkedVideoHeight video height = some internalHeight)
    (hheight : height < 2 ^ 31) :
    videoHeight video (intWord height) = intWord internalHeight ∧ internalHeight < 2 ^ 31 ∧
      internalHeight = surfaceHeight video height := by
  cases video with
  | false =>
    obtain rfl : height = internalHeight := Option.some.inj h
    exact ⟨rfl, hheight, rfl⟩
  | true =>
    obtain ⟨hlt, rfl⟩ := intOf_eq_some.mp h
    exact ⟨intWord_add height 16, hlt, rfl⟩

/-- The rows of the surface of a format. -/
def AfbcFormat.surface (f : AfbcFormat) (video : Bool) (height : ℕ) : ℕ :=
  match f with
  | .yuv420 | .yuv420Ten => surfaceHeight video height
  | _ => height

/-- The rows whose blocks have a header. -/
def AfbcFormat.headerRows (f : AfbcFormat) (hAlign internalHeight : ℕ) : ℕ :=
  match f with
  | .yuv420Ten => internalHeight
  | _ => alignUp hAlign internalHeight

/-- The bytes of the body that a helper leaves room for. -/
def AfbcFormat.bodyRoom (f : AfbcFormat) (w hAlign internalHeight : ℕ) : ℕ :=
  match f with
  | .yuv420Ten => alignUp 16 (w * 4) * alignUp hAlign (internalHeight / 2)
  | _ => f.body w (alignUp hAlign internalHeight)

/-- What a helper computes where nothing overflows. -/
structure AfbcComputes (f : AfbcFormat) (video : Bool) (width height : ℕ) (type : AllocType)
    (wAlign hAlign alignment size internalHeight : ℕ) : Prop where
  surface : internalHeight = f.surface video height
  fits : internalHeight < 2 ^ 31
  words : ∃ s, f.strideAndSize video (intWord width) (intWord height) type =
    some (s, intWord internalHeight) ∧
    s.size.toNat = size
  size : size = f.bodyRoom (alignUp wAlign width) hAlign internalHeight +
    alignUp alignment (alignUp wAlign width / 16 * f.headerRows hAlign internalHeight / 16 * 16)

variable {wAlign hAlign : ℕ}

lemma and_three_eq (hwidth : width < 2 ^ 31) (h : width % 4 = 0) : intWord width &&& 3 = 0 := by
  refine BitVec.eq_of_toNat_eq ?_
  have hmask : (3 : U32).toNat = 2 ^ 2 - 1 := rfl
  rw [BitVec.toNat_and, toNat_intWord hwidth, hmask, Nat.and_two_pow_sub_one_eq_mod]
  exact h

lemma checkedAfbcRgb_computes (hheight : height < 2 ^ 31)
    (halign : rgbAfbcAlign type = some (wAlign, hAlign, alignment))
    (h : checkedAfbcRgb pixelSize width height type = some size) :
    AfbcComputes (.rgb pixelSize) video width height type wAlign hAlign alignment size height := by
  simp only [checkedAfbcRgb, halign, Option.bind_eq_bind, Option.bind_eq_some_iff,
    checkedStride_eq_some,
    intAlign_eq_some, intOf_eq_some, Option.bind_some] at h
  obtain ⟨_, -, _, -, _, ⟨hw, rfl⟩, _, ⟨hh, rfl⟩, _, ⟨hstride, rfl⟩, _, ⟨hbody, rfl⟩, hsize⟩ := h
  obtain ⟨wa, ha, a, hwa, hha, haa, hrgb⟩ := getRgbStrideAndSize_eq halign
  refine ⟨rfl, hheight, ⟨_, rfl, ?_⟩, ?_⟩
  · rw [hrgb, hwa.align hw, hha.align hh]
    simp only [intWord_mul, grallocAlign_eq 6 64 64 (by decide) rfl rfl hstride]
    exact afbcSize_words haa (alignUp_lt hw) hsize
  · exact (checkedAfbcSize_eq_some.mp hsize).2.2.2.symm

lemma checkedAfbcYuv420_computes (hheight : height < 2 ^ 31)
    (halign : yuvAfbcAlign type = some (wAlign, hAlign, alignment))
    (h : checkedAfbcYuv420 video width height type = some (size, internalHeight)) :
    AfbcComputes .yuv420 video width height type wAlign hAlign alignment size internalHeight := by
  simp only [checkedAfbcYuv420, halign, Option.bind_eq_bind, Option.bind_eq_some_iff,
    intAlign_eq_some,
    intOf_eq_some, Option.bind_some, Option.pure_def, Option.some.injEq, Prod.mk.injEq] at h
  obtain ⟨_, hvideo, _, ⟨hw, rfl⟩, _, ⟨hh, rfl⟩, _, ⟨hchroma, rfl⟩, _, ⟨hrow, rfl⟩, _, ⟨hbody, rfl⟩,
    _, hsize, rfl, rfl⟩ :=
    h
  obtain ⟨wa, ha, a, hyuv, hwa, hha, haa⟩ := afbcYuvAlign_eq halign
  obtain ⟨hword, hlt, hsurface⟩ := videoHeight_eq hvideo hheight
  have hhalf : (intWord (alignUp wAlign width)).sdiv 2 = intWord (alignUp wAlign width / 2) :=
    intWord_sdiv (alignUp_lt hw) (by decide : 2 < 2 ^ 31)
  refine ⟨hsurface, hlt, ?_, ?_⟩
  · simp only [AfbcFormat.strideAndSize, getAfbcYuv420StrideAndSize, hyuv, hword, Option.some.injEq,
      Prod.mk.injEq,
      and_true, exists_eq_left', hwa.align hw, hha.align hh, hhalf,
      grallocAlign_eq 4 16 16 (by decide) rfl rfl hchroma, intWord_add, intWord_mul]
    exact afbcSize_words haa (alignUp_lt hw) hsize
  · exact (checkedAfbcSize_eq_some.mp hsize).2.2.2.symm

lemma checkedAfbcYuv422_computes (hheight : height < 2 ^ 31)
    (halign : yuvAfbcAlign type = some (wAlign, hAlign, alignment))
    (h : checkedAfbcYuv422 width height type = some size) :
    AfbcComputes .yuv422 video width height type wAlign hAlign alignment size height := by
  simp only [checkedAfbcYuv422, halign, Option.bind_eq_bind, Option.bind_eq_some_iff,
    intAlign_eq_some,
    intOf_eq_some, Option.bind_some] at h
  obtain ⟨_, ⟨hw, rfl⟩, _, ⟨hh, rfl⟩, _, ⟨hluma, rfl⟩, _, ⟨hbody, rfl⟩, hsize⟩ := h
  obtain ⟨wa, ha, a, hyuv, hwa, hha, haa⟩ := afbcYuvAlign_eq halign
  have htwo (n : ℕ) : intWord n * 2 = intWord (n * 2) := intWord_mul n 2
  refine ⟨rfl, hheight, ?_, ?_⟩
  · simp only [AfbcFormat.strideAndSize, getAfbcYuv422StrideAndSize, hyuv, Option.map_some,
      Option.some.injEq,
      Prod.mk.injEq, and_true, exists_eq_left', hwa.align hw, hha.align hh, intWord_mul, htwo]
    exact afbcSize_words haa (alignUp_lt hw) hsize
  · exact (checkedAfbcSize_eq_some.mp hsize).2.2.2.symm

lemma checkedAfbcYuv420Ten_computes (hwidth : width < 2 ^ 31) (hheight : height < 2 ^ 31)
    (halign : yuvAfbcAlign type = some (wAlign, hAlign, alignment))
    (h : checkedAfbcYuv420Ten video width height type = some (size, internalHeight)) :
    AfbcComputes .yuv420Ten video width height type wAlign hAlign alignment size
      internalHeight := by
  simp only [checkedAfbcYuv420Ten, halign, Option.bind_eq_bind, Option.bind_eq_some_iff,
    checkedStride_eq_some,
    intAlign_eq_some, intOf_eq_some, Option.bind_some, Option.pure_def, Option.some.injEq,
      Prod.mk.injEq,
    multipleOfFour_eq_some] at h
  obtain ⟨_, ⟨hfour, rfl⟩, _, hvideo, _, ⟨hw, rfl⟩, _, ⟨hh, rfl⟩, _, ⟨hstride, rfl⟩, _,
    ⟨hbody, rfl⟩, _, hsize, rfl, rfl⟩ := h
  obtain ⟨wa, ha, a, hyuv, hwa, hha, haa⟩ := afbcYuvAlign_eq halign
  obtain ⟨hword, hlt, hsurface⟩ := videoHeight_eq hvideo hheight
  have hhalf {n : ℕ} (hn : n < 2 ^ 31) : (intWord n).sdiv 2 = intWord (n / 2) :=
    intWord_sdiv hn (by decide : 2 < 2 ^ 31)
  have hrow (n : ℕ) : intWord n * 4 = intWord (n * 4) := intWord_mul n 4
  refine ⟨hsurface, hlt, ?_, ?_⟩
  · simp only [AfbcFormat.strideAndSize, getYuv420TenBitAfbcStrideAndSize,
      and_three_eq hwidth hfour, ne_eq,
      not_true_eq_false, if_false, hyuv, hword, Option.some.injEq, Prod.mk.injEq, and_true,
        exists_eq_left',
      hwa.align hw, hhalf hlt, hha.align hh, hrow,
        grallocAlign_eq 4 16 16 (by decide) rfl rfl hstride, intWord_mul]
    exact afbcSize_words haa (alignUp_lt hw) hsize
  · exact (checkedAfbcSize_eq_some.mp hsize).2.2.2.symm

lemma checkedAfbcYuv422Ten_computes (hwidth : width < 2 ^ 31) (hheight : height < 2 ^ 31)
    (halign : yuvAfbcAlign type = some (wAlign, hAlign, alignment))
    (h : checkedAfbcYuv422Ten width height type = some size) :
    AfbcComputes .yuv422Ten video width height type wAlign hAlign alignment size height := by
  simp only [checkedAfbcYuv422Ten, halign, Option.bind_eq_bind, Option.bind_eq_some_iff,
    checkedStride_eq_some,
    intAlign_eq_some, intOf_eq_some, Option.bind_some, multipleOfFour_eq_some] at h
  obtain ⟨_, ⟨hfour, rfl⟩, _, ⟨hw, rfl⟩, _, ⟨hh, rfl⟩, _, ⟨hstride, rfl⟩, _, ⟨hluma, rfl⟩, _,
    ⟨hbody, rfl⟩, hsize⟩ := h
  obtain ⟨wa, ha, a, hyuv, hwa, hha, haa⟩ := afbcYuvAlign_eq halign
  have htwo (n : ℕ) : intWord n * 2 = intWord (n * 2) := intWord_mul n 2
  refine ⟨rfl, hheight, ?_, ?_⟩
  · simp only [AfbcFormat.strideAndSize, getYuv422TenBitAfbcStrideAndSize,
      and_three_eq hwidth hfour, ne_eq,
      not_true_eq_false, if_false, hyuv, Option.map_some, Option.some.injEq,
        Prod.mk.injEq, and_true,
      exists_eq_left', hwa.align hw, hha.align hh, htwo, grallocAlign_eq 4 16 16 (by decide)
        rfl rfl hstride,
      intWord_mul]
    exact afbcSize_words haa (alignUp_lt hw) hsize
  · exact (checkedAfbcSize_eq_some.mp hsize).2.2.2.symm

/-- Where nothing overflows, a helper computes its body and its header. -/
lemma AfbcFormat.checked_computes (halign : f.align type = some (wAlign, hAlign, alignment))
    (h : f.checked video width height type = some (size, internalHeight)) :
    AfbcComputes f video width height type wAlign hAlign alignment size internalHeight := by
  simp only [AfbcFormat.checked, Option.bind_eq_bind, Option.bind_eq_some_iff, intOf_eq_some] at h
  obtain ⟨_, ⟨hwidth, rfl⟩, _, ⟨hheight, rfl⟩, h⟩ := h
  cases f with
  | rgb pixelSize =>
    obtain ⟨_, hsize, hpair⟩ := Option.map_eq_some_iff.mp h
    obtain ⟨rfl, rfl⟩ := Prod.mk.inj hpair
    exact checkedAfbcRgb_computes hheight halign hsize
  | yuv420 => exact checkedAfbcYuv420_computes hheight halign h
  | yuv422 =>
    obtain ⟨_, hsize, hpair⟩ := Option.map_eq_some_iff.mp h
    obtain ⟨rfl, rfl⟩ := Prod.mk.inj hpair
    exact checkedAfbcYuv422_computes hheight halign hsize
  | yuv420Ten => exact checkedAfbcYuv420Ten_computes hwidth hheight halign h
  | yuv422Ten =>
    obtain ⟨_, hsize, hpair⟩ := Option.map_eq_some_iff.mp h
    obtain ⟨rfl, rfl⟩ := Prod.mk.inj hpair
    exact checkedAfbcYuv422Ten_computes hwidth hheight halign hsize

end Words

/-! ## The header -/

section Header

variable {f : AfbcFormat} {video : Bool} {width height n m : ℕ} {type : AllocType}
  {wAlign hAlign alignment : ℕ}

/-- The types align the rows to blocks, and the body to units of a header. -/
lemma AfbcFormat.align_dvd (h : f.align type = some (wAlign, hAlign, alignment)) :
    16 ∣ hAlign ∧ 16 ∣ alignment ∧ 0 < alignment := by
  cases f <;> cases type <;> cases h <;> decide

lemma AfbcFormat.align_pos (h : f.align type = some (wAlign, hAlign, alignment)) :
    16 ∣ wAlign ∧ 0 < wAlign ∧ 0 < hAlign := by
  cases f <;> cases type <;> cases h <;> decide

/-- What is accepted has a type that the format supports. -/
lemma AfbcFormat.align_of_checked (h : (f.checked video width height type).isSome) :
    ∃ wAlign hAlign alignment, f.align type = some (wAlign, hAlign, alignment) := by
  cases halign : f.align type with
  | some aligns => exact ⟨_, _, _, rfl⟩
  | none =>
    cases f <;> simp only [AfbcFormat.align] at halign <;>
      simp [AfbcFormat.checked, checkedAfbcRgb, checkedAfbcYuv420, checkedAfbcYuv422,
        checkedAfbcYuv420Ten,
        checkedAfbcYuv422Ten, halign] at h

/-- The rounded bytes of `n` entries hold `m` entries. -/
lemma entries_le_alignUp (hdvd : 16 ∣ alignment) (hpos : 0 < alignment) :
    16 * m ≤ alignUp alignment (n * 16) ↔ ∀ k, n ≤ alignment / 16 * k → m ≤ alignment / 16 * k := by
  obtain ⟨units, rfl⟩ := hdvd
  rw [le_alignUp_iff hpos, Nat.mul_div_cancel_left units (by decide)]
  refine forall_congr' fun k => imp_congr ?_ ?_
  · rw [Nat.mul_comm n, Nat.mul_assoc]
    exact Nat.mul_le_mul_left_iff (by decide)
  · rw [Nat.mul_assoc]
    exact Nat.mul_le_mul_left_iff (by decide)

/-- The blocks of rows that are aligned. -/
lemma blocks_eq (hdvd : 16 ∣ hAlign) (columns rows : ℕ) :
    columns * alignUp hAlign rows / 16 = columns * (alignUp hAlign rows / 16) := by
  have hrows : 16 ∣ alignUp hAlign rows := hdvd.trans (dvd_alignUp hAlign rows)
  exact Nat.mul_div_assoc columns hrows

/-- Where the body is the aligned one, the headers decide. -/
lemma AfbcComputes.covers_iff {size internalHeight : ℕ}
    (halign : f.align type = some (wAlign, hAlign, alignment))
    (h : AfbcComputes f video width height type wAlign hAlign alignment size internalHeight) :
    AfbcCovers f video width height type ↔
      f.body (alignUp wAlign width) (alignUp hAlign internalHeight) +
          16 * (alignUp wAlign width / 16 * (alignUp hAlign internalHeight / 16)) ≤
        f.bodyRoom (alignUp wAlign width) hAlign internalHeight +
          alignUp alignment
            (alignUp wAlign width / 16 * f.headerRows hAlign internalHeight / 16 * 16) := by
  obtain ⟨s, hs, hsize⟩ := h.words
  have hrows := toNat_intWord h.fits
  have hsum := h.size
  constructor
  · intro hcovers
    have hle := hcovers s _ hs wAlign hAlign alignment halign
    rw [hrows] at hle
    omega
  · intro hle s' internalHeight' hs' wAlign' hAlign' alignment' halign'
    obtain ⟨rfl, rfl⟩ := Prod.mk.inj (Option.some.inj (hs.symm.trans hs'))
    obtain ⟨rfl, haligns⟩ := Prod.mk.inj (Option.some.inj (halign.symm.trans halign'))
    obtain ⟨rfl, rfl⟩ := Prod.mk.inj haligns
    rw [hrows]
    omega

/-- Half of the rows aligned against the aligned rows: a single row behind pairs of blocks is lost,
and less than one block is taken for a whole one. -/
lemma alignUp_half (ha : 0 < hAlign) :
    2 * alignUp hAlign (n / 2) + (if n % (2 * hAlign) = 1 then hAlign else 0) =
      alignUp hAlign n +
        (if 2 ≤ n % (2 * hAlign) ∧ n % (2 * hAlign) ≤ hAlign then hAlign else 0) := by
  have hsplit := Nat.div_add_mod n (2 * hAlign)
  have hlt := Nat.mod_lt n (by omega : 0 < 2 * hAlign)
  generalize n / (2 * hAlign) = q at hsplit
  generalize n % (2 * hAlign) = r at hsplit hlt
  have hpairs : 2 * hAlign * q = 2 * (hAlign * q) := Nat.mul_assoc 2 hAlign q
  have hrows (m : ℕ) : hAlign * (2 * q + m) = 2 * (hAlign * q) + hAlign * m := by ring
  have hhalf (m : ℕ) : hAlign * (q + m) = hAlign * q + hAlign * m := Nat.mul_add hAlign q m
  have hup (m : ℕ) (hle : r ≤ hAlign * m) (hgt : hAlign * m < r + hAlign) :
      alignUp hAlign n = hAlign * (2 * q + m) :=
    (alignUp_eq_iff ha).2 (by rw [hrows]; omega)
  have hdown (m : ℕ) (hle : r / 2 ≤ hAlign * m) (hgt : hAlign * m < r / 2 + hAlign) :
      alignUp hAlign (n / 2) = hAlign * (q + m) :=
    (alignUp_eq_iff ha).2 (by rw [hhalf]; omega)
  -- the rows behind the pairs of blocks: none, one, at most a block, more
  rcases Nat.eq_zero_or_pos r with rfl | hpos
  · rw [hup 0 (by omega) (by omega), hdown 0 (by omega) (by omega), hrows, hhalf]
    simp
  by_cases hone : r = 1
  · subst hone
    rw [hup 1 (by omega) (by omega), hdown 0 (by omega) (by omega), hrows, hhalf]
    simp
  by_cases hblock : r ≤ hAlign
  · rw [hup 1 (by omega) (by omega), hdown 1 (by omega) (by omega), hrows, hhalf, if_neg hone,
      if_pos ⟨by omega, hblock⟩]
    omega
  · rw [hup 2 (by omega) (by omega), hdown 1 (by omega) (by omega), hrows, hhalf, if_neg hone,
      if_neg (by omega)]
    omega

/-- The headers are never further apart than half a block of the body is long. -/
lemma entries_le_half {c rows aligned : ℕ} (halign : 16 ≤ hAlign) (hdvd : 16 ∣ aligned)
    (hup : aligned ≤ rows + hAlign) :
    16 * (c * (aligned / 16)) ≤ c * rows / 16 * 16 + 32 * (c * hAlign) := by
  obtain ⟨b, rfl⟩ := hdvd
  rcases Nat.eq_zero_or_pos c with rfl | hc
  · simp
  rw [Nat.mul_div_cancel_left b (by decide)]
  have hblocks : c * (16 * b) ≤ c * rows + c * hAlign := by
    rw [← Nat.mul_add]
    exact Nat.mul_le_mul_left c hup
  have hcolumn : 16 ≤ c * hAlign := halign.trans (Nat.le_mul_of_pos_left hAlign hc)
  have hswap : c * (16 * b) = 16 * (c * b) := Nat.mul_left_comm c 16 b
  omega

/-- The body that a helper makes room for against the aligned one, for 10-bit 4:2:0. -/
lemma bodyRoom_add_missing {c internalHeight : ℕ} (heven : 2 ∣ hAlign) (ha : 0 < hAlign) :
    AfbcFormat.yuv420Ten.bodyRoom (16 * c) hAlign internalHeight +
        16 * missingEntries (16 * c) hAlign internalHeight =
      AfbcFormat.yuv420Ten.body (16 * c) (alignUp hAlign internalHeight) +
        (if 2 ≤ internalHeight % (2 * hAlign) ∧ internalHeight % (2 * hAlign) ≤ hAlign then
          32 * (c * hAlign) else 0) := by
  have hrows := @alignUp_half internalHeight hAlign ha
  have hstride : alignUp 16 (16 * c * 4) = 64 * c := by
    rw [alignUp_of_dvd (by decide) (by omega)]
    omega
  obtain ⟨p, hp⟩ : 2 ∣ alignUp hAlign internalHeight := heven.trans (dvd_alignUp _ _)
  have hhalf : 2 * p / 2 = p := Nat.mul_div_cancel_left p (by decide)
  have hmissing : 16 * missingEntries (16 * c) hAlign internalHeight =
      32 * c * (if internalHeight % (2 * hAlign) = 1 then hAlign else 0) := by
    unfold missingEntries
    split_ifs
    · rw [show 16 * c * hAlign =
        8 * (2 * (c * hAlign)) by ring, Nat.mul_div_cancel_left _ (by decide)]
      ring
    · rfl
  have hextra (e : Prop) [Decidable e] :
      (if e then 32 * (c * hAlign) else 0) = 32 * c * (if e then hAlign else 0) := by
    split_ifs
    · ring
    · rfl
  simp only [AfbcFormat.bodyRoom, AfbcFormat.body, hstride, hmissing, hextra]
  rw [hp] at hrows ⊢
  rw [hhalf]
  linear_combination 32 * c * hrows

/-- For 10-bit 4:2:0 the size covers the aligned surface exactly where it fits. -/
lemma AfbcComputes.covers_iff_fits {size internalHeight : ℕ}
    (halign : yuvAfbcAlign type = some (wAlign, hAlign, alignment))
    (h : AfbcComputes .yuv420Ten video width height type wAlign hAlign alignment size
      internalHeight) :
    AfbcCovers .yuv420Ten video width height type ↔
      AfbcFormat.SizeFits .yuv420Ten video width height type := by
  have halign' : AfbcFormat.yuv420Ten.align type = some (wAlign, hAlign, alignment) := halign
  obtain ⟨hrows, hdvd, hpos⟩ := AfbcFormat.align_dvd halign'
  obtain ⟨hwdvd, -, hhpos⟩ := AfbcFormat.align_pos halign'
  obtain ⟨c, hc⟩ : 16 ∣ alignUp wAlign width := hwdvd.trans (dvd_alignUp _ _)
  have hcolumns : 16 * c / 16 = c := Nat.mul_div_cancel_left c (by decide)
  have hbody := @bodyRoom_add_missing hAlign c internalHeight
      ((by decide : 2 ∣ 16).trans hrows) hhpos
  have hsurface : surfaceHeight video height = internalHeight := h.surface.symm
  have hfits : AfbcFormat.SizeFits .yuv420Ten video width height type ↔
      (2 ≤ internalHeight % (2 * hAlign) ∧ internalHeight % (2 * hAlign) ≤ hAlign) ∨
        16 * (c * (alignUp hAlign internalHeight / 16) +
          missingEntries (16 * c) hAlign internalHeight) ≤
            alignUp alignment (c * internalHeight / 16 * 16) := by
    simp only [AfbcFormat.SizeFits, halign, Option.some.injEq, Prod.mk.injEq, and_imp,
      forall_apply_eq_imp_iff₂, forall_apply_eq_imp_iff, forall_eq', hsurface, hc, hcolumns]
    rw [entries_le_alignUp hdvd hpos]
  rw [h.covers_iff halign', hfits, hc, hcolumns]
  by_cases hextra : 2 ≤ internalHeight % (2 * hAlign) ∧ internalHeight % (2 * hAlign) ≤ hAlign
  · rw [if_pos hextra] at hbody
    have hup : alignUp hAlign internalHeight ≤ internalHeight + hAlign :=
      (alignUp_le _ _).trans (by omega)
    have hheaders := @entries_le_half hAlign c internalHeight (alignUp hAlign internalHeight)
      (Nat.le_of_dvd hhpos hrows) (hrows.trans (dvd_alignUp _ _)) hup
    have hroom := @le_alignUp alignment (c * internalHeight / 16 * 16) hpos
    have hone : missingEntries (16 * c) hAlign internalHeight = 0 := if_neg (by omega)
    refine iff_of_true ?_ (.inl hextra)
    simp only [AfbcFormat.headerRows]
    omega
  · rw [if_neg hextra] at hbody
    simp only [AfbcFormat.headerRows, hextra, false_or]
    omega

/-- For every surface that a helper accepts, the size covers the aligned body and a header for every
block of the aligned surface, unless the format is the 10-bit 4:2:0 one and the room for its rows as
they are ends before. -/
theorem afbc_covers_iff (f : AfbcFormat) (video : Bool) (width height : ℕ) (type : AllocType)
    (haccept : (f.checked video width height type).isSome) :
    AfbcCovers f video width height type ↔ f.SizeFits video width height type := by
  obtain ⟨wAlign, hAlign, alignment, halign⟩ := AfbcFormat.align_of_checked haccept
  obtain ⟨⟨size, internalHeight⟩, h⟩ := Option.isSome_iff_exists.mp haccept
  have hcomputes := AfbcFormat.checked_computes halign h
  obtain ⟨hrows, -, hpos⟩ := AfbcFormat.align_dvd halign
  have hheader : 16 * (alignUp wAlign width / 16 * (alignUp hAlign internalHeight / 16)) ≤
      alignUp alignment (alignUp wAlign width / 16 * alignUp hAlign internalHeight / 16 * 16) := by
    rw [blocks_eq hrows, Nat.mul_comm 16]
    exact le_alignUp hpos
  cases f with
  | yuv420Ten => exact hcomputes.covers_iff_fits halign
  | rgb pixelSize =>
    exact iff_of_true ((hcomputes.covers_iff halign).2 (Nat.add_le_add_left hheader _)) trivial
  | yuv420 => exact iff_of_true ((hcomputes.covers_iff halign).2
      (Nat.add_le_add_left hheader _)) trivial
  | yuv422 => exact iff_of_true ((hcomputes.covers_iff halign).2
      (Nat.add_le_add_left hheader _)) trivial
  | yuv422Ten => exact iff_of_true ((hcomputes.covers_iff halign).2
      (Nat.add_le_add_left hheader _)) trivial

/-- A surface of 64 times 16 pixels has four blocks. -/
theorem afbc_covers_block : AfbcCovers .yuv420Ten false 64 16 .afbc ↔
    AfbcFormat.SizeFits .yuv420Ten false 64 16 .afbc :=
  afbc_covers_iff .yuv420Ten false 64 16 .afbc (by decide)

/-- For 64 times 33 pixels the body leaves out half a block of rows; 17 rows of 2048 pixels have 256
blocks, and the header is for 136. -/
theorem afbc_covers_fails :
    ((AfbcFormat.yuv420Ten.checked false 64 33 .afbc).isSome ∧
      ¬ AfbcCovers .yuv420Ten false 64 33 .afbc) ∧
    (AfbcFormat.yuv420Ten.checked false 2048 17 .afbc).isSome ∧
      ¬ AfbcCovers .yuv420Ten false 2048 17 .afbc := by
  refine ⟨⟨by decide, fun h => ?_⟩, by decide, fun h => ?_⟩
  · have hle := h _ _ rfl 16 16 1024 rfl
    revert hle
    decide
  · have hle := h _ _ rfl 16 16 1024 rfl
    revert hle
    decide

end Header

end Hikey
