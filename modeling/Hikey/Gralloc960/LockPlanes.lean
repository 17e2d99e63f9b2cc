import Hikey.Foundation.Rows
import Hikey.Gralloc960.Handle
import Hikey.Gralloc960.IonAllocate
import Hikey.Gralloc960.SelectFormat
import Hikey.Gralloc960.Strides

/-!
# Planes of locked buffers (`mali_gralloc_bufferaccess.cpp`)

Both functions that lock a buffer for the processor compute its planes again, from the stride and
the height of the handle.  The strides of a buffer are multiples of 16 or of 128; the chroma stride
of the locks is always a multiple of 16.  It is never above that of the allocation, so that the
chroma planes end inside the buffer.

An address is an integer, and an `int` that is added to it keeps its sign.
-/

namespace Hikey

/-! ## The source -/

/-- `GRALLOC_USAGE_SW_WRITE_MASK`. -/
def usageSwWriteMask : BitVec 64 := 0x000000F0

/-- `MALI_GRALLOC_FORMAT_INTERNAL_NV21`. -/
def formatInternalNv21 : U32 := 0x101

/-- `private_handle_t`, with the fields that describe the planes.  `nativeHandle` says that the
version and the numbers of the native handle are the ones of `private_handle_t`. -/
structure YuvHandle extends PrivateHandle where
  nativeHandle : Bool
  internalFormat : BitVec 64
  byteStride : U32
  height : U32
deriving DecidableEq, Repr

/-- `private_handle_t::validate`. -/
def YuvHandle.validate (hnd : YuvHandle) : Bool := hnd.nativeHandle && hnd.magic == sMagic

/-- The owner that a lock notes. -/
def YuvHandle.lockedFor (hnd : YuvHandle) (usage : BitVec 64) : YuvHandle :=
  if hnd.flags &&& privFlagsUsesIon ≠
    0 then { hnd with writeOwner := (usage &&& usageSwWriteMask).toNat } else hnd

/-- The address at an offset of type `int`. -/
def ptrAdd (base : ℤ) (offset : U32) : ℤ := base + offset.toInt

/-- `android_ycbcr`. -/
structure AndroidYcbcr where
  y : ℤ
  cb : ℤ
  cr : ℤ
  ystride : BitVec 64
  cstride : BitVec 64
  chromaStep : BitVec 64
deriving DecidableEq, Repr

/-- The planes of `mali_gralloc_lock_ycbcr`. -/
def ycbcrPlanes (hnd : YuvHandle) : Option AndroidYcbcr :=
  let base : ℤ := hnd.base
  let yStride := hnd.byteStride
  let adjustedHeight := grallocAlign hnd.height 2
  let ySize := yStride * adjustedHeight
  let planes (uOffset vOffset cStride step : U32) : AndroidYcbcr :=
    ⟨base, ptrAdd base uOffset, ptrAdd base vOffset, intToSize yStride, intToSize cStride,
      intToSize step⟩
  let baseFormat := hnd.internalFormat &&& intfmtFmtMask
  if baseFormat = formatInternalNv12.setWidth 64 then some (planes ySize (ySize + 1) yStride 2)
  else if baseFormat = formatInternalNv21.setWidth 64 then some (planes (ySize + 1) ySize yStride 2)
  else if baseFormat = halPixelFormatYv12.setWidth 64 then
    let cStride := grallocAlign (hnd.byteStride.sdiv 2) 16
    let cSize := cStride * adjustedHeight.sdiv 2
    some (planes (ySize + cSize) ySize cStride 1)
  else none

/-- `FLEX_COMPONENT_*`. -/
inductive FlexComponent
  | y
  | cb
  | cr
deriving DecidableEq, Repr

/-- `android_flex_plane_t`. -/
structure FlexPlane where
  topLeft : ℤ
  component : FlexComponent
  bitsPerComponent : U32
  bitsUsed : U32
  hIncrement : U32
  vIncrement : U32
  hSubsampling : U32
  vSubsampling : U32
deriving DecidableEq, Repr

/-- `FLEX_FORMAT_*`, as far as a lock sets it. -/
inductive FlexFormat
  | ycbcr
deriving DecidableEq, Repr

/-- `android_flex_layout`. -/
structure FlexLayout where
  format : FlexFormat
  numPlanes : U32
  planes : List FlexPlane
deriving DecidableEq, Repr

/-- A plane of 8 bits for each sample. -/
def flexPlane (topLeft : ℤ) (component : FlexComponent) (hIncrement vIncrement subsampling : U32) :
    FlexPlane where
  topLeft := topLeft
  component := component
  bitsPerComponent := 8
  bitsUsed := 8
  hIncrement := hIncrement
  vIncrement := vIncrement
  hSubsampling := subsampling
  vSubsampling := subsampling

/-- The planes of `mali_gralloc_lock_flex_async`. -/
def flexPlanes (hnd : YuvHandle) : Option FlexLayout :=
  let base : ℤ := hnd.base
  let yStride := hnd.byteStride
  let adjustedHeight := grallocAlign hnd.height 2
  let ySize := yStride * adjustedHeight
  let luma := flexPlane base .y 1 yStride 1
  let second := ptrAdd base ySize
  let baseFormat := hnd.internalFormat &&& intfmtFmtMask
  if baseFormat = formatInternalNv12.setWidth 64 then
    some ⟨.ycbcr, 3,
      [luma, flexPlane second .cb 2 yStride 2, flexPlane (second + 1) .cr 2 yStride 2]⟩
  else if baseFormat = formatInternalNv21.setWidth 64 then
    some ⟨.ycbcr, 3,
      [luma, flexPlane second .cr 2 yStride 2, flexPlane (second + 1) .cb 2 yStride 2]⟩
  else if baseFormat = halPixelFormatYv12.setWidth 64 then
    let cStride := grallocAlign (hnd.byteStride.sdiv 2) 16
    let cSize := cStride * adjustedHeight.sdiv 2
    some ⟨.ycbcr, 3,
      [luma, flexPlane second .cr 1 cStride 2, flexPlane (ptrAdd second cSize) .cb 1 cStride 2]⟩
  else none

/-- What a lock leaves: its result, the handle, what its last pointer points to and the fence that
it has closed. -/
structure LockResult (α : Type) where
  status : Int
  buffer : Option YuvHandle
  out : Option α
  closed : Option Int

/-- A lock with the planes of `planes`; `buffer` and `out` are `none` for null pointers. -/
def lockPlanes {α : Type} (planes : YuvHandle → Option α) (buffer : Option YuvHandle)
    (usage : BitVec 64) (out : Option α)
    (fenceFd : Int) : LockResult α :=
  match buffer with
  | none => ⟨-einval, none, out, none⟩
  | some hnd =>
    if !hnd.validate then ⟨-einval, some hnd, out, none⟩
    else if out.isNone then ⟨-einval, some hnd, none, none⟩
    else
      let closed := if 0 ≤ fenceFd then some fenceFd else none
      let hnd := hnd.lockedFor usage
      if usage &&& usageSwMask ≠ 0 ∧ hnd.internalFormat &&& intfmtExtMask = 0 then
        match planes hnd with
        | none => ⟨-einval, some hnd, out, closed⟩
        | some p => ⟨0, some hnd, some p, closed⟩
      else ⟨-einval, some hnd, out, closed⟩

/-- `mali_gralloc_lock_ycbcr`; there is no fence. -/
def maliGrallocLockYcbcr (buffer : Option YuvHandle) (usage : BitVec 64)
    (ycbcr : Option AndroidYcbcr) :
    LockResult AndroidYcbcr :=
  lockPlanes ycbcrPlanes buffer usage ycbcr (-1)

/-- `mali_gralloc_lock_flex_async`. -/
def maliGrallocLockFlexAsync (buffer : Option YuvHandle) (usage : BitVec 64)
    (flexLayout : Option FlexLayout)
    (fenceFd : Int) : LockResult FlexLayout :=
  lockPlanes flexPlanes buffer usage flexLayout fenceFd

/-- `mali_gralloc_get_num_flex_planes`: the result and the number that is stored. -/
def maliGrallocGetNumFlexPlanes (buffer : Option YuvHandle) (numPlanes : Option U32) :
    Int × Option U32 :=
  match buffer with
  | none => (-einval, numPlanes)
  | some hnd =>
    if !hnd.validate then (-einval, numPlanes)
    else if numPlanes.isNone then (-einval, none)
    else
      let baseFormat := hnd.internalFormat &&& intfmtFmtMask
      if baseFormat = formatInternalNv12.setWidth 64 ∨ baseFormat = formatInternalNv21.setWidth 64 ∨
          baseFormat = halPixelFormatYv12.setWidth 64 then
        (0, some 3)
      else (-einval, numPlanes)

/-! ## Buffers and their samples -/

/-- The formats that can be locked. -/
inductive YuvFormat
  | nv12
  | nv21
  | yv12
deriving DecidableEq, Repr

/-- The internal format, which has no modifier. -/
def YuvFormat.internalFormat : YuvFormat → BitVec 64
  | .nv12 => formatInternalNv12.setWidth 64
  | .nv21 => formatInternalNv21.setWidth 64
  | .yv12 => halPixelFormatYv12.setWidth 64

/-- The stride and the size in `get_yv12_stride_and_size` for an uncompressed buffer, without
overflow; the arguments are of type `int` as well. -/
def checkedYv12 (strideAlignment width height : ℕ) : Option (ℕ × ℕ) := do
  let width ← intOf width
  let height ← intOf height
  let h ← intAlign 2 height
  let luma ← intAlign strideAlignment width
  let chroma ← intAlign strideAlignment (luma / 2)
  let row ← intOf (luma + chroma)
  let size ← intOf (h * row)
  return (luma, size)

/-- A valid handle of a buffer of `width` times `height` pixels, with the stride and the size `s` of
`get_yv12_stride_and_size`. -/
structure AllocatedYuv (f : YuvFormat) (strideAlignment width height : ℕ) (s : StrideAndSize)
    (hnd : YuvHandle) : Prop where
  alignment : strideAlignment = 16 ∨ strideAlignment = 128
  fits : (checkedYv12 strideAlignment width height).isSome
  computed : ∃ video internalHeight, getYv12StrideAndSize video (intWord width) (intWord height)
    .uncompressed
    internalHeight (intWord strideAlignment) = some (s, internalHeight)
  valid : hnd.validate = true
  format : hnd.internalFormat = f.internalFormat
  stride : hnd.byteStride = s.byteStride
  rows : hnd.height = intWord height

/-- The columns and the rows of a component: those of chroma are rounded up. -/
def FlexComponent.extent (c : FlexComponent) (width height : ℕ) : ℕ × ℕ :=
  match c with
  | .y => (width, height)
  | .cb | .cr => ((width + 1) / 2, (height + 1) / 2)

/-- The address of a sample, for a client of `mali_gralloc_lock_ycbcr`. -/
def AndroidYcbcr.sample (planes : AndroidYcbcr) (c : FlexComponent) (column row : ℕ) : ℤ :=
  match c with
  | .y => planes.y + row * planes.ystride.toNat + column
  | .cb => planes.cb + row * planes.cstride.toNat + column * planes.chromaStep.toNat
  | .cr => planes.cr + row * planes.cstride.toNat + column * planes.chromaStep.toNat

/-- The address of a sample, for a client of `mali_gralloc_lock_flex_async`. -/
def FlexPlane.sample (plane : FlexPlane) (column row : ℕ) : ℤ :=
  plane.topLeft + row * plane.vIncrement.toInt + column * plane.hIncrement.toInt

/-- Both locks give every component one plane, with the samples at the same addresses. -/
structure PlanesAgree (planes : AndroidYcbcr) (layout : FlexLayout) : Prop where
  numPlanes : layout.numPlanes.toNat = layout.planes.length
  components : (layout.planes.map FlexPlane.component).Perm [.y, .cb, .cr]
  sample : ∀ plane ∈ layout.planes, ∀ column row, plane.sample column row = planes.sample
    plane.component column row

/-- The samples of the surface have addresses of their own. -/
def SamplesDistinct (planes : AndroidYcbcr) (width height : ℕ) : Prop :=
  ∀ c column row, column < (c.extent width height).1 → row < (c.extent width height).2 →
    ∀ c' column' row', column' < (c'.extent width height).1 → row' < (c'.extent width height).2 →
      planes.sample c column row = planes.sample c' column' row' → c = c' ∧
        column = column' ∧ row = row'

/-- The samples of the surface are in the buffer. -/
def SamplesInside (planes : AndroidYcbcr) (width height : ℕ) (base size : ℕ) : Prop :=
  ∀ c column row, column < (c.extent width height).1 → row < (c.extent width height).2 →
    base ≤ planes.sample c column row ∧ planes.sample c column row < base + size

/-! ## Offsets -/

section Offsets

variable {f : YuvFormat} {a width height column row column' row' : ℕ} {c c' : FlexComponent}

/-- The chroma stride of the locks. -/
def YuvFormat.chromaStride (f : YuvFormat) (stride : ℕ) : ℕ :=
  match f with
  | .nv12 | .nv21 => stride
  | .yv12 => alignUp 16 (stride / 2)

/-- The offset of the first sample of a component. -/
def YuvFormat.start (f : YuvFormat) (stride rows : ℕ) (c : FlexComponent) : ℕ :=
  match f, c with
  | _, .y => 0
  | .nv12, .cb | .nv21, .cr | .yv12, .cr => stride * rows
  | .nv12, .cr | .nv21, .cb => stride * rows + 1
  | .yv12, .cb => stride * rows + alignUp 16 (stride / 2) * (rows / 2)

/-- The bytes between chroma samples. -/
def YuvFormat.step (f : YuvFormat) : ℕ :=
  match f with
  | .nv12 | .nv21 => 2
  | .yv12 => 1

/-- The offset of a sample. -/
def YuvFormat.offset (f : YuvFormat) (stride rows : ℕ) (c : FlexComponent) (column row : ℕ) : ℕ :=
  match c with
  | .y => row * stride + column
  | c => f.start stride rows c + row * f.chromaStride stride + column * f.step

/-- What is known of the numbers of a buffer: `stride` is its stride, `chroma` half the bytes of a
pair of rows of chroma in its size, and `rows` its rounded height. -/
structure YuvNumbers (width height stride chroma rows : ℕ) : Prop where
  even : 2 ∣ stride
  rows_eq : rows = (height + 1) / 2 * 2
  width_le : width ≤ stride
  chroma_le : alignUp 16 (stride / 2) ≤ chroma
  fits : rows * (stride + chroma) < 2 ^ 31

variable {stride chroma rows : ℕ}

/-- Luma comes first. -/
lemma YuvNumbers.luma_lt (h : YuvNumbers width height stride chroma rows) (hcolumn : column < width)
    (hrow : row < height) :
    row * stride + column < stride * rows := by
  have hrows := h.rows_eq
  exact row_column_lt (hcolumn.trans_le h.width_le) (by omega)

lemma YuvFormat.le_offset (f : YuvFormat) (hc : c ≠ .y) :
    stride * rows ≤ f.offset stride rows c column row := by
  cases f <;> cases c <;>
    simp only [ne_eq, not_true_eq_false, YuvFormat.offset, YuvFormat.start] at hc ⊢ <;> omega

/-- The column of a sample of chroma fits in half a row. -/
lemma YuvNumbers.column_lt (h : YuvNumbers width height stride chroma rows)
    (hcolumn : column < (width + 1) / 2) :
    column < stride / 2 := by
  have hwidth := h.width_le
  have heven := h.even
  omega

lemma YuvNumbers.column_lt_align (h : YuvNumbers width height stride chroma rows)
    (hcolumn : column < (width + 1) / 2) :
    column < alignUp 16 (stride / 2) :=
  (h.column_lt hcolumn).trans_le (le_alignUp (by decide))

/-- The chroma rows of planar formats have room twice. -/
lemma YuvNumbers.planar_le (h : YuvNumbers width height stride chroma rows) :
    stride * rows + alignUp 16 (stride / 2) * (rows / 2) + alignUp 16
      (stride / 2) * (rows / 2) ≤ rows * (stride + chroma) := by
  have hrows := h.rows_eq
  have hhalf : rows / 2 * 2 = rows := by omega
  calc stride * rows + alignUp 16 (stride / 2) * (rows / 2) + alignUp 16 (stride / 2) * (rows / 2)
      = stride * rows + alignUp 16 (stride / 2) * (rows / 2 * 2) := by ring
    _ = stride * rows + alignUp 16 (stride / 2) * rows := by rw [hhalf]
    _ ≤ stride * rows + chroma * rows :=
      Nat.add_le_add_left (Nat.mul_le_mul_right rows h.chroma_le) _
    _ = rows * (stride + chroma) := by ring

/-- The rows of pairs have room. -/
lemma YuvNumbers.pairs_le (h : YuvNumbers width height stride chroma rows) :
    stride * rows + stride * (rows / 2) ≤ rows * (stride + chroma) := by
  have heven : stride / 2 * 2 = stride := Nat.div_mul_cancel h.even
  have hle : stride / 2 * (rows / 2) ≤ alignUp 16 (stride / 2) * (rows / 2) :=
    Nat.mul_le_mul_right _ (le_alignUp (by decide))
  have hpairs : stride * (rows / 2) = stride / 2 * (rows / 2) + stride / 2 * (rows / 2) := by
    conv_lhs => rw [← heven]
    ring
  have hplanar := h.planar_le
  omega

/-- Where a sample of chroma is in a pair. -/
def YuvFormat.phase (f : YuvFormat) (c : FlexComponent) : ℕ :=
  match f, c with
  | .nv12, .cr | .nv21, .cb => 1
  | _, _ => 0

lemma YuvFormat.phase_le (f : YuvFormat) (c : FlexComponent) : f.phase c ≤ 1 := by
  cases f <;> cases c <;> decide

/-- The offset of a sample of chroma in a pair. -/
lemma YuvFormat.offset_pair (hf : f ≠ .yv12) (hc : c ≠ .y) :
    f.offset stride rows c column row =
      stride * rows + (row * stride + (column * 2 + f.phase c)) := by
  cases f <;> cases c <;>
    simp only [ne_eq, not_true_eq_false, YuvFormat.offset, YuvFormat.start, YuvFormat.chromaStride,
      YuvFormat.step,
      YuvFormat.phase] at hf hc ⊢ <;> omega

lemma YuvFormat.phase_inj (hf : f ≠ .yv12) (hc : c ≠ .y) (hc' : c' ≠ .y)
    (h : f.phase c = f.phase c') : c = c' := by
  cases f <;> cases c <;> cases c' <;> simp_all [YuvFormat.phase]

/-- The samples of chroma have offsets of their own. -/
lemma YuvNumbers.chroma_unique (h : YuvNumbers width height stride chroma rows) (f : YuvFormat)
    (hc : c ≠ .y) (hc' : c' ≠ .y)
    (hcolumn : column < (width + 1) / 2) (hrow : row < (height + 1) / 2)
    (hcolumn' : column' < (width + 1) / 2)
    (hrow' : row' < (height + 1) / 2)
    (heq : f.offset stride rows c column row = f.offset stride rows c' column' row') :
    c = c' ∧ column = column' ∧ row = row' := by
  by_cases hf : f = .yv12
  · subst hf
    have hlt := h.column_lt_align hcolumn
    have hlt' := h.column_lt_align hcolumn'
    have hrows := h.rows_eq
    have hplane := row_column_lt hlt (show row < rows / 2 by omega)
    have hplane' := row_column_lt hlt' (show row' < rows / 2 by omega)
    have hsame := row_column_unique row row' hlt hlt'
    cases c <;> cases c' <;>
      simp only [ne_eq, not_true_eq_false, YuvFormat.offset, YuvFormat.start,
        YuvFormat.chromaStride,
        YuvFormat.step] at hc hc' heq
    case cb.cr | cr.cb => omega
    case cb.cb | cr.cr =>
      obtain ⟨hr, hk⟩ := hsame (by omega)
      exact ⟨rfl, hk, hr⟩
  · have hlt := h.column_lt hcolumn
    have hlt' := h.column_lt hcolumn'
    have hphase := f.phase_le c
    have hphase' := f.phase_le c'
    rw [YuvFormat.offset_pair hf hc, YuvFormat.offset_pair hf hc'] at heq
    obtain ⟨hr, hpair⟩ := row_column_unique _ _ (by omega) (by omega) (Nat.add_left_cancel heq)
    exact ⟨YuvFormat.phase_inj hf hc hc' (by omega), by omega, hr⟩

/-- The samples of the surface have offsets of their own. -/
lemma YuvNumbers.offset_unique (h : YuvNumbers width height stride chroma rows) (f : YuvFormat)
    (hcolumn : column < (c.extent width height).1) (hrow : row < (c.extent width height).2)
    (hcolumn' : column' < (c'.extent width height).1) (hrow' : row' < (c'.extent width height).2)
    (heq : f.offset stride rows c column row = f.offset stride rows c' column' row') :
    c = c' ∧ column = column' ∧ row = row' := by
  by_cases hc : c = .y
  · subst hc
    have hluma := h.luma_lt hcolumn hrow
    by_cases hc' : c' = .y
    · subst hc'
      obtain ⟨hr, hk⟩ :=
        row_column_unique _ _ (hcolumn.trans_le h.width_le) (hcolumn'.trans_le h.width_le) heq
      exact ⟨rfl, hk, hr⟩
    · exact absurd heq (hluma.trans_le (f.le_offset hc')).ne
  · by_cases hc' : c' = .y
    · subst hc'
      have hluma := h.luma_lt hcolumn' hrow'
      exact absurd heq.symm (hluma.trans_le (f.le_offset hc)).ne
    · have hextent {d : FlexComponent} (hd : d ≠ .y) :
          d.extent width height = ((width + 1) / 2, (height + 1) / 2) := by
        cases d <;> first | exact absurd rfl hd | rfl
      rw [hextent hc] at hcolumn hrow
      rw [hextent hc'] at hcolumn' hrow'
      exact h.chroma_unique f hc hc' hcolumn hrow hcolumn' hrow' heq

/-- The samples of the surface are in the buffer. -/
lemma YuvNumbers.offset_lt (h : YuvNumbers width height stride chroma rows) (f : YuvFormat)
    (hcolumn : column < (c.extent width height).1) (hrow : row < (c.extent width height).2) :
    f.offset stride rows c column row < rows * (stride + chroma) := by
  have hrows := h.rows_eq
  have hpairs := h.pairs_le
  by_cases hc : c = .y
  · subst hc
    have hluma : f.offset stride rows .y column row < stride * rows := h.luma_lt hcolumn hrow
    omega
  · have hextent : c.extent width height = ((width + 1) / 2, (height + 1) / 2) := by
      cases c <;> first | exact absurd rfl hc | rfl
    rw [hextent] at hcolumn hrow
    have hhalf : row < rows / 2 := by
      simp only at hrow
      omega
    by_cases hf : f = .yv12
    · subst hf
      have hplanar := h.planar_le
      have hplane := row_column_lt (h.column_lt_align hcolumn) hhalf
      cases c <;> simp only [not_true_eq_false, YuvFormat.offset, YuvFormat.start,
        YuvFormat.chromaStride,
        YuvFormat.step] at hc ⊢ <;> omega
    · have hlt := h.column_lt hcolumn
      have hphase := f.phase_le c
      have hpair := row_column_lt (show column * 2 + f.phase c < stride by omega) hhalf
      rw [YuvFormat.offset_pair hf hc]
      omega

end Offsets

/-! ## The words of the code -/

section Words

variable {f : YuvFormat} {strideAlignment width height : ℕ} {s : StrideAndSize} {hnd : YuvHandle}

/-- The numbers of a buffer. -/
lemma AllocatedYuv.numbers (h : AllocatedYuv f strideAlignment width height s hnd) :
    ∃ stride chroma rows, YuvNumbers width height stride chroma rows ∧
      hnd.byteStride = intWord stride ∧
      grallocAlign hnd.height 2 = intWord rows ∧ s.size.toNat = rows * (stride + chroma) := by
  have hdvd : 16 ∣ strideAlignment ∧ 2 ∣ strideAlignment ∧ 0 < strideAlignment := by
    rcases h.alignment with rfl | rfl <;> decide
  have halign {n : ℕ} (hn : n + (strideAlignment - 1) < 2 ^ 31) :
      grallocAlign (intWord n) (intWord strideAlignment) = intWord (alignUp strideAlignment n) := by
    rcases h.alignment with rfl | rfl
    · exact grallocAlign_eq 4 16 _ (by decide) rfl rfl hn
    · exact grallocAlign_eq 7 128 _ (by decide) rfl rfl hn
  obtain ⟨p, hp⟩ := Option.isSome_iff_exists.mp h.fits
  simp only [checkedYv12, Option.bind_eq_bind, Option.bind_eq_some_iff, intOf_eq_some,
    intAlign_eq_some,
    Option.pure_def, Option.some.injEq] at hp
  obtain ⟨_, ⟨hwidth, rfl⟩, _, ⟨hheight, rfl⟩, _, ⟨hrows, rfl⟩, _, ⟨hluma, rfl⟩, _, ⟨hchroma, rfl⟩,
    _, ⟨hrow, rfl⟩, _,
    ⟨hsize, rfl⟩, rfl⟩ := hp
  have hheightWord : grallocAlign (intWord height) 2 = intWord (alignUp 2 height) :=
    grallocAlign_eq 1 2 2 (by decide) rfl rfl hrows
  have hhalf : (intWord (alignUp strideAlignment width)).sdiv 2 =
      intWord (alignUp strideAlignment width / 2) :=
    intWord_sdiv (alignUp_lt hluma) (by decide : 2 < 2 ^ 31)
  refine ⟨alignUp strideAlignment width,
    alignUp strideAlignment (alignUp strideAlignment width / 2), alignUp 2 height,
    ⟨hdvd.2.1.trans (dvd_alignUp _ _), ?_, le_alignUp hdvd.2.2, ?_, hsize⟩, ?_, ?_, ?_⟩
  · rw [alignUp]
  · exact alignUp_le_of_dvd (by decide) (hdvd.1.trans (dvd_alignUp _ _)) (le_alignUp hdvd.2.2)
  · obtain ⟨video, internalHeight, hs⟩ := h.computed
    rw [h.stride, ← halign hluma]
    cases hs
    rfl
  · rw [h.rows]
    exact hheightWord
  · obtain ⟨video, internalHeight, hs⟩ := h.computed
    obtain ⟨rfl, -⟩ := Prod.mk.inj (Option.some.inj hs)
    simp only [halign hluma, hheightWord, hhalf, halign hchroma, intWord_add, intWord_mul]
    exact signExtend_intWord hsize

variable {stride chroma rows : ℕ}

/-- The numbers of the locks are of type `int`. -/
lemma YuvNumbers.words_fit (h : YuvNumbers width height stride chroma rows) (hwidth : 0 < width)
    (hheight : 0 < height) :
    stride < 2 ^ 31 ∧ rows < 2 ^ 31 ∧ alignUp 16 (stride / 2) < 2 ^ 31 ∧
      stride * rows + 1 < 2 ^ 31 ∧
      stride * rows + alignUp 16 (stride / 2) * (rows / 2) < 2 ^ 31 := by
  have hfits := h.fits
  have hpairs := h.pairs_le
  have hplanar := h.planar_le
  have hrows := h.rows_eq
  have hstride : 0 < stride := hwidth.trans_le h.width_le
  have halign := alignUp_le 16 (stride / 2)
  have hrow : stride * 1 ≤ stride * (rows / 2) := Nat.mul_le_mul_left stride (by omega)
  have hcolumn : 1 * rows ≤ stride * rows := Nat.mul_le_mul_right rows hstride
  have hchroma : alignUp 16 (stride / 2) * 1 ≤ alignUp 16 (stride / 2) * (rows / 2) :=
    Nat.mul_le_mul_left _ (by omega)
  omega

/-- A number of type `int` that is not negative is added as it is. -/
lemma ptrAdd_intWord {n : ℕ} (base : ℤ) (hn : n < 2 ^ 31) : ptrAdd base (intWord n) = base + n := by
  have hn' := toNat_intWord hn
  rw [ptrAdd, BitVec.toInt_eq_toNat_of_lt (by omega), hn']

/-- The words that the locks compute. -/
structure LockWords (hnd : YuvHandle) (stride rows : ℕ) : Prop where
  size : hnd.byteStride * grallocAlign hnd.height 2 = intWord (stride * rows)
  chroma : grallocAlign (hnd.byteStride.sdiv 2) 16 = intWord (alignUp 16 (stride / 2))
  chromaSize : intWord (alignUp 16 (stride / 2)) * (grallocAlign hnd.height 2).sdiv 2 =
    intWord (alignUp 16 (stride / 2) * (rows / 2))

lemma YuvNumbers.lockWords (h : YuvNumbers width height stride chroma rows) (hwidth : 0 < width)
    (hheight : 0 < height)
    (hstride : hnd.byteStride = intWord stride) (hrows : grallocAlign hnd.height 2 = intWord rows) :
    LockWords hnd stride rows := by
  obtain ⟨hstrideFits, hrowsFit, halign, -, -⟩ := h.words_fit hwidth hheight
  have hhalf {n : ℕ} (hn : n < 2 ^ 31) : (intWord n).sdiv 2 = intWord (n / 2) :=
    intWord_sdiv hn (by decide : 2 < 2 ^ 31)
  refine ⟨?_, ?_, ?_⟩
  · rw [hstride, hrows, intWord_mul]
  · rw [hstride, hhalf hstrideFits]
    exact grallocAlign_eq 4 16 16 (by decide) rfl rfl (by omega)
  · rw [hrows, hhalf hrowsFit, intWord_mul]

/-- The planes of `mali_gralloc_lock_ycbcr`. -/
lemma YuvNumbers.ycbcrPlanes_eq (h : YuvNumbers width height stride chroma rows)
    (hwidth : 0 < width) (hheight : 0 < height)
    (hstride : hnd.byteStride = intWord stride) (hrows : grallocAlign hnd.height 2 = intWord rows)
    (hformat : hnd.internalFormat = f.internalFormat) :
    ∃ planes, ycbcrPlanes hnd = some planes ∧
      ∀ c column row, planes.sample c column row = hnd.base + f.offset stride rows c
        column row := by
  have hwords := h.lockWords hwidth hheight hstride hrows
  obtain ⟨hfits, -, halign, hnext, hplanar⟩ := h.words_fit hwidth hheight
  have hstep : (intToSize 2).toNat = 2 ∧ (intToSize 1).toNat = 1 := by decide
  have hstrideSize : (intToSize hnd.byteStride).toNat = stride := by
    rw [hstride]
    exact signExtend_intWord hfits
  have hchromaSize : (intToSize (intWord (alignUp 16 (stride / 2)))).toNat =
      alignUp 16 (stride / 2) :=
    signExtend_intWord halign
  have hone : intWord (stride * rows) + 1 = intWord (stride * rows + 1) := intWord_add _ 1
  have hsum := intWord_add (stride * rows) (alignUp 16 (stride / 2) * (rows / 2))
  cases f with
  | nv12 =>
    simp only [ycbcrPlanes, hformat]
    rw [if_pos (by decide)]
    refine ⟨_, rfl, fun c column row => ?_⟩
    cases c <;>
      simp only [AndroidYcbcr.sample, YuvFormat.offset, YuvFormat.start, YuvFormat.chromaStride,
        YuvFormat.step,
        hwords.size, hone, ptrAdd_intWord _ (show stride * rows < 2 ^ 31 by omega), ptrAdd_intWord
          _ hnext,
        hstrideSize, hstep] <;> push_cast <;> ring
  | nv21 =>
    simp only [ycbcrPlanes, hformat]
    rw [if_neg (by decide), if_pos (by decide)]
    refine ⟨_, rfl, fun c column row => ?_⟩
    cases c <;>
      simp only [AndroidYcbcr.sample, YuvFormat.offset, YuvFormat.start, YuvFormat.chromaStride,
        YuvFormat.step,
        hwords.size, hone, ptrAdd_intWord _ (show stride * rows < 2 ^ 31 by omega), ptrAdd_intWord
          _ hnext,
        hstrideSize, hstep] <;> push_cast <;> ring
  | yv12 =>
    simp only [ycbcrPlanes, hformat]
    rw [if_neg (by decide), if_neg (by decide), if_pos (by decide)]
    refine ⟨_, rfl, fun c column row => ?_⟩
    cases c <;>
      simp only [AndroidYcbcr.sample, YuvFormat.offset, YuvFormat.start, YuvFormat.chromaStride,
        YuvFormat.step,
        hwords.size, hwords.chromaSize, hwords.chroma, hsum, ptrAdd_intWord _
          (show stride * rows < 2 ^ 31 by omega),
        ptrAdd_intWord _ hplanar, hstrideSize, hchromaSize, hstep] <;> push_cast <;> ring

/-- The planes of `mali_gralloc_lock_flex_async`. -/
lemma YuvNumbers.flexPlanes_eq (h : YuvNumbers width height stride chroma rows) (hwidth : 0 < width)
    (hheight : 0 < height)
    (hstride : hnd.byteStride = intWord stride) (hrows : grallocAlign hnd.height 2 = intWord rows)
    (hformat : hnd.internalFormat = f.internalFormat) :
    ∃ layout, flexPlanes hnd = some layout ∧ layout.numPlanes = 3 ∧ layout.planes.length = 3 ∧
      (layout.planes.map FlexPlane.component).Perm [.y, .cb, .cr] ∧
      ∀ plane ∈ layout.planes, ∀ column row,
        plane.sample column row = hnd.base + f.offset stride rows plane.component column row := by
  have hwords := h.lockWords hwidth hheight hstride hrows
  obtain ⟨hfits, -, halign, hnext, hplanar⟩ := h.words_fit hwidth hheight
  have hstep : (2 : U32).toInt = 2 ∧ (1 : U32).toInt = 1 := by decide
  have hstrideInt : hnd.byteStride.toInt = stride := by rw [hstride, toInt_intWord hfits]
  have hsize := ptrAdd_intWord hnd.base (show stride * rows < 2 ^ 31 by omega)
  cases f with
  | nv12 =>
    simp only [flexPlanes, hformat]
    rw [if_pos (by decide)]
    refine ⟨_, rfl, rfl, rfl, .refl _, fun plane hplane column row => ?_⟩
    simp only [List.mem_cons, List.not_mem_nil, or_false] at hplane
    rcases hplane with rfl | rfl | rfl <;>
      simp only [FlexPlane.sample, flexPlane, YuvFormat.offset, YuvFormat.start,
        YuvFormat.chromaStride, YuvFormat.step,
        hwords.size, hsize, hstrideInt, hstep] <;> push_cast <;> ring
  | nv21 =>
    simp only [flexPlanes, hformat]
    rw [if_neg (by decide), if_pos (by decide)]
    refine ⟨_, rfl, rfl, rfl, .cons _ (.swap _ _ _), fun plane hplane column row => ?_⟩
    simp only [List.mem_cons, List.not_mem_nil, or_false] at hplane
    rcases hplane with rfl | rfl | rfl <;>
      simp only [FlexPlane.sample, flexPlane, YuvFormat.offset, YuvFormat.start,
        YuvFormat.chromaStride, YuvFormat.step,
        hwords.size, hsize, hstrideInt, hstep] <;> push_cast <;> ring
  | yv12 =>
    simp only [flexPlanes, hformat]
    rw [if_neg (by decide), if_neg (by decide), if_pos (by decide)]
    refine ⟨_, rfl, rfl, rfl, .cons _ (.swap _ _ _), fun plane hplane column row => ?_⟩
    simp only [List.mem_cons, List.not_mem_nil, or_false] at hplane
    rcases hplane with rfl | rfl | rfl <;>
      simp only [FlexPlane.sample, flexPlane, YuvFormat.offset, YuvFormat.start,
        YuvFormat.chromaStride, YuvFormat.step,
        hwords.size, hwords.chromaSize, hwords.chroma, hsize, toInt_intWord halign,
        ptrAdd_intWord _ (show alignUp 16 (stride / 2) * (rows / 2) < 2 ^ 31 by omega),
          hstrideInt, hstep] <;>
      push_cast <;> ring

end Words

/-! ## The locks -/

section Locks

variable {α : Type} {f : YuvFormat} {strideAlignment width height : ℕ} {s : StrideAndSize}
  {hnd : YuvHandle}

@[simp] lemma YuvHandle.lockedFor_base (usage : BitVec 64) :
    (hnd.lockedFor usage).base = hnd.base := by
  rw [YuvHandle.lockedFor]
  split <;> rfl

/-- A lock keeps what describes the planes. -/
lemma AllocatedYuv.lockedFor (h : AllocatedYuv f strideAlignment width height s hnd)
    (usage : BitVec 64) :
    AllocatedYuv f strideAlignment width height s (hnd.lockedFor usage) := by
  rw [YuvHandle.lockedFor]
  split
  · exact ⟨h.alignment, h.fits, h.computed, h.valid, h.format, h.stride, h.rows⟩
  · exact h

/-- A lock that is for the processor, of a buffer without modifiers. -/
lemma AllocatedYuv.lockPlanes_eq (h : AllocatedYuv f strideAlignment width height s hnd)
    {planes : YuvHandle → Option α}
    {p out : α} {usage : BitVec 64} {fenceFd : Int} (husage : usage &&& usageSwMask ≠ 0)
    (hplanes : planes (hnd.lockedFor usage) = some p) :
    (lockPlanes planes (some hnd) usage (some out) fenceFd).status = 0 ∧
      (lockPlanes planes (some hnd) usage (some out) fenceFd).out = some p := by
  have hcond : usage &&& usageSwMask ≠ 0 ∧
      (hnd.lockedFor usage).internalFormat &&& intfmtExtMask = 0 := by
    refine ⟨husage, ?_⟩
    rw [(h.lockedFor usage).format]
    cases f <;> decide
  simp only [lockPlanes, h.valid, Bool.not_true, Bool.false_eq_true, if_false, Option.isNone_some,
    if_pos hcond, hplanes,
    and_self]

/-- `mali_gralloc_get_num_flex_planes` knows the formats that can be locked. -/
lemma AllocatedYuv.getNumFlexPlanes_eq (h : AllocatedYuv f strideAlignment width height s hnd)
    (n : U32) :
    maliGrallocGetNumFlexPlanes (some hnd) (some n) = (0, some 3) := by
  simp only [maliGrallocGetNumFlexPlanes, h.valid, h.format, Bool.not_true,
    Bool.false_eq_true, if_false,
    Option.isNone_some]
  cases f
  · rw [if_pos (.inl (by decide))]
  · rw [if_pos (.inr (.inl (by decide)))]
  · rw [if_pos (.inr (.inr (by decide)))]

/-- Both locks succeed with the planes that were announced, at the same addresses; the samples of
the surface, with chroma rounded up, are at different addresses inside the buffer. -/
theorem lock_planes_agree (f : YuvFormat) (strideAlignment width height : ℕ) (hwidth : 0 < width)
    (hheight : 0 < height)
    (s : StrideAndSize) (hnd : YuvHandle)
    (halloc : AllocatedYuv f strideAlignment width height s hnd)
    (usage : BitVec 64) (husage : usage &&& usageSwMask ≠ 0) (ycbcr : AndroidYcbcr)
    (flexLayout : FlexLayout)
    (fenceFd : Int) (n : U32) :
    ∃ planes layout,
      ((maliGrallocLockYcbcr (some hnd) usage (some ycbcr)).status = 0 ∧
        (maliGrallocLockYcbcr (some hnd) usage (some ycbcr)).out = some planes) ∧
      ((maliGrallocLockFlexAsync (some hnd) usage (some flexLayout) fenceFd).status = 0 ∧
        (maliGrallocLockFlexAsync (some hnd) usage (some flexLayout) fenceFd).out = some layout) ∧
      maliGrallocGetNumFlexPlanes (some hnd) (some n) = (0, some layout.numPlanes) ∧
      PlanesAgree planes layout ∧ SamplesDistinct planes width height ∧
      SamplesInside planes width height hnd.base s.size.toNat := by
  have hlocked := halloc.lockedFor usage
  obtain ⟨stride, chroma, rows, hnumbers, hstride, hrows, hsize⟩ := hlocked.numbers
  obtain ⟨planes, hplanes, hsample⟩ :=
    hnumbers.ycbcrPlanes_eq hwidth hheight hstride hrows hlocked.format
  obtain ⟨layout, hlayout, hthree, hlength, hperm, hflex⟩ :=
    hnumbers.flexPlanes_eq hwidth hheight hstride hrows hlocked.format
  refine ⟨planes, layout, halloc.lockPlanes_eq husage hplanes,
    halloc.lockPlanes_eq husage hlayout, ?_, ⟨?_, hperm, ?_⟩, ?_, ?_⟩
  · rw [hthree]
    exact halloc.getNumFlexPlanes_eq n
  · rw [hthree, hlength]
    rfl
  · intro plane hplane column row
    rw [hflex plane hplane, hsample]
  · intro c column row hcolumn hrow c' column' row' hcolumn' hrow' heq
    rw [hsample, hsample] at heq
    exact hnumbers.offset_unique f hcolumn hrow hcolumn' hrow' (by omega)
  · intro c column row hcolumn hrow
    have hlt := hnumbers.offset_lt f hcolumn hrow
    rw [hsample, hsize, YuvHandle.lockedFor_base]
    omega

/-- A buffer of 1 times 3 pixels, with a stride of 128 and a chroma stride of 64 in the locks. -/
def smallYv12 : YuvHandle where
  toPrivateHandle := { PrivateHandle.new 1 privFlagsUsesIon 5 with base := 4096 }
  nativeHandle := true
  internalFormat := YuvFormat.yv12.internalFormat
  byteStride := 128
  height := 3

/-- The locks of a small buffer. -/
theorem lock_planes_agree_small : SamplesInside
    ⟨4096, 4736, 4608, 128, 64, 1⟩ 1 3 4096 1024 := by
  obtain ⟨planes, layout, hycbcr, -, -, -, -, hinside⟩ :=
    lock_planes_agree .yv12 128 1 3 (by decide) (by decide)
    ⟨128, 128, 1024⟩ smallYv12
    ⟨.inr rfl, by decide, ⟨false, 0, by decide⟩, by decide, rfl, rfl, rfl⟩ 0x33 (by decide)
      ⟨0, 0, 0, 0, 0, 0⟩
    ⟨.ycbcr, 0, []⟩ (-1) 0
  obtain rfl : _ = planes := Option.some.inj hycbcr.2
  exact hinside

end Locks

end Hikey
