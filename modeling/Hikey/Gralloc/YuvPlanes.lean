import Hikey.Foundation.CheckedInt
import Hikey.Foundation.Rows
import Hikey.Gralloc.Locking

/-!
# Planes of YUV buffers (`alloc_device.cpp`, `gralloc_module.cpp`)

The allocation computes a stride and a size for a format, the lock computes the stride and the
planes again.  Both work with `int`, and `none` is an overflow; where there is none, the offsets are
those of the lock with words that wrap around (`planes_eq`).  `size_t` has 64 bits, which the sizes
do not leave.  The buffer is not one of the framebuffer, which has no YUV format.
-/

namespace Hikey.Gralloc

/-! ## The source -/

/-- The YUV formats that `alloc_device_alloc` accepts, the last three where `SUPPORT_LEGACY_FORMAT`
is defined. -/
inductive YuvFormat
  | ycrcb420Sp
  | yv12
  | ycbcr420Sp
  | ycbcr420P
  | ycbcr422I
deriving DecidableEq, Repr

/-- The alignment of rows that depends on the height: `GRALLOC_ALIGN_BASE_16`, `_64` or `_128`. -/
def alignBase (h : ℕ) : ℕ := if h % 8 = 0 then 16 else if h % 4 = 0 then 64 else 128

/-- What `alloc_device_alloc` computes: the size of the buffer, and what it notes in the handle. -/
structure YuvAllocation where
  size : ℕ
  width : ℕ
  height : ℕ
  stride : ℕ
  byteStride : ℕ
deriving DecidableEq, Repr

/-- The stride and the size in `alloc_device_alloc`. -/
def yuvStrideAndSize (f : YuvFormat) (w h : ℕ) : Option (ℕ × ℕ) :=
  match f with
  | .ycrcb420Sp | .ycbcr420Sp => do
    let stride ← intAlign 16 w
    let rows ← intAlign 16 h
    return (stride, rows * (stride + alignUp 16 (stride / 2)))
  | .yv12 | .ycbcr420P => do
    let stride ← intAlign (alignBase h) w
    let rows ← intAlign 2 h
    return (stride, rows * (stride + alignUp 16 (stride / 2)))
  | .ycbcr422I => do
    let stride ← intAlign 16 w
    return (stride, h * stride * 2)

/-- `alloc_device_alloc` -/
def allocDeviceAlloc (f : YuvFormat) (w h : ℕ) : Option YuvAllocation := do
  let w ← intOf w
  let h ← intOf h
  let bpp := 1
  let (stride, size) ← yuvStrideAndSize f w h
  let byteStride ← intAlign 64 (w * bpp)
  return ⟨size, w, h, stride, byteStride⟩

/-- `android_ycbcr`, as offsets from the base of the buffer. -/
structure YcbcrOffsets where
  y : ℕ
  cb : ℕ
  cr : ℕ
  ystride : ℕ
  cstride : ℕ
  chromaStep : ℕ
deriving DecidableEq, Repr

/-- The planes of `gralloc_lock_ycbcr`, without overflow; the inner `none` is the error for a format
that is not locked. -/
def ycbcrOffsets (f : YuvFormat) (hnd : YuvAllocation) : Option (Option YcbcrOffsets) :=
  match f with
  | .ycrcb420Sp => do
    let ystride ← intAlign 16 hnd.width
    let luma ← intOf (ystride * hnd.height)
    return some ⟨0, luma + 1, luma, ystride, ystride, 2⟩
  | .yv12 => do
    let ystride ← intAlign (alignBase hnd.height) hnd.width
    let cstride ← intAlign 16 (ystride / 2)
    let rows ← intAlign 2 hnd.height
    let luma ← intOf (ystride * rows)
    let chroma ← intOf (cstride * hnd.height)
    return some ⟨0, luma + chroma / 2, luma, ystride, cstride, 1⟩
  | .ycbcr420Sp => do
    let ystride ← intAlign 16 hnd.width
    let luma ← intOf (ystride * hnd.height)
    return some ⟨0, luma, luma + 1, ystride, ystride, 2⟩
  | .ycbcr420P | .ycbcr422I => return none

/-! ## What is promised -/

/-- The plane of luma. -/
def YcbcrOffsets.luma (p : YcbcrOffsets) (w h : ℕ) : Plane := ⟨p.y, p.ystride, 1, w, h⟩

/-- A plane of chroma, with half the columns and half the rows, rounded up. -/
def YcbcrOffsets.chroma (p : YcbcrOffsets) (start w h : ℕ) : Plane :=
  ⟨start, p.cstride, p.chromaStep, (w + 1) / 2, (h + 1) / 2⟩

/-- The planes do not share a sample and are in the buffer, and the stride is that of the
allocation. -/
structure PlanesOk (f : YuvFormat) (hnd : YuvAllocation) (p : YcbcrOffsets) : Prop where
  apart : (p.luma hnd.width hnd.height).Apart (p.chroma p.cb hnd.width hnd.height)
    ∧ (p.luma hnd.width hnd.height).Apart (p.chroma p.cr hnd.width hnd.height)
    ∧ (p.chroma p.cb hnd.width hnd.height).Apart (p.chroma p.cr hnd.width hnd.height)
  inside : (p.luma hnd.width hnd.height).Inside hnd.size ∧
    (p.chroma p.cb hnd.width hnd.height).Inside hnd.size
    ∧ (p.chroma p.cr hnd.width hnd.height).Inside hnd.size
  stride : p.ystride = hnd.stride
  aligned : f = .yv12 → 64 ∣ p.cr ∧ 64 ∣ p.cb

/-- An allocated buffer is one whose planes, as far as it can be locked, are as they should be, and
whose rows of `byte_stride` are in it. -/
def BufferOk (f : YuvFormat) (w h : ℕ) : Prop :=
  ∃ hnd locked, allocDeviceAlloc f w h = some hnd ∧ ycbcrOffsets f hnd = some locked
    ∧ (∀ p ∈ locked, PlanesOk f hnd p) ∧ hnd.byteStride * h ≤ hnd.size

/-- The numbers of type `int` do not overflow. -/
def NoOverflow (f : YuvFormat) (w h : ℕ) : Prop :=
  match f with
  | .ycrcb420Sp | .ycbcr420Sp => w + 63 < 2 ^ 31 ∧ h + 15 < 2 ^ 31 ∧ alignUp 16 w * h < 2 ^ 31
  | .yv12 => w + max 63 (alignBase h - 1) < 2 ^ 31 ∧ h + 1 < 2 ^ 31 ∧
      alignUp (alignBase h) w * alignUp 2 h < 2 ^ 31
  | .ycbcr420P => w + max 63 (alignBase h - 1) < 2 ^ 31 ∧ h + 1 < 2 ^ 31
  | .ycbcr422I => w + 63 < 2 ^ 31 ∧ h < 2 ^ 31

/-- The sizes for which a format has room for rows of `byte_stride`, and, for YV12, for the last row
of chroma. -/
def HasRoom (f : YuvFormat) (w h : ℕ) : Prop :=
  match f with
  | .ycrcb420Sp | .ycbcr420Sp => 32 < w ∨ 16 < w ∧ 4 * h ≤ 3 * alignUp 16 h ∨ h ≤ 8
  | .yv12 => h % 2 = 0 ∧ (h % 8 = 0 → 32 < w)
  | .ycbcr420P => h % 8 = 0 → 32 < w
  | .ycbcr422I => 16 < w

/-! ## Numbers without overflow -/

/-- The stride of an allocation. -/
def strideOf (f : YuvFormat) (w h : ℕ) : ℕ :=
  match f with
  | .ycrcb420Sp | .ycbcr420Sp | .ycbcr422I => alignUp 16 w
  | .yv12 | .ycbcr420P => alignUp (alignBase h) w

/-- The size of an allocation. -/
def sizeOf (f : YuvFormat) (w h : ℕ) : ℕ :=
  let stride := strideOf f w h
  match f with
  | .ycrcb420Sp | .ycbcr420Sp => alignUp 16 h * (stride + alignUp 16 (stride / 2))
  | .yv12 | .ycbcr420P => alignUp 2 h * (stride + alignUp 16 (stride / 2))
  | .ycbcr422I => h * stride * 2

/-- The planes of a lock. -/
def planesOf (f : YuvFormat) (w h : ℕ) : Option YcbcrOffsets :=
  let stride := strideOf f w h
  match f with
  | .ycrcb420Sp => some ⟨0, stride * h + 1, stride * h, stride, stride, 2⟩
  | .ycbcr420Sp => some ⟨0, stride * h, stride * h + 1, stride, stride, 2⟩
  | .yv12 =>
    let cstride := alignUp 16 (stride / 2)
    some ⟨0, stride * alignUp 2 h + cstride * h / 2, stride * alignUp 2 h, stride, cstride, 1⟩
  | .ycbcr420P | .ycbcr422I => none

/-- The buffer of an allocation. -/
def bufferOf (f : YuvFormat) (w h : ℕ) : YuvAllocation :=
  ⟨sizeOf f w h, w, h, strideOf f w h, alignUp 64 w⟩

section Numbers

variable {f : YuvFormat} {w h : ℕ} {hnd : YuvAllocation} {locked : Option YcbcrOffsets}

lemma alignBase_cases (h : ℕ) : alignBase h = 16 ∧ h % 8 = 0 ∨ alignBase h = 64 ∧ h % 8 ≠ 0 ∧
    h % 4 = 0 ∨ alignBase h = 128 ∧ h % 4 ≠ 0 := by
  rw [alignBase]
  split_ifs <;> omega

/-- The chroma rows of a planar format are not longer than its rows of luma. -/
lemma alignUp_half_le {s : ℕ} (hs : 16 ∣ s) : alignUp 16 (s / 2) ≤ s := by
  obtain ⟨k, rfl⟩ := hs
  rw [alignUp]
  omega

lemma sixteen_dvd_strideOf (f : YuvFormat) (w h : ℕ) : 16 ∣ strideOf f w h := by
  have hbase : 16 ∣ alignUp (alignBase h) w := by
    rcases alignBase_cases h with ⟨hb, -⟩ | ⟨hb, -⟩ | ⟨hb, -⟩
    · exact hb ▸ dvd_alignUp 16 w
    · exact hb ▸ (by decide : 16 ∣ 64).trans (dvd_alignUp 64 w)
    · exact hb ▸ (by decide : 16 ∣ 128).trans (dvd_alignUp 128 w)
  cases f
  case yv12 | ycbcr420P => exact hbase
  all_goals exact dvd_alignUp 16 w

/-- The roundings of an allocation do not overflow. -/
def AllocFits (f : YuvFormat) (w h : ℕ) : Prop :=
  match f with
  | .ycrcb420Sp | .ycbcr420Sp => w + 63 < 2 ^ 31 ∧ h + 15 < 2 ^ 31
  | .yv12 | .ycbcr420P => w + max 63 (alignBase h - 1) < 2 ^ 31 ∧ h + 1 < 2 ^ 31
  | .ycbcr422I => w + 63 < 2 ^ 31 ∧ h < 2 ^ 31

lemma allocDeviceAlloc_eq_some : allocDeviceAlloc f w h = some hnd ↔ AllocFits f w h ∧
    bufferOf f w h = hnd := by
  cases f
  all_goals
    simp only [allocDeviceAlloc, yuvStrideAndSize, Option.bind_eq_bind, Option.bind_eq_some_iff,
      intAlign_eq_some,
      intOf_eq_some, Option.pure_def, Option.some.injEq, AllocFits, bufferOf, strideOf, sizeOf,
        Nat.mul_one, and_assoc,
      exists_and_left, exists_eq_left']
    simp only [← and_assoc]
    refine and_congr_left fun _ => ?_
    omega

/-- The product that the lock computes first does not overflow. -/
def LumaFits (f : YuvFormat) (w h : ℕ) : Prop :=
  match f with
  | .ycrcb420Sp | .ycbcr420Sp => alignUp 16 w * h < 2 ^ 31
  | .yv12 => alignUp (alignBase h) w * alignUp 2 h < 2 ^ 31
  | .ycbcr420P | .ycbcr422I => True

lemma noOverflow_iff : NoOverflow f w h ↔ AllocFits f w h ∧ LumaFits f w h := by
  cases f <;> simp only [NoOverflow, AllocFits, LumaFits, and_assoc, and_true]

lemma ycbcrOffsets_eq_some (halloc : AllocFits f w h) :
    ycbcrOffsets f (bufferOf f w h) = some locked ↔ LumaFits f w h ∧ planesOf f w h = locked := by
  cases f
  case ycrcb420Sp | ycbcr420Sp =>
    obtain ⟨hw, hh⟩ := halloc
    simp only [ycbcrOffsets, bufferOf, Option.bind_eq_bind, Option.bind_eq_some_iff,
      intAlign_eq_some, intOf_eq_some,
      Option.pure_def, Option.some.injEq, LumaFits, planesOf, strideOf, and_assoc, exists_and_left,
        exists_eq_left']
    simp only [← and_assoc]
    refine and_congr_left fun _ => ?_
    omega
  case yv12 =>
    obtain ⟨hw, hh⟩ := halloc
    have hstride := alignUp_le (alignBase h) w
    have hhalf := alignUp_half_le (sixteen_dvd_strideOf .yv12 w h)
    have hrows := le_alignUp (n := h) (by decide : 0 < 2)
    have hchroma := Nat.mul_le_mul hhalf hrows
    simp only [ycbcrOffsets, bufferOf, Option.bind_eq_bind, Option.bind_eq_some_iff,
      intAlign_eq_some, intOf_eq_some,
      Option.pure_def, Option.some.injEq, LumaFits, planesOf, strideOf, and_assoc, exists_and_left,
        exists_eq_left'] at hchroma ⊢
    simp only [← and_assoc]
    refine and_congr_left fun _ => ?_
    omega
  case ycbcr420P | ycbcr422I => simp [ycbcrOffsets, LumaFits, planesOf]

/-- Where nothing overflows, these are the numbers of the code, and where something does, it has
none. -/
lemma bufferOk_iff_of_numbers :
    BufferOk f w h ↔ NoOverflow f w h ∧ (∀ p ∈ planesOf f w h, PlanesOk f (bufferOf f w h) p)
      ∧ alignUp 64 w * h ≤ sizeOf f w h := by
  rw [noOverflow_iff]
  constructor
  · rintro ⟨hnd, locked, halloc, hlock, hplanes, hbytes⟩
    obtain ⟨hfits, rfl⟩ := allocDeviceAlloc_eq_some.mp halloc
    obtain ⟨hluma, rfl⟩ := (ycbcrOffsets_eq_some hfits).mp hlock
    exact ⟨⟨hfits, hluma⟩, hplanes, hbytes⟩
  · rintro ⟨⟨hfits, hluma⟩, hplanes, hbytes⟩
    exact ⟨_, _, allocDeviceAlloc_eq_some.mpr ⟨hfits, rfl⟩,
      (ycbcrOffsets_eq_some hfits).mpr ⟨hluma, rfl⟩, hplanes, hbytes⟩

end Numbers

/-! ## Room -/

section Room

variable {f : YuvFormat} {w h : ℕ} {hnd : YuvAllocation} {p : YcbcrOffsets}

/-- Which sizes have room for rows of `byte_stride`. -/
lemma byteStride_le_iff_sp :
    alignUp 64 w * h ≤ alignUp 16 h * (alignUp 16 w + alignUp 16 (alignUp 16 w / 2))
      ↔ w = 0 ∨ h = 0 ∨ 32 < w ∨ 16 < w ∧ 4 * h ≤ 3 * alignUp 16 h ∨ h ≤ 8 := by
  have hh := le_alignUp (n := h) (by decide : 0 < 16)
  rcases Nat.lt_or_ge 32 w with hwide | hwide
  · have hrow : alignUp 64 w ≤ alignUp 16 w + alignUp 16 (alignUp 16 w / 2) := by
      simp only [alignUp]
      omega
    have hle := Nat.mul_le_mul hrow hh
    rw [Nat.mul_comm (_ + _)] at hle
    exact ⟨fun _ => by omega, fun _ => hle⟩
  · rcases Nat.lt_or_ge 16 w with hmiddle | hsmall
    · have h64 : alignUp 64 w = 64 := (alignUp_eq_iff (q := 1) (by decide)).mpr ⟨by omega, by omega⟩
      have h16 : alignUp 16 w = 32 := (alignUp_eq_iff (q := 2) (by decide)).mpr ⟨by omega, by omega⟩
      rw [h64, h16, show alignUp 16 (32 / 2) = 16 by decide]
      simp only [alignUp]
      omega
    · rcases Nat.eq_zero_or_pos w with rfl | hpos
      · simp [alignUp]
      · have h64 : alignUp 64 w = 64 :=
          (alignUp_eq_iff (q := 1) (by decide)).mpr ⟨by omega, by omega⟩
        have h16 : alignUp 16 w = 16 :=
          (alignUp_eq_iff (q := 1) (by decide)).mpr ⟨by omega, by omega⟩
        rw [h64, h16, show alignUp 16 (16 / 2) = 16 by decide]
        simp only [alignUp]
        omega

lemma byteStride_le_iff_planar :
    alignUp 64 w * h ≤
      alignUp 2 h * (alignUp (alignBase h) w + alignUp 16 (alignUp (alignBase h) w / 2))
      ↔ w = 0 ∨ h = 0 ∨ (h % 8 = 0 → 32 < w) := by
  have hh := le_alignUp (n := h) (by decide : 0 < 2)
  rcases Nat.eq_zero_or_pos w with rfl | hpos
  · simp [alignUp]
  · by_cases hrow : alignUp 64 w ≤ alignUp (alignBase h) w + alignUp 16
      (alignUp (alignBase h) w / 2)
    · have hle := Nat.mul_le_mul hrow hh
      rw [Nat.mul_comm (_ + _)] at hle
      refine ⟨fun _ => .inr (.inr fun h8 => ?_), fun _ => hle⟩
      have hbase : alignBase h = 16 := if_pos h8
      rw [hbase] at hrow
      simp only [alignUp] at hrow
      omega
    · rcases alignBase_cases h with ⟨hbase, h8⟩ | ⟨hbase, -⟩ | ⟨hbase, -⟩
      · -- a multiple of 8 rows: strides of 16 and 32 bytes are too short
        have hwide : w ≤ 32 := by
          rw [hbase] at hrow
          simp only [alignUp] at hrow
          omega
        have heven : alignUp 2 h = h := alignUp_of_dvd (by decide) (by omega)
        rw [hbase] at hrow ⊢
        rw [heven, Nat.mul_comm h]
        constructor
        · intro hle
          have hzero : ¬ 0 < h := fun hpos => hrow (Nat.le_of_mul_le_mul_right hle hpos)
          omega
        · intro hroom
          obtain rfl : h = 0 := by omega
          simp
      · rw [hbase] at hrow
        exact absurd (Nat.le_add_right _ _) hrow
      · rw [hbase] at hrow
        simp only [alignUp] at hrow
        omega

lemma byteStride_le_iff_packed : alignUp 64 w * h ≤ h * alignUp 16 w * 2 ↔
    w = 0 ∨ h = 0 ∨ 16 < w := by
  rw [Nat.mul_assoc, Nat.mul_comm h]
  rcases Nat.eq_zero_or_pos h with rfl | hpos
  · simp
  · rw [Nat.mul_le_mul_right_iff hpos]
    simp only [alignUp]
    omega

/-- What is known of the numbers of a buffer: the stride, the chroma stride and the rounded height.
-/
lemma strideOf_facts (f : YuvFormat) (w h : ℕ) :
    w ≤ strideOf f w h ∧ ∃ k, strideOf f w h = 16 * k ∧ 8 * k ≤ alignUp 16
      (strideOf f w h / 2) := by
  have hle : w ≤ strideOf f w h := by
    have hbase : 0 < alignBase h := by
      rcases alignBase_cases h with ⟨hb, -⟩ | ⟨hb, -⟩ | ⟨hb, -⟩ <;> omega
    cases f
    case yv12 | ycbcr420P => exact le_alignUp hbase
    all_goals exact le_alignUp (by decide)
  obtain ⟨k, hk⟩ := sixteen_dvd_strideOf f w h
  have hhalf := le_alignUp (a := 16) (n := strideOf f w h / 2) (by decide)
  exact ⟨hle, k, hk, by omega⟩

/-- The rows of luma come first. -/
lemma luma_inside (cb cr : ℕ) {n stride : ℕ} (cstride step : ℕ) (hw : w ≤ stride)
    (hn : stride * h ≤ n) :
    (YcbcrOffsets.luma ⟨0, cb, cr, stride, cstride, step⟩ w h).Inside n := by
  refine Plane.inside_of_le 0 (fun column hcolumn => ?_) ?_
  · dsimp only [YcbcrOffsets.luma] at hcolumn ⊢
    omega
  · dsimp only [YcbcrOffsets.luma]
    omega

/-- The size of a format with interleaved chroma covers the rows of luma and the rows of pairs. -/
lemma pairs_le_sizeOf (hf : f = .ycrcb420Sp ∨ f = .ycbcr420Sp) :
    strideOf f w h * h + strideOf f w h * ((h + 1) / 2) ≤ sizeOf f w h := by
  obtain ⟨-, k, hk, hhalf⟩ := strideOf_facts f w h
  have hsize : sizeOf f w h =
      alignUp 16 h * (strideOf f w h + alignUp 16 (strideOf f w h / 2)) := by
    rcases hf with rfl | rfl <;> rfl
  have hrows : 2 * (h + (h + 1) / 2) ≤ 3 * alignUp 16 h := by
    simp only [alignUp]
    omega
  calc strideOf f w h * h + strideOf f w h * ((h + 1) / 2) =
    8 * k * (2 * (h + (h + 1) / 2)) := by rw [hk]; ring
    _ ≤ 8 * k * (3 * alignUp 16 h) := Nat.mul_le_mul_left _ hrows
    _ = alignUp 16 h * (strideOf f w h + 8 * k) := by rw [hk]; ring
    _ ≤ sizeOf f w h := by
      rw [hsize]
      exact Nat.mul_le_mul_left _ (Nat.add_le_add_left hhalf _)

/-- Interleaved chroma: two planes of pairs behind the rows of luma. -/
lemma planesOk_of_pairs {cb cr : ℕ} (hf : f = .ycrcb420Sp ∨ f = .ycbcr420Sp)
    (hstart : cb = strideOf f w h * h ∧ cr = cb + 1 ∨ cr = strideOf f w h * h ∧ cb = cr + 1) :
    PlanesOk f (bufferOf f w h) ⟨0, cb, cr, strideOf f w h, strideOf f w h, 2⟩ := by
  obtain ⟨hw, k, hk, -⟩ := strideOf_facts f w h
  have hsize := pairs_le_sizeOf (w := w) (h := h) hf
  have hluma {n : ℕ} (hn : strideOf f w h * h ≤ n) := luma_inside cb cr (strideOf f w h) 2 hw hn
  have hchroma (start phase : ℕ) (hphase : phase ≤ 1)
      (hbegin : start = strideOf f w h * h + phase) :
      (YcbcrOffsets.chroma ⟨0, cb, cr, strideOf f w h, strideOf f w h, 2⟩ start w h).Inside
        (sizeOf f w h) := by
    refine Plane.inside_of_le phase (fun column hcolumn => ?_) ?_
    · dsimp only [YcbcrOffsets.chroma] at hcolumn ⊢
      omega
    · dsimp only [YcbcrOffsets.chroma]
      omega
  have hparity : (YcbcrOffsets.chroma ⟨0, cb, cr, strideOf f w h, strideOf f w h, 2⟩ cb w h).Apart
      (YcbcrOffsets.chroma ⟨0, cb, cr, strideOf f w h, strideOf f w h, 2⟩ cr w h) := by
    intro column _ row _ column' _ row' _ heq
    simp only [Plane.offset, YcbcrOffsets.chroma, hk] at heq
    have hrow : row * (16 * k) = 2 * (row * (8 * k)) := by ring
    have hrow' : row' * (16 * k) = 2 * (row' * (8 * k)) := by ring
    omega
  refine ⟨⟨?_, ?_, hparity⟩, ⟨hluma (by simp only [bufferOf]; omega), ?_, ?_⟩, rfl, ?_⟩
  · exact (hluma (by simp only [bufferOf, YcbcrOffsets.chroma]; omega)).apart
  · exact (hluma (by simp only [bufferOf, YcbcrOffsets.chroma]; omega)).apart
  · rcases hstart with ⟨hcb, hcr⟩ | ⟨hcr, hcb⟩
    · exact hchroma cb 0 (Nat.zero_le 1) hcb
    · exact hchroma cb 1 le_rfl (by omega)
  · rcases hstart with ⟨hcb, hcr⟩ | ⟨hcr, hcb⟩
    · exact hchroma cr 1 le_rfl (by omega)
    · exact hchroma cr 0 (Nat.zero_le 1) hcr
  · rcases hf with rfl | rfl <;> simp

/-- The offsets of the chroma planes of YV12 for an even height. -/
lemma yv12_aligned (heven : h % 2 = 0) :
    64 ∣ strideOf .yv12 w h * h ∧ 64 ∣ alignUp 16 (strideOf .yv12 w h / 2) * (h / 2) := by
  have hstride : alignBase h ∣ strideOf .yv12 w h := dvd_alignUp _ _
  rcases alignBase_cases h with ⟨hbase, h8⟩ | ⟨hbase, h8, h4⟩ | ⟨hbase, h4⟩
  · obtain ⟨m, rfl⟩ : ∃ m, h = 8 * m := ⟨h / 8, by omega⟩
    obtain ⟨k, hk⟩ := hbase ▸ hstride
    obtain ⟨c, hc⟩ := dvd_alignUp 16 (strideOf .yv12 w (8 * m) / 2)
    rw [hc, hk, show 8 * m / 2 = 4 * m by omega]
    exact ⟨⟨2 * (k * m), by ring⟩, ⟨c * m, by ring⟩⟩
  · obtain ⟨m, rfl⟩ : ∃ m, h = 4 * m := ⟨h / 4, by omega⟩
    obtain ⟨k, hk⟩ := hbase ▸ hstride
    have hhalf : alignUp 16 (64 * k / 2) = 32 * k := by
      rw [alignUp_of_dvd (by decide) (by omega)]
      omega
    rw [hk, hhalf, show 4 * m / 2 = 2 * m by omega]
    exact ⟨⟨4 * (k * m), by ring⟩, ⟨k * m, by ring⟩⟩
  · obtain ⟨m, rfl⟩ : ∃ m, h = 2 * m := ⟨h / 2, by omega⟩
    obtain ⟨k, hk⟩ := hbase ▸ hstride
    have hhalf : alignUp 16 (128 * k / 2) = 64 * k := by
      rw [alignUp_of_dvd (by decide) (by omega)]
      omega
    rw [hk, hhalf, show 2 * m / 2 = m by omega]
    exact ⟨⟨4 * (k * m), by ring⟩, ⟨k * m, by ring⟩⟩

/-- YV12 with an even height: the planes follow each other, and fill the buffer. -/
lemma planesOk_yv12 (heven : h % 2 = 0) : ∀ p ∈ planesOf .yv12 w h, PlanesOk .yv12
    (bufferOf .yv12 w h) p := by
  rintro p hp
  obtain ⟨hw, k, hk, hhalf⟩ := strideOf_facts .yv12 w h
  obtain ⟨hcr, hcb⟩ := yv12_aligned (w := w) heven
  have hrows : alignUp 2 h = h := alignUp_of_dvd (by decide) (by omega)
  have hsize : sizeOf .yv12 w h =
      h * (strideOf .yv12 w h + alignUp 16 (strideOf .yv12 w h / 2)) := by
    simp only [sizeOf, hrows]
  have hdiv : alignUp 16 (strideOf .yv12 w h / 2) * h / 2 =
      alignUp 16 (strideOf .yv12 w h / 2) * (h / 2) :=
    Nat.mul_div_assoc _ (by omega)
  simp only [planesOf, hrows, hdiv, Option.mem_def, Option.some.injEq] at hp
  generalize alignUp 16 (strideOf .yv12 w h / 2) = c at hhalf hcb hsize hp
  subst hp
  have hhalves : c * (h / 2) + c * ((h + 1) / 2) = c * h := by
    rw [← Nat.mul_add]
    congr 1
    omega
  have hfill : sizeOf .yv12 w h = strideOf .yv12 w h * h + c * (h / 2) + c * ((h + 1) / 2) := by
    rw [hsize, Nat.add_assoc, hhalves]
    ring
  have hluma {n : ℕ} (hn : strideOf .yv12 w h * h ≤ n) :=
    luma_inside (strideOf .yv12 w h * h + c * (h / 2)) (strideOf .yv12 w h * h) c 1 hw hn
  have hchroma (start n : ℕ) (hn : start + c * ((h + 1) / 2) ≤ n) : (YcbcrOffsets.chroma ⟨0,
      strideOf .yv12 w h * h + c * (h / 2), strideOf .yv12 w h * h, strideOf .yv12 w h, c, 1⟩ start
        w h).Inside n := by
    refine Plane.inside_of_le 0 (fun column hcolumn => ?_) ?_
    · dsimp only [YcbcrOffsets.chroma] at hcolumn ⊢
      omega
    · dsimp only [YcbcrOffsets.chroma]
      omega
  have hends : c * (h / 2) = c * ((h + 1) / 2) := by
    congr 1
    omega
  refine ⟨⟨?_, ?_, ?_⟩, ⟨hluma (by simp only [bufferOf]; omega), hchroma _ _ ?_, hchroma _ _ ?_⟩,
    rfl, fun _ => ⟨hcr, dvd_add hcr hcb⟩⟩
  · exact (hluma (Nat.le_add_right _ _)).apart
  · exact (hluma le_rfl).apart
  · exact (hchroma _ _ (by simp only [YcbcrOffsets.chroma]; omega)).apart.symm
  · simp only [bufferOf]
    omega
  · simp only [bufferOf]
    omega

/-- A buffer without columns has no samples. -/
lemma planesOk_yv12_empty : ∀ p ∈ planesOf .yv12 0 h, PlanesOk .yv12 (bufferOf .yv12 0 h) p := by
  rintro p hp
  have hstride : strideOf .yv12 0 h = 0 := by
    rcases alignBase_cases h with ⟨hb, -⟩ | ⟨hb, -⟩ | ⟨hb, -⟩ <;> simp [strideOf, hb, alignUp]
  simp only [planesOf, hstride, Option.mem_def, Option.some.injEq] at hp
  subst hp
  refine ⟨⟨?_, ?_, ?_⟩, ⟨?_, ?_, ?_⟩, hstride.symm, fun _ => by simp [alignUp]⟩ <;>
    intro column hcolumn
  all_goals
    simp only [YcbcrOffsets.luma, YcbcrOffsets.chroma, bufferOf] at hcolumn
    omega

/-- YV12 with an odd height: half a row is missing between the chroma planes, so that the last row
of V runs into U, or it is short, and U is not aligned. -/
lemma not_planesOk_yv12 (hw : 0 < w) (hodd : h % 2 = 1) : ¬ ∀ p ∈ planesOf .yv12 w h, PlanesOk .yv12
    (bufferOf .yv12 w h) p := by
  intro hall
  obtain ⟨m, rfl⟩ : ∃ m, h = 2 * m + 1 := ⟨h / 2, by omega⟩
  have hbase : alignBase (2 * m + 1) = 128 := by
    rw [alignBase, if_neg (by omega), if_neg (by omega)]
  obtain ⟨k, hk⟩ : 128 ∣ alignUp 128 w := dvd_alignUp _ _
  have hle := alignUp_le 128 w
  have hge := le_alignUp (n := w) (by decide : 0 < 128)
  have hstride : strideOf .yv12 w (2 * m + 1) = 128 * k := by rw [← hk, ← hbase, strideOf]
  have hhalf : alignUp 16 (128 * k / 2) = 64 * k := by
    rw [alignUp_of_dvd (by decide) (by omega)]
    omega
  have hchroma : 64 * k * (2 * m + 1) / 2 = 64 * k * m + 32 * k := by
    rw [show 64 * k * (2 * m + 1) =
      2 * (64 * k * m + 32 * k) by ring, Nat.mul_div_cancel_left _ (by decide)]
  have hok := hall ⟨0, 128 * k * alignUp 2 (2 * m + 1) + (64 * k * m + 32 * k),
      128 * k * alignUp 2 (2 * m + 1), 128 * k,
    64 * k, 1⟩ (by simp only [planesOf, hstride, hhalf, hchroma, Option.mem_def])
  rcases Nat.lt_or_ge 64 w with hwide | hnarrow
  · -- the first sample of U is in the last row of V
    refine hok.apart.2.2 0 ?_ 0 ?_ (32 * k) ?_ m ?_ ?_
    · simp only [YcbcrOffsets.chroma, bufferOf]
      omega
    · simp only [YcbcrOffsets.chroma, bufferOf]
      omega
    · simp only [YcbcrOffsets.chroma, bufferOf]
      omega
    · simp only [YcbcrOffsets.chroma, bufferOf]
      omega
    · simp only [Plane.offset, YcbcrOffsets.chroma]
      ring
  · obtain rfl : k = 1 := by omega
    obtain ⟨hcr, hcb⟩ := hok.aligned rfl
    have hgap := (Nat.dvd_add_right hcr).mp hcb
    omega

/-- A buffer of a YUV format is as it should be exactly if nothing overflows and it is empty or has
room for rows of `byte_stride`, its height being even if it is a YV12 buffer. -/
theorem bufferOk_iff (f : YuvFormat) (w h : ℕ) :
    BufferOk f w h ↔ NoOverflow f w h ∧ (w = 0 ∨ h = 0 ∨ HasRoom f w h) := by
  rw [bufferOk_iff_of_numbers]
  refine and_congr_right fun _ => ?_
  cases f with
  | ycrcb420Sp =>
    rw [HasRoom, ← byteStride_le_iff_sp]
    refine and_iff_right ?_
    rintro p hp
    obtain rfl := Option.some.inj hp
    exact planesOk_of_pairs (.inl rfl) (.inr ⟨rfl, rfl⟩)
  | ycbcr420Sp =>
    rw [HasRoom, ← byteStride_le_iff_sp]
    refine and_iff_right ?_
    rintro p hp
    obtain rfl := Option.some.inj hp
    exact planesOk_of_pairs (.inr rfl) (.inl ⟨rfl, rfl⟩)
  | yv12 =>
    have hplanes : (∀ p ∈ planesOf .yv12 w h, PlanesOk .yv12 (bufferOf .yv12 w h) p) ↔
        w = 0 ∨ h % 2 = 0 := by
      constructor
      · intro hall
        by_contra hnot
        exact not_planesOk_yv12 (by omega) (by omega) hall
      · rintro (rfl | heven)
        · exact planesOk_yv12_empty
        · exact planesOk_yv12 heven
    rw [hplanes, HasRoom]
    refine (and_congr_right fun _ => byteStride_le_iff_planar).trans ?_
    omega
  | ycbcr420P =>
    rw [HasRoom, ← byteStride_le_iff_planar]
    exact and_iff_right (by simp [planesOf])
  | ycbcr422I =>
    rw [HasRoom, ← byteStride_le_iff_packed]
    exact and_iff_right (by simp [planesOf])

end Room

/-- 128 rows of 16 pixels of NV21, and 129 rows of YV12. -/
theorem bufferOk_fails : ¬ BufferOk .ycrcb420Sp 16 128 ∧ ¬ BufferOk .yv12 128 129 := by
  rw [bufferOk_iff_of_numbers, bufferOk_iff_of_numbers]
  refine ⟨fun h => absurd h.2.2 (by decide), fun h => ?_⟩
  exact not_planesOk_yv12 (by decide) (by decide) h.2.1

/-! ## The words of the lock -/

/-- The format in a handle. -/
def YuvFormat.hal : YuvFormat → HalFormat
  | .ycrcb420Sp => .ycrcb420Sp
  | .yv12 => .yv12
  | .ycbcr420Sp => .ycbcr420Sp
  | .ycbcr420P | .ycbcr422I => .other

section Words

variable {f : YuvFormat} {w h k n : ℕ} {hnd : PrivateHandle}

lemma grallocAlign_intWord (hk : k < 31) {base : U32} (hbase : base = intWord (2 ^ k))
    (hn : n + (2 ^ k - 1) < 2 ^ 31) :
    grallocAlign (intWord n) base = intWord (alignUp (2 ^ k) n) := by
  rw [grallocAlign, hbase, intWord_align hk hn]

/-- The residues of the height that choose the alignment. -/
lemma intWord_and_eq_zero (hk : k < 31) (hn : n < 2 ^ 31) :
    intWord n &&& (intWord (2 ^ k) - 1) = 0 ↔ n % 2 ^ k = 0 := by
  have hpow : 2 ^ k < 2 ^ 31 := Nat.pow_lt_pow_right (by decide) hk
  have hone : 1 ≤ 2 ^ k := Nat.one_le_two_pow
  have hmask : intWord (2 ^ k) - 1 = intWord (2 ^ k - 1) := by
    rw [sub_eq_iff_eq_add, show (1 : U32) = intWord 1 by rfl, intWord_add, Nat.sub_add_cancel hone]
  rw [hmask, ← BitVec.toNat_inj, BitVec.toNat_and, toNat_intWord hn, toNat_intWord (by omega),
    Nat.and_two_pow_sub_one_eq_mod]
  rfl

/-- Where nothing overflows, the lock stores the planes at these offsets. -/
theorem planes_eq (hwidth : hnd.width = intWord w) (hheight : hnd.height = intWord h)
    (hformat : hnd.format = f.hal)
    (hfits : NoOverflow f w h) :
    hnd.planes true = (planesOf f w h).map fun p =>
      ⟨hnd.base + p.y, hnd.base + p.cb, hnd.base + p.cr, intWord p.ystride,
      intWord p.cstride, p.chromaStep⟩ := by
  cases f with
  | ycrcb420Sp =>
    obtain ⟨hw, hh, hluma⟩ := hfits
    have halign : grallocAlign (intWord w) 16 = intWord (alignUp 16 w) :=
      grallocAlign_intWord (k := 4) (by decide) (by decide) (by omega)
    simp only [PrivateHandle.planes, hformat, YuvFormat.hal, hwidth, hheight, halign, intWord_mul,
      toInt_intWord hluma]
    simp [planesOf, strideOf, add_assoc]
  | ycbcr420Sp =>
    obtain ⟨hw, hh, hluma⟩ := hfits
    have halign : grallocAlign (intWord w) 16 = intWord (alignUp 16 w) :=
      grallocAlign_intWord (k := 4) (by decide) (by decide) (by omega)
    simp only [PrivateHandle.planes, hformat, YuvFormat.hal, hwidth, hheight, halign, intWord_mul,
      toInt_intWord hluma]
    simp [planesOf, strideOf, add_assoc]
  | yv12 =>
    obtain ⟨hw, hh, hluma⟩ := hfits
    have hseven : intWord h &&& 7 = 0 ↔ h % 8 = 0 :=
      intWord_and_eq_zero (k := 3) (by decide) (by omega)
    have hthree : intWord h &&& 3 = 0 ↔ h % 4 = 0 :=
      intWord_and_eq_zero (k := 2) (by decide) (by omega)
    have hstride : grallocAlign (intWord w)
        (if intWord h &&& 7 = 0 then 16 else if intWord h &&& 3 = 0 then 64 else 128)
        = intWord (alignUp (alignBase h) w) := by
      simp only [hseven, hthree, alignBase] at hw ⊢
      split_ifs at hw ⊢
      · exact grallocAlign_intWord (k := 4) (by decide) (by decide) (by omega)
      · exact grallocAlign_intWord (k := 6) (by decide) (by decide) (by omega)
      · exact grallocAlign_intWord (k := 7) (by decide) (by decide) (by omega)
    have hrows : grallocAlign (intWord h) 2 = intWord (alignUp 2 h) :=
      grallocAlign_intWord (k := 1) (by decide) (by decide) (by omega)
    have hle := alignUp_le (alignBase h) w
    have hhalf := alignUp_half_le (sixteen_dvd_strideOf .yv12 w h)
    have hchroma := Nat.mul_le_mul hhalf (le_alignUp (n := h) (by decide : 0 < 2))
    simp only [strideOf] at hhalf hchroma
    have hcstride : grallocAlign ((intWord (alignUp (alignBase h) w)).sdiv 2) 16
        = intWord (alignUp 16 (alignUp (alignBase h) w / 2)) := by
      rw [show (2 : U32) = intWord 2 by rfl, intWord_sdiv (by omega) (by decide)]
      exact grallocAlign_intWord (k := 4) (by decide) (by decide) (by omega)
    have hcb : (intWord (alignUp 16 (alignUp (alignBase h) w / 2) * h)).sdiv 2
        = intWord (alignUp 16 (alignUp (alignBase h) w / 2) * h / 2) :=
      intWord_sdiv (by omega) (by decide)
    simp only [PrivateHandle.planes, hformat, YuvFormat.hal, hwidth, hheight, hstride, hrows,
      hcstride, intWord_mul, hcb,
      toInt_intWord hluma,
        toInt_intWord (show alignUp 16 (alignUp (alignBase h) w / 2) * h / 2 < 2 ^ 31 by omega)]
    simp [planesOf, strideOf, add_assoc]
  | ycbcr420P => simp [PrivateHandle.planes, hformat, YuvFormat.hal, planesOf]
  | ycbcr422I => simp [PrivateHandle.planes, hformat, YuvFormat.hal, planesOf]

end Words

end Hikey.Gralloc
