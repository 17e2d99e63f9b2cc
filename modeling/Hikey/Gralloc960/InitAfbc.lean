import Hikey.Foundation.Patch
import Hikey.Gralloc960.AfbcSize
import Hikey.Gralloc960.SelectFormat

/-!
# The first headers of a compressed buffer (`init_afbc` in `mali_gralloc_ion.cpp`)

A buffer that is mapped after its allocation gets its headers written.  They are counted from the
width and the height that the caller knows, while the size of the buffer counts the blocks of the
aligned surface.  The memory is that of the buffer, from its first byte on.
-/

namespace Hikey

/-! ## The source -/

/-- `layout` -/
def afbcLayout (internalFormat : BitVec 64) : ℕ :=
  let baseFormat := internalFormat &&& intfmtFmtMask
  if baseFormat = 1 ∨ baseFormat = 2 ∨ baseFormat = 3 ∨ baseFormat = 4 ∨ baseFormat = 5 then 0
  else if baseFormat = 0x32315659 ∨ baseFormat = 0x100 ∨ baseFormat = 0x101 then 1
  else 0

/-- `headers`, before the first one is cleared. -/
def headerWords (bodyOffset : U32) (layout : ℕ) : List U32 :=
  if layout = 0 then [bodyOffset, 0x1, 0x10000, 0x0]
  else [bodyOffset + 1 <<< 28, 0x80200040, 0x1004000, 0x20080]

/-- The header of the layout is cleared. -/
def clearsHeader (internalFormat : BitVec 64) : Prop :=
  internalFormat &&& intfmtAfbcTiledHeaders ≠ 0 ∧ afbcLayout internalFormat = 0

instance (internalFormat : BitVec 64) : Decidable (clearsHeader internalFormat) := instDecidableAnd

/-- The bytes of `headers[layout]`. -/
def headerBytes (internalFormat : BitVec 64) (bodyOffset : U32) : List UInt8 :=
  if clearsHeader internalFormat then List.replicate 16 0
  else (headerWords bodyOffset (afbcLayout internalFormat)).flatMap leBytes

/-- The loop of `init_afbc` -/
def writeHeaders (header : List UInt8) (mem : ℕ → UInt8) (buf : ℕ) : (nHeaders : ℕ) → ℕ → UInt8
  | 0 => mem
  | nHeaders + 1 => writeHeaders header (patch mem buf header) (buf + header.length) nHeaders

/-- `init_afbc` -/
def initAfbc (internalFormat : BitVec 64) (w h : U32) (mem : ℕ → UInt8) : ℕ → UInt8 :=
  let nHeaders := (w * h).sdiv 256
  let bodyOffset := nHeaders * 16
  writeHeaders (headerBytes internalFormat bodyOffset) mem 0 nHeaders.toNat

/-- What `mali_gralloc_ion_allocate` does with a buffer that it has mapped. -/
def ionInitAfbc (sharedBackend : Bool) (d : BufferDescriptor) (mem : ℕ → UInt8) : ℕ → UInt8 :=
  if d.internalFormat &&& intfmtAfbcEnableMask ≠ 0 ∧ sharedBackend = false then
    initAfbc d.internalFormat d.width d.height mem
  else mem

/-! ## What is promised -/

/-- The format that the allocation gives to a compressed buffer. -/
def BaseFormat.afbcFormat : BaseFormat → Option AfbcFormat
  | .rgb pixelSize => some (.rgb pixelSize.toNat)
  | .yv12 => some .yuv420
  | .y0l2 => some .yuv420Ten
  | .y210 => some .yuv422Ten
  | .yuv422Afbc => some .yuv422
  | _ => none

/-- A compressed surface, and what it is aligned to. -/
structure AfbcSurface where
  format : AfbcFormat
  video : Bool
  wAlign : ℕ
  hAlign : ℕ
  alignment : ℕ
  width : ℕ
  height : ℕ

/-- The blocks of the aligned surface. -/
def AfbcSurface.blocks (s : AfbcSurface) : ℕ :=
  alignUp s.wAlign s.width / 16 * (alignUp s.hAlign (s.format.surface s.video s.height) / 16)

/-- Where the body starts, behind the headers of all blocks. -/
def AfbcSurface.bodyStart (s : AfbcSurface) : ℕ := alignUp s.alignment (16 * s.blocks)

/-- The allocation has computed the size of a compressed buffer, without an overflow. -/
structure AfbcAllocated (select : SelectFormat) (d d' : BufferDescriptor) (s : AfbcSurface) :
    Prop where
  step : ∃ before type, bufferDescriptorStep select s.video before d = some (type, d')
    ∧ s.format.align type = some (s.wAlign, s.hAlign, s.alignment)
    ∧ (s.format.checked s.video s.width s.height type).isSome
  compressed : (d.prepared select).internalFormat &&& intfmtAfbcEnableMask ≠ 0
  format : (baseFormat (d.prepared select).internalFormat).afbcFormat = some s.format
  width : d.width.toNat = s.width
  height : d.height.toNat = s.height

/-- One header for each block of the aligned surface, with the offset of the body, and nothing else.
-/
structure AfbcInitialised (d : BufferDescriptor) (s : AfbcSurface) : Prop where
  headers : ∀ mem, ∀ k < s.blocks, slice (ionInitAfbc false d mem) (16 * k) 16 =
    (headerWords (intWord s.bodyStart) (afbcLayout d.internalFormat)).flatMap leBytes
  others : ∀ mem i, 16 * s.blocks ≤ i → ionInitAfbc false d mem i = mem i
  inside : ∀ mem i, d.size.toNat ≤ i → ionInitAfbc false d mem i = mem i

/-- The surface is as large as the aligned one. -/
def AfbcSurface.Fills (s : AfbcSurface) : Prop := s.width * s.height = 256 * s.blocks

/-- One header for each block of a surface that is as large as the aligned one, all with the same
offset or all cleared.  The offset is that of the body, if the headers fill whole units. -/
structure AfbcInitialisedFull (d : BufferDescriptor) (s : AfbcSurface) : Prop where
  headers : s.Fills → ¬ clearsHeader d.internalFormat → ∃ offset : U32,
    (∀ mem, ∀ k < s.blocks, slice (ionInitAfbc false d mem) (16 * k) 16 =
      (headerWords offset (afbcLayout d.internalFormat)).flatMap leBytes) ∧
    (s.alignment ∣ 16 * s.blocks → offset = intWord s.bodyStart)
  cleared : s.Fills → clearsHeader d.internalFormat → ∀ mem, ∀ k < s.blocks,
    slice (ionInitAfbc false d mem) (16 * k) 16 = List.replicate 16 0
  others : s.Fills → ∀ mem i, 16 * s.blocks ≤ i → ionInitAfbc false d mem i = mem i
  inside : ∀ mem i, d.size.toNat ≤ i → ionInitAfbc false d mem i = mem i

/-! ## The headers -/

section Headers

variable {header : List UInt8} {mem : ℕ → UInt8} {buf n k i : ℕ} {internalFormat : BitVec 64}
  {bodyOffset : U32}

lemma length_headerBytes : (headerBytes internalFormat bodyOffset).length = 16 := by
  rw [headerBytes, headerWords]
  split_ifs <;> simp [leBytes]

/-- The headers follow each other. -/
lemma writeHeaders_eq : writeHeaders header mem buf n = patch mem buf
    (List.replicate n header).flatten := by
  induction n generalizing mem buf with
  | zero => simp [writeHeaders]
  | succ n ih => rw [writeHeaders, ih, patch_append, List.replicate_succ, List.flatten_cons]

lemma length_flatten_replicate : (List.replicate n header).flatten.length = n * header.length := by
  simp

/-- Every header is read back. -/
lemma slice_writeHeaders (hk : k < n) :
    slice (writeHeaders header mem 0 n) (header.length * k) header.length = header := by
  obtain ⟨m, rfl⟩ : ∃ m, n = k + (m + 1) := ⟨n - k - 1, by omega⟩
  have hbefore : 0 + (List.replicate k header).flatten.length = header.length * k := by
    rw [length_flatten_replicate, Nat.zero_add, Nat.mul_comm]
  rw [writeHeaders_eq, List.replicate_add, List.flatten_append, List.replicate_succ,
    List.flatten_cons, ← patch_append, hbefore]
  exact slice_patch_self

/-- Nothing is written behind the headers. -/
lemma writeHeaders_of_le (h : n * header.length ≤ i) : writeHeaders header mem 0 n i = mem i := by
  rw [writeHeaders_eq, patch_of_notMem]
  right
  rw [length_flatten_replicate]
  omega

end Headers

/-! ## What the allocation has computed -/

section Allocated

variable {select : SelectFormat} {video : Bool} {d d' : BufferDescriptor} {s : AfbcSurface}
  {f : AfbcFormat}
  {type before : AllocType} {width height size internalHeight : ℕ} {wAlign hAlign alignment : ℕ}

/-- The switch over the base formats, for a compressed buffer. -/
lemma bufferDescriptorSize_afbc (hformat : (baseFormat d.internalFormat).afbcFormat = some f)
    (htype : type ≠ .uncompressed)
    (h : bufferDescriptorSize video type d = some d') :
    (∃ r h, f.strideAndSize video d.width d.height type = some (r, h) ∧ d'.size = r.size)
      ∧ d'.width = d.width ∧ d'.height = d.height ∧ d'.internalFormat = d.internalFormat := by
  rw [bufferDescriptorSize] at h
  cases hbase : baseFormat d.internalFormat with
  | rgb pixelSize =>
    rw [hbase] at h hformat
    obtain rfl := Option.some.inj hformat
    obtain rfl := Option.some.inj h
    refine ⟨⟨_, _, rfl, ?_⟩, rfl, rfl, rfl⟩
    rw [intWord, BitVec.ofNat_toNat, BitVec.setWidth_eq]
    rfl
  | yv12 =>
    rw [hbase] at h hformat
    obtain rfl := Option.some.inj hformat
    simp only [getYv12StrideAndSize, if_pos htype] at h
    obtain ⟨⟨r, ih⟩, hr, rfl⟩ := Option.map_eq_some_iff.1 h
    exact ⟨⟨r, ih, hr, rfl⟩, rfl, rfl, rfl⟩
  | y0l2 =>
    rw [hbase] at h hformat
    obtain rfl := Option.some.inj hformat
    simp only [if_pos htype] at h
    obtain ⟨⟨r, ih⟩, hr, rfl⟩ := Option.map_eq_some_iff.1 h
    exact ⟨⟨r, ih, hr, rfl⟩, rfl, rfl, rfl⟩
  | y210 =>
    rw [hbase] at h hformat
    obtain rfl := Option.some.inj hformat
    simp only [if_pos htype] at h
    obtain ⟨r, hr, rfl⟩ := Option.map_eq_some_iff.1 h
    exact ⟨⟨r, d.height, by simp [AfbcFormat.strideAndSize, hr], rfl⟩, rfl, rfl, rfl⟩
  | yuv422Afbc =>
    rw [hbase] at h hformat
    obtain rfl := Option.some.inj hformat
    obtain ⟨r, hr, rfl⟩ := Option.map_eq_some_iff.1 h
    exact ⟨⟨r, d.height, by simp [AfbcFormat.strideAndSize, hr], rfl⟩, rfl, rfl, rfl⟩
  | _ =>
    rw [hbase] at hformat
    cases hformat

/-- The types with an alignment are compressed. -/
lemma AfbcFormat.align_ne_uncompressed (h : f.align type = some (wAlign, hAlign, alignment)) :
    type ≠ .uncompressed := by
  rintro rfl
  cases f <;> cases h

/-- What is accepted is of type `int`. -/
lemma AfbcFormat.checked_lt (h : f.checked video width height type = some (size, internalHeight)) :
    width < 2 ^ 31 ∧ height < 2 ^ 31 ∧ size < 2 ^ 31 := by
  simp only [AfbcFormat.checked, Option.bind_eq_bind, Option.bind_eq_some_iff, intOf_eq_some] at h
  obtain ⟨_, ⟨hwidth, rfl⟩, _, ⟨hheight, rfl⟩, h⟩ := h
  refine ⟨hwidth, hheight, ?_⟩
  cases f with
  | rgb pixelSize =>
    simp only [checkedAfbcRgb, Option.map_eq_some_iff, Option.bind_eq_bind, Option.bind_eq_some_iff,
      checkedAfbcSize_eq_some] at h
    grind
  | yuv420 =>
    simp only [checkedAfbcYuv420, Option.bind_eq_bind, Option.bind_eq_some_iff,
      checkedAfbcSize_eq_some] at h
    grind
  | yuv422 =>
    simp only [checkedAfbcYuv422, Option.map_eq_some_iff, Option.bind_eq_bind,
      Option.bind_eq_some_iff,
      checkedAfbcSize_eq_some] at h
    grind
  | yuv420Ten =>
    simp only [checkedAfbcYuv420Ten, Option.bind_eq_bind, Option.bind_eq_some_iff,
      checkedAfbcSize_eq_some] at h
    grind
  | yuv422Ten =>
    simp only [checkedAfbcYuv422Ten, Option.map_eq_some_iff, Option.bind_eq_bind,
      Option.bind_eq_some_iff,
      checkedAfbcSize_eq_some] at h
    grind

lemma bufferDescriptorStep_eq_some
    (h : bufferDescriptorStep select video before d = some (type, d')) :
    bufferDescriptorSize video type (d.prepared select) = some d' := by
  rw [bufferDescriptorStep] at h
  split_ifs at h
  · cases h
  · obtain ⟨type', -, h⟩ := Option.bind_eq_some_iff.1 h
    obtain ⟨d'', hd, hpair⟩ := Option.bind_eq_some_iff.1 h
    obtain ⟨rfl, rfl⟩ := Prod.mk.inj (Option.some.inj hpair)
    exact hd

/-- The pixels of a base format have bytes. -/
def BaseFormat.HasBytes (b : BaseFormat) : Prop :=
  ∀ pixelSize, b = .rgb pixelSize → 0 < pixelSize.toNat

lemma baseFormat_hasBytes (internalFormat : BitVec 64) : (baseFormat internalFormat).HasBytes := by
  have hite {c : Prop} [Decidable c] {b b' : BaseFormat} (hb : b.HasBytes) (hb' : b'.HasBytes) :
      (if c then b else b').HasBytes := by
    split
    · exact hb
    · exact hb'
  have hrgb {n : U32} (hn : 0 < n.toNat) : (BaseFormat.rgb n).HasBytes :=
    fun _ h => BaseFormat.rgb.inj h ▸ hn
  have hother {b : BaseFormat} (hb : ∀ n, b ≠ .rgb n) : b.HasBytes := fun n h => absurd h (hb n)
  refine hite (hrgb (by decide)) (hite (hrgb (by decide)) (hite (hrgb (by decide)) ?_))
  iterate 12 refine hite (hother nofun) ?_
  exact hother nofun
lemma le_surface : height ≤ f.surface video height := by
  cases f <;> simp only [AfbcFormat.surface, surfaceHeight, le_refl] <;> split_ifs <;> omega

/-- The rows with headers are between those of the surface and the aligned ones. -/
lemma AfbcFormat.headerRows_mem (hh : 0 < hAlign) :
    height ≤ f.headerRows hAlign height ∧ f.headerRows hAlign height ≤ alignUp hAlign height := by
  cases f with
  | yuv420Ten => exact ⟨le_refl _, le_alignUp hh⟩
  | _ => exact ⟨le_alignUp hh, le_refl _⟩

/-- The body has a byte for every pixel, except for one row that it may leave out. -/
lemma AfbcFormat.area_lt (hpixel : ∀ pixelSize, f = .rgb pixelSize → 0 < pixelSize)
    (hw : 0 < wAlign) (hh : 0 < hAlign)
    (hwidth : width < 2 ^ 31)
    (hbody : f.bodyRoom (alignUp wAlign width) hAlign (f.surface video height) < 2 ^ 31) :
    width * height < 2 ^ 31 := by
  have hwle : width ≤ alignUp wAlign width := le_alignUp hw
  have hhle : height ≤ alignUp hAlign (f.surface video height) := le_surface.trans (le_alignUp hh)
  refine lt_of_le_of_lt ?_ (max_lt hwidth hbody)
  cases f with
  | rgb pixelSize =>
    have hpix := Nat.le_mul_of_pos_right (alignUp wAlign width) (hpixel pixelSize rfl)
    exact le_max_of_le_right
      (Nat.mul_le_mul ((hwle.trans hpix).trans (le_alignUp (by decide))) hhle)
  | yuv420 => exact le_max_of_le_right (Nat.mul_le_mul (hwle.trans (Nat.le_add_right _ _)) hhle)
  | yuv422 => exact le_max_of_le_right ((Nat.mul_le_mul hwle hhle).trans (Nat.le_mul_of_pos_right _
      (by decide)))
  | yuv420Ten =>
    rcases Nat.lt_or_ge 1 height with hrows | hrow
    · have hsurface : height ≤ AfbcFormat.yuv420Ten.surface video height := le_surface
      have hhalf : height ≤ 4 * (AfbcFormat.yuv420Ten.surface video height / 2) := by omega
      refine le_max_of_le_right ?_
      calc width * height ≤ width * (4 * (AfbcFormat.yuv420Ten.surface video height / 2)) :=
        Nat.mul_le_mul_left _ hhalf
        _ = width * 4 * (AfbcFormat.yuv420Ten.surface video height / 2) :=
          (Nat.mul_assoc _ _ _).symm
        _ ≤ alignUp 16 (alignUp wAlign width * 4) * alignUp hAlign
          (AfbcFormat.yuv420Ten.surface video height / 2) :=
          Nat.mul_le_mul ((Nat.mul_le_mul_right 4 hwle).trans (le_alignUp (by decide)))
            (le_alignUp hh)
    · exact le_max_of_le_left (by simpa using Nat.mul_le_mul_left width hrow)
  | yuv422Ten =>
    have hrow : width ≤ alignUp 16 (alignUp wAlign width * 2) :=
      (hwle.trans (Nat.le_mul_of_pos_right _ (by decide))).trans (le_alignUp (by decide))
    exact le_max_of_le_right
      ((Nat.mul_le_mul hrow hhle).trans (Nat.le_mul_of_pos_right _ (by decide)))

/-- The size is that of the body and of the headers, and the arguments of `init_afbc` are those of
the surface. -/
structure AfbcSurface.Sized (s : AfbcSurface) (d' : BufferDescriptor) : Prop where
  compressed : d'.internalFormat &&& intfmtAfbcEnableMask ≠ 0
  width : d'.width = intWord s.width
  height : d'.height = intWord s.height
  area : s.width * s.height < 2 ^ 31
  size : d'.size.toNat =
    s.format.bodyRoom (alignUp s.wAlign s.width) s.hAlign (s.format.surface s.video s.height) +
      alignUp s.alignment (alignUp s.wAlign s.width / 16 *
        s.format.headerRows s.hAlign (s.format.surface s.video s.height) / 16 * 16)
  dvd : 16 ∣ s.wAlign ∧ 16 ∣ s.hAlign ∧ 16 ∣ s.alignment
  pos : 0 < s.wAlign ∧ 0 < s.hAlign ∧ 0 < s.alignment

lemma AfbcAllocated.sized (h : AfbcAllocated select d d' s) : s.Sized d' := by
  obtain ⟨before, type, hstep, halign, hchecked⟩ := h.step
  obtain ⟨⟨size, internalHeight⟩, hsize⟩ := Option.isSome_iff_exists.1 hchecked
  have hcomputes := AfbcFormat.checked_computes halign hsize
  obtain ⟨hwidth, hheight, hlt⟩ := AfbcFormat.checked_lt hsize
  obtain ⟨⟨r, ih, hr, hdsize⟩, hdwidth, hdheight, hdformat⟩ := bufferDescriptorSize_afbc h.format
    (AfbcFormat.align_ne_uncompressed halign) (bufferDescriptorStep_eq_some hstep)
  have hw : d.width = intWord s.width := by
    rw [← h.width, intWord, BitVec.ofNat_toNat, BitVec.setWidth_eq]
  have hh : d.height = intWord s.height := by
    rw [← h.height, intWord, BitVec.ofNat_toNat, BitVec.setWidth_eq]
  obtain ⟨r', hr', hrsize⟩ := hcomputes.words
  have hprepared : (d.prepared select).width = d.width ∧
      (d.prepared select).height = d.height := ⟨rfl, rfl⟩
  rw [hprepared.1, hprepared.2, hw, hh, hr'] at hr
  obtain ⟨rfl, -⟩ := Prod.mk.inj (Option.some.inj hr)
  obtain ⟨hdvd, hadvd, hapos⟩ := AfbcFormat.align_dvd halign
  obtain ⟨hwdvd, hwpos, hhpos⟩ := AfbcFormat.align_pos halign
  have hbytes : d'.size.toNat = size := by rw [hdsize, hrsize]
  have hpixel : ∀ pixelSize, s.format = .rgb pixelSize → 0 < pixelSize := by
    intro pixelSize hrgb
    have hformat := h.format
    have hbytes := baseFormat_hasBytes (d.prepared select).internalFormat
    rw [hrgb] at hformat
    cases hbase : baseFormat (d.prepared select).internalFormat with
    | rgb word =>
      rw [hbase] at hformat
      obtain rfl := AfbcFormat.rgb.inj (Option.some.inj hformat)
      exact hbytes word hbase
    | _ =>
      rw [hbase] at hformat
      cases hformat
  have hsum := hcomputes.size
  rw [hcomputes.surface] at hsum
  refine ⟨hdformat ▸ h.compressed, hdwidth.trans hw, hdheight.trans hh,
    AfbcFormat.area_lt hpixel hwpos hhpos hwidth (lt_of_le_of_lt (hsum ▸ Nat.le_add_right _ _) hlt),
      hbytes.trans hsum,
    ⟨hwdvd, hdvd, hadvd⟩, hwpos, hhpos, hapos⟩

end Allocated

/-! ## The headers that are written -/

section Sized

variable {d : BufferDescriptor} {s : AfbcSurface} {mem : ℕ → UInt8} {i : ℕ}

/-- The blocks for which the allocation has left room. -/
def AfbcSurface.counted (s : AfbcSurface) : ℕ :=
  alignUp s.wAlign s.width / 16 * s.format.headerRows s.hAlign
    (s.format.surface s.video s.height) / 16

/-- The headers that are written have room. -/
lemma AfbcSurface.Sized.le_counted (h : s.Sized d) : s.width * s.height / 256 ≤ s.counted := by
  obtain ⟨q, hq⟩ : 16 ∣ alignUp s.wAlign s.width := h.dvd.1.trans (dvd_alignUp _ _)
  have hrows : s.height ≤ s.format.headerRows s.hAlign (s.format.surface s.video s.height) :=
    le_surface.trans (AfbcFormat.headerRows_mem h.pos.2.1).1
  have hwidth : s.width ≤ 16 * q := hq ▸ le_alignUp h.pos.1
  rw [AfbcSurface.counted, hq, Nat.mul_div_cancel_left q (by decide)]
  calc s.width * s.height / 256
      ≤ 16 * q * s.format.headerRows s.hAlign (s.format.surface s.video s.height) / 256 :=
        Nat.div_le_div_right (Nat.mul_le_mul hwidth hrows)
    _ = 16 * (q * s.format.headerRows s.hAlign (s.format.surface s.video s.height)) /
      (16 * 16) := by rw [Nat.mul_assoc]
    _ = q * s.format.headerRows s.hAlign (s.format.surface s.video s.height) / 16 :=
      Nat.mul_div_mul_left _ _ (by decide)

/-- The allocation has left room for no more than the blocks of the aligned surface. -/
lemma AfbcSurface.Sized.counted_le (h : s.Sized d) : s.counted ≤ s.blocks := by
  have hrows : s.format.headerRows s.hAlign (s.format.surface s.video s.height)
      ≤ alignUp s.hAlign (s.format.surface s.video s.height) :=
        (AfbcFormat.headerRows_mem h.pos.2.1).2
  rw [AfbcSurface.blocks, ← blocks_eq h.dvd.2.1]
  exact Nat.div_le_div_right (Nat.mul_le_mul_left _ hrows)

/-- The headers are counted without an overflow. -/
lemma ionInitAfbc_eq (h : s.Sized d) : ionInitAfbc false d mem
    = writeHeaders (headerBytes d.internalFormat (intWord (s.width * s.height / 256 * 16))) mem 0
      (s.width * s.height / 256) := by
  have hcount : (d.width * d.height).sdiv 256 = intWord (s.width * s.height / 256) := by
    rw [h.width, h.height, intWord_mul]
    exact intWord_sdiv h.area (by decide : 256 < 2 ^ 31)
  have hmul : intWord (s.width * s.height / 256) * 16 = intWord (s.width * s.height / 256 * 16) :=
    intWord_mul _ 16
  have hlt : s.width * s.height / 256 < 2 ^ 31 := lt_of_le_of_lt (Nat.div_le_self _ _) h.area
  rw [ionInitAfbc, if_pos ⟨h.compressed, rfl⟩]
  simp only [initAfbc, hcount, hmul, toNat_intWord hlt]

/-- The headers that are counted have room in the buffer. -/
lemma AfbcSurface.Sized.counted_le_size (h : s.Sized d) : s.counted * 16 ≤ d.size.toNat := by
  rw [h.size]
  exact (le_alignUp h.pos.2.2).trans (Nat.le_add_left _ _)

/-- Nothing is written outside of the buffer. -/
lemma ionInitAfbc_inside (h : s.Sized d) (hi : d.size.toNat ≤ i) :
    ionInitAfbc false d mem i = mem i := by
  have hroom : s.width * s.height / 256 * 16 ≤ d.size.toNat :=
    (Nat.mul_le_mul_right 16 h.le_counted).trans h.counted_le_size
  rw [ionInitAfbc_eq h]
  refine writeHeaders_of_le ?_
  rw [length_headerBytes]
  omega

/-- As many headers as blocks, of a surface that is as large as the aligned one. -/
lemma AfbcSurface.Sized.count (h : s.Sized d) (hfills : s.Fills) :
    s.width * s.height / 256 = s.blocks ∧ s.counted = s.blocks := by
  have hcount : s.width * s.height / 256 = s.blocks := by
    rw [hfills]
    exact Nat.mul_div_cancel_left _ (by decide)
  exact ⟨hcount, le_antisymm h.counted_le (hcount ▸ h.le_counted)⟩

lemma slice_ionInitAfbc (h : s.Sized d) (hfills : s.Fills) {k : ℕ} (hk : k < s.blocks) :
    slice (ionInitAfbc false d mem) (16 * k) 16 = headerBytes d.internalFormat
      (intWord (s.blocks * 16)) := by
  obtain ⟨hcount, -⟩ := h.count hfills
  rw [ionInitAfbc_eq h, hcount]
  have hslice := @slice_writeHeaders (headerBytes d.internalFormat (intWord (s.blocks * 16)))
      mem _ k hk
  rwa [length_headerBytes] at hslice

end Sized

/-- For every compressed surface whose size was computed, nothing is written outside of the buffer.
Where the surface is as large as the aligned one, one header is written for each block.  It is
cleared for tiled headers of the first layout; else it has an offset, which is that of the body
where the headers fill whole units. -/
theorem initAfbc_full (select : SelectFormat) (d d' : BufferDescriptor) (s : AfbcSurface)
    (h : AfbcAllocated select d d' s) : AfbcInitialisedFull d' s := by
  have hsized := h.sized
  refine ⟨fun hfills hclear => ⟨intWord (s.blocks * 16), fun mem k hk => ?_, fun hunits => ?_⟩,
    fun hfills hclear mem k hk => ?_, fun hfills mem i hi => ?_, fun mem i hi =>
      ionInitAfbc_inside hsized hi⟩
  · rw [slice_ionInitAfbc hsized hfills hk, headerBytes, if_neg hclear]
  · rw [AfbcSurface.bodyStart, alignUp_of_dvd hsized.pos.2.2 hunits, Nat.mul_comm]
  · rw [slice_ionInitAfbc hsized hfills hk, headerBytes, if_pos hclear]
  · rw [ionInitAfbc_eq hsized, (hsized.count hfills).1]
    refine writeHeaders_of_le ?_
    rw [length_headerBytes]
    omega

/-- A request. -/
def afbcRequest (width height : U32) : BufferDescriptor :=
  ⟨width, height, 0, 0, 1, .internal, 0, 0, 0, 0, 0, 0⟩

/-- A selection of RGBA with modifiers. -/
def selectRgba (modifiers : BitVec 64) : SelectFormat := fun _ _ _ _ => 1 ||| modifiers

/-- The buffer of a request for RGBA. -/
def allocatedRgba (width height byteStride pixelStride : U32) (size modifiers : BitVec 64) :
    BufferDescriptor :=
  ⟨width, height, 0, 0, 1, .internal, size, byteStride, pixelStride, width, height, 1 ||| modifiers⟩

/-- A surface of 8 times 8 blocks. -/
theorem initAfbc_full_rgba :
    AfbcAllocated (selectRgba intfmtAfbcBasic) (afbcRequest 128 128)
      (allocatedRgba 128 128 512 128 66560 intfmtAfbcBasic)
        ⟨.rgb 4, false, 16, 16, 1024, 128, 128⟩
      ∧ AfbcInitialisedFull
        (allocatedRgba 128 128 512 128 66560 intfmtAfbcBasic)
        ⟨.rgb 4, false, 16, 16, 1024, 128, 128⟩ := by
  have h : AfbcAllocated (selectRgba intfmtAfbcBasic) (afbcRequest 128 128)
      (allocatedRgba 128 128 512 128 66560 intfmtAfbcBasic)
        ⟨.rgb 4, false, 16, 16, 1024, 128, 128⟩ :=
    ⟨⟨.uncompressed, .afbc, by decide, rfl, by decide⟩, by decide, rfl, rfl, rfl⟩
  exact ⟨h, initAfbc_full _ _ _ _ h⟩

/-- The second block of 17 times 16 pixels gets no header; the one block of 16 times 16 pixels gets
the end of its header instead of the start of the body; and tiled headers are cleared. -/
theorem initAfbc_fails :
    (∃ d', AfbcAllocated (selectRgba intfmtAfbcBasic) (afbcRequest 17 16) d'
    ⟨.rgb 4, false, 16, 16, 1024, 17, 16⟩
        ∧ ¬ AfbcInitialised d' ⟨.rgb 4, false, 16, 16, 1024, 17, 16⟩)
      ∧ (∃ d', AfbcAllocated (selectRgba intfmtAfbcBasic) (afbcRequest 16 16) d'
        ⟨.rgb 4, false, 16, 16, 1024, 16, 16⟩
        ∧ ¬ AfbcInitialised d' ⟨.rgb 4, false, 16, 16, 1024, 16, 16⟩)
      ∧ ∃ d', AfbcAllocated (selectRgba (intfmtAfbcBasic ||| intfmtAfbcTiledHeaders))
        (afbcRequest 128 128) d'
          ⟨.rgb 4, false, 128, 128, 4096, 128, 128⟩
        ∧ ¬ AfbcInitialised d' ⟨.rgb 4, false, 128, 128, 4096, 128, 128⟩ := by
  refine ⟨⟨allocatedRgba 17 16 128 32 3072 intfmtAfbcBasic,
    ⟨⟨.uncompressed, .afbc, by decide, rfl, by decide⟩, by decide, rfl, rfl, rfl⟩, fun hok => ?_⟩,
    ⟨allocatedRgba 16 16 64 16 2048 intfmtAfbcBasic,
    ⟨⟨.uncompressed, .afbc, by decide, rfl, by decide⟩, by decide, rfl, rfl, rfl⟩,
      fun hok => ?_⟩, ?_⟩
  · have hread := hok.headers (fun _ => 0) 1 (by decide)
    revert hread
    decide
  · have hread := hok.headers (fun _ => 0) 0 (by decide)
    revert hread
    decide
  · have h : AfbcAllocated (selectRgba (intfmtAfbcBasic ||| intfmtAfbcTiledHeaders))
        (afbcRequest 128 128)
        (allocatedRgba 128 128 512 128 69632 (intfmtAfbcBasic ||| intfmtAfbcTiledHeaders))
          ⟨.rgb 4, false, 128, 128, 4096, 128, 128⟩ :=
      ⟨⟨.uncompressed, .afbcTiledHeadersBasic, by decide, rfl, by decide⟩, by decide, rfl, rfl, rfl⟩
    refine ⟨_, h, fun hok => ?_⟩
    have hread := hok.headers (fun _ => 0) 0 (by decide)
    rw [slice_ionInitAfbc h.sized rfl (by decide)] at hread
    revert hread
    decide

end Hikey
