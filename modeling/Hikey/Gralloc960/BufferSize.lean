import Hikey.Gralloc960.IonAllocate

/-!
# Strides and sizes of buffers (`mali_gralloc_bufferallocation.cpp`)

The arithmetic is that of `int`, which wraps around.  `none` is a helper that returns false, or the
error `-EINVAL` of the caller.
-/

namespace Hikey

/-- `AllocType`. -/
inductive AllocType
  | uncompressed
  | afbc
  | afbcWideblk
  | afbcPadded
  | afbcTiledHeadersBasic
  | afbcTiledHeadersWideblk
deriving DecidableEq, Repr

/-- `GRALLOC_ALIGN`. -/
def grallocAlign (value base : U32) : U32 := (value + (base - 1)) &&& ~~~(base - 1)

/-- The conversion of an `int` to `size_t`. -/
def intToSize (v : U32) : BitVec 64 := v.signExtend 64

/-- What a helper computes. -/
structure StrideAndSize where
  pixelStride : U32
  byteStride : U32
  size : BitVec 64
deriving DecidableEq, Repr

/-- The bytes of the AFBC header. -/
def afbcHeader (nblocks alignment : U32) : U32 := grallocAlign (nblocks * 16) alignment

/-- `get_rgb_stride_and_size`. -/
def getRgbStrideAndSize (width height pixelSize : U32) (type : AllocType) : StrideAndSize :=
  match type with
  | .uncompressed =>
    let stride := grallocAlign (width * pixelSize) 64
    ⟨stride.sdiv pixelSize, stride, intToSize (stride * height)⟩
  | _ =>
    let (w, h, alignment) : U32 × U32 × U32 := match type with
      | .afbcTiledHeadersBasic => (grallocAlign width 128, grallocAlign height 128, 4096)
      | .afbcTiledHeadersWideblk => (grallocAlign width 256, grallocAlign height 64, 4096)
      | .afbcPadded => (grallocAlign width 64, grallocAlign height 16, 1024)
      | .afbcWideblk => (grallocAlign width 32, grallocAlign height 16, 1024)
      | _ => (grallocAlign width 16, grallocAlign height 16, 1024)
    let stride := grallocAlign (w * pixelSize) 64
    let nblocks := (w.sdiv 16 * h).sdiv 16
    ⟨stride.sdiv pixelSize, stride, intToSize (stride * h + afbcHeader nblocks alignment)⟩

/-- The alignments of width, height and body for YUV with AFBC. -/
def afbcYuvAlign : AllocType → Option (U32 × U32 × U32)
  | .uncompressed => none
  | .afbcTiledHeadersBasic => some (128, 128, 4096)
  | .afbcTiledHeadersWideblk => some (256, 64, 4096)
  | .afbcPadded => none
  | .afbcWideblk => some (32, 16, 1024)
  | .afbc => some (16, 16, 1024)

/-- The height with the row for cropping, when the module is built for a video processor. -/
def videoHeight (video : Bool) (height : U32) : U32 := if video then height + 16 else height

/-- `get_afbc_yuv420_8bit_stride_and_size`, with the internal height. -/
def getAfbcYuv420StrideAndSize (video : Bool) (width height : U32) (type : AllocType) :
    Option (StrideAndSize × U32) :=
  let internalHeight := videoHeight video height
  match afbcYuvAlign type with
  | none => none
  | some (wAlign, hAlign, alignment) =>
    let w := grallocAlign width wAlign
    let h := grallocAlign internalHeight hAlign
    let chroma := grallocAlign (w.sdiv 2) 16
    let nblocks := (w.sdiv 16 * h).sdiv 16
    some (⟨w, w, intToSize ((w + chroma) * h + afbcHeader nblocks alignment)⟩, internalHeight)

/-- `get_yv12_stride_and_size`, with the internal height that was set before. -/
def getYv12StrideAndSize (video : Bool) (width height : U32) (type : AllocType)
    (internalHeight strideAlignment : U32) : Option (StrideAndSize × U32) :=
  if type ≠ .uncompressed then getAfbcYuv420StrideAndSize video width height type
  else
    let h := grallocAlign height 2
    let luma := grallocAlign width strideAlignment
    let chroma := grallocAlign (luma.sdiv 2) strideAlignment
    some (⟨luma, luma, intToSize (h * (luma + chroma))⟩, internalHeight)

/-- The uncompressed packed formats, with `bytes` for each pixel. -/
def getPackedStrideAndSize (width height bytes : U32) : StrideAndSize :=
  let stride := grallocAlign (width * bytes) 128
  ⟨grallocAlign width 128, stride, intToSize (stride * height)⟩

/-- `get_yuv422_8bit_stride_and_size`. -/
def getYuv422StrideAndSize (width height : U32) : StrideAndSize :=
  getPackedStrideAndSize width height 2

/-- `get_afbc_yuv422_8bit_stride_and_size`. -/
def getAfbcYuv422StrideAndSize (width height : U32) (type : AllocType) : Option StrideAndSize :=
  match afbcYuvAlign type with
  | none => none
  | some (wAlign, hAlign, alignment) =>
    let w := grallocAlign width wAlign
    let h := grallocAlign height hAlign
    let nblocks := (w.sdiv 16 * h).sdiv 16
    some ⟨w, w, intToSize (w * h * 2 + afbcHeader nblocks alignment)⟩

/-- `get_yuv_pX10_stride_and_size`. -/
def getYuvPX10StrideAndSize (width height vss : U32) : Option StrideAndSize :=
  if vss.slt 1 ∨ (2 : U32).slt vss then none
  else
    let h := if vss = 2 then grallocAlign height 2 else height
    let stride := grallocAlign (width * 2) 128
    some ⟨grallocAlign width 128, stride, intToSize (stride * h + stride * h.sdiv vss)⟩

/-- `get_yuv_y210_stride_and_size`. -/
def getYuvY210StrideAndSize (width height : U32) : StrideAndSize :=
  getPackedStrideAndSize width height 4

/-- `get_yuv_y0l2_stride_and_size`: a row of bytes covers two rows of pixels. -/
def getYuvY0l2StrideAndSize (width height : U32) : StrideAndSize :=
  let stride := grallocAlign (width * 4) 128
  ⟨grallocAlign width 128, stride, intToSize ((stride * grallocAlign height 2).sdiv 2)⟩

/-- `get_yuv_y410_stride_and_size`. -/
def getYuvY410StrideAndSize (width height : U32) : StrideAndSize :=
  getPackedStrideAndSize width height 4

/-- `get_yuv420_10bit_afbc_stride_and_size`, with the internal height; both strides are the one in
pixels. -/
def getYuv420TenBitAfbcStrideAndSize (video : Bool) (width height : U32) (type : AllocType) :
    Option (StrideAndSize × U32) :=
  if width &&& 3 ≠ 0 then none
  else
    let internalHeight := videoHeight video height
    match afbcYuvAlign type with
    | none => none
    | some (wAlign, hAlign, alignment) =>
      let w := grallocAlign width wAlign
      let h := grallocAlign (internalHeight.sdiv 2) hAlign
      let pixelStride := grallocAlign w 16
      let byteStride := grallocAlign (w * 4) 16
      let nblocks := (w.sdiv 16 * internalHeight).sdiv 16
      some (⟨pixelStride, pixelStride, intToSize (byteStride * h + afbcHeader nblocks alignment)⟩,
        internalHeight)

/-- `get_yuv422_10bit_afbc_stride_and_size`. -/
def getYuv422TenBitAfbcStrideAndSize (width height : U32) (type : AllocType) :
    Option StrideAndSize :=
  if width &&& 3 ≠ 0 then none
  else
    match afbcYuvAlign type with
    | none => none
    | some (wAlign, hAlign, alignment) =>
      let w := grallocAlign width wAlign
      let h := grallocAlign height hAlign
      let pixelStride := grallocAlign w 16
      let byteStride := grallocAlign (w * 2) 16
      let nblocks := (w.sdiv 16 * h).sdiv 16
      some ⟨pixelStride, byteStride, intToSize (byteStride * h * 2 + afbcHeader nblocks alignment)⟩

/-- The base formats that the allocation tells apart. -/
inductive BaseFormat
  | rgb (pixelSize : U32)
  | yv12
  | yuv422
  | raw16
  | raw12
  | raw10
  | blob
  | y0l2
  | p010
  | p210
  | y210
  | y410
  | yuv422Afbc
  | other
deriving DecidableEq, Repr

/-- The base format of an internal format: `HAL_PIXEL_FORMAT_*` and
`MALI_GRALLOC_FORMAT_INTERNAL_*`. -/
def baseFormat (internalFormat : BitVec 64) : BaseFormat :=
  let base := internalFormat &&& 0xffffffff
  if base = 1 ∨ base = 2 ∨ base = 5 then .rgb 4
  else if base = 3 then .rgb 3
  else if base = 4 then .rgb 2
  else if base = 0x11 ∨ base = 0x32315659 ∨ base = 0x100 ∨ base = 0x101 then .yv12
  else if base = 0x14 then .yuv422
  else if base = 0x20 then .raw16
  else if base = 0x26 then .raw12
  else if base = 0x25 then .raw10
  else if base = 0x21 then .blob
  else if base = 0x103 then .y0l2
  else if base = 0x104 then .p010
  else if base = 0x105 then .p210
  else if base = 0x106 then .y210
  else if base = 0x107 then .y410
  else if base = 0x102 then .yuv422Afbc
  else .other

/-- `get_camera_formats_stride_and_size`: the stride and the size. -/
def getCameraFormatsStrideAndSize (w h : U32) (format : BaseFormat) : Option (U32 × BitVec 64) :=
  match format with
  | .raw16 =>
    let stride := grallocAlign w 16
    some (stride, intToSize (stride * h * 2))
  | .raw12 =>
    if w.srem 4 ≠ 0 then none
    else
      let stride := w.sdiv 2 * 3
      some (stride, intToSize (stride * h))
  | .raw10 =>
    if w.srem 4 ≠ 0 then none
    else
      let stride := w.sdiv 4 * 5
      some (stride, intToSize (stride * h))
  | .blob => if h ≠ 1 then none else some (0, intToSize w)
  | _ => none

/-- `MALI_GRALLOC_INTFMT_AFBC_BASIC`. -/
def intfmtAfbcBasic : BitVec 64 := 1 <<< 32

/-- `MALI_GRALLOC_INTFMT_AFBC_SPLITBLK`. -/
def intfmtAfbcSplitblk : BitVec 64 := 1 <<< 33

/-- `MALI_GRALLOC_INTFMT_AFBC_WIDEBLK`. -/
def intfmtAfbcWideblk : BitVec 64 := 1 <<< 35

/-- `MALI_GRALLOC_INTFMT_AFBC_TILED_HEADERS`. -/
def intfmtAfbcTiledHeaders : BitVec 64 := 1 <<< 48

/-- `MALI_GRALLOC_INTFMT_AFBCENABLE_MASK`. -/
def intfmtAfbcEnableMask : BitVec 64 := intfmtAfbcBasic ||| intfmtAfbcSplitblk ||| intfmtAfbcWideblk

/-- `MALI_GRALLOC_USAGE_AFBC_PADDING`. -/
def usageAfbcPadding : BitVec 64 := 0x40000000

/-- `GRALLOC_USAGE_SW_READ_MASK | GRALLOC_USAGE_SW_WRITE_MASK`. -/
def usageSwMask : BitVec 64 := 0x000000FF

/-- The part of the loop that determines the AFBC type; without AFBC the type stays what it was. -/
def allocTypeFor (internalFormat usage : BitVec 64) (type : AllocType) : Option AllocType :=
  if internalFormat &&& intfmtAfbcEnableMask ≠ 0 then
    if internalFormat &&& intfmtAfbcTiledHeaders ≠ 0 then
      if internalFormat &&& intfmtAfbcWideblk ≠ 0 then some .afbcTiledHeadersWideblk
      else if internalFormat &&& intfmtAfbcBasic ≠ 0 then some .afbcTiledHeadersBasic
      else if internalFormat &&& intfmtAfbcSplitblk ≠ 0 then none
      else some type
    else if usage &&& usageAfbcPadding ≠ 0 then some .afbcPadded
    else if internalFormat &&& intfmtAfbcWideblk ≠ 0 then some .afbcWideblk
    else some .afbc
  else some type

/-- A descriptor with what a helper has computed. -/
def BufferDescriptor.sized (d : BufferDescriptor) (s : StrideAndSize) : BufferDescriptor :=
  { d with pixelStride := s.pixelStride, byteStride := s.byteStride, size := s.size }

/-- The switch over the base formats. -/
def bufferDescriptorSize (video : Bool) (type : AllocType) (d : BufferDescriptor) :
    Option BufferDescriptor :=
  match baseFormat d.internalFormat with
  | .rgb pixelSize => some (d.sized (getRgbStrideAndSize d.width d.height pixelSize type))
  | .yv12 =>
    let align : U32 := if d.usage &&& usageSwMask ≠ 0 then 16 else 128
    (getYv12StrideAndSize video d.width d.height type d.internalHeight align).map fun (s, h) =>
      { d.sized s with internalHeight := h }
  | .yuv422 =>
    if type ≠ .uncompressed then none else some (d.sized (getYuv422StrideAndSize d.width d.height))
  | .raw16 | .raw12 | .raw10 | .blob =>
    if type ≠ .uncompressed then none
    else
      -- the result of the helper is not looked at
      let d := match getCameraFormatsStrideAndSize d.width d.height
        (baseFormat d.internalFormat) with
        | some (stride, size) => { d with pixelStride := stride, size := size }
        | none => d
      some { d with byteStride := d.pixelStride }
  | .y0l2 =>
    if type ≠ .uncompressed then
      (getYuv420TenBitAfbcStrideAndSize video d.width d.height type).map fun (s, h) =>
        { d.sized s with internalHeight := h }
    else some (d.sized (getYuvY0l2StrideAndSize d.width d.height))
  | .p010 =>
    if type ≠ .uncompressed then none
    else (getYuvPX10StrideAndSize d.width d.height 2).map d.sized
  | .p210 =>
    if type ≠ .uncompressed then none
    else (getYuvPX10StrideAndSize d.width d.height 1).map d.sized
  | .y210 =>
    if type ≠ .uncompressed then (getYuv422TenBitAfbcStrideAndSize d.width d.height type).map
      d.sized
    else some (d.sized (getYuvY210StrideAndSize d.width d.height))
  | .y410 =>
    if type ≠ .uncompressed then none else some (d.sized (getYuvY410StrideAndSize d.width d.height))
  | .yuv422Afbc => (getAfbcYuv422StrideAndSize d.width d.height type).map d.sized
  | .other => none

/-- `mali_gralloc_select_format`, which depends on what the libraries of the other units can do. -/
abbrev SelectFormat := BitVec 64 → MaliGrallocFormatType → BitVec 64 → U32 → BitVec 64

/-- A descriptor with its internal dimensions and format. -/
def BufferDescriptor.prepared (select : SelectFormat) (d : BufferDescriptor) : BufferDescriptor :=
  { d with
    internalWidth := d.width
    internalHeight := d.height
    internalFormat := select d.halFormat d.formatType d.usage (d.width * d.height) }

/-- The body of the loop over the descriptors: the type that it leaves behind, and the descriptor.
-/
def bufferDescriptorStep (select : SelectFormat) (video : Bool) (type : AllocType)
    (d : BufferDescriptor) : Option (AllocType × BufferDescriptor) := do
  let d := d.prepared select
  if d.internalFormat = 0 then none
  let type ← allocTypeFor d.internalFormat d.usage type
  let d ← bufferDescriptorSize video type d
  return (type, d)

/-- The loop over the descriptors. -/
def bufferDescriptorLoop (select : SelectFormat) (video : Bool) :
    AllocType → List BufferDescriptor → Option (List BufferDescriptor)
  | _, [] => some []
  | type, d :: ds => do
    let (type, d) ← bufferDescriptorStep select video type d
    return d :: (← bufferDescriptorLoop select video type ds)

end Hikey
