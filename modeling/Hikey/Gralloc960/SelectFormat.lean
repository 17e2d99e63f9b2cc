import Hikey.Gralloc960.BufferSize

/-!
# The choice of an internal format (`mali_gralloc_formats.cpp`)

The capabilities of the units that write and read a buffer decide whether it is compressed, and how.
The base format is an `int` that is widened to 64 bits, and the upper half of the result holds the
modifiers.
-/

namespace Hikey

/-! ## The source -/

/-- `MALI_GRALLOC_FORMAT_CAPABILITY_OPTIONS_PRESENT`. -/
def capOptionsPresent : BitVec 64 := 1 <<< 0

/-- `MALI_GRALLOC_FORMAT_CAPABILITY_AFBC_BASIC`. -/
def capAfbcBasic : BitVec 64 := 1 <<< 1

/-- `MALI_GRALLOC_FORMAT_CAPABILITY_AFBC_SPLITBLK`. -/
def capAfbcSplitblk : BitVec 64 := 1 <<< 2

/-- `MALI_GRALLOC_FORMAT_CAPABILITY_AFBC_WIDEBLK`. -/
def capAfbcWideblk : BitVec 64 := 1 <<< 3

/-- `MALI_GRALLOC_FORMAT_CAPABILITY_AFBC_YUV_NOREAD`. -/
def capAfbcYuvNoread : BitVec 64 := 1 <<< 5

/-- `MALI_GRALLOC_FORMAT_CAPABILITY_AFBC_YUV_NOWRITE`. -/
def capAfbcYuvNowrite : BitVec 64 := 1 <<< 6

/-- `MALI_GRALLOC_FORMAT_CAPABILITY_AFBC_TILED_HEADERS`. -/
def capAfbcTiledHeaders : BitVec 64 := 1 <<< 7

/-- `MALI_GRALLOC_FORMAT_CAPABILITY_AFBCENABLE_MASK`. -/
def capAfbcEnableMask : BitVec 64 :=
  capAfbcBasic ||| capAfbcSplitblk ||| capAfbcWideblk ||| capAfbcTiledHeaders

/-- `MALI_GRALLOC_INTFMT_FMT_MASK`. -/
def intfmtFmtMask : BitVec 64 := 0x00000000ffffffff

/-- `MALI_GRALLOC_INTFMT_EXT_MASK`. -/
def intfmtExtMask : BitVec 64 := 0xffffffff00000000

/-- `MALI_GRALLOC_INTFMT_ME_EXT_MASK`. -/
def intfmtMeExtMask : BitVec 64 := 0x0000ffff00000000

/-- `GRALLOC_USAGE_SW_READ_MASK | GRALLOC_USAGE_SW_WRITE_MASK`, as an `int`. -/
def grallocUsageSwMask : U32 := 0x000000FF

/-- `GRALLOC_USAGE_HW_TEXTURE`. -/
def grallocUsageHwTexture : U32 := 0x00000100

/-- `GRALLOC_USAGE_HW_RENDER`. -/
def grallocUsageHwRender : U32 := 0x00000200

/-- `GRALLOC_USAGE_HW_COMPOSER`. -/
def grallocUsageHwComposer : U32 := 0x00000800

/-- `GRALLOC_USAGE_HW_FB`. -/
def grallocUsageHwFb : U32 := 0x00001000

/-- `GRALLOC_USAGE_EXTERNAL_DISP`. -/
def grallocUsageExternalDisp : U32 := 0x00002000

/-- `GRALLOC_USAGE_HW_VIDEO_ENCODER`. -/
def grallocUsageHwVideoEncoder : U32 := 0x00010000

/-- `GRALLOC_USAGE_HW_CAMERA_MASK`. -/
def grallocUsageHwCameraMask : U32 := 0x00060000

/-- `MALI_GRALLOC_USAGE_PRIVATE_FORMAT`: an `int` with its sign bit set, that is widened to 64 bits.
-/
def usagePrivateFormat : BitVec 64 := 0xffffffff80000000

/-- `MALI_GRALLOC_USAGE_NO_AFBC`. -/
def usageNoAfbc : BitVec 64 := 0x60000000

/-- `HAL_PIXEL_FORMAT_YV12`. -/
def halPixelFormatYv12 : U32 := 0x32315659

/-- `MALI_GRALLOC_FORMAT_INTERNAL_NV12`. -/
def formatInternalNv12 : U32 := 0x100

/-- `mali_gralloc_producer_type`. -/
inductive MaliGrallocProducer
  | videoDecoder
  | gpu
  | camera
deriving DecidableEq, Repr

/-- `mali_gralloc_consumer_type`. -/
inductive MaliGrallocConsumer
  | gpuOrDisplay
  | videoEncoder
  | gpuExcl
deriving DecidableEq, Repr

/-- The masks of `dpu_runtime_caps`, `gpu_runtime_caps`, `vpu_runtime_caps` and `cam_runtime_caps`.
-/
structure MaliRuntimeCaps where
  dpu : BitVec 64
  gpu : BitVec 64
  vpu : BitVec 64
  cam : BitVec 64

/-- The test of a mask for a capability. -/
def hasCap (mask cap : BitVec 64) : Bool := mask &&& cap ≠ 0

/-- `map_flex_formats`. -/
def mapFlexFormats (reqFormat : BitVec 64) : U32 :=
  if reqFormat = 0x22 ∨ reqFormat = 0x23 then formatInternalNv12 else reqFormat.setWidth 32

/-- `is_afbc_supported`. -/
def isAfbcSupported (reqFormatMapped : U32) : Bool :=
  !([0x20, 0x26, 0x25, 0x21, 0x104, 0x105, 0x107, 0x14] : List U32).contains reqFormatMapped

/-- `is_android_yuv_format`. -/
def isAndroidYuvFormat (reqFormat : U32) : Bool :=
  ([halPixelFormatYv12, 0x20203859, 0x20363159, 0x23, 0x27, 0x28, formatInternalNv12, 0x22] : List
    U32).contains reqFormat

/-- `is_afbc_allowed`; `display` is the size of a display of version 550 or 650 if it is configured.
-/
def isAfbcAllowed (display : Option (U32 × U32)) (bufferSize : U32) : Bool :=
  match display with
  | some (w, h) => if w ≠ 0 ∧ h ≠ 0 then (75 : U32).sle ((bufferSize * 100).sdiv (w * h)) else true
  | none => true

/-- The two tests of the branches that do not nest them. -/
def orBasicOrTiled (basic tiled : Bool) (internalFormat : BitVec 64) : BitVec 64 :=
  let internalFormat := if basic then internalFormat ||| intfmtAfbcBasic else internalFormat
  if tiled then internalFormat ||| intfmtAfbcTiledHeaders else internalFormat

/-- `determine_best_format`. -/
def determineBestFormat (caps : MaliRuntimeCaps) (reqFormat : U32) (producer : MaliGrallocProducer)
    (consumer : MaliGrallocConsumer) (producerRuntimeMask consumerRuntimeMask : BitVec 64) :
    BitVec 64 :=
  let internalFormat := reqFormat.signExtend 64
  match producer with
  | .gpu =>
    if hasCap caps.gpu capOptionsPresent then
      let gpu := caps.gpu &&& producerRuntimeMask
      match consumer with
      | .gpuOrDisplay =>
        let gpu := gpu &&& consumerRuntimeMask
        let dpu := caps.dpu &&& consumerRuntimeMask
        if hasCap gpu capAfbcSplitblk && hasCap dpu capAfbcSplitblk then internalFormat |||
          intfmtAfbcSplitblk
        else if hasCap gpu capAfbcBasic && hasCap dpu capAfbcBasic then
          let internalFormat := internalFormat ||| intfmtAfbcBasic
          if hasCap gpu capAfbcTiledHeaders && hasCap dpu capAfbcTiledHeaders then
            internalFormat ||| intfmtAfbcTiledHeaders
          else internalFormat
        else internalFormat
      | .gpuExcl =>
        let gpu := gpu &&& consumerRuntimeMask
        orBasicOrTiled (hasCap gpu capAfbcBasic) (hasCap gpu capAfbcTiledHeaders) internalFormat
      | .videoEncoder =>
        let vpu := caps.vpu &&& consumerRuntimeMask
        if internalFormat = halPixelFormatYv12.setWidth 64 ∨
          internalFormat = formatInternalNv12.setWidth 64 then
          orBasicOrTiled (hasCap gpu capAfbcBasic && hasCap vpu capAfbcBasic)
            (hasCap gpu capAfbcTiledHeaders && hasCap vpu capAfbcTiledHeaders) internalFormat
        else internalFormat
    else internalFormat
  | .videoDecoder =>
    if hasCap caps.vpu capOptionsPresent then
      let vpu := caps.vpu &&& producerRuntimeMask
      match consumer with
      | .gpuOrDisplay =>
        let gpu := caps.gpu &&& consumerRuntimeMask
        let dpu := caps.dpu &&& consumerRuntimeMask
        if internalFormat = halPixelFormatYv12.setWidth 64 then
          orBasicOrTiled
            (hasCap vpu capAfbcBasic && hasCap gpu capAfbcBasic && hasCap dpu capAfbcBasic)
            (hasCap vpu capAfbcTiledHeaders && hasCap gpu capAfbcTiledHeaders && hasCap dpu
              capAfbcTiledHeaders)
            internalFormat
        else internalFormat
      | .gpuExcl =>
        let gpu := caps.gpu &&& consumerRuntimeMask
        if internalFormat = halPixelFormatYv12.setWidth 64 then
          orBasicOrTiled (hasCap gpu capAfbcBasic && hasCap vpu capAfbcBasic)
            (hasCap gpu capAfbcTiledHeaders && hasCap vpu capAfbcTiledHeaders) internalFormat
        else internalFormat
      | .videoEncoder => internalFormat
    else internalFormat
  | .camera => internalFormat

/-- `mali_gralloc_format_unwrap`. -/
def maliGrallocFormatUnwrap (x : U32) : BitVec 64 :=
  let x := x.signExtend 64
  let internalFormat :=
    ((x &&& 0xff000000) <<< 24) ||| ((x &&& 0x00ff0000) <<< 16) ||| (x &&& 0x0000ffff)
  let base := internalFormat &&& intfmtFmtMask
  let modifiers := internalFormat &&& intfmtExtMask
  let base := if base = 0x108 then halPixelFormatYv12.setWidth 64
    else if base = 0x109 then 0x20203859
    else if base = 0x10A then 0x20363159
    else base
  modifiers ||| base

/-- The base formats that `decode_internal_format` recognises. -/
def decodableBaseFormats : List (BitVec 64) :=
  [1, 2, 3, 4, 5, 0x32315659, 0x20203859, 0x20363159, 0x20, 0x26, 0x25, 0x21, 0x100, 0x101, 0x102,
    0x103, 0x104,
    0x105, 0x106, 0x107]

/-- `decode_internal_format`. -/
def decodeInternalFormat (reqFormat : BitVec 64) (type : MaliGrallocFormatType) : BitVec 64 :=
  let internalFormat := match type with
    | .usage => maliGrallocFormatUnwrap (reqFormat.setWidth 32)
    | .internal => reqFormat
  let meMask := internalFormat &&& intfmtMeExtMask
  if meMask ≠ 0 ∧ (meMask - 1) &&& meMask ≠ 0 then 0
  else
    let base := internalFormat &&& intfmtFmtMask
    let mapped := (mapFlexFormats base).signExtend 64
    if mapped ∈ decodableBaseFormats then
      if mapped ≠ base then (internalFormat &&& intfmtExtMask) ||| mapped else internalFormat
    else 0

/-- `determine_producer`: the producer and its runtime mask. -/
def determineProducer (caps : MaliRuntimeCaps) (producerRuntimeMask : BitVec 64)
    (reqFormat usage : U32) :
    Option (MaliGrallocProducer × BitVec 64) :=
  let decoder := grallocUsageHwTexture ||| grallocUsageHwComposer ||| grallocUsageExternalDisp
  if usage &&& grallocUsageSwMask ≠ 0 then none
  else if usage &&& grallocUsageHwRender ≠ 0 then
    if isAndroidYuvFormat reqFormat then
      if hasCap caps.gpu capAfbcYuvNowrite then some
        (.gpu, producerRuntimeMask &&& ~~~capAfbcEnableMask)
      else some (.gpu, producerRuntimeMask &&& ~~~(capAfbcSplitblk ||| capAfbcWideblk))
    else some (.gpu, producerRuntimeMask)
  else if usage &&& grallocUsageHwCameraMask ≠ 0 then some (.camera, producerRuntimeMask)
  else if usage &&& decoder = decoder then some (.videoDecoder, producerRuntimeMask)
  else some (.gpu, producerRuntimeMask)

/-- `determine_consumer`: the consumer and its runtime mask. -/
def determineConsumer (caps : MaliRuntimeCaps) (consumerRuntimeMask : BitVec 64)
    (reqFormat usage : U32) :
    Option (MaliGrallocConsumer × BitVec 64) :=
  let composed := grallocUsageHwTexture ||| grallocUsageHwComposer
  if usage &&& grallocUsageSwMask ≠ 0 then none
  else if usage &&& grallocUsageHwFb ≠ 0 then some (.gpuOrDisplay, consumerRuntimeMask)
  else if usage &&& grallocUsageHwVideoEncoder ≠ 0 then
    if isAndroidYuvFormat reqFormat then
      if hasCap caps.vpu capAfbcYuvNoread then some
        (.videoEncoder, consumerRuntimeMask &&& ~~~capAfbcEnableMask)
      else some (.videoEncoder, consumerRuntimeMask)
    else some (.videoEncoder, consumerRuntimeMask &&& ~~~capAfbcEnableMask)
  else if usage &&& composed = composed ∧ hasCap caps.dpu capOptionsPresent then
    some (.gpuOrDisplay, consumerRuntimeMask)
  else some (.gpuExcl, consumerRuntimeMask)

/-- The runtime limitations of `mali_gralloc_select_format`; `none` is a request that is refused. -/
def producerLimitations (display : Option (U32 × U32)) (reqFormatMapped : U32) (usage : BitVec 64)
    (bufferSize : U32)
    (producerRuntimeMask : BitVec 64) : Option (BitVec 64) :=
  if usage &&& usageNoAfbc = usageNoAfbc then
    if isAndroidYuvFormat reqFormatMapped then none
      else some (producerRuntimeMask &&& ~~~capAfbcEnableMask)
  else if !isAfbcAllowed display bufferSize then some (producerRuntimeMask &&& ~~~capAfbcEnableMask)
  else if !isAfbcSupported reqFormatMapped then some (producerRuntimeMask &&& ~~~capAfbcEnableMask)
  else some producerRuntimeMask

/-- `mali_gralloc_select_format`, when the capabilities have been read. -/
def maliGrallocSelectFormat (display : Option (U32 × U32)) (caps : MaliRuntimeCaps)
    (reqFormat : BitVec 64)
    (type : MaliGrallocFormatType) (usage : BitVec 64) (bufferSize : U32) : BitVec 64 :=
  if usage &&& usagePrivateFormat ≠ 0 ∨ type = .internal then decodeInternalFormat reqFormat type
  else
    let reqFormatMapped := mapFlexFormats reqFormat
    match determineProducer caps (-1) (reqFormat.setWidth 32) (usage.setWidth 32),
        determineConsumer caps (-1) (reqFormat.setWidth 32) (usage.setWidth 32) with
    | some (producer, producerRuntimeMask), some (consumer, consumerRuntimeMask) =>
      match producerLimitations display reqFormatMapped usage bufferSize producerRuntimeMask with
      | some producerRuntimeMask =>
        determineBestFormat caps reqFormatMapped producer consumer producerRuntimeMask
          consumerRuntimeMask
      | none => 0
    | _, _ => reqFormatMapped.signExtend 64

/-! ## What a format must satisfy -/

/-- The capabilities of the unit that produces a buffer. -/
def MaliGrallocProducer.caps (caps : MaliRuntimeCaps) : MaliGrallocProducer → BitVec 64
  | .gpu => caps.gpu
  | .videoDecoder => caps.vpu
  | .camera => caps.cam

/-- The capabilities of the units that may consume a buffer. -/
def MaliGrallocConsumer.caps (caps : MaliRuntimeCaps) : MaliGrallocConsumer → List (BitVec 64)
  | .gpuOrDisplay => [caps.gpu, caps.dpu]
  | .gpuExcl => [caps.gpu]
  | .videoEncoder => [caps.vpu]

/-- The capabilities of all units that a buffer meets, under their runtime masks. -/
def formatBlocks (caps : MaliRuntimeCaps) (producer : MaliGrallocProducer)
    (consumer : MaliGrallocConsumer)
    (producerRuntimeMask consumerRuntimeMask : BitVec 64) : List (BitVec 64) :=
  (producer.caps caps &&& producerRuntimeMask) :: (consumer.caps caps).map
    (· &&& consumerRuntimeMask)

/-- The modifiers of the four AFBC capabilities. -/
def capModifiers (basic splitblk wideblk tiled : Bool) : BitVec 64 :=
  (if basic then intfmtAfbcBasic else 0) ||| (if splitblk then intfmtAfbcSplitblk else 0) |||
    (if wideblk then intfmtAfbcWideblk else 0) ||| if tiled then intfmtAfbcTiledHeaders else 0

/-- The modifiers that a unit supports. -/
def modifiersOf (mask : BitVec 64) : BitVec 64 :=
  capModifiers (hasCap mask capAfbcBasic) (hasCap mask capAfbcSplitblk) (hasCap mask capAfbcWideblk)
    (hasCap mask capAfbcTiledHeaders)

/-- The modifiers of an internal format. -/
def intfmtModifiers (internalFormat : BitVec 64) : BitVec 64 := internalFormat &&& intfmtExtMask

/-- A format that every unit of a buffer can handle, if `excluded` says that the usage excludes
AFBC. -/
structure FormatLegal (blocks : List (BitVec 64)) (excluded : Prop) (internalFormat : BitVec 64) :
    Prop where
  supported : ∀ mask ∈ blocks, intfmtModifiers internalFormat &&& ~~~modifiersOf mask = 0
  uncompressed : excluded ∨ (∃ mask ∈ blocks, mask &&& capAfbcEnableMask = 0) →
    intfmtModifiers internalFormat = 0
  refines : internalFormat &&& intfmtAfbcTiledHeaders ≠ 0 →
    internalFormat &&& intfmtAfbcEnableMask ≠ 0

/-- A request that is not for a private format. -/
structure FormatRequest where
  reqFormat : BitVec 64
  usage : BitVec 64
  bufferSize : U32

/-- The units and runtime masks of a request; `none` is one that is not given a choice. -/
def FormatRequest.units (r : FormatRequest) (display : Option (U32 × U32))
    (caps : MaliRuntimeCaps) :
    Option ((MaliGrallocProducer × BitVec 64) × MaliGrallocConsumer × BitVec 64) := do
  let (producer, pm) ← determineProducer caps (-1) (r.reqFormat.setWidth 32) (r.usage.setWidth 32)
  let consumer ← determineConsumer caps (-1) (r.reqFormat.setWidth 32) (r.usage.setWidth 32)
  let pm ← producerLimitations display (mapFlexFormats r.reqFormat) r.usage r.bufferSize pm
  return ((producer, pm), consumer)

/-- The capabilities of the units of a request. -/
def FormatRequest.blocks (r : FormatRequest) (display : Option (U32 × U32))
    (caps : MaliRuntimeCaps) :
    List (BitVec 64) :=
  match r.units display caps with
  | some ((producer, pm), (consumer, cm)) => formatBlocks caps producer consumer pm cm
  | none => []

/-- The usage is one of the processor, or asks for no AFBC. -/
def FormatRequest.Excludes (r : FormatRequest) : Prop :=
  r.usage.setWidth 32 &&& grallocUsageSwMask ≠ 0 ∨ r.usage &&& usageNoAfbc = usageNoAfbc

/-- How a branch of `determine_best_format` tests the capabilities. -/
inductive CapTests
  | none
  | nested
  | separate
deriving DecidableEq

/-- The tests of the branch that is taken. -/
def capTests (caps : MaliRuntimeCaps) (reqFormat : U32) :
    MaliGrallocProducer → MaliGrallocConsumer → CapTests
  | .gpu, .gpuOrDisplay => if hasCap caps.gpu capOptionsPresent then .nested else .none
  | .gpu, .gpuExcl => if hasCap caps.gpu capOptionsPresent then .separate else .none
  | .gpu, .videoEncoder =>
    if hasCap caps.gpu capOptionsPresent ∧
      (reqFormat = halPixelFormatYv12 ∨ reqFormat = formatInternalNv12) then
      .separate
    else .none
  | .videoDecoder, .gpuOrDisplay | .videoDecoder, .gpuExcl =>
    if hasCap caps.vpu capOptionsPresent ∧ reqFormat = halPixelFormatYv12 then .separate else .none
  | .videoDecoder, .videoEncoder | .camera, _ => .none

/-- The branch of a request tests for tiled headers apart from the basic mode, and all units have
the first but not all the second. -/
def FormatRequest.TiledAlone (r : FormatRequest) (display : Option (U32 × U32))
    (caps : MaliRuntimeCaps) : Prop :=
  (r.units display caps).any fun ((producer, _), (consumer, _)) =>
    capTests caps (mapFlexFormats r.reqFormat) producer consumer = .separate ∧
      (r.blocks display caps).all (hasCap · capAfbcTiledHeaders) ∧
      ¬(r.blocks display caps).all (hasCap · capAfbcBasic)

/-! ## Masks -/

/-- A unit has a capability under two masks if it has it under each. -/
lemma hasCap_and (a b : BitVec 64) (k : ℕ) :
    hasCap (a &&& b)
      (BitVec.twoPow 64 k) = (hasCap a (BitVec.twoPow 64 k) && hasCap b (BitVec.twoPow 64 k)) := by
  simp only [hasCap, BitVec.and_twoPow, BitVec.getLsbD_and]
  cases a.getLsbD k <;> cases b.getLsbD k <;> simp

lemma hasCap_and_of_mem (cap : BitVec 64)
    (hcap : cap ∈ [capAfbcBasic, capAfbcSplitblk, capAfbcTiledHeaders])
    (a b : BitVec 64) : hasCap (a &&& b) cap = (hasCap a cap && hasCap b cap) := by
  have hpow : ∃ k, cap = BitVec.twoPow 64 k := by
    simp only [List.mem_cons, List.not_mem_nil, or_false] at hcap
    rcases hcap with rfl | rfl | rfl
    · exact ⟨1, rfl⟩
    · exact ⟨2, rfl⟩
    · exact ⟨7, rfl⟩
  obtain ⟨k, rfl⟩ := hpow
  exact hasCap_and a b k

/-- A unit without any capability of AFBC supports no modifier. -/
lemma hasCap_of_disabled {mask cap : BitVec 64} (hmask : mask &&& capAfbcEnableMask = 0)
    (hcap : cap &&& capAfbcEnableMask = cap) : hasCap mask cap = false := by
  have h : mask &&& cap = 0 := by
    rw [← hcap, BitVec.and_comm cap, ← BitVec.and_assoc, hmask]
    exact BitVec.zero_and
  simp [hasCap, h]

/-- The modifiers that the tests of a branch lead to, from what all units have. -/
def CapTests.modifiers (basic splitblk tiled : Bool) : CapTests → BitVec 64
  | .none => 0
  | .nested =>
    if splitblk then intfmtAfbcSplitblk
    else if basic then intfmtAfbcBasic ||| (if tiled then intfmtAfbcTiledHeaders else 0)
    else 0
  | .separate => (if basic then intfmtAfbcBasic else 0) ||| if tiled then intfmtAfbcTiledHeaders
      else 0

lemma orBasicOrTiled_eq (basic tiled : Bool) (internalFormat : BitVec 64) :
    orBasicOrTiled basic tiled internalFormat =
      internalFormat |||
        ((if basic then intfmtAfbcBasic else 0) ||| if tiled then intfmtAfbcTiledHeaders
        else 0) := by
  cases basic <;> cases tiled <;> simp [orBasicOrTiled, BitVec.or_assoc]

/-- A widened base format is a format of the first half as soon as the base format is that. -/
lemma signExtend_eq_iff (r f : U32) (hf : f.msb = false) :
    r.signExtend 64 = f.setWidth 64 ↔ r = f := by
  constructor
  · intro h
    refine BitVec.eq_of_getLsbD_eq fun i hi => ?_
    have hbit := congrArg (BitVec.getLsbD · i) h
    have hi' : i < 64 := by omega
    simpa only [BitVec.getLsbD_signExtend, BitVec.getLsbD_setWidth, hi, hi', decide_true,
      Bool.true_and, if_true]
      using hbit
  · rintro rfl
    rw [BitVec.signExtend_eq_setWidth_of_msb_false hf]

lemma separate_eq (internalFormat : BitVec 64) (taken : Prop) [Decidable taken]
    (basic splitblk tiled : Bool) :
    (if taken then
      internalFormat |||
        ((if basic then intfmtAfbcBasic else 0) ||| if tiled then intfmtAfbcTiledHeaders else 0)
    else internalFormat) =
      internalFormat ||| (if taken then CapTests.separate else .none).modifiers basic
        splitblk tiled := by
  by_cases h : taken <;> simp [h, CapTests.modifiers]

lemma nested_eq (internalFormat : BitVec 64) (taken : Prop) [Decidable taken]
    (basic splitblk tiled : Bool) :
    (if taken then
      if splitblk then internalFormat ||| intfmtAfbcSplitblk
      else if basic then
        if tiled then internalFormat ||| intfmtAfbcBasic ||| intfmtAfbcTiledHeaders
        else internalFormat ||| intfmtAfbcBasic
      else internalFormat
    else internalFormat) =
      internalFormat ||| (if taken then CapTests.nested else .none).modifiers basic
        splitblk tiled := by
  by_cases h : taken <;> cases basic <;> cases splitblk <;> cases tiled <;>
    simp [h, CapTests.modifiers, BitVec.or_assoc]

/-- What `determine_best_format` adds to a format depends on what all units have. -/
lemma determineBestFormat_eq (caps : MaliRuntimeCaps) (reqFormat : U32)
    (producer : MaliGrallocProducer)
    (consumer : MaliGrallocConsumer) (pm cm : BitVec 64) :
    determineBestFormat caps reqFormat producer consumer pm cm =
      reqFormat.signExtend 64 |||
        (capTests caps reqFormat producer consumer).modifiers
          ((formatBlocks caps producer consumer pm cm).all (hasCap · capAfbcBasic))
          ((formatBlocks caps producer consumer pm cm).all (hasCap · capAfbcSplitblk))
          ((formatBlocks caps producer consumer pm cm).all (hasCap · capAfbcTiledHeaders)) := by
  have hbasic := hasCap_and_of_mem capAfbcBasic (by simp)
  have hsplit := hasCap_and_of_mem capAfbcSplitblk (by simp)
  have htiled := hasCap_and_of_mem capAfbcTiledHeaders (by simp)
  have hyv12 := signExtend_eq_iff reqFormat halPixelFormatYv12 rfl
  have hnv12 := signExtend_eq_iff reqFormat formatInternalNv12 rfl
  cases producer <;> cases consumer <;>
    simp only [determineBestFormat, capTests, formatBlocks, MaliGrallocProducer.caps,
      MaliGrallocConsumer.caps,
      List.map_cons, List.map_nil, List.all_cons, List.all_nil, hbasic, hsplit, htiled,
        orBasicOrTiled_eq, hyv12,
      hnv12, ← ite_and]
  case camera.gpuOrDisplay | camera.videoEncoder | camera.gpuExcl | videoDecoder.videoEncoder =>
    simp [CapTests.modifiers]
  -- in the other branches the tests of the code are those of all units, in another order
  case gpu.gpuOrDisplay =>
    have hall : ∀ g p c d : Bool, (g && p && (g && c && (d && c && true))) =
        (g && p && c && (d && c)) := by decide
    simp only [hall]
    exact nested_eq ..
  case gpu.videoEncoder =>
    simp only [Bool.and_true]
    exact separate_eq ..
  case gpu.gpuExcl =>
    have hall : ∀ g p c : Bool, (g && p && (g && c && true)) = (g && p && c) := by decide
    simp only [hall]
    exact separate_eq ..
  case videoDecoder.gpuOrDisplay =>
    simp only [Bool.and_true, Bool.and_assoc]
    exact separate_eq ..
  case videoDecoder.gpuExcl =>
    have hall : ∀ g p c v : Bool, (v && p && (g && c && true)) = (g && c && (v && p)) := by decide
    simp only [hall]
    exact separate_eq ..

/-! ## The modifiers of a chosen format -/

/-- The modifiers of a branch are supported by a unit that has what all units have. -/
lemma modifiers_supported (tests : CapTests)
    {basic splitblk tiled basic' splitblk' wideblk' tiled' : Bool}
    (hbasic : basic → basic') (hsplit : splitblk → splitblk') (htiled : tiled → tiled') :
    tests.modifiers basic splitblk tiled &&& ~~~capModifiers basic' splitblk' wideblk'
      tiled' = 0 := by
  revert basic splitblk tiled basic' splitblk' wideblk' tiled' hbasic hsplit htiled
  cases tests <;> decide +kernel

/-- Tiled headers come without the mode they refine exactly in a branch that tests for them alone.
-/
lemma modifiers_refines_iff (tests : CapTests) (basic splitblk tiled : Bool) :
    (tests.modifiers basic splitblk tiled &&& intfmtAfbcTiledHeaders ≠ 0 →
      tests.modifiers basic splitblk tiled &&& intfmtAfbcEnableMask ≠ 0) ↔
      ¬(tests = .separate ∧ tiled ∧ ¬basic) := by
  revert basic splitblk tiled
  cases tests <;> decide +kernel

lemma modifiers_ext (tests : CapTests) (basic splitblk tiled : Bool) :
    tests.modifiers basic splitblk tiled &&& intfmtExtMask = tests.modifiers basic
      splitblk tiled := by
  revert basic splitblk tiled
  cases tests <;> decide +kernel

/-- A base format has no modifiers if it is not negative. -/
lemma signExtend_ext {r : U32} (hr : r.msb = false) : r.signExtend 64 &&& intfmtExtMask = 0 := by
  have hmask : intfmtExtMask = BitVec.allOnes 64 <<< 32 := by decide
  rw [BitVec.signExtend_eq_setWidth_of_msb_false hr, hmask]
  refine BitVec.eq_of_getLsbD_eq fun i hi => ?_
  rw [BitVec.getLsbD_and, BitVec.getLsbD_setWidth, BitVec.getLsbD_shiftLeft]
  by_cases hlow : i < 32
  · simp only [hlow, decide_true, Bool.not_true, Bool.and_false, Bool.false_and]
    exact BitVec.getLsbD_zero.symm
  · simp only [BitVec.getLsbD_of_ge r i (by omega), Bool.and_false, Bool.false_and]
    exact BitVec.getLsbD_zero.symm

/-- A negative base format has every modifier, those that no unit supports among them. -/
lemma signExtend_unsupported {r : U32} (hr : r.msb = true) (modifiers mask : BitVec 64) :
    intfmtModifiers (r.signExtend 64 ||| modifiers) &&& ~~~modifiersOf mask ≠ 0 := by
  intro h
  have hbit := congrArg (BitVec.getLsbD · 34) h
  have hsign : (r.signExtend 64).getLsbD 34 = true := by
    simp [BitVec.getLsbD_signExtend, hr]
  have hmask : (modifiersOf mask).getLsbD 34 = false := by
    unfold modifiersOf
    generalize hasCap mask capAfbcBasic = b, hasCap mask capAfbcSplitblk = s, hasCap mask
      capAfbcWideblk = w,
      hasCap mask capAfbcTiledHeaders = t
    revert b s w t
    decide +kernel
  have hext : intfmtExtMask.getLsbD 34 = true := by decide
  simp only [intfmtModifiers, BitVec.getLsbD_and, BitVec.getLsbD_or, BitVec.getLsbD_not,
    hsign, hmask, hext,
    Bool.true_or, Bool.and_true, Bool.not_false, Nat.reduceLT, decide_true] at hbit
  exact absurd hbit (by decide)

/-- The modifiers of a choice are those of the tests. -/
lemma intfmtModifiers_or {r : U32} (hr : r.msb = false) (tests : CapTests)
    (basic splitblk tiled : Bool) :
    intfmtModifiers (r.signExtend 64 ||| tests.modifiers basic splitblk tiled) =
      tests.modifiers basic splitblk tiled := by
  rw [intfmtModifiers, BitVec.and_comm, BitVec.and_or_distrib_left, BitVec.and_comm,
    signExtend_ext hr,
    BitVec.and_comm, modifiers_ext]
  exact BitVec.zero_or

/-- A test for modifiers only looks at the modifiers. -/
lemma and_modifiers {internalFormat flags : BitVec 64} (hflags : flags &&& intfmtExtMask = flags) :
    internalFormat &&& flags = intfmtModifiers internalFormat &&& flags := by
  rw [intfmtModifiers, BitVec.and_assoc, BitVec.and_comm intfmtExtMask, hflags]

/-- A unit that cannot do AFBC has none of its capabilities. -/
lemma all_hasCap_of_disabled {blocks : List (BitVec 64)} {mask : BitVec 64} (hmem : mask ∈ blocks)
    (hmask : mask &&& capAfbcEnableMask = 0) (cap : BitVec 64)
    (hcap : cap &&& capAfbcEnableMask = cap) :
    blocks.all (hasCap · cap) = false := by
  by_contra hall
  have h : hasCap mask cap := List.all_eq_true.mp (by simpa using hall) mask hmem
  rw [hasCap_of_disabled hmask hcap] at h
  exact absurd h (by decide)

/-- The choice between the units of a buffer is one that all of them can handle, except for tiled
headers alone. -/
lemma determineBestFormat_legal_iff {caps : MaliRuntimeCaps} {r : U32} (hr : r.msb = false)
    (producer : MaliGrallocProducer) (consumer : MaliGrallocConsumer) (pm cm : BitVec 64)
    {excluded : Prop}
    (hexcluded : excluded → pm &&& capAfbcEnableMask = 0) :
    FormatLegal (formatBlocks caps producer consumer pm cm) excluded
        (determineBestFormat caps r producer consumer pm cm) ↔
      ¬(capTests caps r producer consumer = .separate ∧
        (formatBlocks caps producer consumer pm cm).all (hasCap · capAfbcTiledHeaders) ∧
        ¬(formatBlocks caps producer consumer pm cm).all (hasCap · capAfbcBasic)) := by
  rw [determineBestFormat_eq]
  generalize hblocks : formatBlocks caps producer consumer pm cm = blocks
  have hmods := intfmtModifiers_or hr (capTests caps r producer consumer)
      (blocks.all (hasCap · capAfbcBasic))
    (blocks.all (hasCap · capAfbcSplitblk)) (blocks.all (hasCap · capAfbcTiledHeaders))
  rw [← modifiers_refines_iff _ _ (blocks.all (hasCap · capAfbcSplitblk))]
  constructor
  · intro h
    have hrefines := h.refines
    rwa [and_modifiers (by decide : intfmtAfbcTiledHeaders &&& intfmtExtMask = _),
      and_modifiers (by decide : intfmtAfbcEnableMask &&& intfmtExtMask = _), hmods] at hrefines
  · intro hrefines
    have hof (cap : BitVec 64) {mask : BitVec 64} (hmem : mask ∈ blocks)
        (hall : blocks.all (hasCap · cap)) :
        hasCap mask cap := List.all_eq_true.mp hall mask hmem
    refine ⟨fun mask hmem => ?_, fun hex => ?_, ?_⟩
    · rw [hmods]
      exact modifiers_supported _ (hof _ hmem) (hof _ hmem) (hof _ hmem)
    · have hdisabled : ∃ mask ∈ blocks, mask &&& capAfbcEnableMask = 0 := by
        rcases hex with hex | hex
        · refine ⟨producer.caps caps &&& pm, ?_, ?_⟩
          · rw [← hblocks]
            exact List.mem_cons_self
          · rw [BitVec.and_assoc, hexcluded hex]
            exact BitVec.and_zero
        · exact hex
      obtain ⟨mask, hmem, hmask⟩ := hdisabled
      have hnone := all_hasCap_of_disabled hmem hmask
      rw [hmods, hnone capAfbcBasic (by decide), hnone capAfbcSplitblk (by decide),
        hnone capAfbcTiledHeaders (by decide)]
      cases capTests caps r producer consumer <;> decide
    · rwa [and_modifiers (by decide : intfmtAfbcTiledHeaders &&& intfmtExtMask = _),
        and_modifiers (by decide : intfmtAfbcEnableMask &&& intfmtExtMask = _), hmods]

/-! ## The choice for a request -/

lemma determineProducer_sw (caps : MaliRuntimeCaps) (pm : BitVec 64) (reqFormat usage : U32) :
    determineProducer caps pm reqFormat usage = none ↔ usage &&& grallocUsageSwMask ≠ 0 := by
  simp only [determineProducer]
  split_ifs <;> simp_all

lemma determineConsumer_sw (caps : MaliRuntimeCaps) (cm : BitVec 64) (reqFormat usage : U32) :
    determineConsumer caps cm reqFormat usage = none ↔ usage &&& grallocUsageSwMask ≠ 0 := by
  simp only [determineConsumer]
  split_ifs <;> simp_all

/-- The limitations take all of AFBC away from the producer when the usage does not want it. -/
lemma producerLimitations_noAfbc {display : Option (U32 × U32)} {mapped : U32} {usage : BitVec 64}
    {bufferSize : U32}
    {pm pm' : BitVec 64} (h : producerLimitations display mapped usage bufferSize pm = some pm')
    (husage : usage &&& usageNoAfbc = usageNoAfbc) : pm' &&& capAfbcEnableMask = 0 := by
  rw [producerLimitations, if_pos husage] at h
  split at h
  · cases h
  · cases h
    rw [BitVec.and_assoc]
    have hdisjoint : ~~~capAfbcEnableMask &&& capAfbcEnableMask = 0 := by decide
    rw [hdisjoint]
    exact BitVec.and_zero

/-- A request without units is one of the processor, which gets its base format, or one that is
refused. -/
lemma maliGrallocSelectFormat_none {display : Option (U32 × U32)} {caps : MaliRuntimeCaps}
    {r : FormatRequest}
    (husage : r.usage &&& usagePrivateFormat = 0) (hunits : r.units display caps = none) :
    (r.usage.setWidth 32 &&& grallocUsageSwMask ≠ 0 ∧
      maliGrallocSelectFormat display caps r.reqFormat .usage r.usage r.bufferSize =
        (mapFlexFormats r.reqFormat).signExtend 64) ∨
    (isAndroidYuvFormat (mapFlexFormats r.reqFormat) ∧
      maliGrallocSelectFormat display caps r.reqFormat .usage r.usage r.bufferSize = 0) := by
  have hprivate : ¬(r.usage &&& usagePrivateFormat ≠ 0 ∨
      MaliGrallocFormatType.usage = .internal) := by
    simp [husage]
  rw [maliGrallocSelectFormat, if_neg hprivate]
  by_cases hsw : r.usage.setWidth 32 &&& grallocUsageSwMask ≠ 0
  · have hproducer := (determineProducer_sw caps (-1) (r.reqFormat.setWidth 32) _).mpr hsw
    exact .inl ⟨hsw, by simp only [hproducer]⟩
  · obtain ⟨⟨producer, pm⟩, hproducer⟩ := Option.ne_none_iff_exists'.mp
      (mt (determineProducer_sw caps (-1) (r.reqFormat.setWidth 32) _).mp hsw)
    obtain ⟨⟨consumer, cm⟩, hconsumer⟩ := Option.ne_none_iff_exists'.mp
      (mt (determineConsumer_sw caps (-1) (r.reqFormat.setWidth 32) _).mp hsw)
    have hlimits : producerLimitations display (mapFlexFormats r.reqFormat) r.usage r.bufferSize
        pm = none := by
      cases hlimits : producerLimitations display (mapFlexFormats r.reqFormat) r.usage
        r.bufferSize pm with
      | none => rfl
      | some pm' =>
        simp only [FormatRequest.units, hproducer, hconsumer, hlimits, Option.bind_eq_bind,
          Option.bind_some,
          Option.pure_def, reduceCtorEq] at hunits
    refine .inr ⟨?_, by simp only [hproducer, hconsumer, hlimits]⟩
    by_contra hyuv
    unfold producerLimitations at hlimits
    split_ifs at hlimits

/-- A request with units gets the choice between them. -/
lemma maliGrallocSelectFormat_some {display : Option (U32 × U32)} {caps : MaliRuntimeCaps}
    {r : FormatRequest}
    {producer : MaliGrallocProducer} {consumer : MaliGrallocConsumer} {pm cm : BitVec 64}
    (husage : r.usage &&& usagePrivateFormat = 0)
    (hunits : r.units display caps = some ((producer, pm), (consumer, cm))) :
    maliGrallocSelectFormat display caps r.reqFormat .usage r.usage r.bufferSize =
        determineBestFormat caps (mapFlexFormats r.reqFormat) producer consumer pm cm ∧
      r.usage.setWidth 32 &&& grallocUsageSwMask = 0 ∧
      (r.usage &&& usageNoAfbc = usageNoAfbc → pm &&& capAfbcEnableMask = 0) := by
  have hprivate : ¬(r.usage &&& usagePrivateFormat ≠ 0 ∨
      MaliGrallocFormatType.usage = .internal) := by
    simp [husage]
  simp only [FormatRequest.units, Option.bind_eq_bind, Option.bind_eq_some_iff, Option.pure_def,
    Option.some.injEq, Prod.mk.injEq, Prod.exists] at hunits
  obtain ⟨p, m, hproducer, c, k, hconsumer, pm', hlimits, ⟨rfl, rfl⟩, rfl, rfl⟩ := hunits
  refine ⟨?_, ?_, producerLimitations_noAfbc hlimits⟩
  · rw [maliGrallocSelectFormat, if_neg hprivate]
    simp only [hproducer, hconsumer, hlimits]
  · by_contra hsw
    rw [(determineProducer_sw caps (-1) (r.reqFormat.setWidth 32) _).mpr hsw] at hproducer
    cases hproducer

/-- The formats of video have a base format that is not negative. -/
lemma isAndroidYuvFormat_msb {r : U32} (hr : isAndroidYuvFormat r) : r.msb = false := by
  simp only [isAndroidYuvFormat, List.contains_iff_mem, List.mem_cons, List.not_mem_nil,
    or_false] at hr
  rcases hr with rfl | rfl | rfl | rfl | rfl | rfl | rfl | rfl <;> decide

/-- The choice of a request that is not for a private format is legal exactly if its base format is
not negative and no branch adds tiled headers alone. -/
theorem maliGrallocSelectFormat_legal_iff (display : Option (U32 × U32)) (caps : MaliRuntimeCaps)
    (r : FormatRequest)
    (husage : r.usage &&& usagePrivateFormat = 0) :
    FormatLegal (r.blocks display caps) r.Excludes
        (maliGrallocSelectFormat display caps r.reqFormat .usage r.usage r.bufferSize) ↔
      (mapFlexFormats r.reqFormat).msb = false ∧ ¬r.TiledAlone display caps := by
  cases hunits : r.units display caps with
  | none =>
    have halone : ¬r.TiledAlone display caps := by simp [FormatRequest.TiledAlone, hunits]
    have hblocks : r.blocks display caps = [] := by simp [FormatRequest.blocks, hunits]
    simp only [halone, not_false_eq_true, and_true, hblocks]
    rcases maliGrallocSelectFormat_none husage hunits with ⟨hsw, hfmt⟩ | ⟨hyuv, hfmt⟩
    · rw [hfmt]
      constructor
      · intro h
        have hext := h.uncompressed (.inl (.inl hsw))
        by_contra hneg
        refine signExtend_unsupported (r := mapFlexFormats r.reqFormat) (by simpa using hneg) 0 0 ?_
        have hzero : (mapFlexFormats r.reqFormat).signExtend 64 ||| 0 =
            (mapFlexFormats r.reqFormat).signExtend 64 :=
          BitVec.or_zero
        rw [hzero, hext]
        exact BitVec.zero_and
      · intro hpos
        have hext := signExtend_ext hpos
        refine ⟨by simp, fun _ => hext, fun htiled => absurd ?_ htiled⟩
        rw [and_modifiers (by decide : intfmtAfbcTiledHeaders &&& intfmtExtMask = _),
          intfmtModifiers, hext]
        exact BitVec.zero_and
    · rw [hfmt]
      refine ⟨fun _ => isAndroidYuvFormat_msb hyuv,
        fun _ => ⟨by simp, fun _ => BitVec.zero_and, ?_⟩⟩
      exact fun htiled => absurd BitVec.zero_and htiled
  | some units =>
    obtain ⟨⟨producer, pm⟩, consumer, cm⟩ := units
    obtain ⟨hfmt, hsw, hno⟩ := maliGrallocSelectFormat_some husage hunits
    have hblocks : r.blocks display caps = formatBlocks caps producer consumer pm cm := by
      simp [FormatRequest.blocks, hunits]
    have hex : r.Excludes → pm &&& capAfbcEnableMask = 0 :=
      fun hex => hex.elim (fun h => absurd hsw h) hno
    have halone : r.TiledAlone display caps ↔
        capTests caps (mapFlexFormats r.reqFormat) producer consumer = .separate ∧
          (formatBlocks caps producer consumer pm cm).all (hasCap · capAfbcTiledHeaders) ∧
          ¬(formatBlocks caps producer consumer pm cm).all (hasCap · capAfbcBasic) := by
      simp [FormatRequest.TiledAlone, hunits, hblocks]
    rw [hfmt, hblocks, halone]
    cases hmsb : (mapFlexFormats r.reqFormat).msb with
    | false => simpa using determineBestFormat_legal_iff hmsb producer consumer pm cm hex
    | true =>
      refine ⟨fun h => ?_, fun h => absurd h.1 (by decide)⟩
      rw [determineBestFormat_eq] at h
      exact absurd (h.supported _ List.mem_cons_self) (signExtend_unsupported hmsb _ _)

/-- A GPU that writes and reads a texture. -/
def gpuCaps (gpu : BitVec 64) : MaliRuntimeCaps := ⟨0, gpu, 0, 0⟩

/-- A request for a texture of format `RGBA_8888`. -/
def textureRequest : FormatRequest := ⟨1, 0x100, 0⟩

/-- A GPU that says it can do tiled headers and does not say that it can do AFBC gets tiled headers.
-/
theorem maliGrallocSelectFormat_tiled :
    maliGrallocSelectFormat none (gpuCaps 0x81) 1 .usage 0x100 0 = 0x0001000000000001 ∧
      ¬∀ (display : Option (U32 × U32)) (caps : MaliRuntimeCaps) (r : FormatRequest),
        r.usage &&& usagePrivateFormat = 0 → FormatLegal (r.blocks display caps) r.Excludes
          (maliGrallocSelectFormat display caps r.reqFormat .usage r.usage r.bufferSize) := by
  refine ⟨by decide, fun h => ?_⟩
  exact absurd ((h none (gpuCaps 0x81) textureRequest (by decide)).refines (by decide)) (by decide)

/-- A GPU that reads the blocks of a texture gets a format with them. -/
theorem maliGrallocSelectFormat_legal_texture :
    FormatLegal (textureRequest.blocks none (gpuCaps 0x83)) textureRequest.Excludes
      (maliGrallocSelectFormat none (gpuCaps 0x83) 1 .usage 0x100 0) := by
  refine (maliGrallocSelectFormat_legal_iff none (gpuCaps 0x83) textureRequest (by decide)).mpr
    ⟨by decide, ?_⟩
  unfold FormatRequest.TiledAlone
  decide

end Hikey
