import Hikey.Gralloc960.Handle

/-!
# Allocation of ION buffers (`mali_gralloc_ion_allocate`)

The backing store of a batch of descriptors is allocated once for all of them or once for each, a
handle is made for each descriptor, and the buffers are mapped.  All errors share a cleanup that
walks the array of the caller.
-/

namespace Hikey

/-! ## The source -/

/-- `mali_gralloc_format_type`. -/
inductive MaliGrallocFormatType
  | usage
  | internal
deriving DecidableEq, Repr

/-- `buffer_descriptor_t`. -/
structure BufferDescriptor where
  width : U32
  height : U32
  producerUsage : BitVec 64
  consumerUsage : BitVec 64
  halFormat : BitVec 64
  formatType : MaliGrallocFormatType
  size : BitVec 64
  byteStride : U32
  pixelStride : U32
  internalWidth : U32
  internalHeight : U32
  internalFormat : BitVec 64
deriving DecidableEq, Repr

/-- The usages of a descriptor. -/
def BufferDescriptor.usage (d : BufferDescriptor) : BitVec 64 := d.consumerUsage ||| d.producerUsage

/-- `GRALLOC_USAGE_SW_READ_OFTEN`. -/
def usageSwReadOften : BitVec 64 := 0x00000003

/-- `GRALLOC_USAGE_SW_READ_MASK`. -/
def usageSwReadMask : BitVec 64 := 0x0000000F

/-- `GRALLOC_USAGE_HW_COMPOSER`. -/
def usageHwComposer : BitVec 64 := 0x00000800

/-- `GRALLOC_USAGE_HW_FB`. -/
def usageHwFb : BitVec 64 := 0x00001000

/-- `GRALLOC_USAGE_PROTECTED`. -/
def usageProtected : BitVec 64 := 0x00004000

/-- `GRALLOC_USAGE_HW_VIDEO_ENCODER`. -/
def usageHwVideoEncoder : BitVec 64 := 0x00010000

/-- Which heaps the module is built for. -/
structure IonConfig where
  secure : Bool
  compoundPage : Bool
  dma : Bool

/-- The mask of a heap, or no heap. -/
inductive IonHeap
  | none
  | system
  | secure
  | compoundPage
  | dma
deriving DecidableEq, Repr

/-- `pick_ion_heap`. -/
def pickIonHeap (cfg : IonConfig) (usage : BitVec 64) : IonHeap :=
  if usage &&& usageProtected ≠ 0 then
    if cfg.secure then .secure else .none
  else if cfg.compoundPage ∧ usage &&& usageHwVideoEncoder = 0 ∧
      usage &&& (usageHwFb ||| usageHwComposer) ≠ 0 then .compoundPage
  else if cfg.dma ∧ usage &&& usageHwVideoEncoder = 0 ∧
      usage &&& (usageHwFb ||| usageHwComposer) ≠ 0 then .dma
  else .system

/-- `PRIV_FLAGS_USES_ION_DMA_HEAP`. -/
def privFlagsUsesIonDmaHeap : U32 := 0x00000008

/-- `ION_FLAG_CACHED | ION_FLAG_CACHED_NEEDS_SYNC`. -/
def ionFlagCachedNeedsSync : U32 := 3

/-- `set_ion_flags`, the flags of the handle. -/
def setIonPrivFlags (cfg : IonConfig) (heap : IonHeap) (privHeapFlag : U32) : U32 :=
  if cfg.dma ∧ heap = .dma then privFlagsUsesIonDmaHeap else privHeapFlag

/-- `set_ion_flags`, the flags of the allocation. -/
def setIonFlags (cfg : IonConfig) (heap : IonHeap) (usage : BitVec 64) (ionFlags : U32) : U32 :=
  if (¬cfg.dma ∨ heap ≠ .dma) ∧
    usage &&& usageSwReadMask = usageSwReadOften then ionFlagCachedNeedsSync
  else ionFlags

/-- The loop of `check_buffers_sharable`; `stack i` is what the flags hold before they are set. -/
def checkBuffersSharable.loop (cfg : IonConfig) (stack : ℕ → U32) :
    ℕ → Option (IonHeap × U32) → List BufferDescriptor → Bool
  | _, _, [] => true
  | i, shared, d :: ds =>
    let heap := pickIonHeap cfg d.usage
    if heap = .none then false
    else
      let flags := setIonFlags cfg heap d.usage (stack i)
      match shared with
      | some (heap', flags') =>
        if heap' ≠ heap ∨ flags' ≠ flags then false else loop cfg stack (i + 1) shared ds
      | none => loop cfg stack (i + 1) (some (heap, flags)) ds

/-- `check_buffers_sharable`. -/
def checkBuffersSharable (cfg : IonConfig) (stack : ℕ → U32) (ds : List BufferDescriptor) : Bool :=
  if ds.length ≤ 1 then false else checkBuffersSharable.loop cfg stack 0 none ds

/-- The loop of `get_max_buffer_descriptor_index`. -/
def getMaxBufferDescriptorIndex.loop : ℕ → ℕ → BitVec 64 → List BufferDescriptor → ℕ
  | _, index, _, [] => index
  | i, index, size, d :: ds =>
    if size < d.size then loop (i + 1) i d.size ds else loop (i + 1) index size ds

/-- `get_max_buffer_descriptor_index`. -/
def getMaxBufferDescriptorIndex (ds : List BufferDescriptor) : ℕ :=
  getMaxBufferDescriptorIndex.loop 0 0 0 ds

/-- The answers of the system while a backing store is allocated. -/
structure IonBackEnv where
  /-- The first `ion_alloc` succeeds. -/
  ionAlloc : Bool
  ionShare : Option ℕ
  ionFree : Int
  ionAllocFd : Option ℕ

/-- The answers of the system during an allocation, for each descriptor. -/
structure IonEnv where
  ionOpen : Option ℕ
  ionIsLegacy : Bool
  systemHeap : Int
  cmaHeap : Int
  stack : ℕ → U32
  back : ℕ → IonBackEnv
  dup : ℕ → Option ℕ
  new : ℕ → Option {a : ℕ // 0 < a}
  mmap : ℕ → Option {a : ℕ // 0 < a}

/-- `alloc_from_ion_heap`. -/
def allocFromIonHeap (cfg : IonConfig) (env : IonBackEnv) (p : GrallocProcess) (size : BitVec 64)
    (heap : IonHeap) : GrallocProcess × Int :=
  if p.ionClient < 0 ∨ size = 0 ∨ heap = .none then (p, -1)
  else if !env.ionAlloc ∧ cfg.secure ∧ heap = .secure then (p, -1)
  else
    match env.ionShare with
    | some fd =>
      let p := p.call (.gotFd fd)
      if env.ionFree ≠ 0 then (p.close fd, -1) else (p, fd)
    | none => (p, -1)

/-- The backing store, with `alloc_from_ion_heap` or `ion_alloc_fd`; -1 if there is none. -/
def ionBackingStore (cfg : IonConfig) (env : IonBackEnv) (p : GrallocProcess) (size : BitVec 64)
    (heap : IonHeap) : GrallocProcess × Int :=
  if p.legacyIon then allocFromIonHeap cfg env p size heap
  else
    match env.ionAllocFd with
    | some fd => (p.call (.gotFd fd), fd)
    | none => (p, -1)

/-- The process and the array of the caller. -/
structure IonBatch where
  process : GrallocProcess
  pHandle : ℕ → ℕ

/-- `mali_gralloc_ion_free_internal`. -/
def maliGrallocIonFreeInternal (pHandle : ℕ → ℕ) : List ℕ → GrallocProcess → Option GrallocProcess
  | [], p => some p
  | i :: is, p =>
    if pHandle i ≠ 0 then
      match p.heap (pHandle i) with
      | some hnd => maliGrallocIonFreeInternal pHandle is (maliGrallocIonFree p (pHandle i) hnd)
      | none => none
    else maliGrallocIonFreeInternal pHandle is p

/-- The cleanup of an error. -/
def IonBatch.fail (b : IonBatch) (n : ℕ) : Option (IonBatch × Int) :=
  (maliGrallocIonFreeInternal b.pHandle (List.range n) b.process).map fun p =>
    ({ b with process := p }, -1)

/-- A handle is made, and stored in the array. -/
def IonBatch.store (b : IonBatch) (i a : ℕ) (flags : U32) (fd : Int) : IonBatch where
  process := (b.process.call (.new a)).set a (.new b.process.pid flags fd)
  pHandle := Function.update b.pHandle i a

/-- The loop that makes the handles for one backing store; `k` goes on after the last one. -/
def ionShareLoop (env : IonEnv) (n maxIndex : ℕ) (flags : U32) (sharedFd : Int)
    (k : IonBatch → Option (IonBatch × Int)) : ℕ → List BufferDescriptor → IonBatch →
    Option (IonBatch × Int)
  | _, [], b => k b
  | i, _ :: ds, b =>
    if i ≠ maxIndex then
      match env.dup i with
      | none => b.fail n
      | some fd =>
        let b := { b with process := b.process.call (.gotFd fd) }
        match env.new i with
        | none => b.fail n
        | some a => ionShareLoop env n maxIndex flags sharedFd k (i + 1) ds (b.store i a flags fd)
    else
      match env.new i with
      | none => b.fail n
      | some a => ionShareLoop env n maxIndex flags sharedFd k (i + 1) ds
          (b.store i a flags sharedFd)

/-- The loop that allocates a backing store for each descriptor. -/
def ionSeparateLoop (cfg : IonConfig) (env : IonEnv) (n : ℕ)
    (k : IonBatch → Option (IonBatch × Int)) : ℕ → U32 → List BufferDescriptor → IonBatch →
    Option (IonBatch × Int)
  | _, _, [], b => k b
  | i, privHeapFlag, d :: ds, b =>
    let heap := pickIonHeap cfg d.usage
    if heap = .none then b.fail n
    else
      let privHeapFlag := setIonPrivFlags cfg heap privHeapFlag
      let (p, fd) := ionBackingStore cfg (env.back i) b.process d.size heap
      let b := { b with process := p }
      if fd < 0 then b.fail n
      else
        match env.new i with
        | none => b.fail n
        | some a => ionSeparateLoop cfg env n k (i + 1) privHeapFlag ds
            (b.store i a (privFlagsUsesIon ||| privHeapFlag) fd)

/-- The loop that maps the buffers. -/
def ionMapLoop (env : IonEnv) (n : ℕ) : ℕ → List BufferDescriptor → IonBatch → Option
    (IonBatch × Int)
  | _, [], b => some (b, 0)
  | i, d :: ds, b =>
    match b.process.heap (b.pHandle i) with
    | none => none
    | some hnd =>
      if d.usage &&& usageProtected = 0 then
        match env.mmap i with
        | none => b.fail n
        | some base => ionMapLoop env n (i + 1) ds { b with
            process := (b.process.call (.mmap base)).set (b.pHandle i) { hnd with base := base } }
      else ionMapLoop env n (i + 1) ds b

/-- The part that opens the ION client: whether the call goes on. -/
def ionOpenClient (env : IonEnv) (p : GrallocProcess) : GrallocProcess × Bool :=
  if p.ionClient < 0 then
    match env.ionOpen with
    | none => ({ p with ionClient := -1 }, false)
    | some fd =>
      let p := { p.call (.gotFd fd) with ionClient := fd, legacyIon := env.ionIsLegacy }
      if p.legacyIon then (p, true)
      else
        let p := { p with systemHeapId := env.systemHeap, cmaHeapId := env.cmaHeap }
        if p.systemHeapId < 0 then ({ p.close fd with ionClient := -1 }, false)
        else if p.cmaHeapId < 0 then ({ p with cmaHeapId := p.systemHeapId }, true)
        else (p, true)
  else (p, true)

/-- `mali_gralloc_ion_allocate`. -/
def maliGrallocIonAllocate (cfg : IonConfig) (env : IonEnv) (ds : List BufferDescriptor)
    (b : IonBatch) : Option (IonBatch × Int) :=
  let n := ds.length
  let (p, opened) := ionOpenClient env b.process
  let b := { b with process := p }
  if !opened then some (b, -1)
  else if checkBuffersSharable cfg env.stack ds then
    let maxIndex := getMaxBufferDescriptorIndex ds
    match ds[maxIndex]? with
    | none => none
    | some d =>
      let heap := pickIonHeap cfg d.usage
      if heap = .none then some (b, -1)
      else
        let (p, fd) := ionBackingStore cfg (env.back maxIndex) b.process d.size heap
        let b := { b with process := p }
        if fd < 0 then some (b, -1)
        else ionShareLoop env n maxIndex (privFlagsUsesIon ||| setIonPrivFlags cfg heap 0) fd
          (ionMapLoop env n 0 ds) 0 ds b
  else ionSeparateLoop cfg env n (ionMapLoop env n 0 ds) 0 0 ds b

end Hikey
