import Hikey.Foundation.Bytes
import Hikey.Foundation.Run

/-!
# Mapping and locking of ION buffers (`gralloc_module.cpp`)

A process registers a buffer to map it, locks it to use it, and unregisters it to unmap it, which
waits for the unlock while the buffer is locked.  What is waited for is kept in two bits of the
handle, that a second lock, a failed lock and the unmapping itself do not leave alone.

The module is built for ION only, as `gralloc_priv.h` says.
-/

namespace Hikey.Gralloc

/-! ## Handles -/

/-- `PRIV_FLAGS_FRAMEBUFFER`. -/
def privFlagsFramebuffer : U32 := 0x00000001

/-- `PRIV_FLAGS_USES_UMP`. -/
def privFlagsUsesUmp : U32 := 0x00000002

/-- `PRIV_FLAGS_USES_ION`. -/
def privFlagsUsesIon : U32 := 0x00000004

/-- `LOCK_STATE_WRITE`. -/
def lockStateWrite : U32 := 0x80000000

/-- `LOCK_STATE_MAPPED`. -/
def lockStateMapped : U32 := 0x40000000

/-- `LOCK_STATE_UNREGISTERED`. -/
def lockStateUnregistered : U32 := 0x20000000

/-- `private_handle_t::sMagic`. -/
def sMagic : U32 := 0x3141592

/-- `EINVAL`. -/
def einval : Int := 22

/-- `GRALLOC_USAGE_SW_READ_MASK`. -/
def usageSwReadMask : U32 := 0x0000000F

/-- `GRALLOC_USAGE_SW_WRITE_MASK`. -/
def usageSwWriteMask : U32 := 0x000000F0

/-- The formats that the functions tell apart. -/
inductive HalFormat
  /-- `HAL_PIXEL_FORMAT_YCbCr_420_888`. -/
  | ycbcr420888
  /-- `HAL_PIXEL_FORMAT_YCrCb_420_SP`. -/
  | ycrcb420Sp
  /-- `HAL_PIXEL_FORMAT_YV12`. -/
  | yv12
  /-- `HAL_PIXEL_FORMAT_YCbCr_420_SP`. -/
  | ycbcr420Sp
  | other
deriving DecidableEq, Repr

/-- `private_handle_t`: what the functions of this module use of it. -/
structure PrivateHandle where
  magic : U32
  flags : U32
  width : U32
  height : U32
  format : HalFormat
  base : ℕ
  lockState : U32
  writeOwner : U32
  pid : Int
  offset : ℕ
deriving DecidableEq, Repr

/-- A successful call of `mmap`, and how often its address was unmapped since. -/
structure Mapping where
  addr : ℕ
  unmaps : ℕ
deriving DecidableEq, Repr

/-- `munmap`: of the last mapping at the address, if there is one. -/
def munmap (a : ℕ) : List Mapping → List Mapping
  | [] => []
  | m :: ms => if m.addr = a then { m with unmaps := m.unmaps + 1 } :: ms else m :: munmap a ms

/-- A process with the handle, and the mappings of its buffer, the last one first. -/
structure GrallocModule where
  pid : Int
  ionClient : Int
  hnd : PrivateHandle
  mappings : List Mapping

/-! ## The source -/

/-- The answers of the system while a buffer is registered: memory is never mapped at address 0, and
a call that fails sets `errno`. -/
structure RegisterEnv where
  hwGetModule : Int
  ionOpen : Int
  mmap : Option {a : ℕ // 0 < a}
  errno : {e : Int // 0 < e}

/-- `gralloc_register_buffer`. -/
def grallocRegisterBuffer (env : RegisterEnv) (m : GrallocModule) : GrallocModule × Int :=
  if m.hnd.magic ≠ sMagic then (m, -einval)
  else
    let m := { m with hnd := { m.hnd with pid := m.pid } }
    if m.hnd.flags &&& privFlagsFramebuffer ≠ 0 then (m, 0)
    else if m.hnd.flags &&& privFlagsUsesUmp ≠ 0 then (m, -einval)
    else if m.hnd.flags &&& privFlagsUsesIon ≠ 0 then
      if env.hwGetModule ≠ 0 then (m, -env.errno)
      else
        let m := { m with ionClient := if m.ionClient ≤ 0 then env.ionOpen else m.ionClient }
        if m.ionClient < 0 then (m, -env.errno)
        else
          match env.mmap with
          | none => (m, -env.errno)
          | some mapped => ({ m with
              mappings := ⟨mapped, 0⟩ :: m.mappings
              hnd := { m.hnd with
                base := mapped + m.hnd.offset
                lockState := m.hnd.lockState &&& ~~~lockStateUnregistered } }, 0)
    else (m, -einval)

/-- `unmap_buffer`. -/
def unmapBuffer (m : GrallocModule) : GrallocModule where
  pid := m.pid
  ionClient := m.ionClient
  hnd := { m.hnd with base := 0, lockState := 0, writeOwner := 0 }
  mappings :=
    if m.hnd.flags &&& privFlagsUsesUmp = 0 ∧ m.hnd.flags &&& privFlagsUsesIon ≠ 0 then
      munmap m.hnd.base m.mappings
    else m.mappings

/-- `gralloc_unregister_buffer`. -/
def grallocUnregisterBuffer (m : GrallocModule) : GrallocModule × Int :=
  if m.hnd.magic ≠ sMagic then (m, -einval)
  else if m.hnd.flags &&& privFlagsFramebuffer ≠ 0 then (m, 0)
  else if m.hnd.pid = m.pid then
    let m := { m with hnd := { m.hnd with lockState := m.hnd.lockState &&& ~~~lockStateMapped } }
    let m := if m.hnd.lockState &&& lockStateWrite = 0 then unmapBuffer m else m
    ({ m with hnd := { m.hnd with lockState := m.hnd.lockState ||| lockStateUnregistered } }, 0)
  else (m, 0)

/-- What both functions write when they lock. -/
def PrivateHandle.lock (hnd : PrivateHandle) (usage : U32) : PrivateHandle :=
  { hnd with
    writeOwner := if hnd.flags &&& privFlagsUsesUmp ≠ 0 ∨ hnd.flags &&& privFlagsUsesIon ≠ 0 then
        usage &&& usageSwWriteMask
      else hnd.writeOwner
    lockState := hnd.lockState ||| lockStateWrite }

/-- The usage asks for an address. -/
def UsesSw (usage : U32) : Prop := usage &&& (usageSwReadMask ||| usageSwWriteMask) ≠ 0

instance (usage : U32) : Decidable (UsesSw usage) := inferInstanceAs (Decidable (_ ≠ _))

/-- `gralloc_lock`, with the address if it is stored. -/
def grallocLock (usage : U32) (m : GrallocModule) : GrallocModule × Int × Option ℕ :=
  if m.hnd.magic ≠ sMagic then (m, -einval, none)
  else if m.hnd.format = .ycbcr420888 then (m, -einval, none)
  else if m.hnd.lockState &&& lockStateUnregistered ≠ 0 then (m, -einval, none)
  else
    let m := { m with hnd := m.hnd.lock usage }
    (m, 0, if UsesSw usage then some m.hnd.base else none)

/-- `GRALLOC_ALIGN`. -/
def grallocAlign (value base : U32) : U32 := (value + (base - 1)) &&& ~~~(base - 1)

/-- `android_ycbcr`: the addresses of the planes and the strides. -/
structure AndroidYcbcr where
  y : Int
  cb : Int
  cr : Int
  ystride : U32
  cstride : U32
  chromaStep : ℕ
deriving DecidableEq, Repr

/-- The planes of a buffer; `legacyFormat` is `SUPPORT_LEGACY_FORMAT`. -/
def PrivateHandle.planes (legacyFormat : Bool) (hnd : PrivateHandle) : Option AndroidYcbcr :=
  let base : Int := hnd.base
  match hnd.format with
  | .ycrcb420Sp =>
    let stride := grallocAlign hnd.width 16
    some ⟨base, base + (stride * hnd.height).toInt + 1, base + (stride * hnd.height).toInt,
      stride, stride, 2⟩
  | .yv12 =>
    let ystride := grallocAlign hnd.width
      (if hnd.height &&& 7 = 0 then 16 else if hnd.height &&& 3 = 0 then 64 else 128)
    let cstride := grallocAlign (ystride.sdiv 2) 16
    let cr := base + (ystride * grallocAlign hnd.height 2).toInt
    some ⟨base, cr + ((cstride * hnd.height).sdiv 2).toInt, cr, ystride, cstride, 1⟩
  | .ycbcr420Sp =>
    if legacyFormat then
      let stride := grallocAlign hnd.width 16
      some ⟨base, base + (stride * hnd.height).toInt, base + (stride * hnd.height).toInt + 1,
        stride, stride, 2⟩
    else none
  | _ => none

/-- `gralloc_lock_ycbcr`, with the planes if they are stored. -/
def grallocLockYcbcr (legacyFormat : Bool) (usage : U32) (m : GrallocModule) :
    GrallocModule × Int × Option AndroidYcbcr :=
  if m.hnd.magic ≠ sMagic then (m, -einval, none)
  else
    let m := { m with hnd := m.hnd.lock usage }
    if UsesSw usage then
      match m.hnd.planes legacyFormat with
      | some ycbcr => (m, 0, some ycbcr)
      | none => (m, -einval, none)
    else (m, 0, none)

/-- `gralloc_unlock`. -/
def grallocUnlock (m : GrallocModule) : GrallocModule × Int :=
  if m.hnd.magic ≠ sMagic then (m, -einval)
  else
    let m := { m with hnd := { m.hnd with lockState := m.hnd.lockState &&& ~~~lockStateWrite } }
    if m.hnd.lockState &&& lockStateUnregistered ≠ 0 then (unmapBuffer m, 0) else (m, 0)

/-- The calls of the users of the buffer. -/
inductive BufferOp
  | register (env : RegisterEnv)
  | lock (usage : U32)
  | lockYcbcr (usage : U32)
  | unlock
  | unregister

/-- A call and its return value. -/
def BufferOp.call (legacyFormat : Bool) (m : GrallocModule) : BufferOp → GrallocModule × Int
  | .register env => grallocRegisterBuffer env m
  | .lock usage => ((grallocLock usage m).1, (grallocLock usage m).2.1)
  | .lockYcbcr usage =>
    ((grallocLockYcbcr legacyFormat usage m).1, (grallocLockYcbcr legacyFormat usage m).2.1)
  | .unlock => grallocUnlock m
  | .unregister => grallocUnregisterBuffer m

/-! ## Runs -/

/-- A process, with what its users know from their calls: whether the buffer is registered, how many
locks are held, whether it has been unregistered with neither a registration nor an unlock since,
and whether it has been locked, or tried to by `gralloc_lock_ycbcr`, with no unlock since. -/
structure BufferState where
  gralloc : GrallocModule
  registered : Bool
  held : ℕ
  unregistered : Bool
  locked : Bool

/-- After a call, with its return value.  A buffer of another process is not unregistered. -/
def BufferState.next (legacyFormat : Bool) (s : BufferState) (op : BufferOp) : BufferState × Int :=
  let (m, r) := op.call legacyFormat s.gralloc
  match op with
  | .register _ => (⟨m, s.registered || r == 0, s.held, s.unregistered && r != 0, s.locked⟩, r)
  | .lock _ =>
    (⟨m, s.registered, if r = 0 then s.held + 1 else s.held, s.unregistered, s.locked || r == 0⟩, r)
  | .lockYcbcr _ =>
    (⟨m, s.registered, if r = 0 then s.held + 1 else s.held, s.unregistered, true⟩, r)
  | .unlock => (⟨m, s.registered, s.held - 1, false, false⟩, r)
  | .unregister => (⟨m, s.registered && r != 0, s.held,
      s.unregistered || s.gralloc.hnd.pid == s.gralloc.pid, s.locked⟩, r)

/-- Only what is locked is unlocked. -/
def BufferOp.Legal (s : BufferState) : BufferOp → Prop
  | .unlock => 0 < s.held
  | _ => True

/-- The buffer is mapped. -/
def BufferState.Mapped (s : BufferState) : Prop := ∃ m ∈ s.gralloc.mappings, m.unmaps = 0

/-- What is required of a state: locks are held on the mapped buffer only, no mapping is unmapped
twice, and after the buffer is unregistered and unlocked all are unmapped. -/
structure MappingExact (s : BufferState) : Prop where
  held : 0 < s.held → ∃ m ∈ s.gralloc.mappings, m.addr = s.gralloc.hnd.base ∧ m.unmaps = 0
  once : ∀ m ∈ s.gralloc.mappings, m.unmaps ≤ 1
  all : s.registered = false → s.held = 0 → ∀ m ∈ s.gralloc.mappings, m.unmaps = 1

/-- Locks succeed on the registered buffer only. -/
def LockExact (legacyFormat : Bool) (s : BufferState) (op : BufferOp) : Prop :=
  match op with
  | .lock _ | .lockYcbcr _ => (s.next legacyFormat op).2 = 0 → s.registered = true ∧ s.Mapped
  | _ => True

/-- An ION handle. -/
structure PrivateHandle.Ion (hnd : PrivateHandle) : Prop where
  magic : hnd.magic = sMagic
  flags : hnd.flags = privFlagsUsesIon
  offset : hnd.offset = 0

/-- The handle came from another process, perhaps with marks of its locks, or was made in this one
with its buffer mapped. -/
inductive BufferStart : BufferState → Prop
  | imported {m : GrallocModule} : m.hnd.Ion → m.mappings = [] →
      BufferStart ⟨m, false, 0, m.hnd.lockState &&& lockStateUnregistered != 0,
        m.hnd.lockState &&& lockStateWrite != 0⟩
  | allocated {m : GrallocModule} : m.hnd.Ion → 0 < m.hnd.base → m.mappings = [⟨m.hnd.base, 0⟩] →
      m.hnd.lockState = lockStateMapped → m.hnd.pid = m.pid → BufferStart ⟨m, true, 0, false, false⟩

/-- The registration does not get to a mapping. -/
def RegisterEnv.Fails (m : GrallocModule) (env : RegisterEnv) : Prop :=
  env.hwGetModule ≠ 0 ∨ (if m.ionClient ≤ 0 then env.ionOpen else m.ionClient) < 0 ∨ env.mmap = none

/-- The formats that `gralloc_lock_ycbcr` knows. -/
def HalFormat.HasPlanes (legacyFormat : Bool) : HalFormat → Prop
  | .ycrcb420Sp | .yv12 => True
  | .ycbcr420Sp => legacyFormat = true
  | .ycbcr420888 | .other => False

/-- The calls that the two bits are right for.  A buffer that is in use is not registered again.
One that is not registered is not locked, unless it has been unregistered with no unlock since, or
the call refuses its format.  After `gralloc_unregister_buffer` there is one lock left to be
unlocked.  And a buffer that is in use is unregistered when it is locked, with no unlock since the
last lock, or when no lock, nor a refused one, has come since the last unlock. -/
def BufferOp.Clean (legacyFormat : Bool) (s : BufferState) : BufferOp → Prop
  | .register env => s.registered = true ∨ 0 < s.held → env.Fails s.gralloc
  | .lock _ => s.registered = true ∨ s.unregistered = true ∨ s.gralloc.hnd.format = .ycbcr420888
  | .lockYcbcr usage =>
    s.registered = true ∨ UsesSw usage ∧ ¬s.gralloc.hnd.format.HasPlanes legacyFormat
  | .unlock => s.unregistered = true → s.held = 1
  | .unregister => s.registered = true ∨ 0 < s.held → (s.locked = true ↔ 0 < s.held)

/-- A step that the users can make. -/
def BufferStep (legacyFormat : Bool) (s s' : BufferState) : Prop :=
  ∃ op : BufferOp, op.Legal s ∧ (s.next legacyFormat op).1 = s'

/-- A step that the two bits are right for. -/
def BufferCleanStep (legacyFormat : Bool) (s s' : BufferState) : Prop :=
  ∃ op : BufferOp, op.Legal s ∧ op.Clean legacyFormat s ∧ (s.next legacyFormat op).1 = s'

/-! ## The bits -/

variable {ls : U32}

lemma write_unregistered :
    (ls ||| lockStateWrite) &&& lockStateUnregistered = ls &&& lockStateUnregistered := by
  rw [BitVec.and_or_distrib_right,
    show lockStateWrite &&& lockStateUnregistered = 0#32 by decide, BitVec.or_zero]

lemma unwrite_unregistered :
    (ls &&& ~~~lockStateWrite) &&& lockStateUnregistered = ls &&& lockStateUnregistered := by
  rw [BitVec.and_assoc, show ~~~lockStateWrite &&& lockStateUnregistered =
    lockStateUnregistered by decide]

lemma clear_unregistered : (ls &&& ~~~lockStateUnregistered) &&& lockStateUnregistered = 0 := by
  rw [BitVec.and_assoc, show ~~~lockStateUnregistered &&& lockStateUnregistered = 0#32 by decide]
  simp

lemma set_unregistered : (ls ||| lockStateUnregistered) &&& lockStateUnregistered ≠ 0 := by
  rw [BitVec.and_or_distrib_right, BitVec.and_self]
  intro hzero
  have hbit := congrArg (BitVec.getLsbD · 29) hzero
  simp [lockStateUnregistered] at hbit

lemma set_write : (ls ||| lockStateWrite) &&& lockStateWrite ≠ 0 := by
  rw [BitVec.and_or_distrib_right, BitVec.and_self]
  intro hzero
  have hbit := congrArg (BitVec.getLsbD · 31) hzero
  simp [lockStateWrite] at hbit

lemma clear_write : (ls &&& ~~~lockStateWrite) &&& lockStateWrite = 0 := by
  rw [BitVec.and_assoc, show ~~~lockStateWrite &&& lockStateWrite = 0#32 by decide]
  simp

lemma registered_write :
    (ls &&& ~~~lockStateUnregistered) &&& lockStateWrite = ls &&& lockStateWrite := by
  rw [BitVec.and_assoc, show ~~~lockStateUnregistered &&& lockStateWrite = lockStateWrite by decide]

lemma unregistered_write :
    (ls ||| lockStateUnregistered) &&& lockStateWrite = ls &&& lockStateWrite := by
  rw [BitVec.and_or_distrib_right, show lockStateUnregistered &&& lockStateWrite = 0#32 by decide,
    BitVec.or_zero]

lemma unmapped_write : (ls &&& ~~~lockStateMapped) &&& lockStateWrite = ls &&& lockStateWrite := by
  rw [BitVec.and_assoc, show ~~~lockStateMapped &&& lockStateWrite = lockStateWrite by decide]

/-! ## The mappings -/

/-- All mappings are unmapped, once. -/
def AllUnmapped (ms : List Mapping) : Prop := ∀ m ∈ ms, m.unmaps = 1 ∧ 0 < m.addr

/-- The last mapping is the only one. -/
def MappedAt (a : ℕ) (ms : List Mapping) : Prop :=
  0 < a ∧ ∃ ms', ms = ⟨a, 0⟩ :: ms' ∧ AllUnmapped ms'

variable {ms : List Mapping} {a : ℕ}

lemma MappedAt.munmap (h : MappedAt a ms) : AllUnmapped (munmap a ms) := by
  obtain ⟨hpos, ms', rfl, hall⟩ := h
  simpa [Gralloc.munmap, AllUnmapped, hpos] using hall

lemma AllUnmapped.munmap_zero (h : AllUnmapped ms) : munmap 0 ms = ms := by
  induction ms with
  | nil => rfl
  | cons m ms ih =>
    obtain ⟨hm, hms⟩ := List.forall_mem_cons.1 h
    rw [Gralloc.munmap, if_neg hm.2.ne', ih hms]

lemma MappedAt.mem (h : MappedAt a ms) : ∃ m ∈ ms, m.addr = a ∧ m.unmaps = 0 := by
  obtain ⟨-, ms', rfl, -⟩ := h
  exact ⟨_, List.mem_cons_self, rfl, rfl⟩

lemma MappedAt.mapped {s : BufferState} (h : MappedAt a s.gralloc.mappings) : s.Mapped :=
  h.mem.imp fun _ hmem => ⟨hmem.1, hmem.2.2⟩

lemma MappedAt.once (h : MappedAt a ms) : ∀ m ∈ ms, m.unmaps ≤ 1 := by
  obtain ⟨-, ms', rfl, hall⟩ := h
  exact List.forall_mem_cons.2 ⟨by norm_num, fun m hm => (hall m hm).1.le⟩

/-! ## The invariant -/

variable {s s' : BufferState} {legacyFormat : Bool}

/-- The two bits say what the users know. -/
structure BufferBits (s : BufferState) : Prop where
  unregistered : s.unregistered = true ↔ s.gralloc.hnd.lockState &&& lockStateUnregistered ≠ 0
  locked : s.locked = true ↔ s.gralloc.hnd.lockState &&& lockStateWrite ≠ 0

/-- The buffer is mapped while it is registered, and after that while it is locked. -/
inductive BufferPhase (s : BufferState) : Prop
  | registered : s.registered = true → s.gralloc.hnd.pid = s.gralloc.pid → s.unregistered = false →
      MappedAt s.gralloc.hnd.base s.gralloc.mappings → BufferPhase s
  | delayed : s.registered = false → 0 < s.held → s.unregistered = true →
      MappedAt s.gralloc.hnd.base s.gralloc.mappings → BufferPhase s
  | unmapped : s.registered = false → s.held = 0 → AllUnmapped s.gralloc.mappings →
      (s.gralloc.hnd.base = 0 ∨ s.gralloc.mappings = []) → BufferPhase s

structure BufferInv (s : BufferState) : Prop where
  ion : s.gralloc.hnd.Ion
  bits : BufferBits s
  phase : BufferPhase s

lemma BufferInv.start (h : BufferStart s) : BufferInv s := by
  cases h with
  | imported hion hmaps =>
    exact ⟨hion, ⟨bne_iff_ne, bne_iff_ne⟩,
      .unmapped rfl rfl (by simp [hmaps, AllUnmapped]) (.inr hmaps)⟩
  | allocated hion hpos hmaps hstate hpid =>
    refine ⟨hion, ⟨?_, ?_⟩,
      .registered rfl hpid rfl ⟨hpos, [], hmaps, fun _ h => absurd h List.not_mem_nil⟩⟩
    · simp only [hstate]
      decide
    · simp only [hstate]
      decide

lemma BufferInv.exact (h : BufferInv s) : MappingExact s := by
  obtain ⟨-, -, ⟨hreg, -, -, hmap⟩ | ⟨hreg, hheld, -, hmap⟩ | ⟨hreg, hheld, hall, -⟩⟩ := h
  · exact ⟨fun _ => hmap.mem, hmap.once, fun hreg' => absurd (hreg.symm.trans hreg') (by decide)⟩
  · exact ⟨fun _ => hmap.mem, hmap.once, fun _ hheld' => absurd hheld' hheld.ne'⟩
  · exact ⟨fun hheld' => absurd hheld hheld'.ne', fun m hm => (hall m hm).1.le,
      fun _ _ m hm => (hall m hm).1⟩

lemma planes_eq_none_iff {hnd : PrivateHandle} :
    hnd.planes legacyFormat = none ↔ ¬hnd.format.HasPlanes legacyFormat := by
  rw [PrivateHandle.planes]
  cases hnd.format with
  | ycbcr420Sp => cases legacyFormat <;> simp [HalFormat.HasPlanes]
  | ycbcr420888 | ycrcb420Sp | yv12 | other => simp [HalFormat.HasPlanes]

/-- A registration that fails changes the process of the handle at most. -/
lemma grallocRegisterBuffer_spec {env : RegisterEnv} {m : GrallocModule} (hion : m.hnd.Ion) :
    (env.Fails m ∧ ∃ client, (grallocRegisterBuffer env m).1 =
        { m with ionClient := client, hnd := { m.hnd with pid := m.pid } } ∧
        (grallocRegisterBuffer env m).2 ≠ 0) ∨
      ¬env.Fails m ∧ ∃ client, ∃ a : {a : ℕ // 0 < a}, grallocRegisterBuffer env m =
        ({ m with
            ionClient := client
            mappings := ⟨a, 0⟩ :: m.mappings
            hnd := { m.hnd with
              pid := m.pid
              base := a
              lockState := m.hnd.lockState &&& ~~~lockStateUnregistered } }, 0) := by
  have herrno : -(env.errno : Int) ≠ 0 := by
    have := env.errno.2
    omega
  have hfb : m.hnd.flags &&& privFlagsFramebuffer = 0 := by rw [hion.flags]; decide
  have hump : m.hnd.flags &&& privFlagsUsesUmp = 0 := by rw [hion.flags]; decide
  have huses : m.hnd.flags &&& privFlagsUsesIon ≠ 0 := by rw [hion.flags]; decide
  obtain ⟨client, hclient⟩ : ∃ client, client = if m.ionClient ≤ 0 then env.ionOpen
    else m.ionClient := ⟨_, rfl⟩
  rw [grallocRegisterBuffer, if_neg (not_not.2 hion.magic)]
  simp only
  rw [if_neg (not_not.2 hfb), if_neg (not_not.2 hump), if_pos huses, RegisterEnv.Fails]
  simp only [hion.offset, ← hclient, Nat.add_zero]
  by_cases hmodule : env.hwGetModule = 0
  · rw [if_neg (not_not.2 hmodule)]
    by_cases hneg : client < 0
    · rw [if_pos hneg]
      exact .inl ⟨.inr (.inl hneg), client, rfl, herrno⟩
    · rw [if_neg hneg]
      cases hmap : env.mmap with
      | none => exact .inl ⟨.inr (.inr rfl), client, rfl, herrno⟩
      | some a => exact .inr ⟨by simp [hmodule, hneg], client, a, rfl⟩
  · rw [if_pos hmodule]
    exact .inl ⟨.inl hmodule, m.ionClient, rfl, herrno⟩

/-- The buffer of an ION handle is unmapped. -/
lemma unmapBuffer_spec {m : GrallocModule} (hion : m.hnd.Ion) : unmapBuffer m =
    { m with
      hnd := { m.hnd with base := 0, lockState := 0, writeOwner := 0 }
      mappings := munmap m.hnd.base m.mappings } := by
  rw [unmapBuffer, hion.flags, if_pos (by decide)]

/-! ### The bits follow the calls -/

lemma BufferBits.register (hbits : BufferBits s) (hion : s.gralloc.hnd.Ion) (env : RegisterEnv) :
    BufferBits (s.next legacyFormat (.register env)).1 := by
  simp only [BufferState.next, BufferOp.call]
  rcases grallocRegisterBuffer_spec hion with ⟨-, client, hm, hr⟩ | ⟨-, client, a, hm⟩
  · rw [hm, bne_iff_ne.2 hr, Bool.and_true]
    exact ⟨hbits.unregistered, hbits.locked⟩
  · rw [hm]
    refine ⟨?_, ?_⟩
    · simp [clear_unregistered]
    · simp only [registered_write]
      exact hbits.locked

lemma BufferBits.lock (hbits : BufferBits s) (hion : s.gralloc.hnd.Ion) (usage : U32) :
    BufferBits (s.next legacyFormat (.lock usage)).1 := by
  simp only [BufferState.next, BufferOp.call, grallocLock]
  rw [if_neg (not_not.2 hion.magic)]
  by_cases hformat : s.gralloc.hnd.format = .ycbcr420888
  · rw [if_pos hformat]
    exact ⟨hbits.unregistered, by simpa [einval] using hbits.locked⟩
  by_cases hunreg : s.gralloc.hnd.lockState &&& lockStateUnregistered = 0
  · rw [if_neg hformat, if_neg (not_not.2 hunreg)]
    refine ⟨?_, iff_of_true (by simp) set_write⟩
    simp only [PrivateHandle.lock, write_unregistered]
    exact hbits.unregistered
  · rw [if_neg hformat, if_pos hunreg]
    exact ⟨hbits.unregistered, by simpa [einval] using hbits.locked⟩

lemma BufferBits.lockYcbcr (hbits : BufferBits s) (hion : s.gralloc.hnd.Ion) (usage : U32) :
    BufferBits (s.next legacyFormat (.lockYcbcr usage)).1 := by
  have hlock (n : ℕ) : BufferBits ⟨{ s.gralloc with hnd := s.gralloc.hnd.lock usage },
      s.registered, n, s.unregistered, true⟩ := by
    refine ⟨?_, iff_of_true rfl set_write⟩
    simp only [PrivateHandle.lock, write_unregistered]
    exact hbits.unregistered
  simp only [BufferState.next, BufferOp.call, grallocLockYcbcr]
  rw [if_neg (not_not.2 hion.magic)]
  split
  · split <;> exact hlock _
  · exact hlock _

lemma BufferBits.unlock (hion : s.gralloc.hnd.Ion) :
    BufferBits (s.next legacyFormat .unlock).1 := by
  simp only [BufferState.next, BufferOp.call, grallocUnlock]
  rw [if_neg (not_not.2 hion.magic), unwrite_unregistered]
  by_cases hunreg : s.gralloc.hnd.lockState &&& lockStateUnregistered = 0
  · rw [if_neg (not_not.2 hunreg)]
    refine ⟨?_, ?_⟩
    · simp [unwrite_unregistered, hunreg]
    · simp [clear_write]
  · rw [if_pos hunreg]
    exact ⟨by simp [unmapBuffer], by simp [unmapBuffer]⟩

lemma BufferBits.unregister (hbits : BufferBits s) (hion : s.gralloc.hnd.Ion) :
    BufferBits (s.next legacyFormat .unregister).1 := by
  simp only [BufferState.next, BufferOp.call, grallocUnregisterBuffer]
  rw [if_neg (not_not.2 hion.magic), if_neg (by rw [hion.flags]; decide)]
  by_cases hpid : s.gralloc.hnd.pid = s.gralloc.pid
  · rw [if_pos hpid]
    simp only [unmapped_write, beq_iff_eq.2 hpid, Bool.or_true]
    refine ⟨iff_of_true rfl set_unregistered, ?_⟩
    by_cases hwrite : s.gralloc.hnd.lockState &&& lockStateWrite = 0
    · rw [if_pos hwrite]
      simp only [unregistered_write]
      simpa [unmapBuffer, hwrite] using hbits.locked
    · rw [if_neg hwrite]
      simp only [unregistered_write, unmapped_write]
      exact hbits.locked
  · rw [if_neg hpid, beq_eq_false_iff_ne.2 hpid, Bool.or_false]
    exact ⟨hbits.unregistered, hbits.locked⟩

/-- Every call of the users keeps the bits in step with what they know. -/
lemma BufferBits.next (hbits : BufferBits s) (hion : s.gralloc.hnd.Ion) (op : BufferOp) :
    BufferBits (s.next legacyFormat op).1 := by
  cases op with
  | register env => exact hbits.register hion env
  | lock usage => exact hbits.lock hion usage
  | lockYcbcr usage => exact hbits.lockYcbcr hion usage
  | unlock => exact BufferBits.unlock hion
  | unregister => exact hbits.unregister hion

/-! ### The phase follows the calls -/

lemma BufferInv.register (hinv : BufferInv s) {env : RegisterEnv}
    (hclean : (BufferOp.register env).Clean legacyFormat s) :
    BufferInv (s.next legacyFormat (.register env)).1 := by
  refine ⟨?_, hinv.bits.next hinv.ion _, ?_⟩
  all_goals
    obtain ⟨hion, -, hphase⟩ := hinv
    simp only [BufferState.next, BufferOp.call]
    rcases grallocRegisterBuffer_spec hion with ⟨-, client, hm, hr⟩ | ⟨hfails, client, a, hm⟩
  · rw [hm]
    exact ⟨hion.magic, hion.flags, hion.offset⟩
  · rw [hm]
    exact ⟨hion.magic, hion.flags, hion.offset⟩
  · rw [hm, beq_eq_false_iff_ne.2 hr, Bool.or_false, bne_iff_ne.2 hr, Bool.and_true]
    rcases hphase with ⟨hreg, -, hunreg, hmap⟩ | ⟨hreg, hheld, hunreg, hmap⟩ | ⟨hreg,
      hheld, hall, hbase⟩
    · exact .registered hreg rfl hunreg hmap
    · exact .delayed hreg hheld hunreg hmap
    · exact .unmapped hreg hheld hall hbase
  · rw [hm]
    rcases hphase with ⟨hreg, -, -, -⟩ | ⟨-, hheld, -, -⟩ | ⟨hreg, hheld, hall, hbase⟩
    · exact absurd (hclean (.inl hreg)) hfails
    · exact absurd (hclean (.inr hheld)) hfails
    · exact .registered (Bool.or_true _) rfl (by simp) ⟨a.2, _, rfl, hall⟩

/-- A lock is held on the registered buffer if it succeeds. -/
lemma BufferPhase.lock (hphase : BufferPhase s) {usage : U32} {n : ℕ} {locked : Bool}
    (hle : s.held ≤ n) (hheld : n ≠ s.held → s.registered = true) :
    BufferPhase ⟨{ s.gralloc with hnd := s.gralloc.hnd.lock usage }, s.registered, n,
      s.unregistered, locked⟩ := by
  rcases hphase with ⟨hreg, hpid, hunreg, hmap⟩ | ⟨hreg, hpos, hunreg, hmap⟩ | ⟨hreg,
    hzero, hall, hbase⟩
  · exact .registered hreg hpid hunreg hmap
  · exact .delayed hreg (hpos.trans_le hle) hunreg hmap
  · have hn : n = s.held := by
      by_contra hn
      exact absurd (hreg.symm.trans (hheld hn)) (by decide)
    exact .unmapped hreg (hn.trans hzero) hall hbase

lemma BufferInv.lock (hinv : BufferInv s) {usage : U32}
    (hclean : (BufferOp.lock usage).Clean legacyFormat s) :
    BufferInv (s.next legacyFormat (.lock usage)).1 := by
  have hbits : BufferBits (s.next legacyFormat (.lock usage)).1 := hinv.bits.next hinv.ion _
  obtain ⟨hion, hold, hphase⟩ := hinv
  simp only [BufferState.next, BufferOp.call, grallocLock] at hbits ⊢
  rw [if_neg (not_not.2 hion.magic)] at hbits ⊢
  by_cases hformat : s.gralloc.hnd.format = .ycbcr420888
  · rw [if_pos hformat] at hbits ⊢
    refine ⟨hion, hbits, ?_⟩
    simpa [einval] using hphase
  by_cases hunreg : s.gralloc.hnd.lockState &&& lockStateUnregistered = 0
  · rw [if_neg hformat, if_neg (not_not.2 hunreg)] at hbits ⊢
    refine ⟨⟨hion.magic, hion.flags, hion.offset⟩, hbits,
      hphase.lock (Nat.le_succ _) fun _ => ?_⟩
    rcases hclean with hreg | hne | heq
    · exact hreg
    · exact absurd hunreg (hold.unregistered.1 hne)
    · exact absurd heq hformat
  · rw [if_neg hformat, if_pos hunreg] at hbits ⊢
    refine ⟨hion, hbits, ?_⟩
    simpa [einval] using hphase

lemma BufferInv.lockYcbcr (hinv : BufferInv s) {usage : U32}
    (hclean : (BufferOp.lockYcbcr usage).Clean legacyFormat s) :
    BufferInv (s.next legacyFormat (.lockYcbcr usage)).1 := by
  have hbits : BufferBits (s.next legacyFormat (.lockYcbcr usage)).1 := hinv.bits.next hinv.ion _
  obtain ⟨hion, -, hphase⟩ := hinv
  have hion' : (s.gralloc.hnd.lock usage).Ion := ⟨hion.magic, hion.flags, hion.offset⟩
  have hplanes : (s.gralloc.hnd.lock usage).planes legacyFormat = none ↔
      ¬s.gralloc.hnd.format.HasPlanes legacyFormat := planes_eq_none_iff
  simp only [BufferState.next, BufferOp.call, grallocLockYcbcr] at hbits ⊢
  rw [if_neg (not_not.2 hion.magic)] at hbits ⊢
  by_cases husage : UsesSw usage
  · rw [if_pos husage] at hbits ⊢
    cases hcase : (s.gralloc.hnd.lock usage).planes legacyFormat with
    | none =>
      simp only [hcase] at hbits ⊢
      exact ⟨hion', hbits, hphase.lock le_rfl fun h => absurd rfl h⟩
    | some ycbcr =>
      simp only [hcase] at hbits ⊢
      refine ⟨hion', hbits, hphase.lock (Nat.le_succ _) fun _ => hclean.resolve_right fun h => ?_⟩
      rw [hplanes.2 h.2] at hcase
      cases hcase
  · rw [if_neg husage] at hbits ⊢
    exact ⟨hion', hbits, hphase.lock (Nat.le_succ _) fun _ => hclean.resolve_right fun h =>
      husage h.1⟩

lemma BufferInv.unlock (hinv : BufferInv s) (hlegal : 0 < s.held)
    (hclean : BufferOp.unlock.Clean legacyFormat s) :
    BufferInv (s.next legacyFormat .unlock).1 := by
  have hbits : BufferBits (s.next legacyFormat .unlock).1 := hinv.bits.next hinv.ion _
  obtain ⟨hion, hold, hphase⟩ := hinv
  have hion' : ({ s.gralloc.hnd with
      lockState := s.gralloc.hnd.lockState &&& ~~~lockStateWrite } : PrivateHandle).Ion :=
    ⟨hion.magic, hion.flags, hion.offset⟩
  simp only [BufferState.next, BufferOp.call, grallocUnlock] at hbits ⊢
  rw [if_neg (not_not.2 hion.magic), unwrite_unregistered] at hbits ⊢
  rcases hphase with ⟨hreg, hpid, hunreg, hmap⟩ | ⟨hreg, hpos, hunreg, hmap⟩ | ⟨hreg,
    hzero, hall, hbase⟩
  · rw [if_neg (mt hold.unregistered.2 (by simp [hunreg]))] at hbits ⊢
    exact ⟨hion', hbits, .registered hreg hpid rfl hmap⟩
  · have hone := hclean hunreg
    rw [if_pos (hold.unregistered.1 hunreg), unmapBuffer_spec hion'] at hbits ⊢
    exact ⟨⟨hion.magic, hion.flags, hion.offset⟩, hbits,
      .unmapped hreg (by simp [hone]) hmap.munmap (.inl rfl)⟩
  · exact absurd hlegal hzero.not_gt

lemma BufferInv.unregister (hinv : BufferInv s)
    (hclean : BufferOp.unregister.Clean legacyFormat s) :
    BufferInv (s.next legacyFormat .unregister).1 := by
  have hbits : BufferBits (s.next legacyFormat .unregister).1 := hinv.bits.next hinv.ion _
  obtain ⟨hion, hold, hphase⟩ := hinv
  simp only [BufferState.next, BufferOp.call, grallocUnregisterBuffer] at hbits ⊢
  rw [if_neg (not_not.2 hion.magic), if_neg (by rw [hion.flags]; decide)] at hbits ⊢
  by_cases hpid : s.gralloc.hnd.pid = s.gralloc.pid
  · rw [if_pos hpid] at hbits ⊢
    simp only [unmapped_write, bne_self_eq_false, Bool.and_false, beq_iff_eq.2 hpid,
      Bool.or_true] at hbits ⊢
    by_cases hwrite : s.gralloc.hnd.lockState &&& lockStateWrite = 0
    · have hlocked : ¬s.locked = true := mt hold.locked.1 (not_not.2 hwrite)
      rw [if_pos hwrite, unmapBuffer_spec (by exact ⟨hion.magic, hion.flags, hion.offset⟩)]
        at hbits ⊢
      refine ⟨⟨hion.magic, hion.flags, hion.offset⟩, hbits, ?_⟩
      rcases hphase with ⟨hreg, -, -, hmap⟩ | ⟨-, hpos, -, hmap⟩ | ⟨-, hzero, hall, hbase⟩
      · have hzero : ¬0 < s.held := fun hpos => hlocked ((hclean (.inl hreg)).2 hpos)
        exact .unmapped rfl (Nat.eq_zero_of_not_pos hzero) hmap.munmap (.inl rfl)
      · exact absurd ((hclean (.inr hpos)).2 hpos) hlocked
      · rcases hbase with hbase | hbase
        · refine .unmapped rfl hzero ?_ (.inl rfl)
          simp only [hbase, hall.munmap_zero]
          exact hall
        · exact .unmapped rfl hzero (by simp [hbase, munmap, AllUnmapped]) (.inl rfl)
    · have hlocked : s.locked = true := hold.locked.2 hwrite
      rw [if_neg hwrite] at hbits ⊢
      refine ⟨⟨hion.magic, hion.flags, hion.offset⟩, hbits, ?_⟩
      rcases hphase with ⟨hreg, -, -, hmap⟩ | ⟨-, hpos, -, hmap⟩ | ⟨-, hzero, hall, hbase⟩
      · exact .delayed rfl ((hclean (.inl hreg)).1 hlocked) rfl hmap
      · exact .delayed rfl hpos rfl hmap
      · exact .unmapped rfl hzero hall hbase
  · rw [if_neg hpid] at hbits ⊢
    refine ⟨hion, hbits, ?_⟩
    rcases hphase with ⟨-, hpid', -, -⟩ | ⟨-, hpos, hunreg, hmap⟩ | ⟨-, hzero, hall, hbase⟩
    · exact absurd hpid' hpid
    · exact .delayed (by simp) hpos (by simp [hunreg]) hmap
    · exact .unmapped (by simp) hzero hall hbase

lemma BufferInv.step (hinv : BufferInv s) (hstep : BufferCleanStep legacyFormat s s') :
    BufferInv s' := by
  obtain ⟨op, hlegal, hclean, rfl⟩ := hstep
  cases op with
  | register env => exact hinv.register hclean
  | lock usage => exact hinv.lock hclean
  | lockYcbcr usage => exact hinv.lockYcbcr hclean
  | unlock => exact hinv.unlock hlegal hclean
  | unregister => exact hinv.unregister hclean

lemma BufferInv.lockExact (hinv : BufferInv s) {op : BufferOp} (hclean : op.Clean legacyFormat s) :
    LockExact legacyFormat s op := by
  have hmapped (hreg : s.registered = true) : s.registered = true ∧ s.Mapped := by
    refine ⟨hreg, ?_⟩
    rcases hinv.phase with ⟨-, -, -, hmap⟩ | ⟨-, -, -, hmap⟩ | ⟨hreg', -, -, -⟩
    · exact hmap.mapped
    · exact hmap.mapped
    · exact absurd (hreg.symm.trans hreg') (by decide)
  cases op with
  | register env => trivial
  | lock usage =>
    intro hok
    simp only [BufferState.next, BufferOp.call, grallocLock,
      if_neg (not_not.2 hinv.ion.magic)] at hok
    by_cases hformat : s.gralloc.hnd.format = .ycbcr420888
    · simp [hformat, einval] at hok
    · rw [if_neg hformat] at hok
      by_cases hunreg : s.gralloc.hnd.lockState &&& lockStateUnregistered = 0
      · refine hmapped (hclean.resolve_right (not_or.2 ⟨fun h => ?_, hformat⟩))
        exact hinv.bits.unregistered.1 h hunreg
      · rw [if_pos hunreg] at hok
        exact absurd hok (by simp [einval])
  | lockYcbcr usage =>
    intro hok
    simp only [BufferState.next, BufferOp.call, grallocLockYcbcr,
      if_neg (not_not.2 hinv.ion.magic)] at hok
    rcases hclean with hreg | ⟨husage, hformat⟩
    · exact hmapped hreg
    · have hplanes : (s.gralloc.hnd.lock usage).planes legacyFormat = none :=
        planes_eq_none_iff.2 hformat
      simp [husage, hplanes, einval] at hok
  | unlock => trivial
  | unregister => trivial

/-- In every run of such calls. -/
theorem grallocLock_exact (legacyFormat : Bool) (s₀ s : BufferState) (hstart : BufferStart s₀)
    (hrun : Relation.ReflTransGen (BufferCleanStep legacyFormat) s₀ s) :
    MappingExact s ∧ ∀ op : BufferOp, op.Clean legacyFormat s → LockExact legacyFormat s op := by
  have hinv := run_invariant BufferInv (fun _ _ => BufferInv.step) (.start hstart) hrun
  exact ⟨hinv.exact, fun _ => hinv.lockExact⟩

/-- A handle from another process, before it is registered. -/
def importedBuffer : BufferState :=
  ⟨⟨2, 0, ⟨sMagic, privFlagsUsesIon, 64, 16, .yv12, 4096, lockStateMapped, 0, 1, 0⟩, []⟩, false, 0,
    false, false⟩

/-- A system in which nothing fails. -/
def registerEnv : RegisterEnv := ⟨0, 3, some ⟨8192, by norm_num⟩, ⟨1, by norm_num⟩⟩

/-- The states after a list of calls. -/
def BufferState.run (legacyFormat : Bool) (s : BufferState) : List BufferOp → BufferState
  | [] => s
  | op :: ops => ((s.next legacyFormat op).1).run legacyFormat ops

lemma importedBuffer_start : BufferStart importedBuffer := .imported ⟨rfl, rfl, rfl⟩ rfl

/-- Registered, locked, unregistered and unlocked, which is when the buffer is unmapped; then
registered and unregistered again, after which `gralloc_lock` is refused. -/
def delayedOps : List BufferOp :=
  [.register registerEnv, .lock 0x30, .unregister, .unlock, .register registerEnv,
    .unregister, .lock 0x30]

/-- The two mappings have been unmapped once, and the last lock is not held. -/
theorem grallocLock_exact_delayed :
    (importedBuffer.run false delayedOps).gralloc.mappings = [⟨8192, 1⟩, ⟨8192, 1⟩] ∧
      (importedBuffer.run false delayedOps).held = 0 ∧
      MappingExact (importedBuffer.run false delayedOps) ∧
      ∀ op : BufferOp, op.Clean false (importedBuffer.run false delayedOps) →
        LockExact false (importedBuffer.run false delayedOps) op := by
  refine ⟨by decide, by decide, grallocLock_exact false importedBuffer _ importedBuffer_start ?_⟩
  have h₀ : Relation.ReflTransGen (BufferCleanStep false) importedBuffer importedBuffer := .refl
  have h₁ := h₀.tail ⟨.register registerEnv, trivial, fun h => absurd h (by decide), rfl⟩
  have h₂ := h₁.tail ⟨.lock 0x30, trivial, .inl rfl, rfl⟩
  have h₃ := h₂.tail ⟨.unregister, trivial, fun _ => iff_of_true rfl Nat.one_pos, rfl⟩
  have h₄ := h₃.tail ⟨.unlock, by exact Nat.one_pos, fun _ => rfl, rfl⟩
  have h₅ := h₄.tail ⟨.register registerEnv, trivial, fun h => absurd h (by decide), rfl⟩
  have h₆ := h₅.tail ⟨.unregister, trivial, fun _ => by decide, rfl⟩
  exact h₆.tail ⟨.lock 0x30, trivial, .inr (.inl rfl), rfl⟩

/-- The delayed unmapping clears the bit that keeps the next lock out. -/
theorem grallocLock_exact_again :
    ¬∀ s₀ s, BufferStart s₀ → Relation.ReflTransGen (BufferStep false) s₀ s → MappingExact s := by
  intro hexact
  have hagain := hexact importedBuffer
    (importedBuffer.run false [.register registerEnv, .lock 0x30, .unregister, .unlock, .lock 0x30])
    importedBuffer_start <|
      ((((Relation.ReflTransGen.refl.tail ⟨.register registerEnv, trivial, rfl⟩).tail
      ⟨.lock 0x30, trivial, rfl⟩).tail ⟨.unregister, trivial, rfl⟩).tail
        ⟨.unlock, by exact Nat.one_pos, rfl⟩).tail
      ⟨.lock 0x30, trivial, rfl⟩
  obtain ⟨m, hm, -, hzero⟩ := hagain.held (by decide)
  exact absurd ((by decide : ∀ m ∈ (importedBuffer.run false
    [.register registerEnv, .lock 0x30, .unregister, .unlock, .lock 0x30]).gralloc.mappings,
      m.unmaps = 1) m hm)
    (hzero ▸ zero_ne_one)

end Hikey.Gralloc
