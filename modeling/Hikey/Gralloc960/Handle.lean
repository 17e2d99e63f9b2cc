import Hikey.Foundation.Bytes

/-!
# Buffer handles of the gralloc module (`mali_gralloc_buffer.h`, `mali_gralloc_ion.cpp`)

A process holds the objects that `new` made in its heap, and a handle is the address of one of them,
or 0.  `calls` records the calls into the system in their order, so that what was got can be
compared with what was given back.  `none` is undefined behaviour: an access through a dangling
pointer, the overflow of a signed counter, or an erased element that is not there.
-/

namespace Hikey

/-! ## Handles -/

/-- `PRIV_FLAGS_FRAMEBUFFER`. -/
def privFlagsFramebuffer : U32 := 0x00000001

/-- `PRIV_FLAGS_USES_ION`. -/
def privFlagsUsesIon : U32 := 0x00000004

/-- `private_handle_t::sMagic`. -/
def sMagic : U32 := 0x3141592

/-- `EINVAL`. -/
def einval : Int := 22

/-- `private_handle_t`: what the functions of this development use of it.  `attrBase` is `none` for
`MAP_FAILED`. -/
structure PrivateHandle where
  shareFd : Int
  shareAttrFd : Int
  magic : U32
  flags : U32
  base : ℕ
  writeOwner : Int
  allocatingPid : Int
  remotePid : Int
  refCount : Int
  attrBase : Option ℕ
  fd : Int
  offset : ℕ
deriving DecidableEq, Repr

/-- The constructor for ION buffers, in process `pid`. -/
def PrivateHandle.new (pid : Int) (flags : U32) (sharedFd : Int) : PrivateHandle where
  shareFd := sharedFd
  shareAttrFd := -1
  magic := sMagic
  flags := flags
  base := 0
  writeOwner := 0
  allocatingPid := pid
  remotePid := -1
  refCount := 1
  attrBase := none
  fd := -1
  offset := 0

/-- A handle filled with zeros. -/
def PrivateHandle.zero : PrivateHandle where
  shareFd := 0
  shareAttrFd := 0
  magic := 0
  flags := 0
  base := 0
  writeOwner := 0
  allocatingPid := 0
  remotePid := 0
  refCount := 0
  attrBase := some 0
  fd := 0
  offset := 0

/-- A signed counter after an addition, unless it overflows. -/
def intAdd (a b : Int) : Option Int :=
  if -2 ^ 31 ≤ a + b ∧ a + b < 2 ^ 31 then some (a + b) else none

/-! ## Processes -/

/-- The calls into the system. -/
inductive GrallocCall
  /-- A buffer was mapped at this address. -/
  | mmap (a : ℕ)
  /-- `munmap` of a buffer. -/
  | munmap (a : ℕ)
  /-- An attribute region was mapped at this address. -/
  | mmapAttr (a : ℕ)
  /-- `munmap` of an attribute region. -/
  | munmapAttr (a : ℕ)
  /-- A file descriptor was got. -/
  | gotFd (fd : Int)
  | close (fd : Int)
  /-- An object was made at this address. -/
  | new (a : ℕ)
  /-- An object was filled with zeros. -/
  | memset (a : ℕ)
  | delete (a : ℕ)
deriving DecidableEq, Repr

/-- A process that has loaded the module. -/
structure GrallocProcess where
  pid : Int
  ionClient : Int
  legacyIon : Bool
  systemHeapId : Int
  cmaHeapId : Int
  heap : ℕ → Option PrivateHandle
  dumpBuffers : List ℕ
  calls : List GrallocCall

/-- Writes to the object at an address. -/
def GrallocProcess.set (p : GrallocProcess) (a : ℕ) (hnd : PrivateHandle) : GrallocProcess :=
  { p with heap := Function.update p.heap a (some hnd) }

/-- A call into the system. -/
def GrallocProcess.call (p : GrallocProcess) (c : GrallocCall) : GrallocProcess :=
  { p with calls := p.calls ++ [c] }

section Set

variable {p : GrallocProcess} {a : ℕ} {hnd : PrivateHandle} {c : GrallocCall}

@[simp] lemma GrallocProcess.set_heap : (p.set a hnd).heap a = some hnd := Function.update_self ..
@[simp] lemma GrallocProcess.set_pid : (p.set a hnd).pid = p.pid := rfl
@[simp] lemma GrallocProcess.set_calls : (p.set a hnd).calls = p.calls := rfl
@[simp] lemma GrallocProcess.call_heap : (p.call c).heap = p.heap := rfl
@[simp] lemma GrallocProcess.call_pid : (p.call c).pid = p.pid := rfl
@[simp] lemma GrallocProcess.call_calls : (p.call c).calls = p.calls ++ [c] := rfl

end Set

/-- `close`; there is nothing to close at a negative number. -/
def GrallocProcess.close (p : GrallocProcess) (fd : Int) : GrallocProcess :=
  if fd < 0 then p else p.call (.close fd)

/-- `private_handle_t::validate`: `memset` and the destructor clear the magic number. -/
def GrallocProcess.validate (p : GrallocProcess) (handle : ℕ) : Option Bool :=
  if handle = 0 then some false else (p.heap handle).map fun hnd => hnd.magic == sMagic

/-! ## The source -/

/-- `mali_gralloc_dump_buffer_add`. -/
def maliGrallocDumpBufferAdd (p : GrallocProcess) (handle : ℕ) : GrallocProcess :=
  if handle = 0 then p else { p with dumpBuffers := p.dumpBuffers ++ [handle] }

/-- `mali_gralloc_dump_buffer_erase`: `std::remove` moves the other elements to the front and leaves
the rest as it is, and one element is erased behind those moved, which has to be there. -/
def maliGrallocDumpBufferErase (p : GrallocProcess) (handle : ℕ) : Option GrallocProcess :=
  if handle = 0 then some p
  else
    let kept := p.dumpBuffers.filter (· ≠ handle)
    if kept.length < p.dumpBuffers.length then
      some { p with dumpBuffers := kept ++ p.dumpBuffers.drop (kept.length + 1) }
    else none

/-- `gralloc_buffer_attr_free`, for the handle that is at address `a`. -/
def grallocBufferAttrFree (p : GrallocProcess) (a : ℕ) (hnd : PrivateHandle) : GrallocProcess :=
  if hnd.shareAttrFd < 0 then p
  else
    let p := match hnd.attrBase with
      | some base => p.call (.munmapAttr base)
      | none => p
    (p.close hnd.shareAttrFd).set a { hnd with attrBase := none, shareAttrFd := -1 }

/-- `mali_gralloc_ion_free`, for the handle that is at address `a`. -/
def maliGrallocIonFree (p : GrallocProcess) (a : ℕ) (hnd : PrivateHandle) : GrallocProcess :=
  if hnd.flags &&& privFlagsFramebuffer ≠ 0 then p
  else if hnd.flags &&& privFlagsUsesIon ≠ 0 then
    let p := if hnd.base ≠ 0 then p.call (.munmap hnd.base) else p
    ((p.close hnd.shareFd).call (.memset a)).set a .zero
  else p

/-- `mali_gralloc_buffer_free`. -/
def maliGrallocBufferFree (p : GrallocProcess) (handle : ℕ) : Option GrallocProcess :=
  if handle = 0 then some p
  else do
    let hnd ← p.heap handle
    let p := grallocBufferAttrFree p handle hnd
    let hnd ← p.heap handle
    return maliGrallocIonFree p handle hnd

/-- `delete` of a handle. -/
def GrallocProcess.delete (p : GrallocProcess) (handle : ℕ) : GrallocProcess :=
  { p.call (.delete handle) with heap := Function.update p.heap handle none }

/-- The answers of the system while a buffer is mapped; memory is never mapped at address 0. -/
structure IonMapEnv where
  hwGetModule : Int
  ionOpen : Int
  mmap : Option {a : ℕ // 0 < a}
  errno : Int

/-- `mali_gralloc_ion_map`, for the handle that is at address `a`. -/
def maliGrallocIonMap (env : IonMapEnv) (p : GrallocProcess) (a : ℕ) (hnd : PrivateHandle) :
    GrallocProcess × Int :=
  if hnd.flags &&& privFlagsUsesIon = 0 then (p, -einval)
  else if env.hwGetModule ≠ 0 then (p, -env.errno)
  else
    let p := if p.ionClient ≤ 0 then { p with ionClient := env.ionOpen } else p
    if p.ionClient < 0 then (p, -env.errno)
    else
      match env.mmap with
      | none => (p, -env.errno)
      | some mapped =>
        ((p.call (.mmap mapped)).set a { hnd with base := mapped + hnd.offset }, 0)

/-- `mali_gralloc_ion_unmap`. -/
def maliGrallocIonUnmap (p : GrallocProcess) (hnd : PrivateHandle) : GrallocProcess :=
  if hnd.flags &&& privFlagsUsesIon = 0 then p else p.call (.munmap hnd.base)

/-- `mali_gralloc_reference_retain`. -/
def maliGrallocReferenceRetain (env : IonMapEnv) (p : GrallocProcess) (handle : ℕ) :
    Option (GrallocProcess × Int) := do
  if !(← p.validate handle) then
    return (p, -einval)
  let hnd ← p.heap handle
  if hnd.allocatingPid = p.pid ∨ hnd.remotePid = p.pid then
    let count ← intAdd hnd.refCount 1
    return (p.set handle { hnd with refCount := count }, 0)
  let hnd := { hnd with remotePid := p.pid, refCount := 1 }
  let p := p.set handle hnd
  if hnd.flags &&& privFlagsFramebuffer ≠ 0 then
    return (p, 0)
  else if hnd.flags &&& privFlagsUsesIon ≠ 0 then
    return maliGrallocIonMap env p handle hnd
  else
    return (p, -einval)

/-- `mali_gralloc_reference_release`. -/
def maliGrallocReferenceRelease (canFree : Bool) (p : GrallocProcess) (handle : ℕ) :
    Option (GrallocProcess × Int) := do
  if !(← p.validate handle) then
    return (p, -einval)
  let hnd ← p.heap handle
  if hnd.refCount = 0 then
    return (p, -einval)
  if hnd.allocatingPid = p.pid then
    let count ← intAdd hnd.refCount (-1)
    let hnd := { hnd with refCount := count }
    let p := p.set handle hnd
    if hnd.refCount = 0 ∧ canFree then
      let p ← if hnd.flags &&& privFlagsFramebuffer ≠ 0 then some (p.close hnd.fd)
        else maliGrallocDumpBufferErase p handle
      let p ← maliGrallocBufferFree p handle
      return (p.delete handle, 0)
    return (p, 0)
  else if hnd.remotePid = p.pid then
    let count ← intAdd hnd.refCount (-1)
    let hnd := { hnd with refCount := count }
    let p := p.set handle hnd
    if hnd.refCount = 0 then
      let p := if hnd.flags &&& privFlagsUsesIon ≠ 0 then maliGrallocIonUnmap p hnd else p
      let p := grallocBufferAttrFree p handle hnd
      let hnd ← p.heap handle
      return (p.set handle { hnd with base := 0, writeOwner := 0 }, 0)
    return (p, 0)
  else
    return (p, 0)

end Hikey
