import Hikey.Component.Base
import Hikey.Foundation.Total
import Hikey.Io.Route
import Hikey.Mem.FreeBytes

/-!
# The memory of a codec (`audio/xa-class-base.c`, `audio/xa-class-audio-codec.c`)

The life of an audio codec as far as the local memory of its core is concerned: it is created, it
gets any number of `XF_SET_PARAM` commands, the first that goes well being the one that ends its
initialization, and it is destroyed.  A command that fails leaves the codec as it is at that moment.

The plugin answers every call as it likes, and differently from one command to the next.  The pool
is that of the allocator itself, so that a block is lost as soon as nothing names it any more.
-/

namespace Hikey.LocalPool

/-! ## The state -/

/-- `xf_mm_buffer_t`. -/
structure XfMmBuffer where
  addr : U32
  size : U32

/-- The members of `XACodecBase` that are of type `xf_mm_buffer_t`. -/
inductive XaSlot
  | api
  | memTabs
  | persist
deriving DecidableEq, Repr

/-- An `XAAudioCodec` at the address `codec`, and the pool: the flag `XA_BASE_FLAG_POSTINIT`, the
buffers of the base, and the flag `XF_INPUT_FLAG_CREATED`, `buffer` and `length` of the input port.
-/
structure XaCodecMemory where
  pool : XfMmPool
  codec : U32
  postinit : Bool
  slot : XaSlot → XfMmBuffer
  created : Bool
  buffer : U32
  length : U32

/-- The codec after `memset(base, 0, size)`. -/
def XaCodecMemory.reset (pool : XfMmPool) (codec : U32) : XaCodecMemory where
  pool
  codec
  postinit := false
  slot _ := ⟨0, 0⟩
  created := false
  buffer := 0
  length := 0

/-- A change of one buffer of the base. -/
def XaCodecMemory.setSlot (s : XaCodecMemory) (b : XaSlot) (f : XfMmBuffer → XfMmBuffer) :
    XaCodecMemory :=
  { s with slot := Function.update s.slot b (f (s.slot b)) }

/-- The programs of the codec; an error is one of fatal severity. -/
abbrev XaMemoryProg := Prog XaCodecMemory

/-! ## Allocations -/

/-- `xf_mem_alloc` from the local pool. -/
def xfMemAlloc (size : U32) : XaMemoryProg U32 :=
  Prog.update fun s => (xfMmAlloc s.pool size).map fun r => ({ s with pool := r.1 }, r.2)

/-- `xf_mem_free` to the local pool. -/
def xfMemFree (p size : U32) : XaMemoryProg Unit :=
  Prog.update fun s => (xfMmFree s.pool p size).map fun pool => ({ s with pool }, ⟨⟩)

/-- `xf_mm_alloc_buffer`. -/
def xfMmAllocBuffer (b : XaSlot) (size : U32) : XaMemoryProg Unit := do
  (if xfMm size ≠ 0 then do
    let addr ← xfMemAlloc (xfMm size)
    Prog.modify fun s => s.setSlot b fun buf => { buf with addr }
    Prog.check (addr ≠ 0)
  else Prog.modify fun s => s.setSlot b fun buf => { buf with addr := 0 })
  Prog.modify fun s => s.setSlot b fun buf => { buf with size := xfMm size }

/-- `xf_mm_free_buffer`. -/
def xfMmFreeBuffer (b : XaSlot) : XaMemoryProg Unit := do
  let s ← Prog.get
  if (s.slot b).addr ≠ 0 then xfMemFree (s.slot b).addr (s.slot b).size else pure ⟨⟩

/-- `XMALLOC`. -/
def xmalloc (b : XaSlot) (size align : U32) : XaMemoryProg Unit := do
  xfMmAllocBuffer b size
  let s ← Prog.get
  Prog.check ((s.slot b).addr &&& (align - 1#32) = 0#32)

/-- `xf_input_port_init`. -/
def xfInputPortInit (size : U32) : XaMemoryProg Unit := do
  (if size ≠ 0 then do
    -- the size is not rounded up
    let buffer ← xfMemAlloc size
    Prog.modify fun s => { s with buffer }
    Prog.check (buffer ≠ 0)
  else Prog.modify fun s => { s with buffer := 0 })
  Prog.modify fun s => { s with length := size, created := true }

/-- `xf_input_port_destroy`. -/
def xfInputPortDestroy : XaMemoryProg Unit := do
  let s ← Prog.get
  if s.created then do
    (if s.buffer ≠ 0 then do
      xfMemFree s.buffer s.length
      Prog.modify fun s => { s with buffer := 0 }
    else pure ⟨⟩)
    Prog.modify fun s => { s with created := false }
  else pure ⟨⟩

/-! ## Initialization -/

/-- `XA_API`: the call ends with the error of the plugin when that is fatal. -/
def xaApi (answer : XaAnswer) : XaMemoryProg U32 := do
  Prog.check (!answer.fatal)
  pure answer.value

/-- The calls of the plugin interface in `xa_base_preinit`. -/
inductive XaPreinitCmd
  | getApiSize
  | initPreConfig
  | getMemtabsSize
  | setMemtabsPtr
deriving DecidableEq, Repr

/-- `xa_base_preinit`. -/
def xaBasePreinit (pre : XaPreinitCmd → XaAnswer) : XaMemoryProg Unit := do
  let s ← Prog.get
  Prog.check (!s.postinit)
  let n ← xaApi (pre .getApiSize)
  xmalloc .api n 4#32
  let _ ← xaApi (pre .initPreConfig)
  let n ← xaApi (pre .getMemtabsSize)
  if n ≠ 0 then do
    xmalloc .memTabs n 4#32
    let _ ← xaApi (pre .setMemtabsPtr)
  else pure ⟨⟩

/-- An `XF_SET_PARAM` command: the length of the message, and what the plugin answers by call and
index while it is processed. -/
structure XaSetParam where
  length : U32
  api : XaApiCmd → U32 → XaAnswer

/-- `xa_codec_memtab`, for the memory types of input (`2`) and output (`3`); the output port takes
no memory of the pool before it is routed. -/
def xaCodecMemtab (m : XaSetParam) (idx type size : U32) : XaMemoryProg Unit :=
  if type = 2#32 then do
    xfInputPortInit size
    if size ≠ 0 then do
      let _ ← xaApi (m.api .setMemPtr idx)
    else pure ⟨⟩
  else Prog.check (type = 3#32)

/-- One memory table of `xa_base_postinit`. -/
def xaBaseMemtab (m : XaSetParam) (i : U32) : XaMemoryProg Unit := do
  let type ← xaApi (m.api .getMemInfoType i)
  let size ← xaApi (m.api .getMemInfoSize i)
  let align ← xaApi (m.api .getMemInfoAlignment i)
  -- the memory types are persistent, scratch, input and output memory, in this order
  if type = 1#32 then do
    Prog.check (size.sle (BitVec.ofNat 32 (56 * 2 ^ 10)))
    Prog.check (8#32 &&& (align - 1#32) = 0#32)
    let _ ← xaApi (m.api .setMemPtr i)
  else if type = 0#32 then do
    xmalloc .persist size align
    let _ ← xaApi (m.api .setMemPtr i)
  else if type = 2#32 ∨ type = 3#32 then xaCodecMemtab m i type size
  else Prog.fail

/-- The loop of `xa_base_postinit` over `k` memory tables from index `i` on. -/
def xaBaseMemtabs (m : XaSetParam) : ℕ → U32 → XaMemoryProg Unit
  | 0, _ => pure ⟨⟩
  | k + 1, i => do
    xaBaseMemtab m i
    xaBaseMemtabs m k (i + 1#32)

/-- `xa_base_postinit`. -/
def xaBasePostinit (m : XaSetParam) : XaMemoryProg Unit := do
  let _ ← xaApi (m.api .initPostConfig 0#32)
  let n ← xaApi (m.api .getNMemtabs 0#32)
  xaBaseMemtabs m n.toInt.toNat 0#32

/-- The loop of `xa_base_set_param` over `k` parameters from index `i` on. -/
def xaBaseSetParams (m : XaSetParam) : ℕ → U32 → XaMemoryProg Unit
  | 0, _ => pure ⟨⟩
  | k + 1, i => do
    let _ ← xaApi (m.api .setConfigParam i)
    xaBaseSetParams m k (i + 1#32)

/-- `xa_base_set_param`; a parameter item has 8 bytes. -/
def xaBaseSetParam (m : XaSetParam) : XaMemoryProg Unit := do
  let n := m.length / 8#32
  Prog.check (m.length = 8#32 * n)
  xaBaseSetParams m n.toNat 0#32
  let s ← Prog.get
  if !s.postinit then do
    xaBasePostinit m
    Prog.modify fun s => { s with postinit := !s.postinit }
  else pure ⟨⟩

/-! ## Creation and destruction -/

/-- `xa_base_destroy`. -/
def xaBaseDestroy (size : U32) : XaMemoryProg Unit := do
  xfMmFreeBuffer .persist
  xfMmFreeBuffer .memTabs
  xfMmFreeBuffer .api
  let s ← Prog.get
  xfMemFree s.codec size

/-- `xa_base_factory`; the size is that of a codec, which is at least that of its base. -/
def xaBaseFactory (pre : XaPreinitCmd → XaAnswer) (size : U32) : XaMemoryProg Unit := do
  let base ← xfMemAlloc size
  Prog.check (base ≠ 0)
  Prog.modify fun s => XaCodecMemory.reset s.pool base
  Prog.orElse (xaBasePreinit pre) do
    xaBaseDestroy size
    Prog.fail

/-- `xa_audio_codec_factory`, `sizeof` being the size of an `XAAudioCodec`. -/
def xaAudioCodecFactory (pre : XaPreinitCmd → XaAnswer) (sizeof : U32) : XaMemoryProg Unit :=
  xaBaseFactory pre (xfMm sizeof)

/-- `xa_audio_codec_destroy`, the output port being not routed. -/
def xaAudioCodecDestroy (sizeof : U32) : XaMemoryProg Unit := do
  xfInputPortDestroy
  xaBaseDestroy (xfMm sizeof)

/-- The commands `ms`; the codec stays alive when one fails. -/
def xaSetParamCalls : List XaSetParam → XaMemoryProg Unit
  | [] => pure ⟨⟩
  | m :: ms => do
    Prog.orElse (xaBaseSetParam m) (pure ⟨⟩)
    xaSetParamCalls ms

/-- The life of a codec, which ends at once when it cannot be created. -/
def xaCodecLife (pre : XaPreinitCmd → XaAnswer) (ms : List XaSetParam) (sizeof : U32) :
    XaMemoryProg Unit :=
  Prog.orElse (do
    xaAudioCodecFactory pre sizeof
    xaSetParamCalls ms
    xaAudioCodecDestroy sizeof) (pure ⟨⟩)

/-! ## What is given back -/

/-- After its life, the free bytes of the pool are those from before. -/
def XaGivesBack (pre : XaPreinitCmd → XaAnswer) (ms : List XaSetParam) (sizeof : U32)
    (pool : XfMmPool) : Prop :=
  ∃ s, xaCodecLife pre ms sizeof (.reset pool 0) = .ok ⟨⟩ s ∧
    xfMmFreeBytes s.pool = xfMmFreeBytes pool

/-- The plugin says what memory table `i` is. -/
def XaSetParam.Answers (m : XaSetParam) (i : U32) : Prop :=
  (m.api .getMemInfoType i).fatal = false ∧ (m.api .getMemInfoSize i).fatal = false ∧
    (m.api .getMemInfoAlignment i).fatal = false

/-- Persistent memory finds no persistent memory in its place, and an input buffer no input buffer.
-/
def XaPlaceFree (m : XaSetParam) (i : U32) (s : XaCodecMemory) : Prop :=
  ((m.api .getMemInfoType i).value = 0#32 → (s.slot .persist).addr = 0) ∧
    ((m.api .getMemInfoType i).value = 2#32 → s.buffer = 0)

/-- The size of an input buffer is one that the allocator can deal with. -/
def XaInputAligned (m : XaSetParam) (i : U32) (_ : XaCodecMemory) : Prop :=
  (m.api .getMemInfoType i).value = 2#32 → 32 ∣ (m.api .getMemInfoSize i).value.toNat

/-- Each of the `k` memory tables from index `i` on that is reached meets the condition `P`, in the
state before it. -/
def XaEachMemtab (P : XaSetParam → U32 → XaCodecMemory → Prop) (m : XaSetParam) :
    ℕ → U32 → XaCodecMemory → Prop
  | 0, _, _ => True
  | k + 1, i, s => (m.Answers i → P m i s) ∧
      Prog.wp (xaBaseMemtab m i) (fun _ s' => XaEachMemtab P m k (i + 1#32) s') (fun _ => True) s

/-- The number of memory tables. -/
def XaSetParam.memtabs (m : XaSetParam) : ℕ := (m.api .getNMemtabs 0#32).value.toInt.toNat

/-- The command comes to the memory tables, if the codec is not initialized. -/
def XaSetParam.Starts (m : XaSetParam) : Prop :=
  m.length = 8#32 * (m.length / 8#32) ∧
    (∀ k < (m.length / 8#32).toNat, (m.api .setConfigParam (BitVec.ofNat 32 k)).fatal = false) ∧
    (m.api .initPostConfig 0#32).fatal = false ∧ (m.api .getNMemtabs 0#32).fatal = false

/-- Each memory table that the commands `ms` reach meets the condition. -/
def XaEachCall (P : XaSetParam → U32 → XaCodecMemory → Prop) :
    List XaSetParam → XaCodecMemory → Prop
  | [], _ => True
  | m :: ms, s => (m.Starts → s.postinit = false → XaEachMemtab P m m.memtabs 0#32 s) ∧
      Prog.wp (Prog.orElse (xaBaseSetParam m) (pure ⟨⟩)) (fun _ s' => XaEachCall P ms s')
        (fun _ => True) s

/-- Each memory table that is reached in the life of a codec meets the condition. -/
def XaEachReached (P : XaSetParam → U32 → XaCodecMemory → Prop) (pre : XaPreinitCmd → XaAnswer)
    (ms : List XaSetParam) (sizeof : U32) (pool : XfMmPool) : Prop :=
  Prog.wp (xaAudioCodecFactory pre sizeof) (fun _ s => XaEachCall P ms s) (fun _ => True)
    (.reset pool 0)

end Hikey.LocalPool
