import Hikey.Foundation.Program
import Hikey.Io.Input
import Hikey.Io.Output
import Hikey.Sched.Basic

/-!
# Audio components (`audio/xa-class-base.c`, `core/xf-core.c`)

A component is an instance of a class: the codec class and the mixer class supply the hooks of
`XaHooks` and `XaClass` and the data `κ` of their instances.  The state of a component comes with
the part of its core that it acts on.

The plugin and the rest of the system answer a component: `XaEnv` holds their answers during one
call.  An answer of the plugin is a value and whether its error code has the fatal severity; other
error codes only cause a warning.
-/

namespace Hikey

/-! ## The environment of a call -/

/-- The calls of the plugin interface (`XA_API`). -/
inductive XaApiCmd
  | initPostConfig
  | getNMemtabs
  | getMemInfoType
  | getMemInfoSize
  | getMemInfoAlignment
  | setMemPtr
  | setConfigParam
  | getConfigParam
  | initProcess
  | initDoneQuery
  | doExecute
  | doneQuery
  | doRuntimeInit
  | inputOver
  | setInputBytes
  | getCuridxInputBuf
  | getOutputBytes
deriving DecidableEq, Repr

/-- An answer of the plugin. -/
structure XaAnswer where
  fatal : Bool
  value : U32
deriving DecidableEq

/-- The environment of a call: the answers of the plugin by command and index, the memory that
message buffers live in, the answers of the memory allocator to a port that is routed, to an input
port that is initialized and to a persistent buffer (the null pointer when `XMALLOC` fails), by
index, the scratch memory, and the contents of an uninitialized variable `done`. -/
structure XaEnv where
  api : XaApiCmd → U32 → XaAnswer
  mem : U32 → UInt8
  alloc : U32 → U32
  block : U32 → Option (List UInt8)
  persist : U32 → U32
  scratch : U32
  done : U32

/-- A 16-bit word in memory, low byte first. -/
def readU16 (mem : U32 → UInt8) (a : U32) : BitVec 16 :=
  (mem (a + 1#32)).toBitVec ++ (mem a).toBitVec

/-- A 32-bit word in memory. -/
def readU32 (mem : U32 → UInt8) (a : U32) : U32 := readU16 mem (a + 2#32) ++ readU16 mem a

/-! ## The state of a component -/

/-- The base flags of `base->state`. -/
structure XaBaseState where
  postinit : Bool
  runtimeInit : Bool
  execution : Bool
  completed : Bool
  schedule : Bool
deriving DecidableEq, Repr

/-- The entry point that is installed: the commands of a class, those of its termination, or none
when the component is destroyed. -/
inductive XaPhase
  | running
  | terminating
  | destroyed
deriving DecidableEq, Repr

/-- The part of a core that a component acts on: the scheduler, the messages handed to the component
that its output is routed to, those under way back from there, the responses to the proxy, the
memory events of output ports, and the buffers that the plugin was given last, by index. -/
structure XfCore where
  sched : XfSched
  sink : List XfMessage
  back : List XfMessage
  proxy : List XfMessage
  mem : List XfMemEvent
  memPtr : U32 → U32

/-- A component with the data `κ` of its class; `task` is the address of its task. -/
structure XaState (κ : Type) where
  task : U32
  phase : XaPhase
  base : XaBaseState
  ext : κ
  core : XfCore

/-- The programs of a component; an error is one of fatal severity. -/
abbrev XaProg (κ : Type) := Prog (XaState κ)

/-- The hooks that the base calls. -/
structure XaHooks (κ : Type) where
  memtab : XaEnv → (idx type size : U32) → XaProg κ Unit
  preprocess : XaEnv → XaProg κ Bool
  postprocess : XaEnv → (done : U32) → XaProg κ Unit
  getparam : XaEnv → (i id : U32) → XaProg κ Unit

/-- A class of components: its hooks, its table of commands and its entry points for the
termination, of which `terminate` tells whether the component is to be destroyed. -/
structure XaClass (κ : Type) extends XaHooks κ where
  command : XfOpcode → Option (XaEnv → XfMessage → XaProg κ Unit)
  cleanup : XfMessage → XaProg κ Unit
  terminate : XfMessage → XaProg κ Bool
  destroy : XaProg κ Unit

variable {κ : Type}

/-- A message is completed: a message of a pool goes to the component at the other end of the route,
other ones go back to the proxy. -/
def XfCore.complete (core : XfCore) (m : XfMessage) : XfCore :=
  match m.ptr with
  | .proxy _ => { core with proxy := core.proxy ++ [m.swap] }
  | .item _ _ => { core with sink := core.sink ++ [m.turn] }

/-- `xf_response`, for each of the messages. -/
def xfResponses (ms : List XfMessage) : XaProg κ Unit :=
  Prog.modify fun s => { s with core := ms.foldl XfCore.complete s.core }

/-- `xf_response`. -/
def xfResponse (m : XfMessage) : XaProg κ Unit := xfResponses [m]

/-- A change of the base flags. -/
def xaBaseModify (f : XaBaseState → XaBaseState) : XaProg κ Unit :=
  Prog.modify fun s => { s with base := f s.base }

/-- A change of the data of the class. -/
def xaExtModify (f : κ → κ) : XaProg κ Unit := Prog.modify fun s => { s with ext := f s.ext }

/-- `XA_API`: the call ends with the error of the plugin when that is fatal. -/
def xaApi (env : XaEnv) (cmd : XaApiCmd) (idx : U32) : XaProg κ U32 := do
  Prog.check (!(env.api cmd idx).fatal)
  pure (env.api cmd idx).value

/-- `XA_API_CMD_SET_MEM_PTR`. -/
def xaSetMemPtr (env : XaEnv) (idx ptr : U32) : XaProg κ Unit := do
  Prog.modify fun s =>
    { s with core := { s.core with memPtr := Function.update s.core.memPtr idx ptr } }
  let _ ← xaApi env .setMemPtr idx

/-! ## Scheduling -/

/-- `xa_base_schedule`. -/
def xaBaseSchedule (dts : U32) : XaProg κ Unit :=
  Prog.update fun s =>
    if !s.base.schedule then
      (xfSchedPut s.core.sched s.task (xfSchedTimestamp s.core.sched + dts)).map fun sched =>
        ({ s with
            base := { s.base with schedule := !s.base.schedule }
            core := { s.core with sched := sched } }, ⟨⟩)
    else some (s, ⟨⟩)

/-- `xa_base_cancel`. -/
def xaBaseCancel : XaProg κ Unit :=
  Prog.update fun s =>
    if s.base.schedule then
      (xfSchedCancel s.core.sched s.task).map fun sched =>
        ({ s with
            base := { s.base with schedule := !s.base.schedule }
            core := { s.core with sched := sched } }, ⟨⟩)
    else some (s, ⟨⟩)

/-! ## Commands -/

/-- One memory table of `xa_base_postinit`. -/
def xaBaseMemtab (hooks : XaHooks κ) (env : XaEnv) (i : U32) : XaProg κ Unit := do
  let type ← xaApi env .getMemInfoType i
  let size ← xaApi env .getMemInfoSize i
  let align ← xaApi env .getMemInfoAlignment i
  -- the memory types are persistent, scratch, input and output memory, in this order
  if type = 1#32 then do
    Prog.check (size.sle (BitVec.ofNat 32 (56 * 2 ^ 10)))
    Prog.check (8#32 &&& (align - 1#32) = 0#32)
    xaSetMemPtr env i env.scratch
  else if type = 0#32 then do
    Prog.check (env.persist i ≠ 0#32)
    xaSetMemPtr env i (env.persist i)
  else if type = 2#32 ∨ type = 3#32 then hooks.memtab env i type size
  else Prog.fail

/-- The loop of `xa_base_postinit` over `k` memory tables from index `i` on. -/
def xaBaseMemtabs (hooks : XaHooks κ) (env : XaEnv) : ℕ → U32 → XaProg κ Unit
  | 0, _ => pure ⟨⟩
  | k + 1, i => do
    xaBaseMemtab hooks env i
    xaBaseMemtabs hooks env k (i + 1#32)

/-- `xa_base_postinit`. -/
def xaBasePostinit (hooks : XaHooks κ) (env : XaEnv) : XaProg κ Unit := do
  let _ ← xaApi env .initPostConfig 0#32
  let n ← xaApi env .getNMemtabs 0#32
  xaBaseMemtabs hooks env n.toInt.toNat 0#32

/-- The loop of `xa_base_set_param` over `k` parameters from index `i` on. -/
def xaBaseSetParams (env : XaEnv) : ℕ → U32 → XaProg κ Unit
  | 0, _ => pure ⟨⟩
  | k + 1, i => do
    let _ ← xaApi env .setConfigParam i
    xaBaseSetParams env k (i + 1#32)

/-- `xa_base_set_param`; a parameter item has 8 bytes. -/
def xaBaseSetParam (hooks : XaHooks κ) (env : XaEnv) (m : XfMessage) : XaProg κ Unit := do
  let n := m.length / 8#32
  Prog.check (m.length = 8#32 * n)
  xaBaseSetParams env n.toNat 0#32
  let s ← Prog.get
  (if !s.base.postinit then do
    xaBasePostinit hooks env
    xaBaseModify fun b => { b with postinit := !b.postinit, runtimeInit := !b.runtimeInit }
  else pure ⟨⟩)
  xfResponse m.ok

/-- The loop of `xa_base_get_param` over `k` parameters from index `i` on. -/
def xaBaseGetParams (hooks : XaHooks κ) (env : XaEnv) (m : XfMessage) : ℕ → U32 → XaProg κ Unit
  | 0, _ => pure ⟨⟩
  | k + 1, i => do
    hooks.getparam env i (readU32 env.mem (m.buffer + 4#32 * i))
    xaBaseGetParams hooks env m k (i + 1#32)

/-- `xa_base_get_param`; a parameter has 4 bytes. -/
def xaBaseGetParam (hooks : XaHooks κ) (env : XaEnv) (m : XfMessage) : XaProg κ Unit := do
  let n := m.length / 4#32
  Prog.check (4#32 * n = m.length)
  xaBaseGetParams hooks env m n.toNat 0#32
  xfResponse (m.withLength (4#32 * n))

/-- The loop of `xa_base_set_param_ext` and `xa_base_get_param_ext` over the descriptors from
address `a` on, `i` of them done; the remaining length is that of a 16-bit and of a 32-bit variable.
-/
def xaBaseParamsExt {w : ℕ} (env : XaEnv) (cmd : XaApiCmd) :
    ℕ → U32 → U32 → BitVec w → XaProg κ (BitVec w)
  | 0, _, _, remaining => pure remaining
  | fuel + 1, i, a, remaining =>
    if 4#w ≤ remaining then do
      let size := (readU16 env.mem (a + 2#32) + 3#16) &&& ~~~3#16
      Prog.check (size.setWidth w ≤ remaining - 4#w)
      let _ ← xaApi env cmd i
      xaBaseParamsExt env cmd fuel (i + 1#32) (a + 4#32 + size.setWidth 32)
        (remaining - 4#w - size.setWidth w)
    else pure remaining

/-- `xa_base_set_param_ext`; every descriptor has at least 4 bytes. -/
def xaBaseSetParamExt (env : XaEnv) (m : XfMessage) : XaProg κ Unit := do
  let length := m.length.setWidth 16
  let remaining ← xaBaseParamsExt env .setConfigParam (2 ^ 16) 0#32 m.buffer
    ((length + 3#16) &&& ~~~3#16)
  Prog.check (remaining = 0#16)
  xfResponse (m.withLength (length.setWidth 32))

/-- `xa_base_get_param_ext`. -/
def xaBaseGetParamExt (env : XaEnv) (m : XfMessage) : XaProg κ Unit := do
  let remaining ← xaBaseParamsExt env .getConfigParam (2 ^ 32) 0#32 m.buffer
    ((m.length + 3#32) &&& ~~~3#32)
  Prog.check (remaining = 0#32)
  xfResponse m

/-! ## Processing -/

/-- `xf_timebase_factor`, the timebase being `XF_TIMEBASE_FREQ = 56448000`. -/
def xfTimebaseFactor (sampleRate : U32) : U32 :=
  match sampleRate.toNat with
  | 4000 | 8000 | 11025 | 16000 | 22050 | 24000 | 32000 | 44100 | 48000 | 64000 | 88200 | 96000
  | 128000 | 176400 | 192000 => 56448000#32 / sampleRate
  -- the source divides by the rate of the case above
  | 12000 => 56448000#32 / 11025#32
  | _ => 0#32

/-- The execution step of `xa_base_process`, which tells whether the current stage is done. -/
def xaBaseExecute (env : XaEnv) : XaProg κ U32 := do
  let s ← Prog.get
  if s.base.runtimeInit then do
    let _ ← xaApi env .initProcess 0#32
    let done ← xaApi env .initDoneQuery 0#32
    (if done ≠ 0#32 then
      xaBaseModify fun b => { b with runtimeInit := !b.runtimeInit, execution := !b.execution }
    else pure ⟨⟩)
    pure done
  else if s.base.execution then do
    let _ ← xaApi env .doExecute 0#32
    let done ← xaApi env .doneQuery 0#32
    (if done ≠ 0#32 then
      xaBaseModify fun b => { b with execution := !b.execution, completed := !b.completed }
    else pure ⟨⟩)
    pure done
  else pure env.done

/-- `xa_base_process`. -/
def xaBaseProcess (hooks : XaHooks κ) (env : XaEnv) : XaProg κ Unit := do
  xaBaseModify fun b => { b with schedule := false }
  if ← hooks.preprocess env then do
    let done ← xaBaseExecute env
    hooks.postprocess env done
  else pure ⟨⟩

/-- `xa_base_command` for a message. -/
def xaBaseCommand (cls : XaClass κ) (env : XaEnv) (m : XfMessage) : XaProg κ Unit :=
  match cls.command m.opcode with
  | none => Prog.fail
  | some cmd => cmd env m

/-! ## Dispatching -/

/-- `xf_core_dispatch` of a message to a component.  A message to a component that does not exist
any more is completed with an error. -/
def xfCoreDispatch (cls : XaClass κ) (env : XaEnv) (m : XfMessage) : XaProg κ Unit := do
  let s ← Prog.get
  match s.phase with
  | .running => Prog.orElse (xaBaseCommand cls env m) (cls.cleanup m)
  | .terminating =>
    if ← cls.terminate m then cls.destroy else pure ⟨⟩
  | .destroyed => xfResponse m.err

/-- `xf_core_process`: errors are ignored.  Nothing is scheduled after the termination has begun. -/
def xfCoreProcess (cls : XaClass κ) (env : XaEnv) : XaProg κ Unit := do
  let s ← Prog.get
  match s.phase with
  | .running => Prog.orElse (xaBaseProcess cls.toXaHooks env) (pure ⟨⟩)
  | _ => Prog.update fun _ => none

/-- `xa_base_destroy` and the end of the component. -/
def xaBaseDestroy : XaProg κ Unit := Prog.modify fun s => { s with phase := .destroyed }

end Hikey
