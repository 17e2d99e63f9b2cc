import Hikey.Component.Base

/-!
# The audio codec class (`audio/xa-class-audio-codec.c`)
-/

namespace Hikey

/-- The data of `XAAudioCodec`; `inputSetup` and `outputSetup` are the custom flags of
`base->state`, `XA_CODEC_FLAG_INPUT_SETUP` and `XA_CODEC_FLAG_OUTPUT_SETUP`. -/
structure XaCodec where
  input : XfInputPort
  output : XfOutputPort
  inIdx : U32
  outIdx : U32
  sampleSize : U32
  factor : U32
  produced : U32
  inputSetup : Bool
  outputSetup : Bool

/-- The programs of a codec. -/
abbrev XaCodecProg := XaProg XaCodec

/-! ## Operations on the ports -/

/-- An operation on the input port, followed by the completion of messages. -/
def xaCodecInput {α : Type} (f : XfInputPort → Option (XfInputPort × List XfMessage × α)) :
    XaCodecProg α :=
  Prog.update fun s => (f s.ext.input).map fun (input, ms, a) =>
    ({ s with
        ext := { s.ext with input := input }
        core := ms.foldl XfCore.complete s.core }, a)

/-- An operation on the output port, followed by memory events and the completion of messages. -/
def xaCodecOutput {α : Type}
    (f : XfOutputPort → Option (XfOutputPort × List XfMemEvent × List XfMessage × α)) :
    XaCodecProg α :=
  Prog.update fun s => (f s.ext.output).map fun (output, mem, ms, a) =>
    ({ s with
        ext := { s.ext with output := output }
        core := ms.foldl XfCore.complete { s.core with mem := s.core.mem ++ mem } }, a)

def xaCodecInputPut (m : XfMessage) : XaCodecProg Bool :=
  xaCodecInput fun port => some (xfInputPortPut port m)

def xaCodecInputPurge : XaCodecProg Unit :=
  xaCodecInput fun port => some ((xfInputPortPurge port).1, (xfInputPortPurge port).2, ⟨⟩)

def xaCodecInputFill (mem : U32 → UInt8) : XaCodecProg Bool :=
  xaCodecInput fun port => xfInputPortFill mem port

def xaCodecInputConsume (n : U32) : XaCodecProg Unit :=
  xaCodecInput fun port => (xfInputPortConsume port n).map fun (port, ms) => (port, ms, ⟨⟩)

def xaCodecInputControlSave (m : XfMessage) : XaCodecProg Unit :=
  xaCodecInput fun port => some (xfInputPortControlSave port m, [], ⟨⟩)

def xaCodecInputPurgeDone : XaCodecProg Unit :=
  xaCodecInput fun port => (xfInputPortPurgeDone port).map fun (port, m) => (port, [m], ⟨⟩)

def xaCodecOutputPut (m : XfMessage) : XaCodecProg Bool :=
  xaCodecOutput fun port => some ((xfOutputPortPut port m).1, [], [], (xfOutputPortPut port m).2)

def xaCodecOutputProduce (n : U32) : XaCodecProg Unit :=
  xaCodecOutput fun port => (xfOutputPortProduce port n).map fun (port, m) => (port, [], [m], ⟨⟩)

def xaCodecOutputFlush (opcode : XfOpcode) : XaCodecProg Bool :=
  xaCodecOutput fun port =>
    some ((xfOutputPortFlush port opcode).1, [], (xfOutputPortFlush port opcode).2)

def xaCodecOutputFlushDone : XaCodecProg Unit :=
  xaCodecOutput fun port => some (xfOutputPortFlushDone port, [], [], ⟨⟩)

def xaCodecOutputRoute (id : XfMsgId) (n length : U32) (alloc : U32 → U32) : XaCodecProg Bool :=
  xaCodecOutput fun port =>
    (xfOutputPortRoute port id n length alloc).map fun (port, mem, ok) => (port, mem, [], ok)

def xaCodecOutputUnroute : XaCodecProg Unit :=
  xaCodecOutput fun port => (xfOutputPortUnroute port).map fun (port, mem) => (port, mem, [], ⟨⟩)

def xaCodecOutputUnrouteStart (m : XfMessage) : XaCodecProg Unit :=
  xaCodecOutput fun port => some (xfOutputPortUnrouteStart port m, [], [], ⟨⟩)

def xaCodecOutputUnrouteDone : XaCodecProg Unit :=
  xaCodecOutput fun port =>
    (xfOutputPortUnrouteDone port).map fun (port, mem, m) => (port, mem, [m], ⟨⟩)

def xaCodecOutputDestroy : XaCodecProg Unit :=
  xaCodecOutput fun port => (xfOutputPortDestroy port).map fun (port, mem) => (port, mem, [], ⟨⟩)

/-! ## Commands -/

/-- `xa_codec_prepare_runtime`.  The start message (20 bytes) is the first output message, and the
frame size is divided by the sample size: both are undefined when they are null. -/
def xaCodecPrepareRuntime (env : XaEnv) : XaCodecProg Unit := do
  let s ← Prog.get
  (if s.ext.output.queue = [] then Prog.update fun _ => none else pure ⟨⟩)
  let sampleRate ← xaApi env .getConfigParam 0x10001#32
  let channels ← xaApi env .getConfigParam 0x10000#32
  let pcmWidth ← xaApi env .getConfigParam 0x10002#32
  let _ ← xaApi env .getMemInfoSize s.ext.inIdx
  let outputLength ← xaApi env .getMemInfoSize s.ext.outIdx
  let sampleSize := channels * (if pcmWidth = 16#32 then 2#32 else 4#32)
  xaExtModify fun c => { c with sampleSize := sampleSize }
  (if sampleSize = 0#32 then Prog.update fun _ => none else pure ⟨⟩)
  let frameSize := outputLength / sampleSize
  Prog.check (frameSize * sampleSize = outputLength)
  let factor := xfTimebaseFactor sampleRate
  Prog.check (factor ≠ 0#32)
  xaExtModify fun c => { c with factor := factor / sampleSize }
  xaCodecOutputProduce 20#32

/-- `xa_codec_empty_this_buffer`. -/
def xaCodecEmptyThisBuffer (env : XaEnv) (m : XfMessage) : XaCodecProg Unit := do
  Prog.check (m.dstPort = 0#16)
  let s ← Prog.get
  Prog.check s.base.postinit
  if ← xaCodecInputPut m then do
    (if s.base.completed then do
      -- the whole state word is overwritten, the custom flags and the schedule flag along with it
      xaBaseModify fun _ =>
        { postinit := true
          runtimeInit := false
          execution := true
          completed := false
          schedule := false }
      xaExtModify fun c => { c with inputSetup := false, outputSetup := false }
      let _ ← xaApi env .doRuntimeInit 0#32
      xaExtModify fun c => { c with produced := 0#32 }
    else pure ⟨⟩)
    let s ← Prog.get
    Prog.check (s.base.runtimeInit || s.base.execution)
    if s.ext.output.ready then xaBaseSchedule 0#32 else pure ⟨⟩
  else pure ⟨⟩

/-- The end of `xa_codec_fill_this_buffer`: the message goes to the output port. -/
def xaCodecFillOutput (m : XfMessage) : XaCodecProg Unit := do
  let s ← Prog.get
  let first ← xaCodecOutputPut m
  if first && s.ext.input.ready && (s.base.runtimeInit || s.base.execution) then
    xaBaseSchedule 0#32
  else pure ⟨⟩

/-- `xa_codec_fill_this_buffer`. -/
def xaCodecFillThisBuffer (_ : XaEnv) (m : XfMessage) : XaCodecProg Unit := do
  Prog.check (m.dstPort = 1#16)
  let s ← Prog.get
  Prog.check s.base.postinit
  if s.base.runtimeInit then xaCodecFillOutput m
  else if s.ext.output.isControl m then do
    xaCodecOutputFlushDone
    xaCodecInputPurge
  else if s.base.completed && !s.ext.output.routed then xfResponse m.ok
  else xaCodecFillOutput (m.withLength s.ext.output.length)

/-- `xa_codec_port_route`; the fields of the command follow the source port, 4 bytes each. -/
def xaCodecPortRoute (env : XaEnv) (m : XfMessage) : XaCodecProg Unit := do
  let s ← Prog.get
  Prog.check s.base.postinit
  Prog.check (m.dstPort = 1#16)
  Prog.check (!s.ext.output.routed)
  let dst := readU32 env.mem (m.buffer + 4#32)
  let allocNumber := readU32 env.mem (m.buffer + 8#32)
  let allocSize := readU32 env.mem (m.buffer + 12#32)
  let ok ← xaCodecOutputRoute ⟨dst.setWidth 16, m.id.dst⟩ allocNumber allocSize env.alloc
  Prog.check ok
  xaBaseSchedule 0#32
  xfResponse m.ok

/-- `xa_codec_port_unroute`. -/
def xaCodecPortUnroute (_ : XaEnv) (m : XfMessage) : XaCodecProg Unit := do
  let s ← Prog.get
  Prog.check s.base.postinit
  Prog.check (m.dstPort = 1#16)
  xaBaseCancel
  xaExtModify fun c => { c with outputSetup := false }
  if ← xaCodecOutputFlush .flush then do
    xaCodecOutputUnroute
    xfResponse m.ok
  else xaCodecOutputUnrouteStart m

/-- `xa_codec_flush`. -/
def xaCodecFlush (env : XaEnv) (m : XfMessage) : XaCodecProg Unit := do
  let s ← Prog.get
  Prog.check s.base.postinit
  Prog.check (m.length = 0#32)
  if m.dstPort = 0#16 then do
    xaBaseCancel
    xaCodecInputPurge
    xaExtModify fun c => { c with inputSetup := false }
    let _ ← xaApi env .doRuntimeInit 0#32
    xaExtModify fun c => { c with produced := 0#32 }
    if ← xaCodecOutputFlush .flush then xfResponse m else xaCodecInputControlSave m
  else if s.ext.output.unrouting then xaCodecOutputUnrouteDone
  else do
    (if !s.ext.output.routed then do
      let _ ← xaCodecOutputFlush .flush
      xfResponse m
    else do
      xaCodecOutputFlushDone
      xaCodecInputPurgeDone)
    xaExtModify fun c => { c with outputSetup := false }

/-! ## Hooks -/

/-- `xa_codec_memtab`, for the memory types of input (`2`) and output (`3`). -/
def xaCodecMemtab (env : XaEnv) (idx type size : U32) : XaCodecProg Unit :=
  if type = 2#32 then do
    let ok ← xaCodecInput fun port =>
      some ((xfInputPortInit port size (env.block idx)).1, [],
        (xfInputPortInit port size (env.block idx)).2)
    Prog.check ok
    xaExtModify fun c => { c with inIdx := idx }
    if size ≠ 0#32 then do
      let _ ← xaApi env .setMemPtr idx
    else pure ⟨⟩
  else do
    Prog.check (type = 3#32)
    xaCodecOutput fun port => some (xfOutputPortInit port size, [], [], ⟨⟩)
    xaExtModify fun c => { c with outIdx := idx }

/-- The first half of `xa_codec_preprocess`: the output buffer is set up. -/
def xaCodecSetupOutput (env : XaEnv) : XaCodecProg Bool := do
  let s ← Prog.get
  if !s.ext.outputSetup then do
    let output := if s.base.runtimeInit then env.scratch else xfOutputPortData s.ext.output
    if !s.base.runtimeInit && output = 0#32 then pure false
    else do
      xaSetMemPtr env s.ext.outIdx output
      xaExtModify fun c => { c with outputSetup := !c.outputSetup }
      pure true
  else pure true

/-- The number of bytes in the input buffer, or nothing when there is no sufficient input. -/
def xaCodecFilled (env : XaEnv) : XaCodecProg (Option U32) := do
  let s ← Prog.get
  if s.ext.input.bypass then
    if s.ext.input.access ≠ 0#32 then do
      xaSetMemPtr env s.ext.inIdx s.ext.input.access
      pure (some s.ext.input.remaining)
    else if !s.ext.input.done then pure none
    else pure (some 0#32)
  else if s.ext.input.done then pure (some s.ext.input.filled)
  else if ← xaCodecInputFill env.mem then do
    let s ← Prog.get
    pure (some s.ext.input.filled)
  else pure none

/-- The second half of `xa_codec_preprocess`: the input buffer is set up. -/
def xaCodecSetupInput (env : XaEnv) : XaCodecProg Bool := do
  let s ← Prog.get
  if !s.ext.inputSetup then do
    match ← xaCodecFilled env with
    | none => pure false
    | some _ => do
      let s ← Prog.get
      (if s.ext.input.done then do
        let _ ← xaApi env .inputOver s.ext.inIdx
      else pure ⟨⟩)
      let _ ← xaApi env .setInputBytes s.ext.inIdx
      xaExtModify fun c => { c with inputSetup := !c.inputSetup }
      pure true
  else pure true

/-- `xa_codec_preprocess`: `false` is the non-fatal `XA_CODEC_EXEC_NO_DATA`. -/
def xaCodecPreprocess (env : XaEnv) : XaCodecProg Bool := do
  if ← xaCodecSetupOutput env then xaCodecSetupInput env else pure false

/-- The part of `xa_codec_postprocess` for a stage that is done. -/
def xaCodecStageDone (env : XaEnv) : XaCodecProg Unit := do
  let s ← Prog.get
  if s.base.runtimeInit then pure ⟨⟩
  else if s.base.execution then do
    xaCodecPrepareRuntime env
    xaExtModify fun c => { c with inputSetup := false, outputSetup := false }
  else if ← xaCodecOutputFlush .fillThisBuffer then xaCodecInputPurge
  else pure ⟨⟩

/-- `xa_codec_postprocess`. -/
def xaCodecPostprocess (env : XaEnv) (done : U32) : XaCodecProg Unit := do
  let s ← Prog.get
  let consumed ← xaApi env .getCuridxInputBuf s.ext.inIdx
  let produced ← (if s.ext.sampleSize ≠ 0#32 then xaApi env .getOutputBytes s.ext.outIdx
    else pure 0#32)
  (if consumed ≠ 0#32 then do
    xaCodecInputConsume consumed
    xaExtModify fun c => { c with inputSetup := !c.inputSetup }
  else pure ⟨⟩)
  (if produced ≠ 0#32 then do
    xaExtModify fun c => { c with produced := c.produced + produced / c.sampleSize }
    xaCodecOutputProduce produced
    xaExtModify fun c => { c with outputSetup := !c.outputSetup }
  else pure ⟨⟩)
  if done ≠ 0#32 then xaCodecStageDone env
  else do
    let s ← Prog.get
    if s.ext.input.ready && s.ext.output.ready then xaBaseSchedule (produced * s.ext.factor)
    else pure ⟨⟩

/-- `xa_codec_getparam`: the number of produced samples is known to the class. -/
def xaCodecGetparam (env : XaEnv) (i id : U32) : XaCodecProg Unit :=
  if id = 0x10003#32 then pure ⟨⟩
  else do
    let _ ← xaApi env .getConfigParam i

/-- The hooks of a codec. -/
def xaCodecHooks : XaHooks XaCodec where
  memtab := xaCodecMemtab
  preprocess := xaCodecPreprocess
  postprocess := xaCodecPostprocess
  getparam := xaCodecGetparam

/-! ## Termination -/

/-- `xa_audio_codec_destroy`. -/
def xaAudioCodecDestroy : XaCodecProg Unit := do
  xaExtModify fun c => { c with input := xfInputPortDestroy c.input }
  xaCodecOutputDestroy
  xaBaseDestroy

/-- `xa_audio_codec_terminate`: `true` when the output port is flushed. -/
def xaAudioCodecTerminate (m : XfMessage) : XaCodecProg Bool := do
  let s ← Prog.get
  if s.ext.output.isControl m then do
    xaCodecOutputFlushDone
    pure true
  else if m.opcode = .fillThisBuffer then pure false
  else if m.opcode = .unregister then pure false
  else do
    xfResponse m.err
    pure false

/-- `xa_audio_codec_cleanup`. -/
def xaAudioCodecCleanup (m : XfMessage) : XaCodecProg Unit := do
  xfResponse m.err
  xaBaseCancel
  xaCodecInputPurge
  if ← xaCodecOutputFlush .flush then xaAudioCodecDestroy
  else Prog.modify fun s => { s with phase := .terminating }

/-- `xa_codec_cmd`. -/
def xaCodecCmd : XfOpcode → Option (XaEnv → XfMessage → XaCodecProg Unit)
  | .setParam => some (xaBaseSetParam xaCodecHooks)
  | .getParam => some (xaBaseGetParam xaCodecHooks)
  | .route => some xaCodecPortRoute
  | .unroute => some xaCodecPortUnroute
  | .emptyThisBuffer => some xaCodecEmptyThisBuffer
  | .fillThisBuffer => some xaCodecFillThisBuffer
  | .flush => some xaCodecFlush
  | .setParamExt => some xaBaseSetParamExt
  | .getParamExt => some xaBaseGetParamExt
  | _ => none

/-- The audio codec class. -/
def xaAudioCodec : XaClass XaCodec where
  toXaHooks := xaCodecHooks
  command := xaCodecCmd
  cleanup := xaAudioCodecCleanup
  terminate := xaAudioCodecTerminate
  destroy := xaAudioCodecDestroy

/-- The component that `xa_audio_codec_factory` returns: its memory is zero-initialized, `item`
being what the null pointer of its message pool points to. -/
def xaAudioCodecFactory (task : U32) (item : U32 → XfMessage) (core : XfCore) :
    XaState XaCodec where
  task := task
  phase := .running
  base := ⟨false, false, false, false, false⟩
  ext :=
    { input := .zero
      output := .zero item
      inIdx := 0#32
      outIdx := 0#32
      sampleSize := 0#32
      factor := 0#32
      produced := 0#32
      inputSetup := false
      outputSetup := false }
  core := core

end Hikey
