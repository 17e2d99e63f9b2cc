import Hikey.Component.Base

/-!
# The mixer class (`audio/xa-class-mixer.c`) and its plugin (`plugins/cadence/mixer/xa-mixer.c`)

The mixer has one plugin, so its state comes with the class.  What the class asks of the plugin
during the set-up and after a step has an effect here; whether a call ends with a fatal error, and
the answers of the plugin about its configuration, are those of the environment.
-/

namespace Hikey

/-! ## Data -/

/-- `XA_MIXER_MAX_TRACK_NUMBER`. -/
abbrev xaMixerMaxTrackNumber : ℕ := 4

/-- `XATrack`; the track flags share a word with the flags of the input port. -/
structure XaTrack where
  input : XfInputPort
  pts : U32
  idle : Bool
  active : Bool
  paused : Bool
  inputSetup : Bool
  recvdData : Bool

/-- A frame that the plugin has written: where, and the bytes of every track that were mixed, none
for a track that is silent. -/
structure XaFrame where
  buffer : U32
  mixed : Fin xaMixerMaxTrackNumber → List UInt8

/-- `XAPcmMixer`: the flag `XA_MIXER_FLAG_OUTPUT`, the number of bytes in the input buffers, and the
frames written so far.  The pointers of the plugin are those that it was given last. -/
structure XaPcmMixer where
  output : Bool
  inputLength : Fin xaMixerMaxTrackNumber → U32
  frames : List XaFrame

/-- `XAMixer`; `outputSetup` is the custom flag `XA_MIXER_FLAG_OUTPUT_SETUP` of `base->state`. -/
structure XaMixer where
  track : Fin xaMixerMaxTrackNumber → XaTrack
  output : XfOutputPort
  frameSize : U32
  frameDuration : U32
  pts : U32
  outputSetup : Bool
  plugin : XaPcmMixer

/-- The programs of a mixer. -/
abbrev XaMixerProg := XaProg XaMixer

/-- The track of a port. -/
def xaMixerTrack (port : XfPortSpec) : Option (Fin xaMixerMaxTrackNumber) :=
  if h : port.toNat < xaMixerMaxTrackNumber then some ⟨port.toNat, h⟩ else none

/-- The index of the output port and of its memory. -/
def xaMixerOutputPort : XfPortSpec := BitVec.ofNat 16 xaMixerMaxTrackNumber

/-- The index of the memory of a track. -/
def xaTrackIdx (i : Fin xaMixerMaxTrackNumber) : U32 := BitVec.ofNat 32 i

/-- The index of the output memory. -/
def xaMixerOutIdx : U32 := BitVec.ofNat 32 xaMixerMaxTrackNumber

/-- The mixer with another track. -/
def XaMixer.setTrack (mixer : XaMixer) (i : Fin xaMixerMaxTrackNumber) (track : XaTrack) :
    XaMixer :=
  { mixer with track := Function.update mixer.track i track }

/-! ## Operations on the tracks and the ports -/

/-- A change of a track. -/
def xaTrackModify (i : Fin xaMixerMaxTrackNumber) (f : XaTrack → XaTrack) : XaMixerProg Unit :=
  xaExtModify fun mixer => mixer.setTrack i (f (mixer.track i))

/-- An operation on the input port of a track, followed by the completion of messages. -/
def xaTrackInput {α : Type} (i : Fin xaMixerMaxTrackNumber)
    (f : XfInputPort → Option (XfInputPort × List XfMessage × α)) : XaMixerProg α :=
  Prog.update fun s => (f (s.ext.track i).input).map fun (input, ms, a) =>
    ({ s with
        ext := s.ext.setTrack i { s.ext.track i with input := input }
        core := ms.foldl XfCore.complete s.core }, a)

/-- An operation on the output port, followed by memory events and the completion of messages. -/
def xaMixerOutput {α : Type}
    (f : XfOutputPort → Option (XfOutputPort × List XfMemEvent × List XfMessage × α)) :
    XaMixerProg α :=
  Prog.update fun s => (f s.ext.output).map fun (output, mem, ms, a) =>
    ({ s with
        ext := { s.ext with output := output }
        core := ms.foldl XfCore.complete { s.core with mem := s.core.mem ++ mem } }, a)

def xaTrackInputPut (i : Fin xaMixerMaxTrackNumber) (m : XfMessage) : XaMixerProg Bool :=
  xaTrackInput i fun port => some (xfInputPortPut port m)

def xaTrackInputFill (i : Fin xaMixerMaxTrackNumber) (mem : U32 → UInt8) : XaMixerProg Bool :=
  xaTrackInput i fun port => xfInputPortFill mem port

def xaTrackInputConsume (i : Fin xaMixerMaxTrackNumber) (n : U32) : XaMixerProg Unit :=
  xaTrackInput i fun port => (xfInputPortConsume port n).map fun (port, ms) => (port, ms, ⟨⟩)

def xaTrackInputPurge (i : Fin xaMixerMaxTrackNumber) : XaMixerProg Unit :=
  xaTrackInput i fun port => some ((xfInputPortPurge port).1, (xfInputPortPurge port).2, ⟨⟩)

def xaMixerOutputPut (m : XfMessage) : XaMixerProg Bool :=
  xaMixerOutput fun port => some ((xfOutputPortPut port m).1, [], [], (xfOutputPortPut port m).2)

def xaMixerOutputProduce (n : U32) : XaMixerProg Unit :=
  xaMixerOutput fun port => (xfOutputPortProduce port n).map fun (port, m) => (port, [], [m], ⟨⟩)

def xaMixerOutputFlush (opcode : XfOpcode) : XaMixerProg Bool :=
  xaMixerOutput fun port =>
    some ((xfOutputPortFlush port opcode).1, [], (xfOutputPortFlush port opcode).2)

def xaMixerOutputFlushDone : XaMixerProg Unit :=
  xaMixerOutput fun port => some (xfOutputPortFlushDone port, [], [], ⟨⟩)

def xaMixerOutputRoute (id : XfMsgId) (n length : U32) (alloc : U32 → U32) : XaMixerProg Bool :=
  xaMixerOutput fun port =>
    (xfOutputPortRoute port id n length alloc).map fun (port, mem, ok) => (port, mem, [], ok)

def xaMixerOutputUnroute : XaMixerProg Unit :=
  xaMixerOutput fun port => (xfOutputPortUnroute port).map fun (port, mem) => (port, mem, [], ⟨⟩)

def xaMixerOutputUnrouteStart (m : XfMessage) : XaMixerProg Unit :=
  xaMixerOutput fun port => some (xfOutputPortUnrouteStart port m, [], [], ⟨⟩)

def xaMixerOutputUnrouteDone : XaMixerProg Unit :=
  xaMixerOutput fun port =>
    (xfOutputPortUnrouteDone port).map fun (port, mem, m) => (port, mem, [m], ⟨⟩)

def xaMixerOutputDestroy : XaMixerProg Unit :=
  xaMixerOutput fun port => (xfOutputPortDestroy port).map fun (port, mem) => (port, mem, [], ⟨⟩)

/-- The component is scheduled if there is an output message. -/
def xaMixerWake : XaMixerProg Unit := do
  let s ← Prog.get
  if s.ext.output.ready then xaBaseSchedule 0#32 else pure ⟨⟩

/-! ## The plugin -/

/-- A change of the plugin. -/
def xaPluginModify (f : XaPcmMixer → XaPcmMixer) : XaMixerProg Unit :=
  xaExtModify fun mixer => { mixer with plugin := f mixer.plugin }

/-- `xa_mixer_set_input_bytes`: nothing is set when the number is zero. -/
def xaMixerSetInputBytes (env : XaEnv) (i : Fin xaMixerMaxTrackNumber) (size : U32) :
    XaMixerProg Unit := do
  let _ ← xaApi env .setInputBytes (xaTrackIdx i)
  (if size ≠ 0#32 then
    xaPluginModify fun d => { d with inputLength := Function.update d.inputLength i size }
  else pure ⟨⟩)

/-- `xa_mixer_get_curidx_input_buf`: the number of bytes mixed, which is reset. -/
def xaMixerGetCuridxInputBuf (env : XaEnv) (i : Fin xaMixerMaxTrackNumber) : XaMixerProg U32 := do
  let s ← Prog.get
  let _ ← xaApi env .getCuridxInputBuf (xaTrackIdx i)
  xaPluginModify fun d => { d with inputLength := Function.update d.inputLength i 0#32 }
  pure (s.ext.plugin.inputLength i)

/-- The size of a buffer: 512 samples of two channels with 16 bits each. -/
def xaMixerBufferSize : U32 := 2048#32

/-- `xa_mixer_get_output_bytes`: the size of a buffer, once there was output. -/
def xaMixerGetOutputBytes (env : XaEnv) : XaMixerProg U32 := do
  let _ ← xaApi env .getOutputBytes xaMixerOutIdx
  let s ← Prog.get
  pure (if s.ext.plugin.output then xaMixerBufferSize else 0#32)

/-- The bytes of a track that `xa_mixer_do_execute_stereo_16bit` mixes: the input buffer up to its
input length, which is padded with silence, or silence alone when the input length is zero. -/
def xaMixerMixed (mixer : XaMixer) (i : Fin xaMixerMaxTrackNumber) : List UInt8 :=
  ((mixer.track i).input.buffer.getD []).take (mixer.plugin.inputLength i).toNat

/-- `xa_mixer_do_execute_stereo_16bit`: a frame is written to the output buffer. -/
def xaMixerDoExecute : XaMixerProg Unit := do
  let s ← Prog.get
  xaPluginModify fun d => { d with
    output := true
    frames := d.frames ++ [⟨s.core.memPtr xaMixerOutIdx, xaMixerMixed s.ext⟩] }

/-! ## Commands -/

/-- `xa_mixer_check_active`: some track has received data or is active. -/
def xaMixerCheckActive (mixer : XaMixer) : Bool :=
  (List.finRange xaMixerMaxTrackNumber).any fun i =>
    (mixer.track i).recvdData || (mixer.track i).active

/-- `xa_mixer_prepare_runtime`: undefined without an output message. -/
def xaMixerPrepareRuntime (env : XaEnv) : XaMixerProg Unit := do
  let s ← Prog.get
  match s.ext.output.queue with
  | [] => Prog.update fun _ => none
  | m :: queue => do
    xaExtModify fun mixer => { mixer with output := { mixer.output with queue := queue } }
    let sampleRate ← xaApi env .getConfigParam 4#32
    let _ ← xaApi env .getConfigParam 2#32
    let _ ← xaApi env .getConfigParam 1#32
    let _ ← xaApi env .getMemInfoSize 0#32
    let _ ← xaApi env .getMemInfoSize xaMixerOutIdx
    let frameSize ← xaApi env .getConfigParam 5#32
    let factor := xfTimebaseFactor sampleRate
    Prog.check (factor ≠ 0#32)
    xaExtModify fun mixer => { mixer with frameDuration := frameSize * factor }
    xfResponse (m.withLength 20#32)

/-- `xa_mixer_empty_this_buffer`. -/
def xaMixerEmptyThisBuffer (_ : XaEnv) (m : XfMessage) : XaMixerProg Unit :=
  match xaMixerTrack m.dstPort with
  | none => Prog.fail
  | some i => do
    let s ← Prog.get
    Prog.check s.base.postinit
    xaTrackModify i fun track => { track with recvdData := m.length ≠ 0#32 }
    if ← xaTrackInputPut i m then do
      let s ← Prog.get
      (if (s.ext.track i).idle then
        xaTrackModify i fun track =>
          { track with idle := !track.idle, active := !track.active, pts := s.ext.pts }
      else pure ⟨⟩)
      xaMixerWake
    else pure ⟨⟩

/-- `xa_mixer_fill_this_buffer`. -/
def xaMixerFillThisBuffer (_ : XaEnv) (m : XfMessage) : XaMixerProg Unit := do
  Prog.check (m.dstPort = xaMixerOutputPort)
  let s ← Prog.get
  Prog.check s.base.postinit
  (if s.base.runtimeInit then Prog.check (m.length = 0#32)
  else if m.length ≠ 0#32 then Prog.check (m.length = s.ext.output.length)
  else pure ⟨⟩)
  if ← xaMixerOutputPut m then xaBaseSchedule 0#32 else pure ⟨⟩

/-- `xa_mixer_port_route`; the fields of the command follow the source port, 4 bytes each. -/
def xaMixerPortRoute (env : XaEnv) (m : XfMessage) : XaMixerProg Unit := do
  let s ← Prog.get
  Prog.check s.base.postinit
  Prog.check (m.dstPort = xaMixerOutputPort)
  Prog.check (!s.ext.output.routed)
  let dst := readU32 env.mem (m.buffer + 4#32)
  let allocNumber := readU32 env.mem (m.buffer + 8#32)
  let allocSize := readU32 env.mem (m.buffer + 12#32)
  let ok ← xaMixerOutputRoute ⟨dst.setWidth 16, m.id.dst⟩ allocNumber allocSize env.alloc
  Prog.check ok
  xaBaseSchedule 0#32
  xfResponse m.ok

/-- `xa_mixer_port_unroute`. -/
def xaMixerPortUnroute (_ : XaEnv) (m : XfMessage) : XaMixerProg Unit := do
  let s ← Prog.get
  Prog.check s.base.postinit
  Prog.check (m.dstPort = xaMixerOutputPort)
  xaBaseCancel
  xaExtModify fun mixer => { mixer with outputSetup := false }
  if ← xaMixerOutputFlush .flush then do
    xaMixerOutputUnroute
    xfResponse m.ok
  else xaMixerOutputUnrouteStart m

/-- `xa_mixer_pause`. -/
def xaMixerPause (_ : XaEnv) (m : XfMessage) : XaMixerProg Unit := do
  Prog.check (m.length = 0#32)
  match xaMixerTrack m.dstPort with
  | none => Prog.fail
  | some i => do
    let s ← Prog.get
    (if (s.ext.track i).active then do
      xaTrackModify i fun track => { track with active := !track.active, paused := !track.paused }
      xaMixerWake
    else pure ⟨⟩)
    xfResponse m

/-- `xa_mixer_resume`. -/
def xaMixerResume (_ : XaEnv) (m : XfMessage) : XaMixerProg Unit := do
  Prog.check (m.length = 0#32)
  match xaMixerTrack m.dstPort with
  | none => Prog.fail
  | some i => do
    let s ← Prog.get
    (if (s.ext.track i).paused then do
      xaTrackModify i fun track =>
        { track with active := !track.active, paused := !track.paused, pts := s.ext.pts }
      xaMixerWake
    else pure ⟨⟩)
    xfResponse m

/-- `xa_mixer_flush`. -/
def xaMixerFlush (_ : XaEnv) (m : XfMessage) : XaMixerProg Unit := do
  Prog.check (m.length = 0#32)
  let s ← Prog.get
  if m.dstPort = xaMixerOutputPort then do
    Prog.check s.ext.output.unrouting
    xaMixerOutputUnrouteDone
  else
    match xaMixerTrack m.dstPort with
    | none => Prog.fail
    | some i => do
      (if (s.ext.track i).active || (s.ext.track i).paused then do
        xaTrackInputPurge i
        xaTrackModify i fun track =>
          { track with active := false, paused := false, inputSetup := false, idle := true }
        xaMixerWake
      else pure ⟨⟩)
      xfResponse m

/-! ## Hooks -/

/-- `xa_mixer_memtab`, for the memory types of input (`2`) and output (`3`).  The initialization of
an input port clears the flags of the track. -/
def xaMixerMemtab (env : XaEnv) (idx type size : U32) : XaMixerProg Unit :=
  if type = 2#32 then
    match xaMixerTrack (idx.setWidth 16) with
    | none => Prog.fail
    | some i => do
      Prog.check (idx < xaMixerOutIdx)
      let ok ← xaTrackInput i fun port =>
        some ((xfInputPortInit port size (env.block idx)).1, [],
          (xfInputPortInit port size (env.block idx)).2)
      Prog.check ok
      xaTrackModify i fun track => { track with
        active := false, paused := false, inputSetup := false, recvdData := false }
      let _ ← xaApi env .setMemPtr idx
      xaTrackModify i fun track => { track with idle := true }
  else do
    Prog.check (type = 3#32)
    Prog.check (idx = xaMixerOutIdx)
    let frameSize ← xaApi env .getConfigParam 5#32
    xaExtModify fun mixer => { mixer with frameSize := frameSize }
    xaMixerOutput fun port => some (xfOutputPortInit port size, [], [], ⟨⟩)

/-- `xf_time_after`: the difference is positive as a signed number. -/
def xfTimeAfter (a b : U32) : Bool := (0#32).slt (a - b)

/-- The set-up of one track in `xa_mixer_preprocess`; `false` says that there is no sufficient data.
-/
def xaMixerSetupTrack (env : XaEnv) (i : Fin xaMixerMaxTrackNumber) : XaMixerProg Bool := do
  let s ← Prog.get
  if xfTimeAfter (s.ext.track i).pts s.ext.pts then do
    xaTrackModify i fun track => { track with inputSetup := true }
    pure true
  else if ← xaTrackInputFill i env.mem then do
    let s ← Prog.get
    xaMixerSetInputBytes env i (s.ext.track i).input.filled
    xaTrackModify i fun track => { track with inputSetup := true }
    pure true
  else pure false

/-- The loop of `xa_mixer_preprocess`; `true` says that there is something to mix. -/
def xaMixerSetupTracks (env : XaEnv) :
    List (Fin xaMixerMaxTrackNumber) → Bool → XaMixerProg Bool
  | [], e => pure e
  | i :: is, e => do
    let s ← Prog.get
    if !(s.ext.track i).active then xaMixerSetupTracks env is e
    else if (s.ext.track i).inputSetup then xaMixerSetupTracks env is true
    else if ← xaMixerSetupTrack env i then xaMixerSetupTracks env is true
    else pure false

/-- `xa_mixer_preprocess` after the output is set up. -/
def xaMixerSetupInput (env : XaEnv) : XaMixerProg Bool := do
  let s ← Prog.get
  (if !xaMixerCheckActive s.ext then xaMixerOutputProduce 0#32 else pure ⟨⟩)
  xaMixerSetupTracks env (List.finRange xaMixerMaxTrackNumber) false

/-- `xa_mixer_preprocess`: `false` is the non-fatal `XA_MIXER_EXEC_NONFATAL_NO_DATA`. -/
def xaMixerPreprocess (env : XaEnv) : XaMixerProg Bool := do
  let s ← Prog.get
  if s.ext.outputSetup then xaMixerSetupInput env
  else if s.base.runtimeInit then pure true
  else if xfOutputPortData s.ext.output = 0#32 then pure false
  else do
    xaSetMemPtr env xaMixerOutIdx (xfOutputPortData s.ext.output)
    xaExtModify fun mixer => { mixer with outputSetup := !mixer.outputSetup }
    xaMixerSetupInput env

/-- The maintenance of one track in `xa_mixer_postprocess`. -/
def xaMixerFinishTrack (env : XaEnv) (i : Fin xaMixerMaxTrackNumber) : XaMixerProg Unit := do
  let s ← Prog.get
  if !(s.ext.track i).active then pure ⟨⟩
  else do
    xaTrackModify i fun track =>
      { track with inputSetup := false, pts := track.pts + s.ext.frameSize }
    let consumed ← xaMixerGetCuridxInputBuf env i
    xaTrackInputConsume i consumed
    let s ← Prog.get
    if (s.ext.track i).input.done then do
      xaTrackInputPurge i
      xaTrackModify i fun track => { track with active := !track.active, idle := !track.idle }
    else pure ⟨⟩

/-- The loop of `xa_mixer_postprocess`. -/
def xaMixerFinishTracks (env : XaEnv) : List (Fin xaMixerMaxTrackNumber) → XaMixerProg Unit
  | [] => pure ⟨⟩
  | i :: is => do
    xaMixerFinishTrack env i
    xaMixerFinishTracks env is

/-- The end of `xa_mixer_postprocess`: the output port. -/
def xaMixerFinishOutput (env : XaEnv) : XaMixerProg Unit := do
  let produced ← xaMixerGetOutputBytes env
  (if produced ≠ 0#32 then do
    xaExtModify fun mixer => { mixer with pts := mixer.pts + mixer.frameSize }
    xaMixerOutputProduce produced
    xaExtModify fun mixer => { mixer with outputSetup := false }
  else pure ⟨⟩)
  let s ← Prog.get
  if s.ext.output.ready then
    xaBaseSchedule (if produced ≠ 0#32 then s.ext.frameDuration else 0#32)
  else pure ⟨⟩

/-- `xa_mixer_postprocess`. -/
def xaMixerPostprocess (env : XaEnv) (done : U32) : XaMixerProg Unit := do
  let s ← Prog.get
  if done ≠ 0#32 ∧ s.base.runtimeInit = false ∧ s.base.execution = true then
    xaMixerPrepareRuntime env
  else do
    xaMixerFinishTracks env (List.finRange xaMixerMaxTrackNumber)
    xaMixerFinishOutput env

/-- The execution step of the plugin, right before the postprocessing: it has mixed a frame when the
mixer has been in the execution state, in which it never reports to be done, since
`XA_MIXER_FLAG_COMPLETE` is never set. -/
def xaMixerExecuted (done : U32) : XaMixerProg Unit := do
  let s ← Prog.get
  if s.base.execution = true ∧ done = 0#32 then xaMixerDoExecute else pure ⟨⟩

/-- The hooks of a mixer. -/
def xaMixerHooks : XaHooks XaMixer where
  memtab := xaMixerMemtab
  preprocess := xaMixerPreprocess
  postprocess := fun env done => do
    xaMixerExecuted done
    xaMixerPostprocess env done
  getparam := fun env i _ => do
    let _ ← xaApi env .getConfigParam i

/-! ## Termination -/

/-- The loops of the destructors over all tracks. -/
def xaMixerTracks (f : XfInputPort → XfInputPort × List XfMessage) :
    List (Fin xaMixerMaxTrackNumber) → XaMixerProg Unit
  | [] => pure ⟨⟩
  | i :: is => do
    xaTrackInput i fun port => some ((f port).1, (f port).2, ⟨⟩)
    xaMixerTracks f is

/-- `xa_mixer_destroy`. -/
def xaMixerDestroy : XaMixerProg Unit := do
  xaMixerTracks (fun port => (xfInputPortDestroy port, [])) (List.finRange xaMixerMaxTrackNumber)
  xaMixerOutputDestroy
  xaBaseDestroy

/-- `xa_mixer_terminate`: `true` when the output port is flushed. -/
def xaMixerTerminate (m : XfMessage) : XaMixerProg Bool := do
  let s ← Prog.get
  if s.ext.output.isControl m then do
    xaMixerOutputFlushDone
    pure true
  else if m.opcode = .fillThisBuffer ∧ s.ext.output.routed = true then pure false
  else if m.opcode = .unregister then pure false
  else do
    xfResponse m.err
    pure false

/-- `xa_mixer_cleanup`. -/
def xaMixerCleanup (m : XfMessage) : XaMixerProg Unit := do
  xfResponse m.err
  xaBaseCancel
  xaMixerTracks xfInputPortPurge (List.finRange xaMixerMaxTrackNumber)
  if ← xaMixerOutputFlush .flush then xaMixerDestroy
  else Prog.modify fun s => { s with phase := .terminating }

/-- `xa_mixer_cmd`. -/
def xaMixerCmd : XfOpcode → Option (XaEnv → XfMessage → XaMixerProg Unit)
  | .setParam => some (xaBaseSetParam xaMixerHooks)
  | .getParam => some (xaBaseGetParam xaMixerHooks)
  | .route => some xaMixerPortRoute
  | .unroute => some xaMixerPortUnroute
  | .emptyThisBuffer => some xaMixerEmptyThisBuffer
  | .fillThisBuffer => some xaMixerFillThisBuffer
  | .flush => some xaMixerFlush
  | .pause => some xaMixerPause
  | .resume => some xaMixerResume
  | _ => none

/-- The mixer class. -/
def xaMixer : XaClass XaMixer where
  toXaHooks := xaMixerHooks
  command := xaMixerCmd
  cleanup := xaMixerCleanup
  terminate := xaMixerTerminate
  destroy := xaMixerDestroy

/-- A track in zero-initialized memory. -/
def XaTrack.zero : XaTrack := ⟨.zero, 0#32, false, false, false, false, false⟩

/-- The component that `xa_mixer_factory` returns: its memory is zero-initialized, `item` being what
the null pointer of its message pool points to. -/
def xaMixerFactory (task : U32) (item : U32 → XfMessage) (core : XfCore) : XaState XaMixer where
  task := task
  phase := .running
  base := ⟨false, false, false, false, false⟩
  ext :=
    { track := fun _ => .zero
      output := .zero item
      frameSize := 0#32
      frameDuration := 0#32
      pts := 0#32
      outputSetup := false
      plugin := ⟨false, fun _ => 0#32, []⟩ }
  core := core

end Hikey
