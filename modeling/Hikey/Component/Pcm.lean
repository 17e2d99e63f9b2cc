import Hikey.Component.System

/-!
# The PCM codec (`plugins/cadence/pcm_proc/xa-pcm.c`)

The plugin keeps the numbers of bytes that it has consumed and produced, and answers with them until
they are overwritten.  The codec class drives it in bypass mode: the programs of the class run on
their part of the state (`xaPcmCodec`), with the answers of the plugin.

The calls that the base makes of the plugin take place at the end of the preprocessing, right before
the base makes them.  The contents of the samples are left out.
-/

namespace Hikey

/-! ## The plugin -/

/-- The bytes of a sample in one channel. -/
def xaPcmWidthBytes (width : U32) : U32 := if width = 16#32 then 2#32 else 4#32

/-- The configuration, as `xa_pcm_set_config_param` accepts it; it does not change after the
post-initialization. -/
structure XaPcmConfig where
  sampleRate : U32
  inPcmWidth : U32
  outPcmWidth : U32
  inChannels : U32
  outChannels : U32
  chanRouting : U32
  inPcmWidth_eq : inPcmWidth = 16#32 ∨ inPcmWidth = 24#32
  outPcmWidth_eq : outPcmWidth = 16#32 ∨ outPcmWidth = 24#32
  inChannels_range : 0 < inChannels.toNat ∧ inChannels.toNat ≤ 8
  outChannels_range : 0 < outChannels.toNat ∧ outChannels.toNat ≤ 8

/-- `in_stride`. -/
def XaPcmConfig.inStride (c : XaPcmConfig) : U32 := c.inChannels * xaPcmWidthBytes c.inPcmWidth

/-- `out_stride`. -/
def XaPcmConfig.outStride (c : XaPcmConfig) : U32 := c.outChannels * xaPcmWidthBytes c.outPcmWidth

/-- The data processing hooks. -/
inductive XaPcmHook
  | copy
  | pcm16Chmap
  | pcm24Chmap
  | pcm24ToPcm16
  | pcm16ToPcm24
deriving DecidableEq, Repr

/-- `xa_pcm_is_identity_mapping` for `k` channels from channel `j` on. -/
def xaPcmIsIdentityMapping : ℕ → U32 → U32 → Bool
  | 0, _, _ => true
  | k + 1, j, chmap => chmap &&& 0xF#32 = j && xaPcmIsIdentityMapping k (j + 1#32) (chmap >>> 4)

/-- The hook that `xa_pcm_do_runtime_init` selects. -/
def XaPcmConfig.hook (c : XaPcmConfig) : XaPcmHook :=
  if c.inPcmWidth = c.outPcmWidth then
    if c.inChannels ≠ c.outChannels ∨
        xaPcmIsIdentityMapping c.inChannels.toNat 0#32 c.chanRouting = false then
      if c.inPcmWidth = 16#32 then .pcm16Chmap else .pcm24Chmap
    else .copy
  else if c.inPcmWidth = 16#32 then .pcm16ToPcm24 else .pcm24ToPcm16

/-- The number of bytes that a hook consumes of `n` samples.  The loops over the samples advance a
pointer to samples of the hook's own width. -/
def XaPcmHook.consumed (c : XaPcmConfig) (n : U32) : XaPcmHook → U32
  | copy | pcm16Chmap => n * c.inChannels * xaPcmWidthBytes c.inPcmWidth
  | pcm24Chmap | pcm24ToPcm16 => n * c.inChannels * 4#32
  | pcm16ToPcm24 => n * c.inChannels * 2#32

/-- The number of bytes that a hook produces of `n` samples. -/
def XaPcmHook.produced (c : XaPcmConfig) (n : U32) : XaPcmHook → U32
  | copy | pcm16Chmap => n * c.inChannels * xaPcmWidthBytes c.inPcmWidth
  | pcm24Chmap | pcm16ToPcm24 => n * c.inChannels * 4#32
  | pcm24ToPcm16 => n * c.inChannels * 2#32

/-- `XAPcmCodec` after the post-initialization; `running`, `eos` and `complete` are flags of
`state`. -/
structure XaPcm where
  config : XaPcmConfig
  running : Bool
  eos : Bool
  complete : Bool
  insize : U32
  input : U32
  output : U32
  consumed : U32
  produced : U32

/-- `xa_pcm_do_runtime_init`. -/
def xaPcmDoRuntimeInit (d : XaPcm) : XaPcm :=
  { d with running := true, eos := false, complete := false }

/-- The call of the hook, `d->process(d)`; `none` is the fatal `XA_PCM_EXEC_FATAL_STATE`. -/
def xaPcmProcess (d : XaPcm) : Option XaPcm :=
  if d.input ≠ 0#32 ∧ d.insize ≠ 0#32 ∧ d.output ≠ 0#32 then
    some { d with
      consumed := d.config.hook.consumed d.config d.insize
      produced := d.config.hook.produced d.config d.insize
      insize := 0#32 }
  else none

/-- `XA_CMD_TYPE_DO_EXECUTE` of `xa_pcm_execute`; `none` is a fatal error. -/
def xaPcmDoExecute (d : XaPcm) : Option XaPcm :=
  if !d.running then none
  else
    (if d.insize ≠ 0#32 then xaPcmProcess d else some d).map fun d =>
      if d.eos then { d with eos := !d.eos, complete := !d.complete } else d

/-- `xa_pcm_set_input_bytes`, which takes at most 1024 samples. -/
def xaPcmSetInputBytes (d : XaPcm) (idx bytes : U32) : Option XaPcm :=
  let insize := bytes / d.config.inStride
  if idx = 0#32 ∧ d.input ≠ 0#32 ∧ bytes = insize * d.config.inStride then
    some { d with insize := if 1024#32 < insize then 1024#32 else insize }
  else none

/-- `xa_pcm_input_over`. -/
def xaPcmInputOver (d : XaPcm) : XaPcm := { d with eos := true }

/-- `xa_pcm_set_mem_ptr`. -/
def xaPcmSetMemPtr (d : XaPcm) (idx ptr : U32) : Option XaPcm :=
  if ptr = 0#32 then none
  else if idx = 0#32 then some { d with input := ptr }
  else if idx = 1#32 then some { d with output := ptr }
  else none

/-- The answers of the plugin to the queries, which change nothing (`xa_pcm_get_mem_info_size`,
`xa_pcm_get_config_param`, `xa_pcm_get_curidx_input_buf`, `xa_pcm_get_output_bytes`), and to
`XA_CMD_TYPE_DO_RUNTIME_INIT`. -/
def XaPcm.answers (d : XaPcm) (env : XaEnv) : XaEnv :=
  { env with
    api := fun cmd idx =>
      match cmd with
      | .getMemInfoSize =>
        if idx = 0#32 then ⟨false, 0#32⟩
        else if idx = 1#32 then ⟨false, 1024#32 * d.config.outStride⟩
        else ⟨true, 0#32⟩
      | .getConfigParam =>
        if idx = 0x10001#32 then ⟨false, d.config.sampleRate⟩
        else if idx = 0x10000#32 then ⟨false, d.config.outChannels⟩
        else if idx = 0x10002#32 then ⟨false, d.config.outPcmWidth⟩
        else env.api .getConfigParam idx
      -- without an input buffer the error is not fatal, and the variable keeps its zero
      | .getCuridxInputBuf =>
        if idx ≠ 0#32 then ⟨true, 0#32⟩
        else ⟨false, if d.input = 0#32 then 0#32 else d.consumed⟩
      | .getOutputBytes =>
        if idx ≠ 1#32 ∨ d.output = 0#32 then ⟨true, 0#32⟩ else ⟨false, d.produced⟩
      | .doRuntimeInit => ⟨!d.running, 0#32⟩
      | _ => env.api cmd idx }

/-! ## The component -/

/-- What a step reports: the samples that the plugin has processed, the remaining length of the
current message before the step, and the answers of the plugin. -/
structure XaPcmReport where
  samples : U32
  remaining : U32
  consumed : U32
  produced : U32
deriving DecidableEq, Repr

/-- The data of a component: those of the codec class and of the plugin, and the history of the
component.  `samples` is the number of samples of the step that is executed, `reports` are the
reports of all steps, `delivered` and `consumed` count the bytes of the current stream, which ends
when the input is purged. -/
structure XaPcmCodec where
  codec : XaCodec
  pcm : XaPcm
  samples : U32
  reports : List XaPcmReport
  delivered : ℕ
  consumed : ℕ

/-- The programs of a PCM codec. -/
abbrev XaPcmProg := XaProg XaPcmCodec

/-- The part of the state that belongs to the codec class. -/
def XaState.codec (s : XaState XaPcmCodec) : XaState XaCodec where
  task := s.task
  phase := s.phase
  base := s.base
  ext := s.ext.codec
  core := s.core

/-- The state with another part of the codec class. -/
def XaState.withCodec (s : XaState XaPcmCodec) (t : XaState XaCodec) : XaState XaPcmCodec where
  task := t.task
  phase := t.phase
  base := t.base
  ext := { s.ext with codec := t.ext }
  core := t.core

/-- A program of the codec class. -/
def xaPcmCodec {α : Type} (x : XaCodecProg α) : XaPcmProg α :=
  Prog.zoom XaState.codec XaState.withCodec x

/-- A call of the plugin that cannot fail. -/
def xaPcmModify (f : XaPcm → XaPcm) : XaPcmProg Unit :=
  xaExtModify fun c => { c with pcm := f c.pcm }

/-- A call of the plugin. -/
def xaPcmCall (f : XaPcm → Option XaPcm) : XaPcmProg Unit := do
  let s ← Prog.get
  match f s.ext.pcm with
  | none => Prog.fail
  | some d => xaPcmModify fun _ => d

/-- The input port has been purged, which ends the stream. -/
def xaPcmPurged : XaPcmProg Unit :=
  xaExtModify fun c => { c with delivered := 0, consumed := 0 }

/-! ## Hooks -/

/-- The first half of `xa_codec_preprocess`: the output buffer is set up. -/
def xaPcmSetupOutput (env : XaEnv) : XaPcmProg Bool := do
  let s ← Prog.get
  if !s.ext.codec.outputSetup then do
    let output := if s.base.runtimeInit then env.scratch else xfOutputPortData s.ext.codec.output
    if !s.base.runtimeInit && output = 0#32 then pure false
    else do
      xaPcmCall fun d => xaPcmSetMemPtr d s.ext.codec.outIdx output
      xaPcmCodec (xaExtModify fun c => { c with outputSetup := !c.outputSetup })
      pure true
  else pure true

/-- The number of bytes in the input buffer, or nothing when there is no sufficient input. -/
def xaPcmFilled (env : XaEnv) : XaPcmProg (Option U32) := do
  let s ← Prog.get
  if s.ext.codec.input.bypass then
    if s.ext.codec.input.access ≠ 0#32 then do
      xaPcmCall fun d => xaPcmSetMemPtr d s.ext.codec.inIdx s.ext.codec.input.access
      pure (some s.ext.codec.input.remaining)
    else if !s.ext.codec.input.done then pure none
    else pure (some 0#32)
  else xaPcmCodec (xaCodecFilled env)

/-- The second half of `xa_codec_preprocess`: the input buffer is set up. -/
def xaPcmSetupInput (env : XaEnv) : XaPcmProg Bool := do
  let s ← Prog.get
  if !s.ext.codec.inputSetup then do
    match ← xaPcmFilled env with
    | none => pure false
    | some filled => do
      let s ← Prog.get
      (if s.ext.codec.input.done then xaPcmModify xaPcmInputOver else pure ⟨⟩)
      xaPcmCall fun d => xaPcmSetInputBytes d s.ext.codec.inIdx filled
      xaPcmCodec (xaExtModify fun c => { c with inputSetup := !c.inputSetup })
      pure true
  else pure true

/-- The calls of `xa_base_process` between the preprocessing and the postprocessing. -/
def xaPcmExecute : XaPcmProg Unit := do
  let s ← Prog.get
  xaExtModify fun c =>
    { c with
      samples := if !s.base.runtimeInit && s.base.execution then c.pcm.insize else 0#32 }
  if s.base.runtimeInit then xaPcmModify xaPcmDoRuntimeInit
  else if s.base.execution then xaPcmCall xaPcmDoExecute
  else pure ⟨⟩

/-- `xa_codec_preprocess`, and the calls that follow when there is sufficient input. -/
def xaPcmPreprocess (env : XaEnv) : XaPcmProg Bool := do
  if ← xaPcmSetupOutput env then
    if ← xaPcmSetupInput env then do
      xaPcmExecute
      pure true
    else pure false
  else pure false

/-- The report of a step, as `xa_codec_postprocess` asks for it. -/
def xaPcmReport (env : XaEnv) : XaPcmProg Unit := do
  let s ← Prog.get
  let consumed ← xaApi (s.ext.pcm.answers env) .getCuridxInputBuf s.ext.codec.inIdx
  let produced ← (if s.ext.codec.sampleSize ≠ 0#32 then
      xaApi (s.ext.pcm.answers env) .getOutputBytes s.ext.codec.outIdx
    else pure 0#32)
  xaExtModify fun c =>
    { c with
      reports := c.reports ++ [⟨c.samples, s.ext.codec.input.remaining, consumed, produced⟩]
      consumed := c.consumed + consumed.toNat }

/-- `xa_codec_postprocess`.  At the end of the stream the input is purged unless the output has to
be flushed first. -/
def xaPcmPostprocess (env : XaEnv) (done : U32) : XaPcmProg Unit := do
  xaPcmReport env
  let s ← Prog.get
  xaPcmCodec (xaCodecPostprocess (s.ext.pcm.answers env) done)
  let s ← Prog.get
  if done ≠ 0#32 ∧ s.base.runtimeInit = false ∧ s.base.execution = false ∧
      (s.ext.codec.output.routed = false ∨ s.ext.codec.output.idle = true) then xaPcmPurged
  else pure ⟨⟩

/-- The hooks of a PCM codec. -/
def xaPcmHooks : XaHooks XaPcmCodec where
  memtab := fun env idx type size => xaPcmCodec (xaCodecMemtab env idx type size)
  preprocess := xaPcmPreprocess
  postprocess := xaPcmPostprocess
  getparam := fun env i id => xaPcmCodec (xaCodecGetparam env i id)

/-! ## Commands -/

/-- `xa_codec_empty_this_buffer`; it restarts the plugin when it restarts a completed stream. -/
def xaPcmEmptyThisBuffer (env : XaEnv) (m : XfMessage) : XaPcmProg Unit := do
  let s ← Prog.get
  xaPcmCodec (xaCodecEmptyThisBuffer (s.ext.pcm.answers env) m)
  let t ← Prog.get
  (if s.base.completed && !t.base.completed then xaPcmModify xaPcmDoRuntimeInit else pure ⟨⟩)
  (if s.ext.codec.input.enabled then
    xaExtModify fun c => { c with delivered := c.delivered + m.length.toNat }
  else pure ⟨⟩)

/-- `xa_codec_fill_this_buffer`; the flow-control message purges the input. -/
def xaPcmFillThisBuffer (env : XaEnv) (m : XfMessage) : XaPcmProg Unit := do
  let s ← Prog.get
  xaPcmCodec (xaCodecFillThisBuffer env m)
  if !s.base.runtimeInit && s.ext.codec.output.isControl m then xaPcmPurged else pure ⟨⟩

/-- `xa_codec_flush`; the flush of the input restarts the plugin. -/
def xaPcmFlush (env : XaEnv) (m : XfMessage) : XaPcmProg Unit := do
  let s ← Prog.get
  xaPcmCodec (xaCodecFlush (s.ext.pcm.answers env) m)
  if m.dstPort = 0#16 then do
    xaPcmModify xaPcmDoRuntimeInit
    xaPcmPurged
  else pure ⟨⟩

/-- `xa_codec_cmd`. -/
def xaPcmCmd : XfOpcode → Option (XaEnv → XfMessage → XaPcmProg Unit)
  | .setParam => some (xaBaseSetParam xaPcmHooks)
  | .getParam => some (xaBaseGetParam xaPcmHooks)
  | .emptyThisBuffer => some xaPcmEmptyThisBuffer
  | .fillThisBuffer => some xaPcmFillThisBuffer
  | .flush => some xaPcmFlush
  | op => (xaCodecCmd op).map fun cmd env m => xaPcmCodec (cmd env m)

/-- The codec class with the PCM plugin. -/
def xaPcmAudioCodec : XaClass XaPcmCodec where
  toXaHooks := xaPcmHooks
  command := xaPcmCmd
  cleanup := fun m => xaPcmCodec (xaAudioCodecCleanup m)
  terminate := fun m => xaPcmCodec (xaAudioCodecTerminate m)
  destroy := xaPcmCodec xaAudioCodecDestroy

/-- A PCM codec with a configuration, as `xa_audio_codec_factory` and
`XA_CMD_TYPE_INIT_API_PRE_CONFIG_PARAMS` leave it. -/
def xaPcmFactory (config : XaPcmConfig) (task : U32) (item : U32 → XfMessage) (core : XfCore) :
    XaState XaPcmCodec :=
  let s := xaAudioCodecFactory task item core
  { task := s.task
    phase := s.phase
    base := s.base
    ext :=
      { codec := s.ext
        pcm := ⟨config, false, false, false, 0#32, 0#32, 0#32, 0#32, 0#32⟩
        samples := 0#32
        reports := []
        delivered := 0
        consumed := 0 }
    core := s.core }

end Hikey
