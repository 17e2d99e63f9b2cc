import Hikey.Codec.Setup
import Hikey.Mixer.Rules

/-!
# The frames of a mixer

A mixing step writes a frame to the output pointer of the plugin, and gives away the first message
of the output queue with it.  The flag `XA_MIXER_FLAG_OUTPUT_SETUP` says that the pointer is the
buffer of that message.  The end of the stream, which `xa_mixer_preprocess` announces with the same
message, leaves the flag behind.
-/

namespace Hikey

open Prog

variable {s t : XaState XaMixer} {env : XaEnv} {m : XfMessage} {F : List XaFrame}

/-! ## The answers of the plugin -/

/-- The answers of `xa-mixer.c` in a process step after the post-initialization: no call ends with a
fatal error, the run-time initialization is done at once, and the mixing never. -/
def XaEnv.IsMixer (env : XaEnv) : Prop :=
  env.api .initProcess 0#32 = ⟨false, 0#32⟩ ∧ env.api .initDoneQuery 0#32 = ⟨false, 1#32⟩ ∧
  env.api .doExecute 0#32 = ⟨false, 0#32⟩ ∧ env.api .doneQuery 0#32 = ⟨false, 0#32⟩ ∧
  (env.api .setMemPtr xaMixerOutIdx).fatal = false ∧
  (env.api .getOutputBytes xaMixerOutIdx).fatal = false ∧
  ∀ i, (env.api .setInputBytes (xaTrackIdx i)).fatal = false ∧
    (env.api .getCuridxInputBuf (xaTrackIdx i)).fatal = false

/-- A process step announces the end of the stream: there is an output message, and no track is
active or has received data. -/
def XaMixerEnds (s : XaState XaMixer) : Prop :=
  (s.ext.outputSetup = true ∨
    s.base.runtimeInit = false ∧ xfOutputPortData s.ext.output ≠ 0#32) ∧
    xaMixerCheckActive s.ext = false

/-- The command completes the unrouting of the output port while the output is set up. -/
def XaMixerDrains (s : XaState XaMixer) (m : XfMessage) : Prop :=
  s.phase = .running ∧ m.opcode = .flush ∧ m.length = 0#32 ∧ m.dstPort = xaMixerOutputPort ∧
    s.ext.output.unrouting = true ∧ s.ext.outputSetup = true

/-- The condition on the events of a run: the plugin is that of the mixer, no process step announces
the end of the stream, and the unrouting is not completed while the output is set up. -/
def XaMixerKeepsOutput (s : XaState XaMixer) (e : XaEvent) : Prop :=
  (∀ m ∈ e.message s, ¬ XaMixerDrains s m) ∧
    match e with
    | .process env => env.IsMixer ∧ ¬ XaMixerEnds s
    | _ => True

instance (env : XaEnv) : Decidable env.IsMixer := by
  unfold XaEnv.IsMixer
  infer_instance

instance (s : XaState XaMixer) (e : XaEvent) : Decidable (XaMixerKeepsOutput s e) := by
  unfold XaMixerKeepsOutput XaMixerDrains XaMixerEnds
  match e with
  | .command .. | .deliver .. | .sinkReturn .. | .process .. | .otherPut .. | .otherCancel .. =>
    infer_instance

/-! ## The output pointer -/

/-- The stages of a mixer, and its output pointer: when it is set up, it is the buffer of the first
output message. -/
structure XaMixerOutputOk (s : XaState XaMixer) : Prop where
  initial : s.base.postinit = false → s.base.runtimeInit = false ∧ s.base.execution = false ∧
    s.ext.outputSetup = false ∧ s.ext.output.queue = []
  stage : s.base.postinit = true → s.base.runtimeInit = true ∨ s.base.execution = true
  runtimeInit : s.base.runtimeInit = true → s.base.execution = false ∧ s.ext.outputSetup = false
  setup : s.ext.outputSetup = true →
    ∃ m queue, s.ext.output.queue = m :: queue ∧ s.core.memPtr xaMixerOutIdx = m.buffer

/-- The output pointer is good, and the plugin has written the frames `F`. -/
def XaMixerQuiet (F : List XaFrame) (s : XaState XaMixer) : Prop :=
  XaMixerOutputOk s ∧ s.ext.plugin.frames = F

/-- Nothing is asked of the output queue of the initialized mixer. -/
structure XaMixerClear (F : List XaFrame) (s : XaState XaMixer) : Prop where
  postinit : s.base.postinit = true
  stage : s.base.runtimeInit = true ∨ s.base.execution = true
  runtimeInit : s.base.runtimeInit = true → s.base.execution = false
  setup : s.ext.outputSetup = false
  frames : s.ext.plugin.frames = F

lemma XaMixerClear.quiet (h : XaMixerClear F s) : XaMixerQuiet F s :=
  ⟨⟨fun hpost => by simp [h.postinit] at hpost, fun _ => h.stage,
    fun hinit => ⟨h.runtimeInit hinit, h.setup⟩, fun hset => by simp [h.setup] at hset⟩, h.frames⟩

lemma inputFree_quiet : XaMixerInputFree (XaMixerQuiet F) := by
  rintro s s' hsame ⟨hs, hframes⟩
  refine ⟨⟨?_, ?_, ?_, ?_⟩, hsame.frames.trans hframes⟩
  · rw [hsame.postinit, hsame.runtimeInit, hsame.execution, hsame.outputSetup, hsame.output]
    exact hs.initial
  · rw [hsame.postinit, hsame.runtimeInit, hsame.execution]
    exact hs.stage
  · rw [hsame.runtimeInit, hsame.execution, hsame.outputSetup]
    exact hs.runtimeInit
  · rw [hsame.outputSetup, hsame.output, hsame.memPtr]
    exact hs.setup

lemma inputFree_clear : XaMixerInputFree (XaMixerClear F) := by
  intro s s' hsame hs
  refine ⟨hsame.postinit.trans hs.postinit, ?_, ?_, hsame.outputSetup.trans hs.setup,
    hsame.frames.trans hs.frames⟩
  · rw [hsame.runtimeInit, hsame.execution]
    exact hs.stage
  · rw [hsame.runtimeInit, hsame.execution]
    exact hs.runtimeInit

lemma keeps_output_clear_mixer {α : Type}
    (f : XfOutputPort → Option (XfOutputPort × List XfMemEvent × List XfMessage × α)) :
    Keeps (XaMixerClear F) (xaMixerOutput f) := by
  intro s hs
  rw [wp_xaMixerOutput]
  exact fun r _ => ⟨hs.postinit, hs.stage, hs.runtimeInit, hs.setup, hs.frames⟩

/-- Messages that are put at the end of the output queue leave its first message where it is. -/
lemma XaMixerQuiet.append (h : XaMixerQuiet F s) {output : XfOutputPort} {ms done : List XfMessage}
    {mem : List XfMemEvent} (hpost : s.base.postinit = true)
    (hqueue : output.queue = s.ext.output.queue ++ ms) : XaMixerQuiet F { s with
      ext := { s.ext with output := output }
      core := done.foldl XfCore.complete { s.core with mem := s.core.mem ++ mem } } := by
  refine ⟨⟨fun hnot => ?_, h.1.stage, h.1.runtimeInit, fun hset => ?_⟩, h.2⟩
  · have hnot : s.base.postinit = false := hnot
    simp [hpost] at hnot
  · obtain ⟨m, queue, hq, hptr⟩ := h.1.setup hset
    exact ⟨m, queue ++ ms, by simp [hqueue, hq], by simpa using hptr⟩

/-! ## Commands -/

/-- The post-initialization: nothing is set up, and there is nothing to write to. -/
structure XaMixerInitial (F : List XaFrame) (s : XaState XaMixer) : Prop where
  postinit : s.base.postinit = false
  runtimeInit : s.base.runtimeInit = false
  execution : s.base.execution = false
  setup : s.ext.outputSetup = false
  queue : s.ext.output.queue = []
  frames : s.ext.plugin.frames = F

lemma XaMixerInitial.quiet (h : XaMixerInitial F s) : XaMixerQuiet F s :=
  ⟨⟨fun _ => ⟨h.runtimeInit, h.execution, h.setup, h.queue⟩, fun hpost => by
    simp [h.postinit] at hpost, fun hinit => by simp [h.runtimeInit] at hinit,
    fun hset => by simp [h.setup] at hset⟩, h.frames⟩

lemma inputFree_initial : XaMixerInputFree (XaMixerInitial F) := fun _ _ hsame hs =>
  ⟨hsame.postinit.trans hs.postinit, hsame.runtimeInit.trans hs.runtimeInit,
    hsame.execution.trans hs.execution, hsame.outputSetup.trans hs.setup,
    by rw [hsame.output, hs.queue], hsame.frames.trans hs.frames⟩

lemma keeps_setMemPtr_initial (idx ptr : U32) :
    Keeps (XaMixerInitial F) (xaSetMemPtr env idx ptr) :=
  Keeps.bind (Keeps.modify fun _ hs => by
    exact ⟨hs.postinit, hs.runtimeInit, hs.execution, hs.setup, hs.queue, hs.frames⟩)
    fun _ => (keeps_xaApi _ _).bind fun _ => Keeps.pure _

lemma keeps_memtab_initial (idx type size : U32) :
    Keeps (XaMixerInitial F) (xaMixerMemtab env idx type size) := by
  unfold xaMixerMemtab
  refine Keeps.ite (fun _ => ?_) fun _ => ?_
  · cases xaMixerTrack (idx.setWidth 16) with
    | none => exact Keeps.fail
    | some i =>
      exact (Keeps.check _).bind fun _ => (inputFree_initial.keeps_trackInput _).bind fun _ =>
        (Keeps.check _).bind fun _ => (inputFree_initial.keeps_trackModify _).bind fun _ =>
          (keeps_xaApi _ _).bind fun _ => inputFree_initial.keeps_trackModify _
  · refine (Keeps.check _).bind fun _ => (Keeps.check _).bind fun _ => (keeps_xaApi _ _).bind
      fun _ => Keeps.bind (Keeps.modify fun _ hs => by
        exact ⟨hs.postinit, hs.runtimeInit, hs.execution, hs.setup, hs.queue, hs.frames⟩)
        fun _ s hs => ?_
    rw [wp_xaMixerOutput]
    rintro r hr
    obtain rfl := Option.some_inj.mp hr
    exact ⟨hs.postinit, hs.runtimeInit, hs.execution, hs.setup, rfl, hs.frames⟩

lemma keeps_setParam_quiet : Keeps (XaMixerQuiet F) (xaBaseSetParam xaMixerHooks env m) := by
  refine keeps_xaBaseSetParam (J := XaMixerInitial F) ?_ (fun _ h => h.quiet) (fun i => ?_) ?_
    (inputFree_quiet.keepsResponse m)
  · rintro s ⟨hs, hframes⟩ hpost
    obtain ⟨hinit, hexec, hsetup, hqueue⟩ := hs.initial hpost
    exact ⟨hpost, hinit, hexec, hsetup, hqueue, hframes⟩
  · refine (keeps_xaApi _ _).bind fun type => (keeps_xaApi _ _).bind fun size =>
      (keeps_xaApi _ _).bind fun align => Keeps.ite (fun _ => ?_) fun _ => Keeps.ite (fun _ => ?_)
        fun _ => Keeps.ite (fun _ => keeps_memtab_initial _ _ _) fun _ => Keeps.fail
    · exact (Keeps.check _).bind fun _ => (Keeps.check _).bind fun _ => keeps_setMemPtr_initial _ _
    · exact (Keeps.check _).bind fun _ => keeps_setMemPtr_initial _ _
  · intro s hs
    refine XaMixerClear.quiet ⟨?_, ?_, ?_, hs.setup, hs.frames⟩
    · simp [hs.postinit]
    · simp [hs.runtimeInit]
    · simp [hs.execution]

lemma keeps_fillThisBuffer_quiet : Keeps (XaMixerQuiet F) (xaMixerFillThisBuffer env m) := by
  intro s hs
  simp only [xaMixerFillThisBuffer, wp_bind, wp_check, wp_get, wp_ite, wp_pure]
  have hput (hpost : s.base.postinit = true) : wp (xaMixerOutputPut m)
      (fun first t => wp (if first = true then xaBaseSchedule 0#32 else pure ⟨⟩)
        (fun _ => XaMixerQuiet F) (XaMixerQuiet F) t) (XaMixerQuiet F) s := by
    rw [xaMixerOutputPut, wp_xaMixerOutput]
    rintro r hr
    obtain rfl := Option.some_inj.mp hr
    exact Keeps.ite (fun _ => inputFree_quiet.keeps_schedule _) (fun _ => Keeps.pure _) _
      (hs.append hpost rfl)
  exact ⟨fun _ => ⟨fun hpost => ⟨fun _ => ⟨fun _ => hput hpost, fun _ => hs⟩, fun _ =>
    ⟨fun _ => ⟨fun _ => hput hpost, fun _ => hs⟩, fun _ => hput hpost⟩⟩, fun _ => hs⟩, fun _ => hs⟩

lemma keeps_portRoute_quiet : Keeps (XaMixerQuiet F) (xaMixerPortRoute env m) := by
  intro s hs
  simp only [xaMixerPortRoute, wp_bind (x := Prog.get), wp_get, wp_bind (x := Prog.check _),
    wp_check]
  refine ⟨fun hpost => ⟨fun _ => ⟨fun _ => ?_, fun _ => hs⟩, fun _ => hs⟩, fun _ => hs⟩
  rw [wp_bind, xaMixerOutputRoute, wp_xaMixerOutput]
  rintro r hr
  obtain ⟨⟨output, mem, ok⟩, hroute, rfl⟩ := Option.map_eq_some_iff.mp hr
  obtain ⟨ms, hms⟩ := queue_xfOutputPortRoute hroute
  exact Keeps.bind (Keeps.check _) (fun _ => (inputFree_quiet.keeps_schedule _).bind fun _ =>
    inputFree_quiet.keeps_response _) _ (hs.append hpost hms)

lemma keeps_portUnroute_quiet : Keeps (XaMixerQuiet F) (xaMixerPortUnroute env m) := by
  intro s hs
  rw [xaMixerPortUnroute, wp_bind, wp_get, wp_bind, wp_check]
  refine ⟨fun hpost => ?_, fun _ => hs⟩
  rw [wp_bind, wp_check]
  refine ⟨fun _ => ?_, fun _ => hs⟩
  rw [wp_bind]
  refine wp_xaBaseCancel_of fun flag sched => ?_
  rw [wp_bind, wp_xaExtModify]
  refine wp_mono (Keeps.bind (keeps_output_clear_mixer _) (fun _ => Keeps.ite (fun _ => ?_)
    fun _ => keeps_output_clear_mixer _) _ ?_) (fun _ _ h => h.quiet) fun _ h => h.quiet
  · exact (keeps_output_clear_mixer _).bind fun _ => inputFree_clear.keeps_response _
  · exact ⟨hpost, hs.1.stage hpost, fun hinit => (hs.1.runtimeInit hinit).1, rfl, hs.2⟩

lemma queue_xfOutputPortUnrouteDone {port port' : XfOutputPort} {mem : List XfMemEvent}
    {m : XfMessage} (h : xfOutputPortUnrouteDone port = some (port', mem, m)) :
    port'.queue = [] := by
  unfold xfOutputPortUnrouteDone xfOutputPortUnroute at h
  cases hunroute : port.unroute with
  | none => simp [hunroute] at h
  | some m' =>
    by_cases hn : port.pool.n = 0#32
    · simp [hunroute, hn] at h
    · simp only [hunroute, hn, if_false, Option.some.injEq, Prod.mk.injEq] at h
      rw [← h.1]

lemma wp_flush_quiet (hphase : s.phase = .running) (hop : m.opcode = .flush)
    (hnot : ¬ XaMixerDrains s m) (hs : XaMixerQuiet F s) :
    wp (xaMixerFlush env m) (fun _ => XaMixerQuiet F) (XaMixerQuiet F) s := by
  by_cases hport : m.dstPort = xaMixerOutputPort
  · rw [xaMixerFlush, wp_bind, wp_check]
    refine ⟨fun hlength => ?_, fun _ => hs⟩
    rw [wp_bind, wp_get, if_pos hport, wp_bind, wp_check]
    refine ⟨fun hunrouting => ?_, fun _ => hs⟩
    have hclear : s.ext.outputSetup = false := by
      by_contra hset
      exact hnot ⟨hphase, hop, by simpa using hlength, hport, hunrouting, by simpa using hset⟩
    rw [xaMixerOutputUnrouteDone, wp_xaMixerOutput]
    rintro r hr
    obtain ⟨⟨output, mem, m'⟩, hdone, rfl⟩ := Option.map_eq_some_iff.mp hr
    refine ⟨⟨fun hpost => ?_, hs.1.stage, fun hinit => ⟨(hs.1.runtimeInit hinit).1, hclear⟩,
      fun hset => ?_⟩, hs.2⟩
    · obtain ⟨hinit, hexec, hset, -⟩ := hs.1.initial hpost
      exact ⟨hinit, hexec, hset, queue_xfOutputPortUnrouteDone hdone⟩
    · have hset : s.ext.outputSetup = true := hset
      simp [hclear] at hset
  · exact inputFree_quiet.keeps_flushTrack hport s hs

lemma wp_command_quiet (hphase : s.phase = .running) (hnot : ¬ XaMixerDrains s m)
    (hs : XaMixerQuiet F s) :
    wp (xaBaseCommand xaMixer env m) (fun _ => XaMixerQuiet F) (XaMixerQuiet F) s := by
  rw [xaBaseCommand, show xaMixer.command = xaMixerCmd from rfl]
  cases hop : m.opcode with
  | setParam => exact keeps_setParam_quiet s hs
  | getParam => exact inputFree_quiet.keeps_getParam s hs
  | route => exact keeps_portRoute_quiet s hs
  | unroute => exact keeps_portUnroute_quiet s hs
  | emptyThisBuffer => exact inputFree_quiet.keeps_emptyThisBuffer s hs
  | fillThisBuffer => exact keeps_fillThisBuffer_quiet s hs
  | flush => exact wp_flush_quiet hphase hop hnot hs
  | pause => exact inputFree_quiet.keeps_pause s hs
  | resume => exact inputFree_quiet.keeps_resume s hs
  | unregister | setParamExt | getParamExt | other => exact hs

/-! ## The process step -/

/-- The plugin answers without a fatal error. -/
lemma wp_finishTracks_noError (hmixer : env.IsMixer) (is : List (Fin xaMixerMaxTrackNumber)) :
    wp (xaMixerFinishTracks env is) (fun _ _ => True) (fun _ => False) s := by
  induction is generalizing s with
  | nil => trivial
  | cons i is ih =>
    obtain ⟨-, -, -, -, -, -, hi⟩ := hmixer
    have htrack : wp (xaMixerFinishTrack env i) (fun _ _ => True) (fun _ => False) s := by
      simp only [xaMixerFinishTrack, xaMixerGetCuridxInputBuf, xaTrackInputConsume,
        xaTrackInputPurge, xaTrackModify, xaPluginModify, wp_bind, wp_get, wp_ite, wp_pure,
        wp_xaExtModify, wp_xaApi, wp_xaTrackInput, (hi i).2]
      simp
    rw [xaMixerFinishTracks, wp_bind]
    exact wp_mono htrack (fun _ _ _ => ih) fun _ h => h

/-- The plugin is done with the run-time initialization at once, and with the execution never. -/
lemma wp_execute_mixer (hmixer : env.IsMixer) {Q : U32 → XaState XaMixer → Prop}
    {E : XaState XaMixer → Prop}
    (hinit : s.base.runtimeInit = true → Q 1#32 { s with
      base := { s.base with
        runtimeInit := !s.base.runtimeInit, execution := !s.base.execution } })
    (hexec : s.base.runtimeInit = false → s.base.execution = true → Q 0#32 s)
    (hnone : s.base.runtimeInit = false → s.base.execution = false → Q env.done s) :
    wp (xaBaseExecute env) Q E s := by
  obtain ⟨hprocess, hdone, hexecute, hnever, -⟩ := hmixer
  rw [xaBaseExecute, wp_bind, wp_get, wp_ite]
  refine ⟨fun h => ?_, fun h => ?_⟩
  · simp only [wp_bind, wp_xaApi, wp_ite, wp_xaBaseModify, wp_pure, hprocess, hdone]
    exact ⟨fun _ => ⟨fun _ => ⟨fun _ => hinit h, fun h => absurd (by decide) h⟩,
      fun h => by cases h⟩,
      fun h => by cases h⟩
  · have h : s.base.runtimeInit = false := by simpa using h
    rw [wp_ite, wp_pure]
    refine ⟨fun he => ?_, fun he => hnone h (by simpa using he)⟩
    simp only [wp_bind, wp_xaApi, wp_ite, wp_xaBaseModify, wp_pure, hexecute, hnever]
    exact ⟨fun _ => ⟨fun _ => ⟨fun h => absurd rfl h, fun _ => hexec h he⟩, fun h => by cases h⟩,
      fun h => by cases h⟩

section Postprocess

variable {Q : Unit → XaState XaMixer → Prop} {E : XaState XaMixer → Prop}

/-- The postprocessing at the end of the run-time initialization. -/
lemma wp_postprocess_init (hinit : s.base.runtimeInit = false) (hexec : s.base.execution = true) :
    wp (xaMixerHooks.postprocess env 1#32) Q E s ↔ wp (xaMixerPrepareRuntime env) Q E s := by
  rw [xaMixerHooks, wp_bind, xaMixerExecuted, wp_bind, wp_get, if_neg (by simp), wp_pure,
    xaMixerPostprocess, wp_bind, wp_get, if_pos (by simp [hinit, hexec])]

/-- The postprocessing of a frame, which has been written just before. -/
lemma wp_postprocess_frame (hexec : s.base.execution = true) :
    wp (xaMixerHooks.postprocess env 0#32) Q E s ↔ wp (do
        xaMixerFinishTracks env (List.finRange xaMixerMaxTrackNumber)
        xaMixerFinishOutput env) Q E { s with
      ext := { s.ext with
        plugin := { s.ext.plugin with
          output := true
          frames := s.ext.plugin.frames ++
            [⟨s.core.memPtr xaMixerOutIdx, xaMixerMixed s.ext⟩] } } } := by
  rw [xaMixerHooks, wp_bind, xaMixerExecuted, wp_bind, wp_get, if_pos ⟨hexec, rfl⟩,
    xaMixerDoExecute, wp_bind, wp_get, xaPluginModify, wp_xaExtModify, xaMixerPostprocess, wp_bind,
    wp_get, if_neg (by simp)]

end Postprocess

/-- The set-up of the output, by which the component gets to the state `r`, and the input side after
it. -/
lemma wp_preprocess_quiet (hnot : ¬ XaMixerEnds s) (hs : XaMixerQuiet F s) :
    wp (xaMixerPreprocess env) (fun ok t => ∃ r, XaMixerQuiet F r ∧ XaMixerInputOnly r t ∧
      r.base = s.base ∧ r.ext.output = s.ext.output ∧
      (ok = true → s.base.runtimeInit = false → r.ext.outputSetup = true)) (XaMixerQuiet F) s := by
  -- without an announcement only the input is set up
  have hinput (r : XaState XaMixer) (hr : XaMixerQuiet F r) (hbase : r.base = s.base)
      (houtput : r.ext.output = s.ext.output) (hset : r.ext.outputSetup = true)
      (hactive : xaMixerCheckActive r.ext = true) :
      wp (xaMixerSetupInput env) (fun ok t => ∃ r, XaMixerQuiet F r ∧ XaMixerInputOnly r t ∧
        r.base = s.base ∧ r.ext.output = s.ext.output ∧
        (ok = true → s.base.runtimeInit = false → r.ext.outputSetup = true))
          (XaMixerQuiet F) r := by
    rw [xaMixerSetupInput, wp_bind, wp_get, wp_bind, if_neg (by simp [hactive]), wp_pure]
    exact wp_mono (inputFree_inputOnly.keeps_setupTracks _ _ r (.refl r))
      (fun _ t ht => ⟨r, hr, ht, hbase, houtput, fun _ _ => hset⟩)
      fun t ht => inputFree_quiet r t ht hr
  simp only [xaMixerPreprocess, wp_bind (x := Prog.get), wp_get, wp_ite, wp_pure]
  refine ⟨fun hset => ?_, fun hset => ⟨fun hinit => ⟨s, hs, .refl s, rfl, rfl, fun _ h => ?_⟩,
    fun hinit => ⟨fun _ => ⟨s, hs, .refl s, rfl, rfl, fun h => by cases h⟩, fun hdata => ?_⟩⟩⟩
  · refine hinput s hs rfl rfl hset ?_
    by_contra hactive
    exact hnot ⟨.inl hset, by simpa using hactive⟩
  · simp [hinit] at h
  · have hinit : s.base.runtimeInit = false := by simpa using hinit
    have hset : s.ext.outputSetup = false := by simpa using hset
    have hactive : xaMixerCheckActive s.ext = true := by
      by_contra hactive
      exact hnot ⟨.inr ⟨hinit, hdata⟩, by simpa using hactive⟩
    rw [wp_bind, wp_xaSetMemPtr]
    refine ⟨fun _ => ?_, fun _ => ?_⟩
    · rw [wp_bind, wp_xaExtModify]
      refine hinput _ ⟨⟨fun hpost => ?_, hs.1.stage, fun h => ?_, fun _ => ?_⟩, hs.2⟩ rfl rfl
        (by simp [hset]) hactive
      · obtain ⟨-, -, -, hqueue⟩ := hs.1.initial hpost
        simp [hqueue, xfOutputPortData] at hdata
      · have h : s.base.runtimeInit = true := h
        simp [hinit] at h
      · -- the buffer of the first message
        cases hqueue : s.ext.output.queue with
        | nil => simp [hqueue, xfOutputPortData] at hdata
        | cons m queue => exact ⟨m, queue, rfl, by simp [hqueue, xfOutputPortData]⟩
    · exact ⟨⟨hs.1.initial, hs.1.stage, hs.1.runtimeInit, fun h => by simp [hset] at h⟩, hs.2⟩

/-- A step writes no frame, or it writes one to the buffer of the first output message, which is the
last message that it completes, with this frame. -/
def XaMixerFrameOk (s s' : XaState XaMixer) : Prop :=
  s'.ext.plugin.frames = s.ext.plugin.frames ∨
  ∃ m queue mixed core, s.ext.output.queue = m :: queue ∧ s'.ext.output.queue = queue ∧
    s'.ext.plugin.frames = s.ext.plugin.frames ++ [⟨m.buffer, mixed⟩] ∧
    s'.core.sink = (XfCore.complete core (m.withLength xaMixerBufferSize)).sink ∧
    s'.core.proxy = (XfCore.complete core (m.withLength xaMixerBufferSize)).proxy

/-- The end of a mixing step: a frame has been written to the output pointer. -/
lemma wp_finish_frame (hmixer : env.IsMixer) (mixed : Fin xaMixerMaxTrackNumber → List UInt8)
    {r : XaState XaMixer} (hr : XaMixerQuiet F r) (hset : r.ext.outputSetup = true)
    (hsame : XaMixerInputOnly { r with ext := { r.ext with plugin := { r.ext.plugin with
      output := true, frames := F ++ [⟨r.core.memPtr xaMixerOutIdx, mixed⟩] } } } s) :
    wp (do
        xaMixerFinishTracks env (List.finRange xaMixerMaxTrackNumber)
        xaMixerFinishOutput env)
      (fun _ t => XaMixerOutputOk t ∧ ∃ m queue core, r.ext.output.queue = m :: queue ∧
        t.ext.output.queue = queue ∧ t.ext.plugin.frames = F ++ [⟨m.buffer, mixed⟩] ∧
        t.core.sink = (XfCore.complete core (m.withLength xaMixerBufferSize)).sink ∧
        t.core.proxy = (XfCore.complete core (m.withLength xaMixerBufferSize)).proxy)
      (fun _ => False) s := by
  obtain ⟨m, queue, hqueue, hptr⟩ := hr.1.setup hset
  rw [wp_bind]
  refine wp_mono (wp_and (inputFree_inputOnly.keeps_finishTracks _ s hsame)
    (wp_finishTracks_noError hmixer _)) (fun _ t ht => ?_) fun _ h => h.2
  obtain ⟨ht, -⟩ := ht
  have htqueue : t.ext.output.queue = m :: queue := by rw [ht.output, ← hqueue]
  have hwritten : t.ext.plugin.output = true := ht.written
  obtain ⟨-, -, -, -, -, hbytes, -⟩ := hmixer
  rw [xaMixerFinishOutput, wp_bind, xaMixerGetOutputBytes, wp_bind, wp_xaApi]
  refine ⟨fun _ => ?_, fun hfatal => by simp [hbytes] at hfatal⟩
  rw [wp_bind, wp_get, wp_pure, hwritten, if_pos rfl, wp_bind, if_pos (by decide), wp_bind,
    wp_xaExtModify, wp_bind, xaMixerOutputProduce, wp_xaMixerOutput]
  rintro r' hr'
  obtain ⟨⟨output, m'⟩, hproduce, rfl⟩ := Option.map_eq_some_iff.mp hr'
  rw [xfOutputPortProduce] at hproduce
  simp only [htqueue, Option.some.injEq, Prod.mk.injEq] at hproduce
  obtain ⟨rfl, rfl⟩ := hproduce
  rw [wp_xaExtModify, wp_bind, wp_get, wp_ite, wp_pure]
  have hstage : t.base.postinit = true := by
    by_contra hpost
    rw [ht.postinit] at hpost
    obtain ⟨-, -, hclear, -⟩ := hr.1.initial (by simpa using hpost)
    simp [hset] at hclear
  have hinit : t.base.runtimeInit = false := by
    rw [ht.runtimeInit]
    by_contra hinit
    have := (hr.1.runtimeInit (by simpa using hinit)).2
    simp [hset] at this
  have hexec : t.base.execution = true := by
    rw [ht.execution]
    have hpost : r.base.postinit = true := ht.postinit ▸ hstage
    exact (hr.1.stage hpost).resolve_left fun h => by
      have := (hr.1.runtimeInit h).2
      simp [hset] at this
  have hok (core : XfCore) (flag : Bool) : XaMixerOutputOk { t with
      base := { t.base with schedule := flag }
      ext := { t.ext with
        output := { t.ext.output with queue := queue, idle := false }
        pts := t.ext.pts + t.ext.frameSize
        outputSetup := false }
      core := core } :=
    ⟨fun hpost => by simp [hstage] at hpost, fun _ => .inr hexec, fun h => by simp [hinit] at h,
      fun h => by simp at h⟩
  have hframes : t.ext.plugin.frames = F ++ [⟨m.buffer, mixed⟩] := by rw [ht.frames, ← hptr]
  refine ⟨fun _ => wp_xaBaseSchedule_of fun flag sched => ?_, fun _ => ?_⟩
  · exact ⟨hok _ flag, m, queue, { t.core with mem := t.core.mem ++ [] }, hqueue, rfl, hframes, rfl,
      rfl⟩
  · exact ⟨hok _ t.base.schedule, m, queue, { t.core with mem := t.core.mem ++ [] }, hqueue, rfl,
      hframes, rfl, rfl⟩

/-- The end of the run-time initialization, in which no frame is written. -/
lemma keeps_prepareRuntime_clear : Keeps (XaMixerClear F) (xaMixerPrepareRuntime env) := by
  refine keeps_prepareRuntime_of (fun f _ _ hset hplugin => ?_) inputFree_clear.keeps_response
  exact Keeps.modify fun t ht => ⟨ht.postinit, ht.stage, ht.runtimeInit, (hset _).trans ht.setup, by
    simp only [hplugin, ht.frames]⟩

/-- A process step that does not announce the end of the stream writes its frame to the message that
it gives away. -/
lemma wp_process_frame (hmixer : env.IsMixer) (hnot : ¬ XaMixerEnds s) (hs : XaMixerOutputOk s) :
    wp (xaBaseProcess xaMixerHooks env) (fun _ t => XaMixerOutputOk t ∧ XaMixerFrameOk s t)
      (fun t => XaMixerOutputOk t ∧ XaMixerFrameOk s t) s := by
  have hquiet (t : XaState XaMixer) (ht : XaMixerQuiet s.ext.plugin.frames t) :
      XaMixerOutputOk t ∧ XaMixerFrameOk s t := ⟨ht.1, .inl ht.2⟩
  have hs' : XaMixerQuiet s.ext.plugin.frames
      { s with base := { s.base with schedule := false } } :=
    ⟨⟨hs.initial, hs.stage, hs.runtimeInit, hs.setup⟩, rfl⟩
  rw [xaBaseProcess, wp_bind, wp_xaBaseModify, wp_bind]
  refine wp_mono (wp_preprocess_quiet hnot hs') (fun ok t ht => ?_) fun t ht => hquiet t ht
  obtain ⟨r, hr, hsame, hbase, houtput, hset⟩ := ht
  have htquiet := inputFree_quiet r t hsame hr
  rw [wp_ite]
  refine ⟨fun hok => ?_, fun _ => hquiet t htquiet⟩
  have hset := hset hok
  have hsinit : t.base.runtimeInit = s.base.runtimeInit := by rw [hsame.runtimeInit, hbase]
  have hpost (hne : t.base.runtimeInit = true ∨ t.ext.outputSetup = true) :
      t.base.postinit = true := by
    by_contra hpost
    obtain ⟨hinit, -, hclear, -⟩ := htquiet.1.initial (by simpa using hpost)
    simp [hinit, hclear] at hne
  rw [wp_bind]
  refine wp_execute_mixer hmixer (fun hinit => ?_) (fun hinit hexec => ?_) fun hinit hexec => ?_
  · -- the run-time initialization ends
    obtain ⟨hexec, hclear⟩ := htquiet.1.runtimeInit hinit
    have hu : XaMixerClear s.ext.plugin.frames { t with
        base := { t.base with
          runtimeInit := !t.base.runtimeInit, execution := !t.base.execution } } :=
      ⟨hpost (.inl hinit), .inr (by simp [hexec]), fun h => by simp [hinit] at h, hclear, htquiet.2⟩
    rw [wp_postprocess_init (by simp [hinit]) (by simp [hexec])]
    exact wp_mono (keeps_prepareRuntime_clear _ hu) (fun _ u h => hquiet u h.quiet)
      fun u h => hquiet u h.quiet
  · -- a frame is mixed
    have hrset : r.ext.outputSetup = true := hset (by simpa [hsinit] using hinit)
    rw [wp_postprocess_frame hexec]
    refine wp_mono (wp_finish_frame (F := s.ext.plugin.frames) hmixer (xaMixerMixed t.ext)
      hr hrset ⟨hsame.task, hsame.phase, hsame.postinit, hsame.runtimeInit, hsame.execution,
        hsame.output, hsame.outputSetup, rfl, ?_, hsame.memPtr⟩) (fun _ u hu => ?_)
          fun _ h => h.elim
    · simp only [htquiet.2, hsame.memPtr]
    · obtain ⟨hok, m, queue, core, hqueue, hrest, hframes, hsink, hproxy⟩ := hu
      exact ⟨hok, .inr
        ⟨m, queue, _, core, by rw [← hqueue, houtput], hrest, hframes, hsink, hproxy⟩⟩
  · -- the stage has begun, so this does not happen
    have hrset : t.ext.outputSetup = true := by
      rw [hsame.outputSetup]
      exact hset (by simpa [hsinit] using hinit)
    have := htquiet.1.stage (hpost (.inr hrset))
    simp [hinit, hexec] at this

/-! ## Runs -/

/-- The output pointer of a running mixer is good. -/
def XaMixerRunOk (s : XaState XaMixer) : Prop := s.phase = .running → XaMixerOutputOk s

/-- The destruction writes no frame. -/
lemma wp_destroy_frames {E : XaState XaMixer → Prop} (hs : s.ext.plugin.frames = F) :
    wp xaMixerDestroy (fun _ t => t.phase ≠ .running ∧ t.ext.plugin.frames = F) E s := by
  rw [xaMixerDestroy, wp_bind]
  refine wp_xaMixerTracks_of _ fun t ht => ?_
  rw [wp_bind, xaMixerOutputDestroy, wp_xaMixerOutput]
  intro r _
  rw [wp_xaBaseDestroy]
  exact ⟨by simp, ht.frames.trans hs⟩

/-- The cleanup takes the component down, and writes no frame. -/
lemma wp_cleanup_frames {E : XaState XaMixer → Prop} (hs : s.ext.plugin.frames = F) :
    wp (xaMixerCleanup m) (fun _ t => t.phase ≠ .running ∧ t.ext.plugin.frames = F) E s := by
  rw [xaMixerCleanup, wp_bind, wp_xfResponse, wp_bind]
  refine wp_xaBaseCancel_of fun flag sched => ?_
  rw [wp_bind]
  refine wp_xaMixerTracks_of _ fun t ht => ?_
  rw [wp_bind, xaMixerOutputFlush, wp_xaMixerOutput]
  intro r _
  rw [wp_ite]
  exact ⟨fun _ => wp_destroy_frames (ht.frames.trans hs), fun _ => ⟨by simp, ht.frames.trans hs⟩⟩

/-- A message to a mixer that is running is a command, and an error takes the component down; other
messages, and the cleanup, write no frame. -/
lemma wp_dispatch_of_command {Q E : XaState XaMixer → Prop}
    (hcommand : s.phase = .running → wp (xaBaseCommand xaMixer env m) (fun _ => Q) E s)
    (herror : ∀ t u, E t → u.phase ≠ .running → u.ext.plugin.frames = t.ext.plugin.frames → Q u)
    (hdown : s.phase ≠ .running →
      ∀ u, u.phase ≠ .running → u.ext.plugin.frames = s.ext.plugin.frames → Q u) :
    wp (xfCoreDispatch xaMixer env m) (fun _ => Q) Q s := by
  rw [xfCoreDispatch, wp_bind, wp_get]
  cases hphase : s.phase with
  | running =>
    rw [wp_orElse]
    refine wp_mono (hcommand hphase) (fun _ t ht => ht) fun t ht => ?_
    exact wp_mono (wp_cleanup_frames (E := fun _ => False) rfl)
      (fun _ u hu => herror t u ht hu.1 hu.2) fun _ h => h.elim
  | terminating =>
    have hne : s.phase ≠ .running := by simp [hphase]
    refine wp_bind.mpr (wp_mono
      (Q := fun _ t => t.phase ≠ .running ∧ t.ext.plugin.frames = s.ext.plugin.frames)
      (E := fun _ => False) ?_ (fun destroy t ht => ?_) fun _ h => h.elim)
    · rw [show xaMixer.terminate = xaMixerTerminate from rfl, xaMixerTerminate, wp_bind, wp_get]
      simp only [wp_ite, wp_bind, xaMixerOutputFlushDone, wp_xaMixerOutput, wp_pure, wp_xfResponse]
      exact ⟨fun _ _ _ => ⟨hne, trivial⟩, fun _ => ⟨fun _ => ⟨hne, trivial⟩, fun _ =>
        ⟨fun _ => ⟨hne, trivial⟩, fun _ => ⟨hne, trivial⟩⟩⟩⟩
    · rw [wp_ite]
      exact ⟨fun _ => wp_mono (wp_destroy_frames (E := fun _ => False) ht.2)
        (fun _ u hu => hdown hne u hu.1 hu.2) fun _ h => h.elim, fun _ => hdown hne t ht.1 ht.2⟩
  | destroyed =>
    have hne : s.phase ≠ .running := by simp [hphase]
    exact hdown hne _ hne rfl

lemma wp_dispatch_frames (hnot : ¬ XaMixerDrains s m) (hs : XaMixerRunOk s)
    (hF : s.ext.plugin.frames = F) :
    wp (xfCoreDispatch xaMixer env m) (fun _ t => XaMixerRunOk t ∧ t.ext.plugin.frames = F)
      (fun t => XaMixerRunOk t ∧ t.ext.plugin.frames = F) s := by
  refine wp_dispatch_of_command (E := XaMixerQuiet F) (fun hphase => ?_) (fun t u ht hdown hu => ?_)
    fun _ u hdown hu => ⟨fun h => absurd h hdown, hu.trans hF⟩
  · exact wp_mono (wp_command_quiet hphase hnot ⟨hs hphase, hF⟩)
      (fun _ t ht => ⟨fun _ => ht.1, ht.2⟩) fun _ h => h
  · exact ⟨fun h => absurd h hdown, hu.trans ht.2⟩

lemma XaMixerRunOk.core (h : XaMixerRunOk s) {core : XfCore}
    (hptr : core.memPtr = s.core.memPtr) : XaMixerRunOk { s with core := core } := by
  intro hphase
  obtain ⟨hinitial, hstage, hinit, hset⟩ := h hphase
  refine ⟨hinitial, hstage, hinit, fun hs => ?_⟩
  rw [hptr]
  exact hset hs

/-- Every event that meets the condition keeps the output pointer good, and writes a frame to no
other message than the one that it gives away. -/
lemma XaMixerRunOk.step {e : XaEvent} (hs : XaMixerRunOk s) (hkeeps : XaMixerKeepsOutput s e)
    (hstep : xaStep xaMixer s e = some t) : XaMixerRunOk t ∧ XaMixerFrameOk s t := by
  obtain ⟨hdrains, hevent⟩ := hkeeps
  have hquiet (h : XaMixerRunOk t ∧ t.ext.plugin.frames = s.ext.plugin.frames) :
      XaMixerRunOk t ∧ XaMixerFrameOk s t := ⟨h.1, .inl h.2⟩
  replace hstep := xaStep_effect hstep
  cases hstep with
  | @command _ m hstep =>
    exact hquiet (Prog.after_of_wp (I := fun t => XaMixerRunOk t ∧
      t.ext.plugin.frames = s.ext.plugin.frames) (wp_dispatch_frames (hdrains m rfl) hs rfl) hstep)
  | @deliver _ m back hback hstep =>
    have hs' : XaMixerRunOk { s with core := { s.core with back := back } } := hs.core rfl
    refine hquiet (Prog.after_of_wp (I := fun t => XaMixerRunOk t ∧
      t.ext.plugin.frames = s.ext.plugin.frames) (wp_dispatch_frames ?_ hs' rfl) hstep)
    exact hdrains m (by simp [XaEvent.message, hback])
  | @process _ sched hget hstep =>
    have hs' : XaMixerRunOk { s with core := { s.core with sched := sched } } := hs.core rfl
    have := after_xfCoreProcess (I := fun t => XaMixerOutputOk t ∧
      XaMixerFrameOk { s with core := { s.core with sched := sched } } t) hstep fun hphase =>
        wp_process_frame hevent.1 hevent.2 (hs' hphase)
    exact ⟨fun _ => this.1, this.2⟩
  | idle hstep hmessage hsink hproxy hptr =>
    subst hstep
    exact ⟨hs.core hptr, .inl rfl⟩

/-- In every run of a mixer in which no process step announces the end of the stream and the
unrouting is not completed while the output is set up, every step that writes a frame writes it to
the buffer of the first output message, which it gives away with this frame. -/
theorem xaMixer_frames (task : U32) (item : U32 → XfMessage) (core : XfCore)
    (s s' : XaState XaMixer)
    (hrun : XaRun xaMixer XaMixerKeepsOutput (xaMixerFactory task item core) s)
    (hstep : XaStepIf xaMixer XaMixerKeepsOutput s s') : XaMixerFrameOk s s' := by
  have hinv : XaMixerRunOk s := by
    refine run_invariant XaMixerRunOk ?_ (fun _ => ⟨fun _ => ⟨rfl, rfl, rfl, rfl⟩, ?_, ?_, ?_⟩) hrun
    · rintro s s' hs ⟨e, -, hkeeps, hstep⟩
      exact (hs.step hkeeps hstep).1
    all_goals exact fun h => by cases h
  obtain ⟨e, -, hkeeps, hstep⟩ := hstep
  exact (hinv.step hkeeps hstep).2

/-- A stream of no bytes is mixed into one frame, at address 192. -/
theorem xaMixer_frames_one : ∃ s s', XaStepIf xaMixer XaMixerKeepsOutput s s' ∧
    s'.ext.plugin.frames.map XaFrame.buffer = [192#32] ∧ XaMixerFrameOk s s' := by
  obtain ⟨s, s', hrun, hstep, hframes⟩ := exists_step_of_xaRun xaMixer XaMixerKeepsOutput
    xaMixerSample (xaMixerStart ++ [.command .mixer (.host 2 .emptyThisBuffer 0#16 0#32 64#32),
      .command .mixer (.host 3 .fillThisBuffer xaMixerOutputPort 2048#32 192#32)])
    (.process .mixer) (fun _ s' => s'.ext.plugin.frames.map XaFrame.buffer) (b := [192#32])
    (by decide +kernel)
  exact ⟨s, s', hstep, hframes, xaMixer_frames _ _ _ s s' hrun hstep⟩

/-- The end of the stream is announced with the buffer at address 192, and a stream that is started
afterwards is written to this buffer, while the message of the buffer at address 256 is given away.
-/
theorem xaMixer_frames_restart : ∃ s s', XaRun xaMixer (fun _ _ => True) xaMixerSample s ∧
    XaStepIf xaMixer (fun _ _ => True) s s' ∧ ¬ XaMixerFrameOk s s' := by
  obtain ⟨s, s', hrun, hstep, hs⟩ := exists_step_of_xaRun xaMixer (fun _ _ => True)
    xaMixerSample (xaMixerStart ++
      [.command .mixer (.host 2 .fillThisBuffer xaMixerOutputPort 2048#32 192#32),
        .process .mixer,
        .command .mixer (.host 3 .emptyThisBuffer 0#16 0#32 64#32),
        .command .mixer (.host 4 .fillThisBuffer xaMixerOutputPort 2048#32 256#32)])
    (.process .mixer) (fun s s' => (s.ext.plugin.frames.map XaFrame.buffer,
      s.ext.output.queue.map XfMessage.buffer, s'.ext.plugin.frames.map XaFrame.buffer))
    (b := ([], [256#32], [192#32])) (by decide +kernel)
  obtain ⟨hframes, hqueue, hframes'⟩ : s.ext.plugin.frames.map XaFrame.buffer = [] ∧
      s.ext.output.queue.map XfMessage.buffer = [256#32] ∧
      s'.ext.plugin.frames.map XaFrame.buffer = [192#32] := by simpa using hs
  refine ⟨s, s', hrun, hstep, ?_⟩
  rintro (hsame | ⟨m, queue, mixed, core, hq, -, hnew, -⟩)
  · rw [hsame, hframes] at hframes'
    cases hframes'
  · rw [hq, List.map_cons] at hqueue
    rw [hnew, List.map_append, hframes] at hframes'
    simp only [List.map_cons, List.map_nil, List.nil_append, List.cons.injEq, and_true]
      at hframes' hqueue
    rw [hframes'] at hqueue
    simp at hqueue

end Hikey
