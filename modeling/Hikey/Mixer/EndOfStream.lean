import Hikey.Mixer.States

/-!
# The end of the stream of a mixer

`xa_mixer_preprocess` gives away an output message without data when no track is active or has its
flag `XA_TRACK_FLAG_RECVD_DATA` set.  That flag is set and cleared by `xa_mixer_empty_this_buffer`
only: the flush of a track leaves it as it is, and a track that is paused may have data that it has
not yet played when the message that clears the flag comes in.
-/

namespace Hikey

open Prog

variable {s s' t : XaState XaMixer} {env : XaEnv} {m : XfMessage} {queue : List XfMessage}
  {F : List XaFrame}

/-! ## The announcement -/

/-- The process step has an output buffer. -/
def XaMixerAvailable (s : XaState XaMixer) : Prop :=
  s.base.runtimeInit = false ∧ xfOutputPortData s.ext.output ≠ 0#32

/-- The event processes a mixer that has an output buffer, and the plugin is that of the mixer. -/
def XaMixerProcesses (s : XaState XaMixer) : XaEvent → Prop
  | .process env => XaMixerNext s ∧ env.IsMixer ∧ XaMixerAvailable s
  | _ => False

instance (s : XaState XaMixer) (e : XaEvent) : Decidable (XaMixerProcesses s e) := by
  unfold XaMixerProcesses XaMixerNext XaMixerAvailable
  match e with
  | .command .. | .deliver .. | .sinkReturn .. | .process .. | .otherPut .. | .otherCancel .. =>
    infer_instance

/-- A step gives away the first output message without data, and no frame is written. -/
def XaMixerAnnounces (s s' : XaState XaMixer) : Prop :=
  s'.ext.plugin.frames = s.ext.plugin.frames ∧ ∃ m queue, s.ext.output.queue = m :: queue ∧
    s'.ext.output.queue = queue ∧ s.core.Completes [m.withLength 0#32] s'.core

/-- The track has no stream in progress: it is idle, with nothing in its queue and nothing in its
buffer. -/
def XaTrack.Finished (track : XaTrack) : Prop :=
  track.idle = true ∧ track.input.queue = [] ∧ track.input.filled = 0#32

instance (track : XaTrack) : Decidable track.Finished := by
  unfold XaTrack.Finished
  infer_instance

/-! ## The process step -/

/-- Nothing is set up when no track is active. -/
lemma wp_setupTracks_inactive (is : List (Fin xaMixerMaxTrackNumber))
    (hactive : ∀ i, (s.ext.track i).active = false) {Q : Bool → XaState XaMixer → Prop}
    {E : XaState XaMixer → Prop} (hQ : Q false s) : wp (xaMixerSetupTracks env is false) Q E s := by
  induction is with
  | nil => exact hQ
  | cons i is ih =>
    rw [xaMixerSetupTracks, wp_bind, wp_get, if_pos (by simp [hactive i])]
    exact ih

lemma xaMixerCheckActive_eq_false {mixer : XaMixer} : xaMixerCheckActive mixer = false ↔
    ∀ i, (mixer.track i).recvdData = false ∧ (mixer.track i).active = false := by
  simp [xaMixerCheckActive]

/-- The end of the stream is announced, and there is nothing to mix. -/
lemma wp_setupInput_announces (hactive : xaMixerCheckActive s.ext = false)
    (hqueue : s.ext.output.queue = m :: queue) :
    wp (xaMixerSetupInput env) (fun ok t => ok = false ∧
      t.ext.plugin.frames = s.ext.plugin.frames ∧ t.ext.output.queue = queue ∧
      s.core.Completes [m.withLength 0#32] t.core) (fun _ => False) s := by
  rw [xaMixerSetupInput, wp_bind, wp_get, wp_bind, if_pos (by simp [hactive]), xaMixerOutputProduce,
    wp_xaMixerOutput]
  rintro r hr
  obtain ⟨⟨output, m'⟩, hproduce, rfl⟩ := Option.map_eq_some_iff.mp hr
  simp only [xfOutputPortProduce, hqueue, Option.some.injEq, Prod.mk.injEq] at hproduce
  obtain ⟨rfl, rfl⟩ := hproduce
  refine wp_setupTracks_inactive _ ?_ ⟨rfl, rfl, rfl, ?_, ?_⟩
  · exact fun i => (xaMixerCheckActive_eq_false.mp hactive i).2
  · simp only [foldl_complete_sink]
  · simp only [foldl_complete_proxy]

lemma wp_process_announces (hmixer : env.IsMixer) (havail : XaMixerAvailable s)
    (hactive : xaMixerCheckActive s.ext = false) :
    wp (xaBaseProcess xaMixerHooks env) (fun _ => XaMixerAnnounces s) (fun _ => False) s := by
  obtain ⟨hinit, hdata⟩ := havail
  obtain ⟨m, queue, hqueue⟩ : ∃ m queue, s.ext.output.queue = m :: queue := by
    cases hqueue : s.ext.output.queue with
    | nil => simp [xfOutputPortData, hqueue] at hdata
    | cons m queue => exact ⟨m, queue, rfl⟩
  have hpre : wp (xaMixerPreprocess env) (fun ok t => ok = false ∧ XaMixerAnnounces s t)
      (fun _ => False) { s with base := { s.base with schedule := false } } := by
    rw [xaMixerPreprocess, wp_bind, wp_get, wp_ite, wp_ite, wp_ite]
    refine ⟨fun _ => ?_, fun _ => ⟨fun h => ?_, fun _ => ⟨fun h => absurd h hdata, fun _ => ?_⟩⟩⟩
    · exact wp_mono (wp_setupInput_announces hactive hqueue)
        (fun _ t ht => ⟨ht.1, ht.2.1, m, queue, hqueue, ht.2.2⟩) fun _ h => h
    · have h : s.base.runtimeInit = true := h
      simp [hinit] at h
    · rw [wp_bind, wp_xaSetMemPtr]
      refine ⟨fun _ => ?_, fun hfatal => ?_⟩
      · rw [wp_bind, wp_xaExtModify]
        refine wp_mono (wp_setupInput_announces hactive (show _ = m :: queue from hqueue))
          (fun _ t ht => ⟨ht.1, ht.2.1, m, queue, hqueue, ?_⟩) fun _ h => h
        obtain ⟨-, -, hrest, hsink, hproxy⟩ := ht
        refine ⟨hrest, ?_, ?_⟩
        · rw [hsink, foldl_complete_sink, foldl_complete_sink]
        · rw [hproxy, foldl_complete_proxy, foldl_complete_proxy]
      · obtain ⟨-, -, -, -, hptr, -⟩ := hmixer
        simp [hptr] at hfatal
  rw [xaBaseProcess, wp_bind, wp_xaBaseModify, wp_bind]
  refine wp_mono hpre (fun ok t ht => ?_) fun _ h => h
  obtain ⟨rfl, ht⟩ := ht
  rw [if_neg (by simp), wp_pure]
  exact ht

/-- The output side is that of `s`, in the execution stage. -/
structure XaMixerPending (s t : XaState XaMixer) : Prop where
  queue : t.ext.output.queue = s.ext.output.queue
  frames : t.ext.plugin.frames = s.ext.plugin.frames
  runtimeInit : t.base.runtimeInit = false
  execution : t.base.execution = true

lemma inputFree_pending : XaMixerInputFree (XaMixerPending s) := fun _ _ hsame hs =>
  ⟨by rw [hsame.output, hs.queue], hsame.frames.trans hs.frames,
    hsame.runtimeInit.trans hs.runtimeInit,
    hsame.execution.trans hs.execution⟩

/-- Nothing has been announced when the output queue is the same, or a frame has been written. -/
lemma not_announces (h : t.ext.output.queue = s.ext.output.queue ∨
    t.ext.plugin.frames ≠ s.ext.plugin.frames) : ¬ XaMixerAnnounces s t := by
  rintro ⟨hframes, m, queue, hqueue, hrest, -⟩
  rcases h with hsame | hne
  · rw [hsame, hqueue] at hrest
    simp at hrest
  · exact hne hframes

lemma wp_preprocess_pending (hactive : xaMixerCheckActive t.ext = true) (ht : XaMixerPending s t) :
    wp (xaMixerPreprocess env) (fun _ => XaMixerPending s) (XaMixerPending s) t := by
  have hinput (u : XaState XaMixer) (hactive : xaMixerCheckActive u.ext = true)
      (hu : XaMixerPending s u) :
      wp (xaMixerSetupInput env) (fun _ => XaMixerPending s) (XaMixerPending s) u := by
    rw [xaMixerSetupInput, wp_bind, wp_get, wp_bind, if_neg (by simp [hactive]), wp_pure]
    exact inputFree_pending.keeps_setupTracks _ _ u hu
  rw [xaMixerPreprocess, wp_bind, wp_get, wp_ite, wp_ite, wp_ite, wp_pure, wp_pure]
  refine ⟨fun _ => hinput t hactive ht, fun _ => ⟨fun _ => ht, fun _ => ⟨fun _ => ht, fun _ => ?_⟩⟩⟩
  rw [wp_bind, wp_xaSetMemPtr]
  refine ⟨fun _ => ?_, fun _ => ⟨ht.queue, ht.frames, ht.runtimeInit, ht.execution⟩⟩
  rw [wp_bind, wp_xaExtModify]
  exact hinput _ hactive ⟨ht.queue, ht.frames, ht.runtimeInit, ht.execution⟩

lemma keeps_finishOutput_frames :
    Keeps (fun t => t.ext.plugin.frames = F) (xaMixerFinishOutput env) := by
  refine keeps_finishOutput_of (fun t ht => ht) (fun n t ht => ?_) (fun t ht => ht)
    fun dts t ht => ?_
  · rw [xaMixerOutputProduce, wp_xaMixerOutput]
    exact fun _ _ => ht
  · exact wp_xaBaseSchedule_of fun _ _ => ht

/-- A process step with a track that is active, or has received data, announces nothing. -/
lemma wp_process_pending (hmixer : env.IsMixer) (hruns : XaMixerRuns s)
    (hinit : s.base.runtimeInit = false)
    (hactive : xaMixerCheckActive s.ext = true) :
    wp (xaBaseProcess xaMixerHooks env) (fun _ t => ¬ XaMixerAnnounces s t)
      (fun t => ¬ XaMixerAnnounces s t) s := by
  have hquiet (t : XaState XaMixer) (ht : XaMixerPending s t) : ¬ XaMixerAnnounces s t :=
    not_announces (.inl ht.queue)
  have hexec : s.base.execution = true :=
    hruns.stage.resolve_left fun h => by simp [hinit] at h
  have hs : XaMixerPending s { s with base := { s.base with schedule := false } } :=
    ⟨rfl, rfl, hinit, hexec⟩
  rw [xaBaseProcess, wp_bind, wp_xaBaseModify, wp_bind]
  refine wp_mono (wp_preprocess_pending hactive hs) (fun ok t ht => ?_) fun t ht => hquiet t ht
  rw [wp_ite, wp_pure]
  refine ⟨fun _ => ?_, fun _ => hquiet t ht⟩
  rw [wp_bind]
  refine wp_execute_mixer hmixer (fun hinit => ?_) (fun _ hexec => ?_) fun _ hexec => ?_
  · simp [ht.runtimeInit] at hinit
  · -- a frame is written
    rw [wp_postprocess_frame hexec, wp_bind]
    have hwritten (mixed : XaFrame) (u : XaState XaMixer)
        (hu : u.ext.plugin.frames = t.ext.plugin.frames ++ [mixed]) : ¬ XaMixerAnnounces s u := by
      refine not_announces (.inr ?_)
      rw [hu, ht.frames]
      simp
    have hfree (F : List XaFrame) : XaMixerInputFree fun u => u.ext.plugin.frames = F :=
      fun _ _ hsame hs => hsame.frames.trans hs
    refine wp_mono ((hfree _).keeps_finishTracks _ _ rfl) (fun _ u hu => ?_) fun u hu =>
      hwritten _ u hu
    exact wp_mono (keeps_finishOutput_frames u hu) (fun _ v hv => hwritten _ v hv)
      fun v hv => hwritten _ v hv
  · simp [ht.execution] at hexec

/-! ## Runs -/

/-- The flags `XA_TRACK_FLAG_RECVD_DATA` agree with the streams: none is set when all tracks are
idle, and one is set when some track is paused and no track is active. -/
def XaMixerRecvdOk (s : XaState XaMixer) : Prop :=
  ((∀ i, (s.ext.track i).idle = true) → ∀ i, (s.ext.track i).recvdData = false) ∧
  ((∃ i, (s.ext.track i).paused = true) → (∀ i, (s.ext.track i).active = false) →
    ∃ i, (s.ext.track i).recvdData = true)

lemma XaMixerAnnounces.congr (core : XfCore) (hsink : core.sink = s.core.sink)
    (hproxy : core.proxy = s.core.proxy) :
    XaMixerAnnounces { s with core := core } t ↔ XaMixerAnnounces s t := by
  have hcore (ms : List XfMessage) : core.Completes ms t.core ↔ s.core.Completes ms t.core := by
    simp only [XfCore.Completes, foldl_complete_sink, foldl_complete_proxy, hsink, hproxy]
  simp only [XaMixerAnnounces, hcore]

/-- The step of a mixer with an output buffer announces the end of the stream when no track is
active or has received data. -/
lemma xaMixerAnnounces_iff (hs : XaMixerStages s) (hstep : XaStepIf xaMixer XaMixerProcesses s s') :
    XaMixerAnnounces s s' ↔ xaMixerCheckActive s.ext = false := by
  obtain ⟨e, -, hprocess, hstep⟩ := hstep
  cases e with
  | process env =>
    obtain ⟨⟨hphase, hnext⟩, hmixer, hinit, hdata⟩ := hprocess
    obtain ⟨⟨sched, n⟩, hget, rfl⟩ := Option.map_eq_some_iff.mp hnext
    simp only [xaStep, hget, if_true] at hstep
    have hruns : XaMixerRuns s := by
      refine hs.resolve_left fun h => hdata ?_
      simp [xfOutputPortData, h.queue]
    rw [← XaMixerAnnounces.congr { s.core with sched := sched } rfl rfl]
    constructor
    · intro hannounces
      by_contra hactive
      refine after_xfCoreProcess (I := fun t =>
        ¬ XaMixerAnnounces { s with core := { s.core with sched := sched } } t) hstep (fun _ => ?_)
        hannounces
      exact wp_process_pending hmixer ⟨hruns.postinit, hruns.stage, hruns.runtimeInit⟩ hinit
        (by simpa using hactive)
    · intro hactive
      refine after_xfCoreProcess (I := fun t =>
        XaMixerAnnounces { s with core := { s.core with sched := sched } } t) hstep fun _ => ?_
      exact wp_mono (wp_process_announces hmixer ⟨hinit, hdata⟩ hactive) (fun _ _ h => h)
        fun _ h => h.elim
  | command | deliver | sinkReturn | otherPut | otherCancel => exact hprocess.elim

/-- In every run of a mixer, a process step with an output buffer announces the end of the stream
exactly when all streams are finished, if and only if the flags of the tracks agree with their
streams. -/
theorem xaMixer_announces_iff (task : U32) (item : U32 → XfMessage) (core : XfCore)
    (s s' : XaState XaMixer)
    (hrun : XaRun xaMixer XaMixerPlugged (xaMixerFactory task item core) s)
    (hstep : XaStepIf xaMixer XaMixerProcesses s s') :
    (XaMixerAnnounces s s' ↔ ∀ i, (s.ext.track i).Finished) ↔ XaMixerRecvdOk s := by
  have hphase : s.phase = .running := by
    obtain ⟨e, -, hprocess, -⟩ := hstep
    cases e with
    | process env => exact hprocess.1.1
    | command | deliver | sinkReturn | otherPut | otherCancel => exact hprocess.elim
  obtain ⟨hok, hstages⟩ := xaStatesOk_run hrun hphase
  have hpost : s.base.postinit = true := by
    obtain ⟨e, -, hprocess, -⟩ := hstep
    cases e with
    | process env =>
      refine (hstages.resolve_left fun h => hprocess.2.2.2 ?_).postinit
      simp [xfOutputPortData, h.queue]
    | command | deliver | sinkReturn | otherPut | otherCancel => exact hprocess.elim
  have hone (i : Fin xaMixerMaxTrackNumber) := (hok.track i).inOneState (hok.started hpost i)
  have hfinished : (∀ i, (s.ext.track i).Finished) ↔ ∀ i, (s.ext.track i).idle = true :=
    forall_congr' fun i => ⟨fun h => h.1, fun h => ⟨h, (hok.track i).empty h⟩⟩
  rw [xaMixerAnnounces_iff hstages hstep, hfinished, xaMixerCheckActive_eq_false]
  constructor
  · intro h
    refine ⟨fun hidle i => (h.mpr hidle i).1, fun hany hactive => ?_⟩
    obtain ⟨i, hpaused⟩ := hany
    by_contra hrecvd
    have hidle := h.mp (fun j => ⟨by simpa using fun hj => hrecvd ⟨j, hj⟩, hactive j⟩) i
    simp [(hok.track i).paused hpaused] at hidle
  · rintro ⟨hidle, hpaused⟩
    refine ⟨fun h i => ?_, fun h i => ⟨hidle h i, ?_⟩⟩
    · rcases hone i with hone | hone | hone
      · exact hone.1
      · simp [(h i).2] at hone
      · obtain ⟨j, hj⟩ := hpaused ⟨i, hone.2.2⟩ fun j => (h j).2
        simp [(h j).1] at hj
    · by_contra hactive
      have := ((hok.track i).active (by simpa using hactive)).1
      simp [h i] at this

/-- The end of the stream is announced after a stream of 2048 bytes, when the track has returned to
idle. -/
theorem xaMixer_announces_one : ∃ s s', XaStepIf xaMixer XaMixerProcesses s s' ∧
    XaMixerAnnounces s s' ∧ s.ext.plugin.frames.length = 2 := by
  obtain ⟨s, hrun, hs⟩ := exists_of_xaRun xaMixer XaMixerPlugged xaMixerSample (xaMixerStart ++
      [.command .mixer (.host 2 .emptyThisBuffer 0#16 2048#32 64#32),
        .command .mixer (.host 3 .emptyThisBuffer 0#16 0#32 0#32),
        .command .mixer (.host 4 .fillThisBuffer xaMixerOutputPort 2048#32 4096#32),
        .process .mixer,
        .command .mixer (.host 5 .fillThisBuffer xaMixerOutputPort 2048#32 4096#32),
        .process .mixer,
        .command .mixer (.host 6 .fillThisBuffer xaMixerOutputPort 2048#32 4096#32)])
    (fun s => ((xaRun xaMixer XaMixerProcesses s [.process .mixer]).isSome,
      decide (∀ i, (s.ext.track i).Finished), decide (∀ i, (s.ext.track i).recvdData = false),
      decide (∀ i, (s.ext.track i).paused = false), s.ext.plugin.frames.length))
    (b := (true, true, true, true, 2)) (by decide +kernel)
  simp only [Prod.mk.injEq, decide_eq_true_eq] at hs
  obtain ⟨hsome, hfinished, hrecvd, hpaused, hframes⟩ := hs
  obtain ⟨s', hs'⟩ := Option.isSome_iff_exists.mp hsome
  have hstep := stepIf_of_xaRun hs'
  refine ⟨s, s', hstep, ?_, hframes⟩
  refine ((xaMixer_announces_iff _ _ _ s s' hrun hstep).mpr ⟨fun _ => hrecvd, ?_⟩).mpr hfinished
  rintro ⟨i, hi⟩
  simp [hpaused i] at hi

/-- All streams are finished when the only track with a stream is flushed, and nothing is announced.
The end of the stream is announced while a track is paused that has data in its queue, when the
message that ends its stream has been received. -/
theorem xaMixer_announces_not_iff :
    (∃ s s', XaRun xaMixer XaMixerPlugged xaMixerSample s ∧ XaStepIf xaMixer XaMixerProcesses s s' ∧
      (∀ i, (s.ext.track i).Finished) ∧ ¬ XaMixerAnnounces s s') ∧
    ∃ s s', XaRun xaMixer XaMixerPlugged xaMixerSample s ∧ XaStepIf xaMixer XaMixerProcesses s s' ∧
      (s.ext.track 0).paused = true ∧ (∃ m ∈ (s.ext.track 0).input.queue, m.length ≠ 0#32) ∧
      XaMixerAnnounces s s' := by
  constructor
  · obtain ⟨s, hrun, hs⟩ := exists_of_xaRun xaMixer XaMixerPlugged xaMixerSample (xaMixerStart ++
        [.command .mixer (.host 2 .emptyThisBuffer 0#16 2048#32 64#32),
          .command .mixer (.host 3 .flush 0#16 0#32 0#32),
          .command .mixer (.host 4 .fillThisBuffer xaMixerOutputPort 2048#32 4096#32)])
      (fun s => ((xaRun xaMixer XaMixerProcesses s [.process .mixer]).isSome,
        decide (∀ i, (s.ext.track i).Finished), xaMixerCheckActive s.ext, s.phase))
      (b := (true, true, true, .running)) (by decide +kernel)
    simp only [Prod.mk.injEq, decide_eq_true_eq] at hs
    obtain ⟨hsome, hfinished, hactive, hphase⟩ := hs
    obtain ⟨s', hs'⟩ := Option.isSome_iff_exists.mp hsome
    have hstep := stepIf_of_xaRun hs'
    refine ⟨s, s', hrun, hstep, hfinished, fun hannounces => ?_⟩
    have hstages := (xaStatesOk_run hrun hphase).2
    rw [(xaMixerAnnounces_iff hstages hstep).mp hannounces] at hactive
    cases hactive
  · obtain ⟨s, hrun, hs⟩ := exists_of_xaRun xaMixer XaMixerPlugged xaMixerSample (xaMixerStart ++
        [.command .mixer (.host 2 .emptyThisBuffer 0#16 2048#32 64#32),
          .command .mixer (.host 3 .emptyThisBuffer 0#16 0#32 0#32),
          .command .mixer (.host 4 .pause 0#16 0#32 0#32),
          .command .mixer (.host 5 .fillThisBuffer xaMixerOutputPort 2048#32 4096#32)])
      (fun s => ((xaRun xaMixer XaMixerProcesses s [.process .mixer]).isSome,
        (s.ext.track 0).paused, decide (∃ m ∈ (s.ext.track 0).input.queue, m.length ≠ 0#32),
        xaMixerCheckActive s.ext, s.phase))
      (b := (true, true, true, false, .running)) (by decide +kernel)
    simp only [Prod.mk.injEq, decide_eq_true_eq] at hs
    obtain ⟨hsome, hpaused, hdata, hactive, hphase⟩ := hs
    obtain ⟨s', hs'⟩ := Option.isSome_iff_exists.mp hsome
    have hstep := stepIf_of_xaRun hs'
    have hstages := (xaStatesOk_run hrun hphase).2
    exact ⟨s, s', hrun, hstep, hpaused, hdata, (xaMixerAnnounces_iff hstages hstep).mpr hactive⟩

end Hikey
