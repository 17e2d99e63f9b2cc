import Hikey.Component.Loops
import Hikey.Component.Mixer
import Hikey.Component.System

/-!
# What the operations of a mixer can do

For every operation on the tracks and the output port of a mixer: what holds afterwards.  A
condition that does not depend on the input side of a mixer is kept by all that happens there.
-/

namespace Hikey

open Prog

variable {s s' : XaState XaMixer} {I : XaState XaMixer → Prop} {env : XaEnv} {m : XfMessage}
  {i : Fin xaMixerMaxTrackNumber} {ms ms' : List XfMessage} {core core' core'' : XfCore}

/-! ## Weakest preconditions -/

section Wp

variable {α : Type} {Q : α → XaState XaMixer → Prop} {E : XaState XaMixer → Prop}

lemma wp_xaTrackInput {f : XfInputPort → Option (XfInputPort × List XfMessage × α)} :
    wp (xaTrackInput i f) Q E s ↔
      ∀ r, f (s.ext.track i).input = some r → Q r.2.2 { s with
        ext := s.ext.setTrack i { s.ext.track i with input := r.1 }
        core := r.2.1.foldl XfCore.complete s.core } := by
  simp only [xaTrackInput, wp_update, Option.map_eq_some_iff]
  constructor
  · intro h r hf
    exact h _ _ ⟨r, hf, rfl⟩
  · rintro h t a ⟨r, hf, hr⟩
    obtain ⟨rfl, rfl⟩ := Prod.mk.inj hr
    exact h r hf

lemma wp_xaMixerOutput
    {f : XfOutputPort → Option (XfOutputPort × List XfMemEvent × List XfMessage × α)} :
    wp (xaMixerOutput f) Q E s ↔ ∀ r, f s.ext.output = some r → Q r.2.2.2 { s with
      ext := { s.ext with output := r.1 }
      core := r.2.2.1.foldl XfCore.complete { s.core with mem := s.core.mem ++ r.2.1 } } := by
  simp only [xaMixerOutput, wp_update, Option.map_eq_some_iff]
  constructor
  · intro h r hf
    exact h _ _ ⟨r, hf, rfl⟩
  · rintro h t a ⟨r, hf, hr⟩
    obtain ⟨rfl, rfl⟩ := Prod.mk.inj hr
    exact h r hf

end Wp

/-! ## The end of a process step -/

/-- What follows the run-time initialization takes a message from the output queue, sets the
duration of a frame, and completes the message. -/
lemma keeps_prepareRuntime_of
    (hext : ∀ f : XaMixer → XaMixer, (∀ e, (f e).track = e.track) → (∀ e, (f e).pts = e.pts) →
      (∀ e, (f e).outputSetup = e.outputSetup) → (∀ e, (f e).plugin = e.plugin) →
        Keeps I (xaExtModify f))
    (hresponse : ∀ m, Keeps I (xfResponse m)) : Keeps I (xaMixerPrepareRuntime env) := by
  intro s hs
  rw [xaMixerPrepareRuntime, wp_bind, wp_get]
  cases s.ext.output.queue with
  | nil =>
    rw [wp_update]
    rintro t a ⟨⟩
  | cons m queue =>
    refine Keeps.bind (hext _ ?_ ?_ ?_ ?_) (fun _ => (keeps_xaApi _ _).bind fun _ =>
      (keeps_xaApi _ _).bind fun _ => (keeps_xaApi _ _).bind fun _ => (keeps_xaApi _ _).bind
        fun _ => (keeps_xaApi _ _).bind fun _ => (keeps_xaApi _ _).bind fun _ =>
          (Keeps.check _).bind fun _ => Keeps.bind (hext _ ?_ ?_ ?_ ?_) fun _ => hresponse _) s hs
    all_goals exact fun _ => rfl

/-- The end of the postprocessing advances the time of the mixer and gives away an output message.
-/
lemma keeps_finishOutput_of
    (hpts : Keeps I (xaExtModify fun mixer => { mixer with pts := mixer.pts + mixer.frameSize }))
    (hproduce : ∀ n, Keeps I (xaMixerOutputProduce n))
    (hset : Keeps I (xaExtModify fun mixer => { mixer with outputSetup := false }))
    (hschedule : ∀ dts, Keeps I (xaBaseSchedule dts)) : Keeps I (xaMixerFinishOutput env) :=
  Keeps.bind ((keeps_xaApi _ _).bind fun _ => Keeps.get.bind fun _ => Keeps.pure _) fun _ =>
    Keeps.bind (Keeps.ite (fun _ => hpts.bind fun _ => (hproduce _).bind fun _ => hset)
      fun _ => Keeps.pure _) fun _ => Keeps.get.bind fun _ =>
        Keeps.ite (fun _ => hschedule _) fun _ => Keeps.pure _

/-! ## The input side -/

/-- Only the input side of the mixer, the schedule and the responses are different. -/
structure XaMixerInputOnly (s s' : XaState XaMixer) : Prop where
  task : s'.task = s.task
  phase : s'.phase = s.phase
  postinit : s'.base.postinit = s.base.postinit
  runtimeInit : s'.base.runtimeInit = s.base.runtimeInit
  execution : s'.base.execution = s.base.execution
  output : s'.ext.output = s.ext.output
  outputSetup : s'.ext.outputSetup = s.ext.outputSetup
  written : s'.ext.plugin.output = s.ext.plugin.output
  frames : s'.ext.plugin.frames = s.ext.plugin.frames
  memPtr : s'.core.memPtr = s.core.memPtr

/-- The condition does not depend on the input side. -/
def XaMixerInputFree (I : XaState XaMixer → Prop) : Prop :=
  ∀ s s', XaMixerInputOnly s s' → I s → I s'

lemma XaMixerInputOnly.refl (s : XaState XaMixer) : XaMixerInputOnly s s :=
  ⟨rfl, rfl, rfl, rfl, rfl, rfl, rfl, rfl, rfl, rfl⟩

lemma inputFree_inputOnly : XaMixerInputFree (XaMixerInputOnly s) := fun _ _ h hs =>
  ⟨h.task.trans hs.task, h.phase.trans hs.phase, h.postinit.trans hs.postinit,
    h.runtimeInit.trans hs.runtimeInit, h.execution.trans hs.execution, h.output.trans hs.output,
    h.outputSetup.trans hs.outputSetup, h.written.trans hs.written, h.frames.trans hs.frames,
    h.memPtr.trans hs.memPtr⟩

namespace XaMixerInputFree

variable (h : XaMixerInputFree I)
include h

lemma keeps_trackModify (f : XaTrack → XaTrack) : Keeps I (xaTrackModify i f) :=
  Keeps.modify fun s hs => h s _ ⟨rfl, rfl, rfl, rfl, rfl, rfl, rfl, rfl, rfl, rfl⟩ hs

lemma keeps_trackInput {α : Type}
    (f : XfInputPort → Option (XfInputPort × List XfMessage × α)) :
    Keeps I (xaTrackInput i f) := by
  intro s hs
  rw [wp_xaTrackInput]
  exact fun r _ => h s _ ⟨rfl, rfl, rfl, rfl, rfl, rfl, rfl, rfl, rfl, by simp⟩ hs

lemma keeps_response (m : XfMessage) : Keeps I (xfResponse m : XaMixerProg Unit) :=
  fun s hs => h s _ ⟨rfl, rfl, rfl, rfl, rfl, rfl, rfl, rfl, rfl, by simp⟩ hs

lemma keepsResponse (m : XfMessage) : KeepsResponse I m := fun _ _ _ _ => h.keeps_response _

lemma keeps_schedule (dts : U32) : Keeps I (xaBaseSchedule dts : XaMixerProg Unit) :=
  fun s hs => wp_xaBaseSchedule_of fun _ _ =>
    h s _ ⟨rfl, rfl, rfl, rfl, rfl, rfl, rfl, rfl, rfl, rfl⟩ hs

lemma keeps_cancel : Keeps I (xaBaseCancel : XaMixerProg Unit) :=
  fun s hs => wp_xaBaseCancel_of fun _ _ =>
    h s _ ⟨rfl, rfl, rfl, rfl, rfl, rfl, rfl, rfl, rfl, rfl⟩ hs

lemma keeps_wake : Keeps I xaMixerWake :=
  Keeps.get.bind fun _ => Keeps.ite (fun _ => h.keeps_schedule _) fun _ => Keeps.pure _

lemma keeps_setInputBytes (n : U32) : Keeps I (xaMixerSetInputBytes env i n) :=
  (keeps_xaApi _ _).bind fun _ => Keeps.ite (fun _ => Keeps.modify fun s hs =>
    h s _ ⟨rfl, rfl, rfl, rfl, rfl, rfl, rfl, rfl, rfl, rfl⟩ hs) fun _ => Keeps.pure _

lemma keeps_getCuridxInputBuf : Keeps I (xaMixerGetCuridxInputBuf env i) :=
  Keeps.get.bind fun _ => (keeps_xaApi _ _).bind fun _ => Keeps.bind (Keeps.modify fun s hs => by
    exact h s _ ⟨rfl, rfl, rfl, rfl, rfl, rfl, rfl, rfl, rfl, rfl⟩ hs) fun _ => Keeps.pure _

lemma keeps_setupTracks (is : List (Fin xaMixerMaxTrackNumber)) (e : Bool) :
    Keeps I (xaMixerSetupTracks env is e) := by
  induction is generalizing e with
  | nil => exact Keeps.pure _
  | cons i is ih =>
    refine Keeps.get.bind fun _ => Keeps.ite (fun _ => ih _) fun _ => Keeps.ite (fun _ => ih _)
      fun _ => Keeps.bind ?_ fun _ => Keeps.ite (fun _ => ih _) fun _ => Keeps.pure _
    refine Keeps.get.bind fun _ => Keeps.ite (fun _ => (h.keeps_trackModify _).bind
      fun _ => Keeps.pure _) fun _ => (h.keeps_trackInput _).bind fun _ => Keeps.ite (fun _ => ?_)
      fun _ => Keeps.pure _
    exact Keeps.get.bind fun _ => (h.keeps_setInputBytes _).bind fun _ =>
      (h.keeps_trackModify _).bind fun _ => Keeps.pure _

lemma keeps_finishTracks (is : List (Fin xaMixerMaxTrackNumber)) :
    Keeps I (xaMixerFinishTracks env is) := by
  induction is with
  | nil => exact Keeps.pure _
  | cons i is ih =>
    refine Keeps.bind (Keeps.get.bind fun _ => Keeps.ite (fun _ => Keeps.pure _) fun _ => ?_)
      fun _ => ih
    refine (h.keeps_trackModify _).bind fun _ => h.keeps_getCuridxInputBuf.bind fun _ =>
      (h.keeps_trackInput _).bind fun _ => Keeps.get.bind fun _ => Keeps.ite (fun _ => ?_)
        fun _ => Keeps.pure _
    exact (h.keeps_trackInput _).bind fun _ => h.keeps_trackModify _

lemma keeps_emptyThisBuffer : Keeps I (xaMixerEmptyThisBuffer env m) := by
  unfold xaMixerEmptyThisBuffer
  cases xaMixerTrack m.dstPort with
  | none => exact Keeps.fail
  | some i =>
    refine Keeps.get.bind fun _ => (Keeps.check _).bind fun _ => (h.keeps_trackModify _).bind
      fun _ => (h.keeps_trackInput _).bind fun _ => Keeps.ite (fun _ => ?_) fun _ => Keeps.pure _
    exact Keeps.get.bind fun _ => Keeps.bind (Keeps.ite (fun _ => h.keeps_trackModify _)
      fun _ => Keeps.pure _) fun _ => h.keeps_wake

lemma keeps_pause : Keeps I (xaMixerPause env m) := by
  unfold xaMixerPause
  cases xaMixerTrack m.dstPort with
  | none => exact (Keeps.check _).bind fun _ => Keeps.fail
  | some i =>
    exact (Keeps.check _).bind fun _ => Keeps.get.bind fun _ => Keeps.bind (Keeps.ite
      (fun _ => (h.keeps_trackModify _).bind fun _ => h.keeps_wake) fun _ => Keeps.pure _)
      fun _ => h.keeps_response _

lemma keeps_resume : Keeps I (xaMixerResume env m) := by
  unfold xaMixerResume
  cases xaMixerTrack m.dstPort with
  | none => exact (Keeps.check _).bind fun _ => Keeps.fail
  | some i =>
    exact (Keeps.check _).bind fun _ => Keeps.get.bind fun _ => Keeps.bind (Keeps.ite
      (fun _ => (h.keeps_trackModify _).bind fun _ => h.keeps_wake) fun _ => Keeps.pure _)
      fun _ => h.keeps_response _

lemma keeps_getParam : Keeps I (xaBaseGetParam xaMixerHooks env m) :=
  keeps_xaBaseGetParam (fun _ _ => (keeps_xaApi _ _).bind fun _ => Keeps.pure _) (h.keepsResponse m)

/-- The flush of a track, the part of `xa_mixer_flush` that does not concern the output port. -/
lemma keeps_flushTrack (hport : m.dstPort ≠ xaMixerOutputPort) : Keeps I (xaMixerFlush env m) := by
  unfold xaMixerFlush
  refine (Keeps.check _).bind fun _ => Keeps.get.bind fun _ => ?_
  rw [if_neg hport]
  cases xaMixerTrack m.dstPort with
  | none => exact Keeps.fail
  | some i =>
    exact Keeps.bind (Keeps.ite (fun _ => (h.keeps_trackInput _).bind fun _ =>
      (h.keeps_trackModify _).bind fun _ => h.keeps_wake) fun _ => Keeps.pure _)
      fun _ => h.keeps_response _

end XaMixerInputFree

/-- The loops over all tracks touch the input side only, and do not fail. -/
lemma wp_xaMixerTracks_of {f : XfInputPort → XfInputPort × List XfMessage}
    (is : List (Fin xaMixerMaxTrackNumber)) {Q : Unit → XaState XaMixer → Prop}
    {E : XaState XaMixer → Prop} (h : ∀ t, XaMixerInputOnly s t → Q ⟨⟩ t) :
    wp (xaMixerTracks f is) Q E s := by
  induction is generalizing s with
  | nil => exact h s (.refl s)
  | cons i is ih =>
    rw [xaMixerTracks, wp_bind, wp_xaTrackInput]
    rintro r hr
    refine ih fun t ht => h t (inputFree_inputOnly _ t ht ?_)
    exact ⟨rfl, rfl, rfl, rfl, rfl, rfl, rfl, rfl, rfl, by simp⟩

/-! ## The tracks -/

@[simp] lemma setTrack_track (mixer : XaMixer) (i : Fin xaMixerMaxTrackNumber) (track : XaTrack) :
    (mixer.setTrack i track).track i = track := Function.update_self ..

@[simp] lemma setTrack_setTrack (mixer : XaMixer) (i : Fin xaMixerMaxTrackNumber)
    (track track' : XaTrack) :
    (mixer.setTrack i track).setTrack i track' = mixer.setTrack i track' := by
  simp [XaMixer.setTrack]

/-- The tracks are the same in both states. -/
structure XaMixerTracksSame (s t : XaState XaMixer) : Prop where
  postinit : t.base.postinit = s.base.postinit
  track : t.ext.track = s.ext.track
  pts : t.ext.pts = s.ext.pts
  inputLength : t.ext.plugin.inputLength = s.ext.plugin.inputLength
  frames : t.ext.plugin.frames = s.ext.plugin.frames
  completes : ∃ ms, s.core.Completes ms t.core

/-- The condition depends on the tracks only. -/
def XaMixerTracksOnly (I : XaState XaMixer → Prop) : Prop :=
  ∀ s t, XaMixerTracksSame s t → I s → I t

namespace XaMixerTracksOnly

variable {I : XaState XaMixer → Prop} (h : XaMixerTracksOnly I)
include h

lemma keeps_response (m : XfMessage) : Keeps I (xfResponse m) :=
  fun s hs => h s _ ⟨rfl, rfl, rfl, rfl, rfl, [m], rfl, rfl⟩ hs

lemma keepsResponse (m : XfMessage) : KeepsResponse I m := fun _ _ _ _ => h.keeps_response _

lemma keeps_schedule (dts : U32) : Keeps I (xaBaseSchedule dts) :=
  fun s hs => wp_xaBaseSchedule_of fun _ _ => h s _ ⟨rfl, rfl, rfl, rfl, rfl, [], rfl, rfl⟩ hs

lemma keeps_cancel : Keeps I xaBaseCancel :=
  fun s hs => wp_xaBaseCancel_of fun _ _ => h s _ ⟨rfl, rfl, rfl, rfl, rfl, [], rfl, rfl⟩ hs

lemma keeps_wake : Keeps I xaMixerWake :=
  Keeps.get.bind fun _ => Keeps.ite (fun _ => h.keeps_schedule _) fun _ => Keeps.pure _

lemma keeps_output {α : Type}
    (f : XfOutputPort → Option (XfOutputPort × List XfMemEvent × List XfMessage × α)) :
    Keeps I (xaMixerOutput f) := by
  intro s hs
  rw [wp_xaMixerOutput]
  exact fun r _ => h s _ ⟨rfl, rfl, rfl, rfl, rfl, r.2.2.1, by simp, by simp⟩ hs

lemma keeps_ext {f : XaMixer → XaMixer} (htrack : ∀ mixer, (f mixer).track = mixer.track)
    (hpts : ∀ mixer, (f mixer).pts = mixer.pts)
    (hlength : ∀ mixer, (f mixer).plugin.inputLength = mixer.plugin.inputLength)
    (hframes : ∀ mixer, (f mixer).plugin.frames = mixer.plugin.frames) :
    Keeps I (xaExtModify f) :=
  fun s hs => h s _ ⟨rfl, htrack s.ext, hpts s.ext, hlength s.ext, hframes s.ext, [], rfl, rfl⟩ hs

lemma keeps_memPtr (idx ptr : U32) : Keeps I (xaSetMemPtr env idx ptr) :=
  Keeps.bind (fun s hs => h s _ ⟨rfl, rfl, rfl, rfl, rfl, [], rfl, rfl⟩ hs)
    fun _ => (keeps_xaApi _ _).bind fun _ => Keeps.pure _

lemma keeps_getParam : Keeps I (xaBaseGetParam xaMixerHooks env m) :=
  keeps_xaBaseGetParam (fun _ _ => (keeps_xaApi _ _).bind fun _ => Keeps.pure _) (h.keepsResponse m)

lemma keeps_fillThisBuffer : Keeps I (xaMixerFillThisBuffer env m) := by
  refine (Keeps.check _).bind fun _ => Keeps.get.bind fun s => (Keeps.check _).bind fun _ =>
    Keeps.bind ?_ fun _ => (h.keeps_output _).bind fun _ =>
      Keeps.ite (fun _ => h.keeps_schedule _) fun _ => Keeps.pure _
  exact Keeps.ite (fun _ => Keeps.check _) fun _ => Keeps.ite (fun _ => Keeps.check _)
    fun _ => Keeps.pure _

lemma keeps_portRoute : Keeps I (xaMixerPortRoute env m) :=
  Keeps.get.bind fun _ => (Keeps.check _).bind fun _ => (Keeps.check _).bind fun _ =>
    (Keeps.check _).bind fun _ => (h.keeps_output _).bind fun _ => (Keeps.check _).bind fun _ =>
      (h.keeps_schedule _).bind fun _ => h.keeps_response _

lemma keeps_portUnroute : Keeps I (xaMixerPortUnroute env m) := by
  refine Keeps.get.bind fun _ => (Keeps.check _).bind fun _ => (Keeps.check _).bind fun _ =>
    h.keeps_cancel.bind fun _ => Keeps.bind (h.keeps_ext ?_ ?_ ?_ ?_) fun _ =>
      (h.keeps_output _).bind fun _ => Keeps.ite (fun _ => (h.keeps_output _).bind
        fun _ => h.keeps_response _) fun _ => h.keeps_output _
  · exact fun _ => rfl
  · exact fun _ => rfl
  · exact fun _ => rfl
  · exact fun _ => rfl

/-- The stages of the component are not those of the tracks. -/
lemma keeps_execute : Keeps I (xaBaseExecute env) := by
  have hbase (f : XaBaseState → XaBaseState) (hf : ∀ b, (f b).postinit = b.postinit) :
      Keeps I (xaBaseModify f) := fun s hs =>
    h s _ ⟨hf s.base, rfl, rfl, rfl, rfl, [], rfl, rfl⟩ hs
  refine Keeps.get.bind fun s => Keeps.ite (fun _ => ?_) fun _ => Keeps.ite (fun _ => ?_)
    fun _ => Keeps.pure _
  · exact (keeps_xaApi _ _).bind fun _ => (keeps_xaApi _ _).bind fun _ => Keeps.bind
      (Keeps.ite (fun _ => hbase _ fun _ => rfl) fun _ => Keeps.pure _) fun _ => Keeps.pure _
  · exact (keeps_xaApi _ _).bind fun _ => (keeps_xaApi _ _).bind fun _ => Keeps.bind
      (Keeps.ite (fun _ => hbase _ fun _ => rfl) fun _ => Keeps.pure _) fun _ => Keeps.pure _

lemma keeps_prepareRuntime : Keeps I (xaMixerPrepareRuntime env) :=
  keeps_prepareRuntime_of (fun _ htrack hpts _ hplugin => h.keeps_ext htrack hpts
    (fun e => by rw [hplugin]) fun e => by rw [hplugin]) h.keeps_response

/-- A message is put into a track; the track becomes active when it is idle and the message is the
first one of its queue. -/
lemma wp_emptyThisBuffer_of
    (hactive : ∀ i, xaMixerTrack m.dstPort = some i → s.base.postinit = true →
      (xfInputPortPut (s.ext.track i).input m).2.2 = true → (s.ext.track i).idle = true →
        I { s with
          ext := s.ext.setTrack i { s.ext.track i with
            recvdData := m.length ≠ 0#32
            input := (xfInputPortPut (s.ext.track i).input m).1
            idle := !(s.ext.track i).idle
            active := !(s.ext.track i).active
            pts := s.ext.pts }
          core := (xfInputPortPut (s.ext.track i).input m).2.1.foldl XfCore.complete s.core })
    (hqueued : ∀ i, xaMixerTrack m.dstPort = some i → s.base.postinit = true →
      ¬ ((xfInputPortPut (s.ext.track i).input m).2.2 = true ∧ (s.ext.track i).idle = true) →
        I { s with
          ext := s.ext.setTrack i { s.ext.track i with
            recvdData := m.length ≠ 0#32
            input := (xfInputPortPut (s.ext.track i).input m).1 }
          core := (xfInputPortPut (s.ext.track i).input m).2.1.foldl XfCore.complete s.core }) :
    wp (xaMixerEmptyThisBuffer env m) (fun _ => I) (fun _ => True) s := by
  rw [xaMixerEmptyThisBuffer]
  cases hi : xaMixerTrack m.dstPort with
  | none => trivial
  | some i =>
    simp only
    rw [wp_bind, wp_get, wp_bind, wp_check]
    refine ⟨fun hpost => ?_, fun _ => trivial⟩
    rw [wp_bind, xaTrackModify, wp_xaExtModify, wp_bind, xaTrackInputPut, wp_xaTrackInput]
    rintro r hr
    obtain rfl := Option.some_inj.mp hr
    simp only [setTrack_track, setTrack_setTrack]
    rw [wp_ite, wp_pure]
    refine ⟨fun hfirst => ?_, fun hfirst => hqueued i hi hpost fun h => hfirst h.1⟩
    rw [wp_bind, wp_get, wp_bind, wp_ite, wp_pure, xaTrackModify, wp_xaExtModify]
    simp only [setTrack_track, setTrack_setTrack]
    refine ⟨fun hidle => ?_, fun hidle => ?_⟩
    · exact wp_of_keeps h.keeps_wake (hactive i hi hpost hfirst hidle) fun _ h => h
    · exact wp_of_keeps h.keeps_wake (hqueued i hi hpost fun h => hidle h.2) fun _ h => h

end XaMixerTracksOnly

section InputLength

variable {I : XaState XaMixer → Prop} (hlength : ∀ s d, I s → I { s with
  ext := { s.ext with plugin := { s.ext.plugin with inputLength := d } } })
include hlength

lemma keeps_setInputBytes (n : U32) : Keeps I (xaMixerSetInputBytes env i n) :=
  (keeps_xaApi _ _).bind fun _ => Keeps.ite (fun _ => Keeps.modify fun s hs => hlength s _ hs)
    fun _ => Keeps.pure _

lemma keeps_getCuridxInputBuf : Keeps I (xaMixerGetCuridxInputBuf env i) :=
  Keeps.get.bind fun _ => (keeps_xaApi _ _).bind fun _ =>
    Keeps.bind (Keeps.modify fun s hs => hlength s _ hs) fun _ => Keeps.pure _

end InputLength

/-! ## The post-initialization -/

lemma xaTrackIdx_of_xaMixerTrack {idx : U32} (hidx : idx < xaMixerOutIdx)
    (hi : xaMixerTrack (idx.setWidth 16) = some i) : idx = xaTrackIdx i := by
  unfold xaMixerTrack at hi
  split at hi
  · obtain rfl := Option.some_inj.mp hi
    have hlt : idx.toNat < 4 := BitVec.lt_def.mp hidx
    apply BitVec.eq_of_toNat_eq
    simp [xaTrackIdx]
    omega
  · cases hi

section Postinit

variable {J : XaState XaMixer → Prop}

/-- The condition is kept when the port of a track is initialized with the buffer that has been
allocated for it, and the flags of the track with it. -/
def XaMixerInits (env : XaEnv) (J : XaState XaMixer → Prop) : Prop :=
  ∀ s i, J s → ∀ r, xfInputPortInit (s.ext.track i).input
      (env.api .getMemInfoSize (xaTrackIdx i)).value (env.block (xaTrackIdx i)) = (r, true) →
    J { s with ext := s.ext.setTrack i { s.ext.track i with
      input := r
      idle := true
      active := false
      paused := false
      inputSetup := false
      recvdData := false } }

lemma wp_xaMixerMemtab_of (hJ : XaMixerTracksOnly J) (hinits : XaMixerInits env J) {idx type : U32}
    (hs : J s) : wp (xaMixerMemtab env idx type (env.api .getMemInfoSize idx).value) (fun _ => J)
      (fun _ => True) s := by
  rw [xaMixerMemtab, wp_ite]
  refine ⟨fun _ => ?_, fun _ => ?_⟩
  · cases hi : xaMixerTrack (idx.setWidth 16) with
    | none => trivial
    | some i =>
      simp only
      rw [wp_bind, wp_check]
      refine ⟨fun hidx => ?_, fun _ => trivial⟩
      obtain rfl := xaTrackIdx_of_xaMixerTrack (by simpa using hidx) hi
      rw [wp_bind, wp_xaTrackInput]
      rintro r hr
      obtain rfl := Option.some_inj.mp hr
      rw [wp_bind, wp_check]
      refine ⟨fun hok => ?_, fun _ => trivial⟩
      rw [wp_bind, xaTrackModify, wp_xaExtModify, wp_bind, wp_xaApi]
      refine ⟨fun _ => ?_, fun _ => trivial⟩
      rw [xaTrackModify, wp_xaExtModify]
      simp only [setTrack_track, setTrack_setTrack]
      exact hinits s i hs _ (Prod.ext rfl hok)
  · exact wp_of_keeps ((Keeps.check _).bind fun _ => (Keeps.check _).bind fun _ =>
      (keeps_xaApi _ _).bind fun _ => Keeps.bind (hJ.keeps_ext (fun _ => rfl) (fun _ => rfl)
        (fun _ => rfl) fun _ => rfl) fun _ => hJ.keeps_output _) hs fun _ h => h

lemma wp_xaMixerMemtabs_of (hJ : XaMixerTracksOnly J) (hinits : XaMixerInits env J)
    (k : ℕ) (idx : U32)
    (hs : J s) :
    wp (xaBaseMemtabs xaMixerHooks env k idx) (fun _ => J) (fun _ => True) s := by
  induction k generalizing idx s with
  | zero => exact hs
  | succ k ih =>
    rw [xaBaseMemtabs, wp_bind]
    refine wp_mono (Q := fun _ => J) (E := fun _ => True) ?_ (fun _ t ht => ih _ ht) fun _ h => h
    rw [xaBaseMemtab, wp_bind, wp_xaApi]
    refine ⟨fun _ => ?_, fun _ => trivial⟩
    rw [wp_bind, wp_xaApi]
    refine ⟨fun _ => ?_, fun _ => trivial⟩
    rw [wp_bind, wp_xaApi]
    refine ⟨fun _ => ?_, fun _ => trivial⟩
    rw [wp_ite, wp_ite, wp_ite, wp_fail]
    refine ⟨fun _ => ?_, fun _ => ⟨fun _ => ?_, fun _ => ⟨fun _ => wp_xaMixerMemtab_of hJ hinits hs,
      fun _ => trivial⟩⟩⟩
    · exact wp_of_keeps ((Keeps.check _).bind fun _ => (Keeps.check _).bind
        fun _ => hJ.keeps_memPtr _ _) hs fun _ h => h
    · exact wp_of_keeps ((Keeps.check _).bind fun _ => hJ.keeps_memPtr _ _) hs fun _ h => h

/-- `SET_PARAM` keeps a condition on the tracks that the post-initialization reaches. -/
lemma wp_setParam_of_postinit {I : XaState XaMixer → Prop} (hI : XaMixerTracksOnly I)
    (hpost : ∀ s, I s → s.base.postinit = false → wp (xaBasePostinit xaMixerHooks env)
      (fun _ t => I { t with
        base := { t.base with
          postinit := !t.base.postinit, runtimeInit := !t.base.runtimeInit } }) (fun _ => True) s)
    (hs : I s) : wp (xaBaseSetParam xaMixerHooks env m) (fun _ => I) (fun _ => True) s := by
  rw [xaBaseSetParam, wp_bind]
  refine wp_mono (Keeps.check _ s hs) (fun _ s hs => ?_) fun _ _ => trivial
  rw [wp_bind]
  refine wp_mono (keeps_xaBaseSetParams _ _ s hs) (fun _ s hs => ?_) fun _ _ => trivial
  rw [wp_bind, wp_get, wp_bind, wp_ite, wp_pure]
  refine ⟨fun hnot => ?_, fun _ => wp_of_keeps (hI.keeps_response _) hs fun _ h => h⟩
  rw [wp_bind]
  refine wp_mono (hpost s hs (by simpa using hnot)) (fun _ t ht => ?_) fun _ _ => trivial
  rw [wp_xaBaseModify]
  exact wp_of_keeps (hI.keeps_response _) ht fun _ h => h

/-- `SET_PARAM` keeps a condition on the tracks that the post-initialization keeps, under a
condition `J` that holds while it has not taken place. -/
lemma wp_setParam_of {I : XaState XaMixer → Prop} (hI : XaMixerTracksOnly I)
    (hJ : XaMixerTracksOnly J) (hinits : XaMixerInits env J)
    (hstart : ∀ s, I s → s.base.postinit = false → J s)
    (hpost : ∀ s, J s → I { s with
      base := { s.base with
        postinit := !s.base.postinit, runtimeInit := !s.base.runtimeInit } })
    (hs : I s) : wp (xaBaseSetParam xaMixerHooks env m) (fun _ => I) (fun _ => True) s := by
  refine wp_setParam_of_postinit hI (fun s hs hnot => ?_) hs
  rw [xaBasePostinit, wp_bind, wp_xaApi]
  refine ⟨fun _ => ?_, fun _ => trivial⟩
  rw [wp_bind, wp_xaApi]
  refine ⟨fun _ => ?_, fun _ => trivial⟩
  exact wp_mono (wp_xaMixerMemtabs_of hJ hinits _ _ (hstart s hs hnot)) (fun _ t ht => hpost t ht)
    fun _ _ => trivial

end Postinit

/-! ## Conditions on events -/

/-- The component is the next one to be processed. -/
def XaMixerNext (s : XaState XaMixer) : Prop :=
  s.phase = .running ∧ (xfSchedGet s.core.sched).map Prod.snd = some (some s.task)

/-- The input buffers of the plugin are not empty. -/
def XaEnv.IsMixerTable (env : XaEnv) : Prop :=
  ∀ i, (env.api .getMemInfoSize (xaTrackIdx i)).value ≠ 0#32

/-! ## A mixer on fixed events -/

/-- The answers of `xa-mixer.c` with a sample rate of 48000. -/
def XaApiCmd.mixer : XaApiCmd → U32 → XaAnswer
  | .getNMemtabs, _ => ⟨false, 6#32⟩
  | .getMemInfoType, idx => ⟨false, if idx < 4#32 then 2#32 else if idx = 4#32 then 3#32 else 1#32⟩
  | .getMemInfoSize, _ => ⟨false, xaMixerBufferSize⟩
  | .getMemInfoAlignment, _ => ⟨false, 4#32⟩
  | .initDoneQuery, _ => ⟨false, 1#32⟩
  | .getConfigParam, idx => ⟨false, if idx = 1#32 then 16#32 else if idx = 2#32 then 2#32
      else if idx = 4#32 then 48000#32 else 512#32⟩
  | _, _ => ⟨false, 0#32⟩

/-- An environment of that plugin, with zeros in memory. -/
def XaEnv.mixer : XaEnv where
  api := XaApiCmd.mixer
  mem := fun _ => 0
  alloc := fun i => 0x1000#32 + 0x40#32 * i
  block := fun _ => some (List.replicate 2048 0)
  persist := fun _ => 0#32
  scratch := 0x100#32
  done := 0#32

/-- A mixer on a core on which nothing is scheduled. -/
def xaMixerSample : XaState XaMixer :=
  xaMixerFactory 64#32 (fun i => ⟨.item 0#32 i, ⟨0#16, 0#16⟩, .other, 0#32, 0#32⟩) .sample

/-- The mixer has been set up, and its run-time is initialized. -/
def xaMixerStart : List XaEvent :=
  [.command .mixer (.host 0 .setParam 0#16 0#32 0#32),
    .command .mixer (.host 1 .fillThisBuffer xaMixerOutputPort 0#32 128#32),
    .process .mixer]

end Hikey
