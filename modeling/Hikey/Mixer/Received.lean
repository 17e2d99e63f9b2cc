import Hikey.Mixer.EndOfStream

/-!
# The commands and the flag `XA_TRACK_FLAG_RECVD_DATA`

The flags of the tracks agree with their streams as long as no command puts one of them out of step:
a flush of a track that has the flag, a pause of an active track that does not have it any more, and
the message that ends the stream of a paused track.
-/

namespace Hikey

open Prog

variable {s t : XaState XaMixer} {env : XaEnv} {m : XfMessage} {track : XaTrack}
  {i : Fin xaMixerMaxTrackNumber}

/-- The flag is clear when the track is idle, and set when it is paused.  An idle track takes the
next message. -/
structure XaTrackInStep (track : XaTrack) : Prop where
  idle : track.idle = true → track.recvdData = false ∧ track.input.enabled = true
  paused : track.paused = true → track.recvdData = true

/-- The flags of all tracks are in step. -/
def XaMixerInStep (s : XaState XaMixer) : Prop := ∀ i, XaTrackInStep (s.ext.track i)

/-- The flags agree with the streams when they are in step. -/
lemma XaMixerInStep.recvdOk (h : XaMixerInStep s) : XaMixerRecvdOk s :=
  ⟨fun hidle i => ((h i).idle (hidle i)).1, fun ⟨i, hpaused⟩ _ => ⟨i, (h i).paused hpaused⟩⟩

/-- The message puts no flag out of step. -/
def XaMixerKeepsStep (s : XaState XaMixer) (m : XfMessage) : Prop :=
  ∀ i, xaMixerTrack m.dstPort = some i →
    (m.opcode = .flush → (s.ext.track i).recvdData = false) ∧
    (m.opcode = .pause → (s.ext.track i).active = true → (s.ext.track i).recvdData = true) ∧
    (m.opcode = .emptyThisBuffer → m.length = 0#32 → (s.ext.track i).paused = false)

lemma tracksOnly_inStep : XaMixerTracksOnly XaMixerInStep := by
  intro s t hsame hs i
  rw [hsame.track]
  exact hs i

/-- One track is changed. -/
lemma XaMixerInStep.setTrack (h : XaMixerInStep s) (i : Fin xaMixerMaxTrackNumber) {core : XfCore}
    (hi : XaTrackInStep track) :
    XaMixerInStep { s with ext := s.ext.setTrack i track, core := core } := by
  intro j
  by_cases hj : j = i
  · subst hj
    simpa using hi
  · simpa [XaMixer.setTrack, hj] using h j

/-- The component is woken up, and the command is completed. -/
lemma wp_wake_response (hs : XaMixerInStep s) :
    wp xaMixerWake (fun _ => wp (xfResponse m) (fun _ => XaMixerInStep) fun _ => True)
      (fun _ => True) s :=
  wp_mono (tracksOnly_inStep.keeps_wake s hs)
    (fun _ _ ht => wp_of_keeps (tracksOnly_inStep.keeps_response m) ht fun _ h => h)
    fun _ _ => trivial

/-! ## Commands -/

/-- The first message makes an idle track active, and the others change no state. -/
lemma wp_emptyThisBuffer_inStep
    (hm : ∀ i, xaMixerTrack m.dstPort = some i → m.length = 0#32 → (s.ext.track i).paused = false)
    (hok : XaStatesOk s) (hs : XaMixerInStep s) :
    wp (xaMixerEmptyThisBuffer env m) (fun _ => XaMixerInStep) (fun _ => True) s := by
  refine tracksOnly_inStep.wp_emptyThisBuffer_of (fun i _ _ _ hidle => ?_) fun i hi _ hnot => ?_
  · refine hs.setTrack i ⟨fun h => ?_, fun h => ?_⟩
    · simp [hidle] at h
    · have hpaused := ((hok.track i).of_idle hidle).2
      simp [hpaused] at h
  · refine hs.setTrack i ⟨fun hidle => ?_, fun hpaused => ?_⟩
    · -- the queue of an idle track is empty, so the message is the first one
      have henabled := ((hs i).idle hidle).2
      have hput := (xfInputPortPut_nil henabled ((hok.track i).empty hidle).1 m).1
      exact absurd ⟨by rw [hput], hidle⟩ hnot
    · by_contra hlength
      have := hm i hi (by simpa using hlength)
      rw [show (s.ext.track i).paused = true from hpaused] at this
      cases this

lemma wp_flush_inStep
    (hm : ∀ i, xaMixerTrack m.dstPort = some i → (s.ext.track i).recvdData = false)
    (hok : XaStatesOk s) (hs : XaMixerInStep s) :
    wp (xaMixerFlush env m) (fun _ => XaMixerInStep) (fun _ => True) s := by
  rw [xaMixerFlush, wp_bind, wp_check]
  refine ⟨fun _ => ?_, fun _ => trivial⟩
  rw [wp_bind, wp_get, wp_ite]
  refine ⟨fun _ => wp_of_keeps ((Keeps.check _).bind fun _ => tracksOnly_inStep.keeps_output _) hs
    fun _ h => h, fun _ => ?_⟩
  cases hi : xaMixerTrack m.dstPort with
  | none => trivial
  | some i =>
    simp only
    rw [wp_bind, wp_ite, wp_pure]
    refine ⟨fun hbusy => ?_, fun _ => wp_of_keeps (tracksOnly_inStep.keeps_response m) hs
      fun _ h => h⟩
    have hcreated := (hok.track i).created (by simpa using hbusy)
    rw [wp_bind, xaTrackInputPurge, wp_xaTrackInput]
    rintro r hr
    obtain rfl := Option.some_inj.mp hr
    rw [wp_bind, xaTrackModify, wp_xaExtModify]
    simp only [setTrack_track, setTrack_setTrack]
    refine wp_wake_response (hs.setTrack i ⟨fun _ => ⟨hm i hi, ?_⟩, fun h => ?_⟩)
    · simp [xfInputPortPurge, hcreated]
    · cases h

lemma wp_pause_inStep
    (hm : ∀ i, xaMixerTrack m.dstPort = some i → (s.ext.track i).active = true →
      (s.ext.track i).recvdData = true)
    (hok : XaStatesOk s) (hs : XaMixerInStep s) :
    wp (xaMixerPause env m) (fun _ => XaMixerInStep) (fun _ => True) s := by
  rw [xaMixerPause, wp_bind, wp_check]
  refine ⟨fun _ => ?_, fun _ => trivial⟩
  cases hi : xaMixerTrack m.dstPort with
  | none => trivial
  | some i =>
    simp only
    rw [wp_bind, wp_get, wp_bind, wp_ite, wp_pure]
    refine ⟨fun hactive => ?_, fun _ => wp_of_keeps (tracksOnly_inStep.keeps_response m) hs
      fun _ h => h⟩
    rw [wp_bind, xaTrackModify, wp_xaExtModify]
    have hidle := ((hok.track i).active hactive).1
    refine wp_wake_response (hs.setTrack i ⟨fun h => ?_, fun _ => hm i hi hactive⟩)
    rw [hidle] at h
    cases h

lemma wp_resume_inStep (hok : XaStatesOk s) (hs : XaMixerInStep s) :
    wp (xaMixerResume env m) (fun _ => XaMixerInStep) (fun _ => True) s := by
  rw [xaMixerResume, wp_bind, wp_check]
  refine ⟨fun _ => ?_, fun _ => trivial⟩
  cases hi : xaMixerTrack m.dstPort with
  | none => trivial
  | some i =>
    simp only
    rw [wp_bind, wp_get, wp_bind, wp_ite, wp_pure]
    refine ⟨fun hpaused => ?_, fun _ => wp_of_keeps (tracksOnly_inStep.keeps_response m) hs
      fun _ h => h⟩
    rw [wp_bind, xaTrackModify, wp_xaExtModify]
    have hidle := (hok.track i).paused hpaused
    refine wp_wake_response (hs.setTrack i ⟨fun h => ?_, fun _ => (hs i).paused hpaused⟩)
    rw [hidle] at h
    cases h

/-- The memory table of a track clears the flag. -/
lemma inits_inStep : XaMixerInits env XaMixerInStep := by
  intro s i hs r hr
  rw [xfInputPortInit] at hr
  split at hr
  · cases hr
  · obtain ⟨rfl, -⟩ := Prod.mk.inj hr
    exact hs.setTrack i ⟨fun _ => ⟨rfl, rfl⟩, fun h => by cases h⟩

/-- Every other command leaves the flags in step. -/
lemma wp_command_inStep (hm : XaMixerKeepsStep s m) (hok : XaStatesOk s) (hs : XaMixerInStep s) :
    wp (xaBaseCommand xaMixer env m) (fun _ => XaMixerInStep) (fun _ => True) s := by
  have hkeeps {x : XaMixerProg Unit} (hx : Keeps XaMixerInStep x) :
      wp x (fun _ => XaMixerInStep) (fun _ => True) s := wp_of_keeps hx hs fun _ h => h
  rw [xaBaseCommand, show xaMixer.command = xaMixerCmd from rfl]
  cases hop : m.opcode with
  | setParam =>
    exact wp_setParam_of tracksOnly_inStep tracksOnly_inStep inits_inStep (fun _ h _ => h)
      (fun _ h => h) hs
  | getParam => exact hkeeps tracksOnly_inStep.keeps_getParam
  | route => exact hkeeps tracksOnly_inStep.keeps_portRoute
  | unroute => exact hkeeps tracksOnly_inStep.keeps_portUnroute
  | emptyThisBuffer => exact wp_emptyThisBuffer_inStep (fun i hi => (hm i hi).2.2 hop) hok hs
  | fillThisBuffer => exact hkeeps tracksOnly_inStep.keeps_fillThisBuffer
  | flush => exact wp_flush_inStep (fun i hi => (hm i hi).1 hop) hok hs
  | pause => exact wp_pause_inStep (fun i hi => (hm i hi).2.1 hop) hok hs
  | resume => exact wp_resume_inStep hok hs
  | unregister | setParamExt | getParamExt | other => trivial

/-! ## Runs -/

/-- In every run of a mixer, a message that puts no flag out of step leaves the flags in step. -/
theorem xaMixer_inStep_of_message {task : U32} {item : U32 → XfMessage} {core : XfCore}
    {e : XaEvent} (hrun : XaRun xaMixer XaMixerPlugged (xaMixerFactory task item core) s)
    (hs : XaMixerInStep s) (he : e.message s = some m) (hm : XaMixerKeepsStep s m)
    (hstep : xaStep xaMixer s e = some t) (hphase : t.phase = .running) : XaMixerInStep t := by
  have hdispatch {env : XaEnv} {core : XfCore}
      (hstep : Prog.after (xfCoreDispatch xaMixer env m) { s with core := core } = some t) :
      XaMixerInStep t := by
    refine Prog.after_of_wp (I := fun t => t.phase = .running → XaMixerInStep t)
      (wp_dispatch_of_command (E := fun _ => True) (fun hrunning => ?_)
        (fun _ u _ hdown _ h => absurd h hdown) fun _ u hdown _ h => absurd h hdown) hstep hphase
    obtain ⟨hok, -⟩ := (xaStatesOk_run hrun).core core hrunning
    exact wp_mono (wp_command_inStep hm hok hs) (fun _ t ht _ => ht) fun _ h => h
  replace hstep := xaStep_effect hstep
  cases hstep with
  | @command _ m' hstep =>
    obtain rfl : m' = m := Option.some_inj.mp he
    exact hdispatch hstep
  | @deliver _ m' _ hback hstep =>
    obtain rfl : m' = m := by simpa [XaEvent.message, hback] using he
    exact hdispatch hstep
  | process => cases he
  | idle _ hmessage =>
    rw [hmessage] at he
    cases he

end Hikey
