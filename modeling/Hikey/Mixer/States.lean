import Hikey.Io.Stage
import Hikey.Mixer.Frames

/-!
# The states of the tracks

Every track of a mixer is idle, active or paused, and the presentation timestamp of an active one is
that of the mixer: both are advanced in the same step, whatever commands come in between.  An idle
track has nothing queued and nothing in its buffer.
-/

namespace Hikey

open Prog

variable {s s₀ t : XaState XaMixer} {env : XaEnv} {m : XfMessage} {F : List XaFrame} {n pts : U32}
  {track track' : XaTrack} {i : Fin xaMixerMaxTrackNumber} {is : List (Fin xaMixerMaxTrackNumber)}
  {port : XfInputPort} {mem : U32 → UInt8}

/-! ## The plugin -/

/-- The memory tables of `xa-mixer.c`: four inputs, the output and the scratch buffer. -/
def XaEnv.IsMixerMemtabs (env : XaEnv) : Prop :=
  (env.api .getNMemtabs 0#32).value = 6#32 ∧
    ∀ i, (env.api .getMemInfoType (xaTrackIdx i)).value = 2#32

/-- The condition on the events of a run: the plugin is that of the mixer. -/
def XaMixerPlugged (s : XaState XaMixer) : XaEvent → Prop
  | .command env _ => env.IsMixerMemtabs
  | .deliver env => env.IsMixerMemtabs
  | .process env => XaMixerNext s → env.IsMixer
  | _ => True

instance (s : XaState XaMixer) (e : XaEvent) : Decidable (XaMixerPlugged s e) := by
  unfold XaMixerPlugged XaMixerNext XaEnv.IsMixerMemtabs
  match e with
  | .command .. | .deliver .. | .sinkReturn .. | .process .. | .otherPut .. | .otherCancel .. =>
    infer_instance

/-! ## Stages -/

/-- The component has been post-initialized, and is in one of the two stages that follow. -/
structure XaMixerRuns (s : XaState XaMixer) : Prop where
  postinit : s.base.postinit = true
  stage : s.base.runtimeInit = true ∨ s.base.execution = true
  runtimeInit : s.base.runtimeInit = true → s.base.execution = false

/-- The component has been post-initialized, or there is nothing for it to do yet. -/
def XaMixerStages (s : XaState XaMixer) : Prop :=
  XaMixerInitial s.ext.plugin.frames s ∨ XaMixerRuns s

lemma inputFree_runs : XaMixerInputFree XaMixerRuns := by
  intro s t hsame hs
  refine ⟨hsame.postinit.trans hs.postinit, ?_, ?_⟩
  · rw [hsame.runtimeInit, hsame.execution]
    exact hs.stage
  · rw [hsame.runtimeInit, hsame.execution]
    exact hs.runtimeInit

lemma inputFree_stages : XaMixerInputFree XaMixerStages := by
  rintro s t hsame (hs | hs)
  · left
    rw [hsame.frames]
    exact inputFree_initial s t hsame hs
  · exact .inr (inputFree_runs s t hsame hs)

lemma keeps_output_runs {α : Type}
    (f : XfOutputPort → Option (XfOutputPort × List XfMemEvent × List XfMessage × α)) :
    Keeps XaMixerRuns (xaMixerOutput f) := by
  intro s hs
  rw [wp_xaMixerOutput]
  exact fun r _ => ⟨hs.postinit, hs.stage, hs.runtimeInit⟩

lemma keeps_ext_runs (f : XaMixer → XaMixer) : Keeps XaMixerRuns (xaExtModify f) :=
  Keeps.modify fun _ hs => ⟨hs.postinit, hs.stage, hs.runtimeInit⟩

lemma keeps_setMemPtr_runs (idx ptr : U32) : Keeps XaMixerRuns (xaSetMemPtr env idx ptr) :=
  Keeps.bind (Keeps.modify fun _ hs => by exact ⟨hs.postinit, hs.stage, hs.runtimeInit⟩)
    fun _ => (keeps_xaApi _ _).bind fun _ => Keeps.pure _

/-- A command that is refused before the post-initialization. -/
lemma wp_stages_of_check {x : XaMixerProg Unit} (hx : Keeps XaMixerRuns x) (hs : XaMixerStages s) :
    wp (do Prog.check s.base.postinit; x) (fun _ => XaMixerStages) XaMixerStages s := by
  rw [wp_bind, wp_check]
  refine ⟨fun hpost => ?_, fun _ => hs⟩
  rcases hs with hs | hs
  · simp [hs.postinit] at hpost
  · exact wp_mono (hx s hs) (fun _ _ h => .inr h) fun _ h => .inr h

lemma keeps_setParam_stages : Keeps XaMixerStages (xaBaseSetParam xaMixerHooks env m) := by
  intro s hs
  have hsame : Keeps (fun t => XaMixerStages t ∧ t.ext.plugin.frames = s.ext.plugin.frames)
      (xaBaseSetParam xaMixerHooks env m) := by
    have hfree : XaMixerInputFree fun t => XaMixerStages t ∧
        t.ext.plugin.frames = s.ext.plugin.frames := fun t u hsame ht =>
      ⟨inputFree_stages t u hsame ht.1, hsame.frames.trans ht.2⟩
    refine keeps_xaBaseSetParam (J := XaMixerInitial s.ext.plugin.frames) ?_ ?_ (fun i => ?_) ?_
      (hfree.keepsResponse m)
    · rintro t ⟨ht | ht, hframes⟩ hpost
      · rwa [hframes] at ht
      · simp [ht.postinit] at hpost
    · intro t ht
      refine ⟨.inl ?_, ht.frames⟩
      rw [ht.frames]
      exact ht
    · refine (keeps_xaApi _ _).bind fun type => (keeps_xaApi _ _).bind fun size =>
        (keeps_xaApi _ _).bind fun align => Keeps.ite (fun _ => ?_) fun _ => Keeps.ite (fun _ => ?_)
          fun _ => Keeps.ite (fun _ => keeps_memtab_initial _ _ _) fun _ => Keeps.fail
      · exact (Keeps.check _).bind fun _ => (Keeps.check _).bind
          fun _ => keeps_setMemPtr_initial _ _
      · exact (Keeps.check _).bind fun _ => keeps_setMemPtr_initial _ _
    · intro t ht
      refine ⟨.inr ⟨?_, ?_, ?_⟩, ht.frames⟩
      · simp [ht.postinit]
      · simp [ht.runtimeInit]
      · simp [ht.execution]
  exact wp_mono (hsame s ⟨hs, rfl⟩) (fun _ _ h => h.1) fun _ h => h.1

lemma keeps_fillThisBuffer_stages : Keeps XaMixerStages (xaMixerFillThisBuffer env m) := by
  refine (Keeps.check _).bind fun _ => ?_
  intro s hs
  rw [wp_bind, wp_get]
  refine wp_stages_of_check (Keeps.bind (Keeps.ite (fun _ => Keeps.check _) fun _ => Keeps.ite
    (fun _ => Keeps.check _) fun _ => Keeps.pure _) fun _ => ?_) hs
  exact (keeps_output_runs _).bind fun _ => Keeps.ite (fun _ => inputFree_runs.keeps_schedule _)
    fun _ => Keeps.pure _

lemma keeps_portRoute_stages : Keeps XaMixerStages (xaMixerPortRoute env m) := by
  intro s hs
  rw [xaMixerPortRoute, wp_bind, wp_get]
  exact wp_stages_of_check ((Keeps.check _).bind fun _ => (Keeps.check _).bind fun _ =>
    (keeps_output_runs _).bind fun _ => (Keeps.check _).bind fun _ =>
      (inputFree_runs.keeps_schedule _).bind fun _ => inputFree_runs.keeps_response _) hs

lemma keeps_portUnroute_stages : Keeps XaMixerStages (xaMixerPortUnroute env m) := by
  intro s hs
  rw [xaMixerPortUnroute, wp_bind, wp_get]
  refine wp_stages_of_check ((Keeps.check _).bind fun _ => inputFree_runs.keeps_cancel.bind fun _ =>
    (keeps_ext_runs _).bind fun _ => (keeps_output_runs _).bind fun _ => Keeps.ite (fun _ => ?_)
      fun _ => keeps_output_runs _) hs
  exact (keeps_output_runs _).bind fun _ => inputFree_runs.keeps_response _

lemma keeps_flush_stages : Keeps XaMixerStages (xaMixerFlush env m) := by
  intro s hs
  by_cases hport : m.dstPort = xaMixerOutputPort
  · rw [xaMixerFlush, wp_bind, wp_check]
    refine ⟨fun _ => ?_, fun _ => hs⟩
    rw [wp_bind, wp_get, if_pos hport, wp_bind, wp_check]
    refine ⟨fun _ => ?_, fun _ => hs⟩
    rw [xaMixerOutputUnrouteDone, wp_xaMixerOutput]
    rintro r hr
    obtain ⟨⟨output, mem, m'⟩, hdone, rfl⟩ := Option.map_eq_some_iff.mp hr
    rcases hs with hs | hs
    · exact .inl ⟨hs.postinit, hs.runtimeInit, hs.execution, hs.setup,
        queue_xfOutputPortUnrouteDone hdone, rfl⟩
    · exact .inr ⟨hs.postinit, hs.stage, hs.runtimeInit⟩
  · exact inputFree_stages.keeps_flushTrack hport s hs

lemma keeps_command_stages : Keeps XaMixerStages (xaBaseCommand xaMixer env m) := by
  rw [xaBaseCommand, show xaMixer.command = xaMixerCmd from rfl]
  cases m.opcode with
  | setParam => exact keeps_setParam_stages
  | getParam => exact inputFree_stages.keeps_getParam
  | route => exact keeps_portRoute_stages
  | unroute => exact keeps_portUnroute_stages
  | emptyThisBuffer => exact inputFree_stages.keeps_emptyThisBuffer
  | fillThisBuffer => exact keeps_fillThisBuffer_stages
  | flush => exact keeps_flush_stages
  | pause => exact inputFree_stages.keeps_pause
  | resume => exact inputFree_stages.keeps_resume
  | unregister | setParamExt | getParamExt | other => exact Keeps.fail

/-- Before the post-initialization a process step ends without an effect. -/
lemma wp_preprocess_stages (hs : XaMixerStages s) :
    wp (xaMixerPreprocess env) (fun ok t => XaMixerStages t ∧ (ok = true → XaMixerRuns t))
      XaMixerStages s := by
  rcases hs with hs | hs
  · have hdata : xfOutputPortData s.ext.output = 0#32 := by simp [xfOutputPortData, hs.queue]
    rw [xaMixerPreprocess, wp_bind, wp_get, if_neg (by simp [hs.setup]),
      if_neg (by simp [hs.runtimeInit]), if_pos hdata, wp_pure]
    exact ⟨.inl hs, fun h => by cases h⟩
  · have hsetup : Keeps XaMixerRuns (xaMixerSetupInput env) :=
      Keeps.get.bind fun _ => Keeps.bind (Keeps.ite (fun _ => keeps_output_runs _)
        fun _ => Keeps.pure _) fun _ => inputFree_runs.keeps_setupTracks _ _
    have hkeeps : Keeps XaMixerRuns (xaMixerPreprocess env) :=
      Keeps.get.bind fun _ => Keeps.ite (fun _ => hsetup) fun _ => Keeps.ite (fun _ => Keeps.pure _)
        fun _ => Keeps.ite (fun _ => Keeps.pure _) fun _ => (keeps_setMemPtr_runs _ _).bind
          fun _ => (keeps_ext_runs _).bind fun _ => hsetup
    exact wp_mono (hkeeps s hs) (fun _ _ h => ⟨.inr h, fun _ => h⟩) fun _ h => .inr h

/-! ## Tracks -/

/-- The track is in at most one state; when it is idle its port is empty, and when it is active its
presentation timestamp is `pts`. -/
structure XaTrackState (pts : U32) (track : XaTrack) : Prop where
  active : track.active = true → track.idle = false ∧ track.paused = false
  paused : track.paused = true → track.idle = false
  empty : track.idle = true → track.input.queue = [] ∧ track.input.filled = 0#32
  pts : track.active = true → track.pts = pts
  enabled : track.input.enabled = true → track.input.created = true
  created : track.active = true ∨ track.paused = true → track.input.created = true

/-- The track is in some state. -/
def XaTrack.started (track : XaTrack) : Prop :=
  track.idle = true ∨ track.active = true ∨ track.paused = true

/-- The tracks are good, and all of them have been started when the component has been
post-initialized. -/
structure XaStatesOk (s : XaState XaMixer) : Prop where
  track : ∀ i, XaTrackState s.ext.pts (s.ext.track i)
  started : s.base.postinit = true → ∀ i, (s.ext.track i).started

namespace XaTrackState

lemma paused_of_active (h : XaTrackState pts track) (hpaused : track.paused = true) :
    track.active = false := by
  by_contra hactive
  have := (h.active (by simpa using hactive)).2
  simp [hpaused] at this

lemma of_idle (h : XaTrackState pts track) (hidle : track.idle = true) :
    track.active = false ∧ track.paused = false := by
  constructor
  · by_contra hactive
    simp [(h.active (by simpa using hactive)).1] at hidle
  · by_contra hpaused
    simp [h.paused (by simpa using hpaused)] at hidle

/-- An active track is paused, or a paused one becomes active. -/
lemma toggle (h : XaTrackState pts track) (hbusy : track.active = true ∨ track.paused = true)
    (hinput : track'.input = track.input) (hidle : track'.idle = track.idle)
    (hactive : track'.active = !track.active) (hpaused : track'.paused = !track.paused)
    (hpts : track.paused = true → track'.pts = pts) :
    XaTrackState pts track' ∧ track'.started := by
  have hcreated := h.created hbusy
  have hone : track.idle = false ∧ track.paused = !track.active := by
    rcases hbusy with hactive | hpaused
    · simp [h.active hactive, hactive]
    · simp [h.paused hpaused, h.paused_of_active hpaused, hpaused]
  refine ⟨⟨fun _ => ?_, fun _ => hidle.trans hone.1, ?_, fun h => hpts ?_, fun _ => ?_,
    fun _ => ?_⟩, ?_⟩
  · refine ⟨hidle.trans hone.1, ?_⟩
    simp_all
  · simp [hidle, hone.1]
  · rw [hactive] at h
    rw [hone.2]
    exact h
  · rw [hinput]
    exact hcreated
  · rw [hinput]
    exact hcreated
  · cases hb : track.active with
    | true => exact .inr (.inr (by simp [hpaused, hone.2, hb]))
    | false => exact .inr (.inl (by simp [hactive, hb]))

/-- The port of a track is changed, and stays empty when the track is idle. -/
lemma withInput (h : XaTrackState pts track) (hflags : XaPortFlags track.input port)
    (hempty : track.idle = true → port.queue = [] ∧ port.filled = 0#32) (setup recvd : Bool) :
    XaTrackState pts { track with input := port, inputSetup := setup, recvdData := recvd } := by
  refine ⟨h.active, h.paused, hempty, h.pts, fun hen => ?_, fun hbusy => ?_⟩
  · exact hflags.created.trans (h.enabled (hflags.enabled hen))
  · exact hflags.created.trans (h.created hbusy)

/-- The track is purged, and becomes idle. -/
lemma purge (hcreated : track.input.created = true)
    (hactive : track'.active = false) (hpaused : track'.paused = false)
    (hinput : track'.input = (xfInputPortPurge track.input).1) : XaTrackState n track' := by
  rw [xfInputPortPurge, if_neg (by simp [hcreated])] at hinput
  refine ⟨?_, ?_, ?_, ?_, ?_, ?_⟩
  · simp [hactive]
  · simp [hpaused]
  · simp [hinput]
  · simp [hactive]
  · simp [hinput]
  · simp [hactive, hpaused]

end XaTrackState

lemma tracksOnly_states : XaMixerTracksOnly XaStatesOk := by
  rintro s t ⟨hpost, hsame, hpts, -, -, -⟩ ⟨htrack, hstarted⟩
  refine ⟨?_, ?_⟩
  · rwa [hsame, hpts]
  · rwa [hsame, hpost]

/-- One track is changed. -/
lemma XaStatesOk.setTrack (h : XaStatesOk s) (i : Fin xaMixerMaxTrackNumber) {core : XfCore}
    (hi : XaTrackState s.ext.pts track) (hstarted : s.base.postinit = true → track.started) :
    XaStatesOk { s with ext := s.ext.setTrack i track, core := core } := by
  refine ⟨fun j => ?_, fun hpost j => ?_⟩
  · by_cases hj : j = i
    · subst hj
      show XaTrackState s.ext.pts _
      rw [setTrack_track]
      exact hi
    · show XaTrackState s.ext.pts _
      simpa [XaMixer.setTrack, hj] using h.track j
  · by_cases hj : j = i
    · subst hj
      simpa using hstarted hpost
    · simpa [XaMixer.setTrack, hj] using h.started hpost j

/-- An active track is paused, or a paused one becomes active. -/
lemma XaStatesOk.toggle (h : XaStatesOk s) (i : Fin xaMixerMaxTrackNumber)
    (hbusy : (s.ext.track i).active = true ∨ (s.ext.track i).paused = true)
    (hinput : track.input = (s.ext.track i).input) (hidle : track.idle = (s.ext.track i).idle)
    (hactive : track.active = !(s.ext.track i).active)
    (hpaused : track.paused = !(s.ext.track i).paused)
    (hpts : (s.ext.track i).paused = true → track.pts = s.ext.pts) :
    XaStatesOk { s with ext := s.ext.setTrack i track } := by
  obtain ⟨htrack, hstarted⟩ := (h.track i).toggle hbusy hinput hidle hactive hpaused hpts
  exact h.setTrack i htrack fun _ => hstarted

/-! ## Commands -/

lemma keeps_pause_states : Keeps XaStatesOk (xaMixerPause env m) := by
  refine (Keeps.check _).bind fun _ => ?_
  cases xaMixerTrack m.dstPort with
  | none => exact Keeps.fail
  | some i =>
    intro s hs
    simp only
    rw [wp_bind, wp_get, wp_bind, wp_ite, wp_pure]
    refine ⟨fun hactive => ?_, fun _ => tracksOnly_states.keeps_response m s hs⟩
    rw [wp_bind, xaTrackModify, wp_xaExtModify]
    refine wp_mono (tracksOnly_states.keeps_wake _ (hs.toggle i (.inl hactive) rfl rfl rfl rfl ?_))
      (fun _ t ht => tracksOnly_states.keeps_response m t ht) fun _ ht => ht
    intro hpaused
    simp [((hs.track i).active hactive).2] at hpaused

lemma keeps_resume_states : Keeps XaStatesOk (xaMixerResume env m) := by
  refine (Keeps.check _).bind fun _ => ?_
  cases xaMixerTrack m.dstPort with
  | none => exact Keeps.fail
  | some i =>
    intro s hs
    simp only
    rw [wp_bind, wp_get, wp_bind, wp_ite, wp_pure]
    refine ⟨fun hpaused => ?_, fun _ => tracksOnly_states.keeps_response m s hs⟩
    rw [wp_bind, xaTrackModify, wp_xaExtModify]
    refine wp_mono (tracksOnly_states.keeps_wake _ (hs.toggle i (.inr hpaused) rfl rfl rfl rfl ?_))
      (fun _ t ht => tracksOnly_states.keeps_response m t ht) fun _ ht => ht
    exact fun _ => rfl

lemma keeps_flush_states : Keeps XaStatesOk (xaMixerFlush env m) := by
  refine (Keeps.check _).bind fun _ => ?_
  intro s hs
  rw [wp_bind, wp_get, wp_ite]
  refine ⟨fun _ => (Keeps.check _).bind (fun _ => tracksOnly_states.keeps_output _) s hs,
    fun _ => ?_⟩
  cases xaMixerTrack m.dstPort with
  | none => exact hs
  | some i =>
    simp only
    rw [wp_bind, wp_ite, wp_pure]
    refine ⟨fun hbusy => ?_, fun _ => tracksOnly_states.keeps_response m s hs⟩
    have hi := hs.track i
    have hcreated := hi.created (by simpa using hbusy)
    rw [wp_bind, xaTrackInputPurge, wp_xaTrackInput]
    rintro r hr
    obtain rfl := Option.some_inj.mp hr
    rw [wp_bind, xaTrackModify, wp_xaExtModify]
    simp only [setTrack_track, setTrack_setTrack]
    refine wp_mono (tracksOnly_states.keeps_wake _ (hs.setTrack i (.purge hcreated rfl rfl rfl) ?_))
      (fun _ t ht => tracksOnly_states.keeps_response m t ht) fun _ ht => ht
    exact fun _ => .inl rfl

lemma wp_emptyThisBuffer_states (hs : XaStatesOk s) :
    wp (xaMixerEmptyThisBuffer env m) (fun _ => XaStatesOk) (fun _ => True) s := by
  refine tracksOnly_states.wp_emptyThisBuffer_of (fun i _ hpost hfirst hidle => ?_)
    fun i _ hpost hnot => ?_
  · -- the track becomes active
    have hi := hs.track i
    have hflags := flags_xfInputPortPut (s.ext.track i).input m
    have hcreated := hi.enabled (enabled_of_xfInputPortPut hfirst)
    obtain ⟨hactive, hpaused⟩ := hi.of_idle hidle
    refine hs.setTrack i ⟨?_, ?_, ?_, ?_, ?_, ?_⟩ ?_
    · simp [hidle, hpaused]
    · simp [hpaused]
    · simp [hidle]
    · exact fun _ => rfl
    · exact fun _ => hflags.created.trans hcreated
    · exact fun _ => hflags.created.trans hcreated
    · exact fun _ => .inr (.inl (by simp [hactive]))
  · have hi := hs.track i
    have hflags := flags_xfInputPortPut (s.ext.track i).input m
    refine hs.setTrack i (hi.withInput hflags (fun hidle => ?_) _ _) fun hpost => hs.started hpost i
    obtain ⟨hqueue, hfilled⟩ := hi.empty hidle
    rw [xfInputPortPut_of_empty hqueue (by simpa [hidle] using hnot)]
    exact ⟨hqueue, hfilled⟩

/-! ### The post-initialization -/

lemma inits_states : XaMixerInits env fun t => XaStatesOk t ∧ t.base.postinit = false := by
  rintro s i ⟨hs, hnot⟩ r hr
  rw [xfInputPortInit] at hr
  split at hr
  · cases hr
  · obtain ⟨rfl, -⟩ := Prod.mk.inj hr
    refine ⟨hs.setTrack i ⟨?_, ?_, ?_, ?_, ?_, ?_⟩ fun _ => .inl rfl, hnot⟩ <;> simp

lemma inits_idle (i : Fin xaMixerMaxTrackNumber) :
    XaMixerInits env fun t => (t.ext.track i).idle = true := by
  intro s j hs r _
  by_cases hj : i = j
  · subst hj
    simp
  · simpa [XaMixer.setTrack, hj] using hs

lemma tracksOnly_idle (i : Fin xaMixerMaxTrackNumber) :
    XaMixerTracksOnly fun t => (t.ext.track i).idle = true := by
  intro s t hsame hs
  rwa [hsame.track]

/-- The memory table of a track leaves it idle. -/
lemma wp_memtab_idle (hplug : env.IsMixerMemtabs) (i : Fin xaMixerMaxTrackNumber) :
    wp (xaBaseMemtab xaMixerHooks env (xaTrackIdx i)) (fun _ t => (t.ext.track i).idle = true)
      (fun _ => True) s := by
  have htrack : xaMixerTrack ((xaTrackIdx i).setWidth 16) = some i := by
    fin_cases i <;> rfl
  rw [xaBaseMemtab, wp_bind, wp_xaApi]
  refine ⟨fun _ => ?_, fun _ => trivial⟩
  rw [wp_bind, wp_xaApi]
  refine ⟨fun _ => ?_, fun _ => trivial⟩
  rw [wp_bind, wp_xaApi]
  refine ⟨fun _ => ?_, fun _ => trivial⟩
  rw [hplug.2, if_neg (by decide), if_neg (by decide), if_pos (.inl rfl)]
  change wp (xaMixerMemtab env (xaTrackIdx i) 2#32 _) _ _ _
  rw [xaMixerMemtab, if_pos rfl, htrack]
  simp only
  rw [wp_bind, wp_check]
  refine ⟨fun _ => ?_, fun _ => trivial⟩
  rw [wp_bind, wp_xaTrackInput]
  rintro r -
  rw [wp_bind, wp_check]
  refine ⟨fun _ => ?_, fun _ => trivial⟩
  rw [wp_bind, xaTrackModify, wp_xaExtModify, wp_bind, wp_xaApi]
  refine ⟨fun _ => ?_, fun _ => trivial⟩
  rw [xaTrackModify, wp_xaExtModify]
  simp

/-- The tracks whose memory tables are passed are idle. -/
lemma wp_memtabs_idle (hplug : env.IsMixerMemtabs) (i : Fin xaMixerMaxTrackNumber)
    (k : ℕ) (idx : U32)
    (hidx : idx.toNat ≤ i.val) (hi : i.val < idx.toNat + k) :
    wp (xaBaseMemtabs xaMixerHooks env k idx) (fun _ t => (t.ext.track i).idle = true)
      (fun _ => True) s := by
  induction k generalizing idx s with
  | zero => omega
  | succ k ih =>
    have hlt : i.val < 4 := i.isLt
    rw [xaBaseMemtabs, wp_bind]
    by_cases heq : idx.toNat = i.val
    · have hidx : idx = xaTrackIdx i := by
        apply BitVec.eq_of_toNat_eq
        simp [xaTrackIdx]
        omega
      rw [hidx]
      exact wp_mono (wp_memtab_idle hplug i) (fun _ t ht =>
        wp_xaMixerMemtabs_of (tracksOnly_idle i) (inits_idle i) _ _ ht) fun _ h => h
    · have hnext : (idx + 1#32).toNat = idx.toNat + 1 := by
        rw [BitVec.toNat_add]
        simp
        omega
      refine wp_mono wp_trivial (fun _ t _ => ih (idx + 1#32) ?_ ?_) fun _ h => h
      · omega
      · omega

lemma wp_postinit_states (hplug : env.IsMixerMemtabs) (hs : XaStatesOk s)
    (hnot : s.base.postinit = false) : wp (xaBasePostinit xaMixerHooks env)
      (fun _ t => XaStatesOk { t with
        base := { t.base with
          postinit := !t.base.postinit, runtimeInit := !t.base.runtimeInit } })
      (fun _ => True) s := by
  have htracks : XaMixerTracksOnly fun t => XaStatesOk t ∧ t.base.postinit = false :=
    fun t u hsame ht => ⟨tracksOnly_states t u hsame ht.1, hsame.postinit.trans ht.2⟩
  rw [xaBasePostinit, wp_bind, wp_xaApi]
  refine ⟨fun _ => ?_, fun _ => trivial⟩
  rw [wp_bind, wp_xaApi]
  refine ⟨fun _ => ?_, fun _ => trivial⟩
  have hidle : wp (xaBaseMemtabs xaMixerHooks env
      (env.api .getNMemtabs 0#32).value.toInt.toNat 0#32)
      (fun _ t => ∀ i, (t.ext.track i).idle = true) (fun _ => True) s := by
    rw [hplug.1]
    refine wp_forall fun i => wp_memtabs_idle hplug i _ _ (Nat.zero_le _) ?_
    have hlt : i.val < 4 := i.isLt
    simp
    omega
  refine wp_mono (wp_and (wp_xaMixerMemtabs_of htracks inits_states _ _ ⟨hs, hnot⟩) hidle)
    (fun _ t ht => ?_) fun _ _ => trivial
  exact ⟨ht.1.1.track, fun _ i => .inl (ht.2 i)⟩

lemma wp_command_states (hplug : env.IsMixerMemtabs) (hs : XaStatesOk s) :
    wp (xaBaseCommand xaMixer env m) (fun _ => XaStatesOk) (fun _ => True) s := by
  have hkeeps {x : XaMixerProg Unit} (hx : Keeps XaStatesOk x) :
      wp x (fun _ => XaStatesOk) (fun _ => True) s := wp_of_keeps hx hs fun _ h => h
  rw [xaBaseCommand, show xaMixer.command = xaMixerCmd from rfl]
  cases m.opcode with
  | setParam =>
    exact wp_setParam_of_postinit tracksOnly_states
      (fun t ht hnot => wp_postinit_states hplug ht hnot) hs
  | getParam => exact hkeeps tracksOnly_states.keeps_getParam
  | route => exact hkeeps tracksOnly_states.keeps_portRoute
  | unroute => exact hkeeps tracksOnly_states.keeps_portUnroute
  | emptyThisBuffer => exact wp_emptyThisBuffer_states hs
  | fillThisBuffer => exact hkeeps tracksOnly_states.keeps_fillThisBuffer
  | flush => exact hkeeps keeps_flush_states
  | pause => exact hkeeps keeps_pause_states
  | resume => exact hkeeps keeps_resume_states
  | unregister | setParamExt | getParamExt | other => trivial

/-! ## The set-up of the input -/

/-- A time is not after itself. -/
lemma xfTimeAfter_self (a : U32) : xfTimeAfter a a = false := by
  rw [xfTimeAfter, BitVec.sub_self]
  rfl

/-- The track is set up only when its port has been filled, with a whole frame or up to the end of
the stream. -/
def XaTrackFilled (mem : U32 → UInt8) (track track' : XaTrack) : Prop :=
  track'.inputSetup = true → track.inputSetup = true ∨
    (∃ ms, xfInputPortFill mem track.input = some (track'.input, ms, true)) ∧
      (track'.input.filled = track'.input.length ∨ track'.input.done = !track.input.done)

/-- The tracks are good, those of the list are the ones of `s₀`, and the other ones have been filled
if they are set up. -/
structure XaStatesFilled (mem : U32 → UInt8) (s₀ : XaState XaMixer)
    (is : List (Fin xaMixerMaxTrackNumber)) (s : XaState XaMixer) : Prop where
  ok : XaStatesOk s
  filled : ∀ i, XaTrackFilled mem (s₀.ext.track i) (s.ext.track i)
  same : ∀ i ∈ is, s.ext.track i = s₀.ext.track i

namespace XaStatesFilled

lemma tail (h : XaStatesFilled mem s₀ (i :: is) s) : XaStatesFilled mem s₀ is s :=
  ⟨h.ok, h.filled, fun j hj => h.same j (List.mem_cons_of_mem _ hj)⟩

lemma nil (h : XaStatesFilled mem s₀ is s) : XaStatesFilled mem s₀ [] s :=
  ⟨h.ok, h.filled, fun _ hj => by cases hj⟩

lemma setTrack (h : XaStatesFilled mem s₀ is s) (hi : i ∉ is) (core : XfCore)
    (htrack : XaTrackState s.ext.pts track) (hstarted : s.base.postinit = true → track.started)
    (hfilled : XaTrackFilled mem (s₀.ext.track i) track) :
    XaStatesFilled mem s₀ is { s with ext := s.ext.setTrack i track, core := core } := by
  refine ⟨h.ok.setTrack i htrack hstarted, fun j => ?_, fun j hj => ?_⟩
  · by_cases hj : j = i
    · subst hj
      rwa [setTrack_track]
    · simpa [XaMixer.setTrack, hj] using h.filled j
  · have hne : j ≠ i := by
      rintro rfl
      exact hi hj
    simpa [XaMixer.setTrack, hne] using h.same j hj

end XaStatesFilled

lemma tracksOnly_filled : XaMixerTracksOnly (XaStatesFilled mem s₀ is) := by
  intro s t hsame hs
  refine ⟨tracksOnly_states s t hsame hs.ok, ?_, ?_⟩
  · rw [hsame.track]
    exact hs.filled
  · rw [hsame.track]
    exact hs.same

lemma wp_setupTrack_states (hi : i ∉ is) (hactive : (s.ext.track i).active = true)
    (hs : XaStatesFilled env.mem s₀ (i :: is) s) :
    wp (xaMixerSetupTrack env i) (fun _ => XaStatesFilled env.mem s₀ is)
      (XaStatesFilled env.mem s₀ []) s := by
  have hok := hs.ok.track i
  have hidle := (hok.active hactive).1
  have hsame := hs.same i List.mem_cons_self
  have hstarted := fun hpost => hs.ok.started hpost i
  rw [xaMixerSetupTrack, wp_bind, wp_get, wp_ite]
  refine ⟨fun hafter => ?_, fun _ => ?_⟩
  · -- the track is due, since its presentation timestamp is that of the mixer
    rw [hok.pts hactive, xfTimeAfter_self] at hafter
    cases hafter
  · rw [wp_bind, xaTrackInputFill, wp_xaTrackInput]
    rintro ⟨port, ms, full⟩ hr
    have hport := hok.withInput (flags_xfInputPortFill hr) (fun h => by simp [hidle] at h)
    rw [wp_ite, wp_pure]
    refine ⟨fun hfull => ?_, fun _ => ?_⟩
    · obtain rfl : full = true := hfull
      have hset := hs.tail.setTrack hi (ms.foldl XfCore.complete s.core)
        (hport (s.ext.track i).inputSetup (s.ext.track i).recvdData) hstarted fun hsetup => .inl (by
          rw [← hsame]
          exact hsetup)
      rw [wp_bind, wp_get, wp_bind]
      refine wp_mono (keeps_setInputBytes (I := fun t => XaStatesFilled env.mem s₀ is t ∧
        t.ext.track i = { s.ext.track i with input := port } ∧ t.ext.pts = s.ext.pts ∧
        t.base.postinit = s.base.postinit) (fun t d ht => ?_) _ _ ⟨hset, ?_, rfl, rfl⟩)
        (fun _ t ht => ?_) fun t ht => ht.1.nil
      · exact ⟨⟨⟨ht.1.ok.track, ht.1.ok.started⟩, ht.1.filled, ht.1.same⟩, ht.2⟩
      · exact setTrack_track _ _ _
      · obtain ⟨ht, htrack, hpts, hpost⟩ := ht
        rw [wp_bind, xaTrackModify, wp_xaExtModify, wp_pure, htrack]
        refine ht.setTrack hi t.core ?_ ?_ fun _ => .inr ⟨⟨ms, ?_⟩, ?_⟩
        · rw [hpts]
          exact hport true (s.ext.track i).recvdData
        · rw [hpost]
          exact hstarted
        · rw [← hsame]
          exact hr
        · rw [← hsame]
          exact xfInputPortFill_full hr rfl
    · refine hs.tail.setTrack hi _ (hport _ _) hstarted fun hsetup => .inl ?_
      rw [← hsame]
      exact hsetup

lemma wp_setupTracks_states (hnodup : is.Nodup) (e : Bool) (hs : XaStatesFilled env.mem s₀ is s) :
    wp (xaMixerSetupTracks env is e) (fun _ => XaStatesFilled env.mem s₀ [])
      (XaStatesFilled env.mem s₀ []) s := by
  induction is generalizing s e with
  | nil => exact hs
  | cons i is ih =>
    obtain ⟨hi, hnodup⟩ := List.nodup_cons.mp hnodup
    rw [xaMixerSetupTracks, wp_bind, wp_get, wp_ite, wp_ite]
    refine ⟨fun _ => ih hnodup _ hs.tail, fun hactive =>
      ⟨fun _ => ih hnodup _ hs.tail, fun _ => ?_⟩⟩
    rw [wp_bind]
    refine wp_mono (wp_setupTrack_states hi (by simpa using hactive) hs) (fun ok t ht => ?_)
      fun _ h => h
    rw [wp_ite, wp_pure]
    exact ⟨fun _ => ih hnodup _ ht, fun _ => ht.nil⟩

/-- No track is set up before its port has been filled. -/
lemma wp_preprocess_states (hs : XaStatesOk s) :
    wp (xaMixerPreprocess env) (fun _ => XaStatesFilled env.mem s [])
      (XaStatesFilled env.mem s []) s := by
  have hstart : XaStatesFilled env.mem s (List.finRange xaMixerMaxTrackNumber) s :=
    ⟨hs, fun _ hsetup => .inl hsetup, fun _ _ => rfl⟩
  have hinput (t : XaState XaMixer)
      (ht : XaStatesFilled env.mem s (List.finRange xaMixerMaxTrackNumber) t) :
      wp (xaMixerSetupInput env) (fun _ => XaStatesFilled env.mem s [])
        (XaStatesFilled env.mem s []) t := by
    rw [xaMixerSetupInput, wp_bind, wp_get, wp_bind]
    refine wp_mono (Keeps.ite (fun _ => tracksOnly_filled.keeps_output _) (fun _ => Keeps.pure _) t
      ht) (fun _ u hu => ?_) fun u hu => hu.nil
    exact wp_setupTracks_states (List.nodup_finRange _) _ hu
  rw [xaMixerPreprocess, wp_bind, wp_get, wp_ite, wp_ite, wp_ite, wp_pure, wp_pure]
  refine ⟨fun _ => hinput s hstart, fun _ => ⟨fun _ => hstart.nil, fun _ => ⟨fun _ => hstart.nil,
    fun _ => ?_⟩⟩⟩
  rw [wp_bind]
  refine wp_mono (tracksOnly_filled.keeps_memPtr _ _ s hstart) (fun _ t ht => ?_) fun t ht => ht.nil
  rw [wp_bind]
  refine wp_mono (tracksOnly_filled.keeps_ext ?_ ?_ ?_ ?_ t ht) (fun _ u hu => hinput u hu)
    fun u hu => hu.nil
  · exact fun _ => rfl
  · exact fun _ => rfl
  · exact fun _ => rfl
  · exact fun _ => rfl

/-! ## The process step -/

lemma keeps_prepareRuntime_runs : Keeps XaMixerRuns (xaMixerPrepareRuntime env) :=
  keeps_prepareRuntime_of (fun _ _ _ _ _ => keeps_ext_runs _) inputFree_runs.keeps_response

lemma keeps_finishOutput_runs : Keeps XaMixerRuns (xaMixerFinishOutput env) :=
  keeps_finishOutput_of (keeps_ext_runs _) (fun _ => keeps_output_runs _) (keeps_ext_runs _)
    inputFree_runs.keeps_schedule

/-- A frame has been written at time `pts`.  The tracks of the list are still at that time, and the
other ones are a frame of `n` samples later. -/
structure XaStatesFinish (pts n : U32) (is : List (Fin xaMixerMaxTrackNumber))
    (s : XaState XaMixer) : Prop where
  time : s.ext.pts = pts
  frameSize : s.ext.frameSize = n
  written : s.ext.plugin.output = true
  started : ∀ i, (s.ext.track i).started
  before : ∀ i ∈ is, XaTrackState pts (s.ext.track i)
  after : ∀ i, i ∉ is → XaTrackState (pts + n) (s.ext.track i)

/-- The time of a track that is not active is of no account. -/
lemma XaTrackState.of_not_active (h : XaTrackState pts track) (hactive : track.active = false) :
    XaTrackState n track := by
  refine ⟨h.active, h.paused, h.empty, fun hnot => ?_, h.enabled, h.created⟩
  simp [hactive] at hnot

namespace XaStatesFinish

/-- A track has been changed that is not in the list. -/
lemma setTrack {is' : List (Fin xaMixerMaxTrackNumber)} (h : XaStatesFinish pts n is' s)
    (hi : i ∉ is)
    (hsub : ∀ j ≠ i, j ∈ is' ↔ j ∈ is) (core : XfCore) (htrack : XaTrackState (pts + n) track)
    (hstarted : track.started) :
    XaStatesFinish pts n is { s with ext := s.ext.setTrack i track, core := core } := by
  have hother (j : Fin xaMixerMaxTrackNumber) (hj : j ≠ i) :
      (s.ext.setTrack i track).track j = s.ext.track j := by simp [XaMixer.setTrack, hj]
  refine ⟨h.time, h.frameSize, h.written, fun j => ?_, fun j hj => ?_, fun j hj => ?_⟩
  · by_cases hne : j = i
    · subst hne
      rwa [setTrack_track]
    · rw [hother j hne]
      exact h.started j
  · have hne : j ≠ i := by
      rintro rfl
      exact hi hj
    rw [hother j hne]
    exact h.before j ((hsub j hne).mpr hj)
  · by_cases hne : j = i
    · subst hne
      rwa [setTrack_track]
    · rw [hother j hne]
      exact h.after j fun hmem => hj ((hsub j hne).mp hmem)

/-- The next track of the list is not active. -/
lemma skip (h : XaStatesFinish pts n (i :: is) s) (hactive : (s.ext.track i).active = false) :
    XaStatesFinish pts n is s := by
  refine ⟨h.time, h.frameSize, h.written, h.started, fun j hj => ?_, fun j hj => ?_⟩
  · exact h.before j (List.mem_cons_of_mem _ hj)
  · by_cases hne : j = i
    · subst hne
      exact (h.before j List.mem_cons_self).of_not_active hactive
    · refine h.after j fun hmem => ?_
      rcases List.mem_cons.mp hmem with heq | hmem
      · exact hne heq
      · exact hj hmem

lemma setInputLength {d : Fin xaMixerMaxTrackNumber → U32} (h : XaStatesFinish pts n is s) :
    XaStatesFinish pts n is { s with
      ext := { s.ext with plugin := { s.ext.plugin with inputLength := d } } } :=
  ⟨h.time, h.frameSize, h.written, h.started, h.before, h.after⟩

end XaStatesFinish

lemma wp_finishTrack_states (hi : i ∉ is) (hs : XaStatesFinish pts n (i :: is) s) :
    wp (xaMixerFinishTrack env i) (fun _ => XaStatesFinish pts n is) (fun _ => True) s := by
  rw [xaMixerFinishTrack, wp_bind, wp_get, wp_ite, wp_pure]
  refine ⟨fun hidle => hs.skip (by simpa using hidle), fun hactive => ?_⟩
  have hactive : (s.ext.track i).active = true := by simpa using hactive
  have hok := hs.before i List.mem_cons_self
  have hsub (j : Fin xaMixerMaxTrackNumber) (hne : j ≠ i) : j ∈ i :: is ↔ j ∈ is := by simp [hne]
  rw [wp_bind, xaTrackModify, wp_xaExtModify, wp_bind]
  have hlater : XaTrackState (pts + n) { s.ext.track i with
      inputSetup := false, pts := (s.ext.track i).pts + s.ext.frameSize } := by
    refine ⟨hok.active, hok.paused, hok.empty, fun _ => ?_, hok.enabled, hok.created⟩
    show (s.ext.track i).pts + s.ext.frameSize = pts + n
    rw [hok.pts hactive, hs.frameSize]
  have hstart : XaStatesFinish pts n is { s with ext := s.ext.setTrack i { s.ext.track i with
      inputSetup := false, pts := (s.ext.track i).pts + s.ext.frameSize } } :=
    hs.setTrack hi hsub s.core hlater (.inr (.inl hactive))
  refine wp_mono (keeps_getCuridxInputBuf (I := fun t => XaStatesFinish pts n is t ∧
    (t.ext.track i).active = true) (fun _ _ h => ⟨h.1.setInputLength, h.2⟩) _
    ⟨hstart, by simpa using hactive⟩) (fun k t ht => ?_) fun _ _ => trivial
  obtain ⟨ht, hactive⟩ := ht
  rw [wp_bind, xaTrackInputConsume, wp_xaTrackInput]
  rintro r hr
  obtain ⟨⟨port, ms⟩, hconsume, rfl⟩ := Option.map_eq_some_iff.mp hr
  have hok := ht.after i hi
  have hidle := (hok.active hactive).1
  have hport := hok.withInput (flags_xfInputPortConsume hconsume) (fun h => by simp [hidle] at h)
    (t.ext.track i).inputSetup (t.ext.track i).recvdData
  have hu : XaStatesFinish pts n is { t with
      ext := t.ext.setTrack i { t.ext.track i with input := port }
      core := ms.foldl XfCore.complete t.core } :=
    ht.setTrack hi (fun _ _ => Iff.rfl) _ hport (.inr (.inl hactive))
  rw [wp_bind, wp_get, wp_ite, wp_pure]
  refine ⟨fun _ => ?_, fun _ => hu⟩
  -- the end of the stream
  rw [wp_bind, xaTrackInputPurge, wp_xaTrackInput]
  rintro r hr
  obtain rfl := Option.some_inj.mp hr
  rw [xaTrackModify, wp_xaExtModify]
  simp only [setTrack_track, setTrack_setTrack]
  have hcreated : ({ t.ext.track i with input := port } : XaTrack).input.created = true :=
    hport.created (.inl hactive)
  refine ht.setTrack hi (fun _ _ => Iff.rfl) _ (.purge hcreated ?_ ?_ rfl) (.inl ?_)
  · simp [hactive]
  · exact (hok.active hactive).2
  · simp [hidle]

lemma wp_finishTracks_states (hnodup : is.Nodup) (hs : XaStatesFinish pts n is s) :
    wp (xaMixerFinishTracks env is) (fun _ => XaStatesFinish pts n []) (fun _ => True) s := by
  induction is generalizing s with
  | nil => exact hs
  | cons i is ih =>
    obtain ⟨hi, hnodup⟩ := List.nodup_cons.mp hnodup
    rw [xaMixerFinishTracks, wp_bind]
    exact wp_mono (wp_finishTrack_states hi hs) (fun _ t ht => ih hnodup ht) fun _ h => h

/-- The output advances the time of the mixer as far as that of the tracks. -/
lemma wp_finishOutput_states (hmixer : env.IsMixer) (hs : XaStatesFinish pts n [] s) :
    wp (xaMixerFinishOutput env) (fun _ => XaStatesOk) (fun _ => False) s := by
  obtain ⟨-, -, -, -, -, hbytes, -⟩ := hmixer
  rw [xaMixerFinishOutput, wp_bind, xaMixerGetOutputBytes, wp_bind, wp_xaApi]
  refine ⟨fun _ => ?_, fun hfatal => by simp [hbytes] at hfatal⟩
  rw [wp_bind, wp_get, wp_pure, hs.written, if_pos rfl, wp_bind, if_pos (by decide), wp_bind,
    wp_xaExtModify, wp_bind, xaMixerOutputProduce, wp_xaMixerOutput]
  rintro r -
  have hok (core : XfCore) (flag : Bool) : XaStatesOk { s with
      base := { s.base with schedule := flag }
      ext := { s.ext with
        output := r.1
        pts := s.ext.pts + s.ext.frameSize
        outputSetup := false }
      core := core } := by
    refine ⟨fun i => ?_, fun _ => hs.started⟩
    show XaTrackState (s.ext.pts + s.ext.frameSize) (s.ext.track i)
    rw [hs.time, hs.frameSize]
    exact hs.after i (List.not_mem_nil)
  rw [wp_xaExtModify, wp_bind, wp_get, wp_ite, wp_pure]
  exact ⟨fun _ => wp_xaBaseSchedule_of fun flag sched => hok _ flag, fun _ => hok _ s.base.schedule⟩

/-- The states of the tracks and the stages of the component are kept by a process step. -/
lemma wp_process_states (hmixer : env.IsMixer) (hs : XaStatesOk s) (hstages : XaMixerStages s) :
    wp (xaBaseProcess xaMixerHooks env) (fun _ t => XaStatesOk t ∧ XaMixerStages t)
      (fun t => XaStatesOk t ∧ XaMixerStages t) s := by
  have hs' : XaStatesOk { s with base := { s.base with schedule := false } } :=
    ⟨hs.track, hs.started⟩
  have hstages' : XaMixerStages { s with base := { s.base with schedule := false } } :=
    hstages.imp (fun h => ⟨h.postinit, h.runtimeInit, h.execution, h.setup, h.queue, h.frames⟩)
      fun h => ⟨h.postinit, h.stage, h.runtimeInit⟩
  rw [xaBaseProcess, wp_bind, wp_xaBaseModify, wp_bind]
  refine wp_mono (wp_and (wp_preprocess_states hs') (wp_preprocess_stages hstages'))
    (fun ok t ht => ?_) fun t ht => ⟨ht.1.ok, ht.2⟩
  obtain ⟨⟨ht, -, -⟩, htstages, hruns⟩ := ht
  rw [wp_ite]
  refine ⟨fun hok => ?_, fun _ => ⟨ht, htstages⟩⟩
  have hruns := hruns hok
  rw [wp_bind]
  refine wp_execute_mixer hmixer (fun hinit => ?_) (fun hinit hexec => ?_) fun hinit hexec => ?_
  · -- the run-time initialization ends, and no time passes
    have hexec := hruns.runtimeInit hinit
    have hu : XaMixerRuns { t with base := { t.base with
        runtimeInit := !t.base.runtimeInit, execution := !t.base.execution } } :=
      ⟨hruns.postinit, .inr (by simp [hexec]), fun h => by simp [hinit] at h⟩
    have hu' : XaStatesOk { t with base := { t.base with
        runtimeInit := !t.base.runtimeInit, execution := !t.base.execution } } :=
      ⟨ht.track, ht.started⟩
    rw [wp_postprocess_init (by simp [hinit]) (by simp [hexec])]
    exact wp_mono (wp_and (tracksOnly_states.keeps_prepareRuntime _ hu')
      (keeps_prepareRuntime_runs _ hu)) (fun _ _ h => ⟨h.1, .inr h.2⟩) fun _ h => ⟨h.1, .inr h.2⟩
  · -- a frame is mixed, and the time of the mixer and of the active tracks is advanced by its size
    rw [wp_postprocess_frame hexec, wp_bind]
    refine wp_mono (wp_and (wp_and (wp_finishTracks_states (n := t.ext.frameSize)
      (List.nodup_finRange _) ⟨rfl, rfl, rfl, ht.started hruns.postinit, fun i _ => ht.track i,
        fun i hi => absurd (List.mem_finRange i) hi⟩) (inputFree_runs.keeps_finishTracks _ _ ?_))
      (wp_finishTracks_noError hmixer _)) (fun _ u hu => ?_) fun _ h => h.2.elim
    · exact ⟨hruns.postinit, hruns.stage, hruns.runtimeInit⟩
    · exact wp_mono (wp_and (wp_finishOutput_states hmixer hu.1.1)
        (keeps_finishOutput_runs u hu.1.2))
        (fun _ _ h => ⟨h.1, .inr h.2⟩) fun _ h => h.1.elim
  · -- the stage has begun, so this does not happen
    have := hruns.stage
    simp [hinit, hexec] at this

/-! ## Runs -/

/-- The states of the tracks of a running mixer are good. -/
def XaStatesRunOk (s : XaState XaMixer) : Prop :=
  s.phase = .running → XaStatesOk s ∧ XaMixerStages s

lemma XaStatesRunOk.core (h : XaStatesRunOk s) (core : XfCore) :
    XaStatesRunOk { s with core := core } := by
  intro hphase
  obtain ⟨hs, hstages⟩ := h hphase
  exact ⟨⟨hs.track, hs.started⟩, hstages.imp
    (fun h => ⟨h.postinit, h.runtimeInit, h.execution, h.setup, h.queue, h.frames⟩)
    fun h => ⟨h.postinit, h.stage, h.runtimeInit⟩⟩

lemma wp_dispatch_states (hplug : env.IsMixerMemtabs) (hs : XaStatesRunOk s) :
    wp (xfCoreDispatch xaMixer env m) (fun _ => XaStatesRunOk) XaStatesRunOk s := by
  refine wp_dispatch_of_command (E := fun _ => True) (fun hphase => ?_)
    (fun _ u _ hdown _ h => absurd h hdown) fun _ u hdown _ h => absurd h hdown
  obtain ⟨hs, hstages⟩ := hs hphase
  exact wp_mono (wp_and (wp_command_states hplug hs) (keeps_command_stages s hstages))
    (fun _ t ht _ => ht) fun _ _ => trivial

/-- Every event of a mixer keeps the states of the tracks. -/
lemma XaStatesRunOk.step {e : XaEvent} (hs : XaStatesRunOk s) (hplug : XaMixerPlugged s e)
    (hstep : xaStep xaMixer s e = some t) : XaStatesRunOk t := by
  replace hstep := xaStep_effect hstep
  cases hstep with
  | command hstep => exact Prog.after_of_wp (wp_dispatch_states hplug hs) hstep
  | deliver hback hstep => exact Prog.after_of_wp (wp_dispatch_states hplug (hs.core _)) hstep
  | @process env sched hget hstep =>
    refine after_xfCoreProcess (I := XaStatesRunOk) hstep fun hphase => ?_
    have hmixer := hplug ⟨hphase, by simp [hget]⟩
    obtain ⟨hok, hstages⟩ := (hs.core { s.core with sched := sched }) hphase
    exact wp_mono (wp_process_states hmixer hok hstages) (fun _ _ h _ => h) fun _ h _ => h
  | @idle _ core hstep => exact hstep ▸ hs.core core

lemma xaStatesOk_run {task : U32} {item : U32 → XfMessage} {core : XfCore}
    (hrun : XaRun xaMixer XaMixerPlugged (xaMixerFactory task item core) s) : XaStatesRunOk s := by
  refine run_invariant XaStatesRunOk ?_
    (fun _ => ⟨⟨fun i => ?_, fun h => by cases h⟩, .inl ?_⟩) hrun
  · rintro s t hs ⟨e, -, hplug, hstep⟩
    exact hs.step hplug hstep
  · constructor <;> simp [xaMixerFactory, XaTrack.zero, XfInputPort.zero]
  · exact ⟨rfl, rfl, rfl, rfl, rfl, rfl⟩

/-- The track is in exactly one state. -/
def XaTrack.InOneState (track : XaTrack) : Prop :=
  track.idle = true ∧ track.active = false ∧ track.paused = false ∨
  track.idle = false ∧ track.active = true ∧ track.paused = false ∨
  track.idle = false ∧ track.active = false ∧ track.paused = true

lemma XaTrackState.inOneState (h : XaTrackState pts track) (hstarted : track.started) :
    track.InOneState := by
  rcases hstarted with hidle | hactive | hpaused
  · exact .inl ⟨hidle, h.of_idle hidle⟩
  · obtain ⟨hidle, hpaused⟩ := h.active hactive
    exact .inr (.inl ⟨hidle, hactive, hpaused⟩)
  · exact .inr (.inr ⟨h.paused hpaused, h.paused_of_active hpaused, hpaused⟩)

/-- In every run of a mixer, each track is in exactly one of the states idle, active and paused once
the component has been post-initialized; an idle track has an empty queue, and the time of an active
track is that of the mixer.  So a process step sets up an active track only when its port has been
filled. -/
theorem xaMixer_states (task : U32) (item : U32 → XfMessage) (core : XfCore) (s : XaState XaMixer)
    (hrun : XaRun xaMixer XaMixerPlugged (xaMixerFactory task item core) s)
    (hphase : s.phase = .running) (hpost : s.base.postinit = true) :
    (∀ i, (s.ext.track i).InOneState ∧
      ((s.ext.track i).idle = true → (s.ext.track i).input.queue = []) ∧
      ((s.ext.track i).active = true → (s.ext.track i).pts = s.ext.pts)) ∧
    ∀ env core, wp (xaMixerPreprocess env)
      (fun _ t => ∀ i, XaTrackFilled env.mem (s.ext.track i) (t.ext.track i))
      (fun t => ∀ i, XaTrackFilled env.mem (s.ext.track i) (t.ext.track i))
      { s with base := { s.base with schedule := false }, core := core } := by
  obtain ⟨hok, -⟩ := xaStatesOk_run hrun hphase
  refine ⟨fun i => ⟨?_, fun hidle => ?_, fun hactive => ?_⟩, fun env core => ?_⟩
  · exact (hok.track i).inOneState (hok.started hpost i)
  · exact ((hok.track i).empty hidle).1
  · exact (hok.track i).pts hactive
  · have hs : XaStatesOk { s with base := { s.base with schedule := false }, core := core } :=
      ⟨hok.track, hok.started⟩
    exact wp_mono (wp_preprocess_states hs) (fun _ t ht => ht.filled) fun t ht => ht.filled

/-- A track is active after a frame of 512 samples, and another one has been paused before it. -/
theorem xaMixer_states_two : ∃ s : XaState XaMixer, (s.ext.track 0).active = true ∧
    (s.ext.track 0).pts = 512#32 ∧
    (s.ext.track 1).paused = true ∧ (s.ext.track 1).InOneState ∧
    s.ext.pts = (s.ext.track 0).pts := by
  obtain ⟨s, s', hrun, hstep, hs⟩ := exists_step_of_xaRun xaMixer XaMixerPlugged
    xaMixerSample (xaMixerStart ++
      [.command .mixer (.host 2 .emptyThisBuffer 0#16 2048#32 64#32),
        .command .mixer (.host 3 .emptyThisBuffer 1#16 2048#32 64#32),
        .command .mixer (.host 4 .pause 1#16 0#32 0#32),
        .command .mixer (.host 5 .fillThisBuffer xaMixerOutputPort 2048#32 4096#32)])
    (.process .mixer) (fun _ s' => ((s'.ext.track 0).active, (s'.ext.track 0).pts,
      (s'.ext.track 1).paused, s'.phase, s'.base.postinit))
    (b := (true, 512#32, true, .running, true)) (by decide +kernel)
  simp only [Prod.mk.injEq] at hs
  obtain ⟨hactive, hpts, hpaused, hphase, hpost⟩ := hs
  obtain ⟨hstates, -⟩ := xaMixer_states _ _ _ s' (hrun.tail hstep) hphase hpost
  exact ⟨s', hactive, hpts, hpaused, (hstates 1).1, ((hstates 0).2.2 hactive).symm⟩

end Hikey
