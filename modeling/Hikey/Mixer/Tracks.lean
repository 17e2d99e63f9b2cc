import Hikey.Io.Stage
import Hikey.Mixer.Frames

/-!
# The tracks of a mixer

What a command does to the tracks: their flags agree with their input ports, the end of a stream
moves on, and a track returns to idle only with all its messages completed.  A message that puts
data without a buffer into an empty port is the exception.
-/

namespace Hikey

open Prog

variable {s s₀ t : XaState XaMixer} {env : XaEnv} {m : XfMessage} {F : List XaFrame}
  {ms ms' : List XfMessage} {track track' track₀ : XaTrack} {i : Fin xaMixerMaxTrackNumber}

/-! ## The condition on commands -/

/-- The first message that is put into the port of a track has data and no buffer. -/
def XaMixerNoBuffer (s : XaState XaMixer) (m : XfMessage) : Prop :=
  s.phase = .running ∧ m.opcode = .emptyThisBuffer ∧ m.length ≠ 0#32 ∧ m.buffer = 0#32 ∧
    ∃ i, xaMixerTrack m.dstPort = some i ∧ (s.ext.track i).input.enabled = true ∧
      (s.ext.track i).input.queue = []

/-! ## Tracks -/

/-- The flags of a track and its input port. -/
structure XaTrackOk (track : XaTrack) : Prop where
  port : XaTrackPort track.input
  active : track.active = true → track.idle = false ∧ track.paused = false
  paused : track.paused = true → track.idle = false
  queued : track.input.queue ≠ [] → track.active = true ∨ track.paused = true
  started : track.input.enabled = true →
    track.idle = true ∨ track.active = true ∨ track.paused = true
  created : track.idle = true ∨ track.active = true ∨ track.paused = true →
    track.input.created = true

/-- The end of the stream moves on, with the same last message, or the track returns to idle, and
the last message of an announced end is among the completed ones. -/
def XaTrackMoved (track : XaTrack) (ms : List XfMessage) (track' : XaTrack) : Prop :=
  track.input.stage ≤ track'.input.stage ∧
      (track.input.stage ≠ 0 → track'.input.queue.getLast? = track.input.queue.getLast?) ∨
    track'.idle = true ∧ track'.input.queue = [] ∧
      (track.input.stage ≠ 0 → ∀ m ∈ track.input.queue.getLast?, m.ok ∈ ms)

lemma XaTrackMoved.refl (track : XaTrack) (ms : List XfMessage) : XaTrackMoved track ms track :=
  .inl ⟨le_rfl, fun _ => rfl⟩

lemma XaTrackMoved.mono (h : XaTrackMoved track ms track') (hms : ∀ m ∈ ms, m ∈ ms') :
    XaTrackMoved track ms' track' := by
  rcases h with h | ⟨hidle, hqueue, hm⟩
  · exact .inl h
  · exact .inr ⟨hidle, hqueue, fun hne m hlast => hms _ (hm hne m hlast)⟩

/-- The other fields of a track do not matter. -/
lemma XaTrackMoved.congr (h : XaTrackMoved track₀ ms track) (hinput : track'.input = track.input)
    (hidle : track'.idle = track.idle) : XaTrackMoved track₀ ms track' := by
  unfold XaTrackMoved at h ⊢
  rwa [hinput, hidle]

lemma XaTrackOk.congr (h : XaTrackOk track) (hinput : track'.input = track.input)
    (hidle : track'.idle = track.idle) (hactive : track'.active = track.active)
    (hpaused : track'.paused = track.paused) : XaTrackOk track' := by
  obtain ⟨hport, hact, hpau, hqueued, hstarted, hcreated⟩ := h
  constructor <;> simp only [hinput, hidle, hactive, hpaused] <;> assumption

lemma XaTrackPort.stage_of_queue_nil {port : XfInputPort} (h : XaTrackPort port)
    (hq : port.queue = []) : port.stage = 0 := by
  obtain ⟨heos, hdone⟩ := h.flags_of_queue_nil hq
  simp [XfInputPort.stage, heos, hdone]

/-- A track with an empty queue becomes idle. -/
lemma XaTrackMoved.of_queue_nil (h : XaTrackMoved track₀ ms track) (hok : XaTrackOk track)
    (hq : track.input.queue = []) (hidle : track'.idle = true) (hq' : track'.input.queue = []) :
    XaTrackMoved track₀ ms track' := by
  rcases h with ⟨hle, -⟩ | ⟨-, -, hm⟩
  · refine .inr ⟨hidle, hq', fun hne => ?_⟩
    rw [hok.port.stage_of_queue_nil hq] at hle
    omega
  · exact .inr ⟨hidle, hq', hm⟩

/-- The input port of the track is purged, and the track becomes idle. -/
lemma XaTrackMoved.purge (h : XaTrackMoved track₀ ms track) (hok : XaTrackOk track)
    (hidle : track'.idle = true) (hinput : track'.input = (xfInputPortPurge track.input).1) :
    XaTrackMoved track₀ (ms ++ (xfInputPortPurge track.input).2) track' := by
  obtain ⟨-, hq, -, hms⟩ := hok.port.purge
  refine .inr ⟨hidle, by rw [hinput, hq], fun hne m hlast => ?_⟩
  rcases h with ⟨-, hsame⟩ | ⟨-, -, hm⟩
  · rw [← hsame hne] at hlast
    rw [hms]
    exact List.mem_append_right _ (List.mem_map_of_mem (List.mem_of_getLast? hlast))
  · exact List.mem_append_left _ (hm hne m hlast)

lemma XaTrackOk.purge (h : XaTrackOk track) (hidle : track'.idle = true)
    (hactive : track'.active = false) (hpaused : track'.paused = false)
    (hcreated : track.input.created = true)
    (hinput : track'.input = (xfInputPortPurge track.input).1) : XaTrackOk track' := by
  obtain ⟨hport, hq, hsame, -⟩ := h.port.purge
  refine ⟨hinput ▸ hport, ?_, ?_, ?_, fun _ => .inl hidle, fun _ => ?_⟩
  · simp [hactive]
  · simp [hpaused]
  · simp [hinput, hq]
  · rw [hinput, hsame, hcreated]

/-- An active track is paused, or a paused one becomes active. -/
lemma XaTrackOk.toggle (h : XaTrackOk track) (hbusy : track.active = true ∨ track.paused = true)
    (hinput : track'.input = track.input) (hidle : track'.idle = track.idle)
    (hactive : track'.active = !track.active) (hpaused : track'.paused = !track.paused) :
    XaTrackOk track' := by
  have hcreated := h.created (.inr hbusy)
  obtain ⟨hidle₀, hone⟩ : track.idle = false ∧ track.paused = !track.active := by
    rcases hbusy with hactive | hpaused
    · exact ⟨(h.active hactive).1, by simp [hactive, (h.active hactive).2]⟩
    · refine ⟨h.paused hpaused, ?_⟩
      by_contra hnot
      have hactive : track.active = true := by simpa [hpaused] using hnot
      simp [(h.active hactive).2] at hpaused
  refine ⟨hinput ▸ h.port, ?_, ?_, ?_, ?_, ?_⟩
  · simp [hidle, hidle₀, hactive, hpaused, hone]
  · simp [hidle, hidle₀]
  · simp [hactive, hpaused, hone]
  · simp [hactive, hpaused, hone]
  · rw [hinput]
    exact fun _ => hcreated

/-! ## The tracks of a mixer -/

/-- The tracks are good, and hold no message before the post-initialization. -/
structure XaTracksOk (s : XaState XaMixer) : Prop where
  track : ∀ i, XaTrackOk (s.ext.track i)
  initial : s.base.postinit = false → ∀ i, (s.ext.track i).input.queue = []

/-- The tracks are good and have moved on from those of `s₀`, and the plugin has written the frames
`F`. -/
structure XaTracksMoved (s₀ : XaState XaMixer) (F : List XaFrame) (s : XaState XaMixer) : Prop where
  ok : XaTracksOk s
  moved : ∃ ms, s₀.core.Completes ms s.core ∧
    ∀ i, XaTrackMoved (s₀.ext.track i) ms (s.ext.track i)
  frames : s.ext.plugin.frames = F

lemma XaTracksOk.moved (h : XaTracksOk s) : XaTracksMoved s s.ext.plugin.frames s :=
  ⟨h, ⟨[], ⟨rfl, rfl⟩, fun _ => .refl _ _⟩, rfl⟩

lemma tracksOnly_moved : XaMixerTracksOnly (XaTracksMoved s₀ F) := by
  rintro s t ⟨hpost, hsame, -, -, hsameFrames, ms', hms'⟩
    ⟨⟨htrack, hinit⟩, ⟨ms, hms, hmoved⟩, hframes⟩
  refine ⟨⟨?_, ?_⟩, ⟨ms ++ ms', hms.trans hms', fun i => ?_⟩, hsameFrames.trans hframes⟩
  · rwa [hsame]
  · rwa [hsame, hpost]
  · rw [hsame]
    exact (hmoved i).mono fun m hm => List.mem_append_left _ hm

namespace XaTracksMoved

/-- One track is changed, and messages are completed. -/
lemma setTrack {l : List XfMessage} (h : XaTracksMoved s₀ F s) (i : Fin xaMixerMaxTrackNumber)
    (hok : XaTrackOk track) (hmoved : ∀ ms₀, XaTrackMoved (s₀.ext.track i) ms₀ (s.ext.track i) →
      XaTrackMoved (s₀.ext.track i) (ms₀ ++ l) track)
    (hinit : s.base.postinit = false → track.input.queue = []) : XaTracksMoved s₀ F { s with
      ext := s.ext.setTrack i track
      core := l.foldl XfCore.complete s.core } := by
  obtain ⟨ms₀, hms₀, hmoved₀⟩ := h.moved
  refine ⟨⟨fun j => ?_, fun hpost j => ?_⟩, ⟨ms₀ ++ l, hms₀.trans ⟨rfl, rfl⟩, fun j => ?_⟩,
    h.frames⟩
  · by_cases hj : j = i
    · subst hj
      simpa using hok
    · simpa [XaMixer.setTrack, hj] using h.ok.track j
  · by_cases hj : j = i
    · subst hj
      simpa using hinit hpost
    · simpa [XaMixer.setTrack, hj] using h.ok.initial hpost j
  · by_cases hj : j = i
    · subst hj
      simpa using hmoved ms₀ (hmoved₀ j)
    · have := (hmoved₀ j).mono fun m hm => List.mem_append_left l hm
      simpa [XaMixer.setTrack, hj] using this

/-- What the plugin has been told about the input does not matter. -/
lemma setInputLength {d : Fin xaMixerMaxTrackNumber → U32} (h : XaTracksMoved s₀ F s) :
    XaTracksMoved s₀ F { s with
      ext := { s.ext with plugin := { s.ext.plugin with inputLength := d } } } :=
  ⟨⟨h.ok.track, h.ok.initial⟩, h.moved, h.frames⟩

/-- The fields of a track that do not matter are changed. -/
lemma setFields (h : XaTracksMoved s₀ F s) (i : Fin xaMixerMaxTrackNumber)
    (hinput : track.input = (s.ext.track i).input) (hidle : track.idle = (s.ext.track i).idle)
    (hactive : track.active = (s.ext.track i).active)
    (hpaused : track.paused = (s.ext.track i).paused) :
    XaTracksMoved s₀ F { s with ext := s.ext.setTrack i track } :=
  h.setTrack (l := []) i ((h.ok.track i).congr hinput hidle hactive hpaused)
    (fun ms₀ hms₀ => by simpa using hms₀.congr hinput hidle)
    fun hpost => by rw [hinput, h.ok.initial hpost i]

/-- An active track is paused, or a paused one becomes active. -/
lemma toggle (h : XaTracksMoved s₀ F s) (i : Fin xaMixerMaxTrackNumber)
    (hbusy : (s.ext.track i).active = true ∨ (s.ext.track i).paused = true)
    (hinput : track.input = (s.ext.track i).input) (hidle : track.idle = (s.ext.track i).idle)
    (hactive : track.active = !(s.ext.track i).active)
    (hpaused : track.paused = !(s.ext.track i).paused) :
    XaTracksMoved s₀ F { s with ext := s.ext.setTrack i track } :=
  h.setTrack (l := []) i ((h.ok.track i).toggle hbusy hinput hidle hactive hpaused)
    (fun ms₀ hms₀ => by simpa using hms₀.congr hinput hidle)
    fun hpost => by rw [hinput, h.ok.initial hpost i]

lemma keeps_pause : Keeps (XaTracksMoved s₀ F) (xaMixerPause env m) := by
  refine (Keeps.check _).bind fun _ => ?_
  cases xaMixerTrack m.dstPort with
  | none => exact Keeps.fail
  | some i =>
    intro s hs
    simp only
    rw [wp_bind, wp_get, wp_bind, wp_ite, wp_pure]
    refine ⟨fun hactive => ?_, fun _ => tracksOnly_moved.keeps_response m s hs⟩
    rw [wp_bind, xaTrackModify, wp_xaExtModify]
    exact wp_mono (tracksOnly_moved.keeps_wake _ (hs.toggle i (.inl hactive) rfl rfl rfl rfl))
      (fun _ t ht => tracksOnly_moved.keeps_response m t ht) fun _ ht => ht

lemma keeps_resume : Keeps (XaTracksMoved s₀ F) (xaMixerResume env m) := by
  refine (Keeps.check _).bind fun _ => ?_
  cases xaMixerTrack m.dstPort with
  | none => exact Keeps.fail
  | some i =>
    intro s hs
    simp only
    rw [wp_bind, wp_get, wp_bind, wp_ite, wp_pure]
    refine ⟨fun hpaused => ?_, fun _ => tracksOnly_moved.keeps_response m s hs⟩
    rw [wp_bind, xaTrackModify, wp_xaExtModify]
    exact wp_mono (tracksOnly_moved.keeps_wake _ (hs.toggle i (.inr hpaused) rfl rfl rfl rfl))
      (fun _ t ht => tracksOnly_moved.keeps_response m t ht) fun _ ht => ht

/-- A flushed track is idle, and all its messages are completed. -/
lemma keeps_flush : Keeps (XaTracksMoved s₀ F) (xaMixerFlush env m) := by
  refine (Keeps.check _).bind fun _ => ?_
  intro s hs
  rw [wp_bind, wp_get, wp_ite]
  refine ⟨fun _ => (Keeps.check _).bind (fun _ => tracksOnly_moved.keeps_output _) s hs,
    fun _ => ?_⟩
  cases xaMixerTrack m.dstPort with
  | none => exact hs
  | some i =>
    simp only
    rw [wp_bind, wp_ite, wp_pure]
    refine ⟨fun hbusy => ?_, fun _ => tracksOnly_moved.keeps_response m s hs⟩
    have hok := hs.ok.track i
    have hcreated : (s.ext.track i).input.created = true :=
      hok.created (.inr (by simpa using hbusy))
    rw [wp_bind, xaTrackInputPurge, wp_xaTrackInput]
    rintro r hr
    obtain rfl := Option.some_inj.mp hr
    rw [wp_bind, xaTrackModify, wp_xaExtModify]
    simp only [setTrack_track, setTrack_setTrack]
    refine wp_mono (tracksOnly_moved.keeps_wake _ (hs.setTrack i ?_ ?_ ?_))
      (fun _ t ht => tracksOnly_moved.keeps_response m t ht) fun _ ht => ht
    · exact hok.purge rfl rfl rfl hcreated rfl
    · exact fun ms₀ h => h.purge hok rfl rfl
    · exact fun _ => hok.port.purge.2.1

end XaTracksMoved

/-- A message is put into the port of a track. -/
lemma XaTrackOk.put (h : XaTrackOk track) (hen : track.input.enabled = true)
    (hbuf : track.input.queue = [] → m.length ≠ 0#32 → m.buffer ≠ 0#32)
    (hinput : track'.input = (xfInputPortPut track.input m).1)
    (hflags : if track.input.queue = [] ∧ track.idle = true then
        track'.idle = false ∧ track'.active = true ∧ track'.paused = false
      else track'.idle = track.idle ∧ track'.active = track.active ∧ track'.paused = track.paused) :
    XaTrackOk track' := by
  obtain ⟨hport, hcreated, -, -⟩ := h.port.put hen hbuf
  rw [← hinput] at hport hcreated
  by_cases hfirst : track.input.queue = [] ∧ track.idle = true
  · -- the track becomes active
    rw [if_pos hfirst] at hflags
    obtain ⟨hidle, hactive, hpaused⟩ := hflags
    refine ⟨hport, fun _ => ⟨hidle, hpaused⟩, fun _ => hidle, fun _ => .inl hactive,
      fun _ => .inr (.inl hactive), fun _ => hcreated⟩
  · rw [if_neg hfirst] at hflags
    obtain ⟨hidle, hactive, hpaused⟩ := hflags
    have hbusy : track.active = true ∨ track.paused = true := by
      by_cases hq : track.input.queue = []
      · exact (h.started hen).resolve_left fun hidle => hfirst ⟨hq, hidle⟩
      · exact h.queued hq
    rw [← hactive, ← hpaused] at hbusy
    refine ⟨hport, ?_, ?_, fun _ => hbusy, fun _ => .inr hbusy, fun _ => hcreated⟩
    · rw [hidle, hactive, hpaused]
      exact h.active
    · rw [hidle, hpaused]
      exact h.paused

lemma wp_emptyThisBuffer_ends (hphase : s.phase = .running) (hop : m.opcode = .emptyThisBuffer)
    (hnot : ¬ XaMixerNoBuffer s m) (hs : XaTracksOk s) :
    wp (xaMixerEmptyThisBuffer env m) (fun _ => XaTracksMoved s s.ext.plugin.frames)
      (fun _ => True) s := by
  -- a message to an enabled port is queued
  have hput (i : Fin xaMixerMaxTrackNumber) (hi : xaMixerTrack m.dstPort = some i)
      (hen : (s.ext.track i).input.enabled = true) :
      (((s.ext.track i).input.queue = [] → m.length ≠ 0#32 → m.buffer ≠ 0#32) ∧
        ((xfInputPortPut (s.ext.track i).input m).2.2 = true ↔ (s.ext.track i).input.queue = [])) ∧
      ∀ (track : XaTrack) (ms ms₀ : List XfMessage),
        XaTrackMoved (s.ext.track i) ms₀ (s.ext.track i) →
          XaTrackMoved (s.ext.track i) (ms₀ ++ ms) track := by
    have hbuf (hq : (s.ext.track i).input.queue = []) (hlen : m.length ≠ 0#32) :
        m.buffer ≠ 0#32 := fun h0 => hnot ⟨hphase, hop, hlen, h0, i, hi, hen, hq⟩
    obtain ⟨-, -, -, hfirst⟩ := (hs.track i).port.put hen hbuf
    have hstage : (s.ext.track i).input.stage = 0 := by
      obtain ⟨-, heos, hdone, -⟩ := (hs.track i).port.flags_of_enabled hen
      simp [XfInputPort.stage, heos, hdone]
    exact ⟨⟨hbuf, hfirst⟩, fun track ms ms₀ _ => .inl ⟨by omega, fun hne => absurd hstage hne⟩⟩
  have hinit (track : XaTrack) (hpost : s.base.postinit = true) (hnot : s.base.postinit = false) :
      track.input.queue = [] := by simp [hnot] at hpost
  refine tracksOnly_moved.wp_emptyThisBuffer_of (fun i hi hpost hfirst hidle => ?_)
    fun i hi hpost hidle => ?_
  · have hok := hs.track i
    obtain ⟨⟨hbuf, hfirst'⟩, hmoved⟩ := hput i hi (enabled_of_xfInputPortPut hfirst)
    have hactive : (s.ext.track i).active = false := by
      by_contra hactive
      simp [(hok.active (by simpa using hactive)).1] at hidle
    have hpaused : (s.ext.track i).paused = false := by
      by_contra hpaused
      simp [hok.paused (by simpa using hpaused)] at hidle
    refine hs.moved.setTrack i (hok.put (enabled_of_xfInputPortPut hfirst) hbuf rfl ?_)
      (hmoved _ _) (hinit _ hpost)
    rw [if_pos ⟨hfirst'.mp hfirst, hidle⟩]
    exact ⟨by simp [hidle], by simp [hactive], hpaused⟩
  · have hok := hs.track i
    cases hen : (s.ext.track i).input.enabled with
    | false =>
      -- the message is completed at once
      have hput : xfInputPortPut (s.ext.track i).input m =
          ((s.ext.track i).input, [m.ok], false) := by simp [xfInputPortPut, hen]
      rw [hput]
      exact hs.moved.setTrack i (hok.congr rfl rfl rfl rfl)
        (fun ms₀ h => (h.congr rfl rfl).mono fun a ha => List.mem_append_left _ ha) (hinit _ hpost)
    | true =>
      obtain ⟨⟨hbuf, hfirst⟩, hmoved⟩ := hput i hi hen
      refine hs.moved.setTrack i (hok.put hen hbuf rfl ?_) (hmoved _ _) (hinit _ hpost)
      rw [if_neg fun h => hidle ⟨hfirst.mpr h.1, h.2⟩]
      exact ⟨rfl, rfl, rfl⟩

/-! ### The post-initialization -/

/-- Nothing has been put into the ports before the post-initialization. -/
structure XaTracksInitial (s₀ : XaState XaMixer) (F : List XaFrame) (s : XaState XaMixer) :
    Prop where
  moved : XaTracksMoved s₀ F s
  postinit : s.base.postinit = false

lemma tracksOnly_initial : XaMixerTracksOnly (XaTracksInitial s₀ F) := fun _ _ hsame hs =>
  ⟨tracksOnly_moved _ _ hsame hs.moved, hsame.postinit.trans hs.postinit⟩

/-- An input port that is initialized with a buffer. -/
lemma xfInputPortInit_track {port port' : XfInputPort} {size : U32} {block : Option (List UInt8)}
    (hsize : size ≠ 0#32) (hres : xfInputPortInit port size block = (port', true)) :
    XaTrackPort port' ∧ port'.queue = [] ∧ port'.created = true := by
  cases block with
  | none => simp [xfInputPortInit, hsize] at hres
  | some buf =>
    simp only [xfInputPortInit, hsize, ne_eq, not_false_eq_true, reduceCtorEq, and_false, if_false,
      Prod.mk.injEq, and_true] at hres
    subst hres
    refine ⟨.of_queue_nil (fun _ => rfl) (fun h => ?_) rfl rfl rfl, rfl, rfl⟩
    cases h

lemma wp_setParam_ends (htable : env.IsMixerTable) (hs : XaTracksMoved s₀ F s) :
    wp (xaBaseSetParam xaMixerHooks env m) (fun _ => XaTracksMoved s₀ F) (fun _ => True) s := by
  refine wp_setParam_of (J := XaTracksInitial s₀ F) tracksOnly_moved tracksOnly_initial ?_
    (fun s hs hnot => ⟨hs, hnot⟩) (fun s hs => ?_) hs
  · intro s i hs r hr
    obtain ⟨hport, hqueue, hcreated⟩ := xfInputPortInit_track (htable i) hr
    refine ⟨hs.moved.setTrack (l := []) i ⟨hport, ?_, ?_, ?_, fun _ => .inl rfl, fun _ => hcreated⟩
      (fun ms₀ h => ?_) (fun _ => hqueue), hs.postinit⟩
    · simp
    · simp
    · simp [hqueue]
    · rw [List.append_nil]
      exact h.of_queue_nil (hs.moved.ok.track i) (hs.moved.ok.initial hs.postinit i) rfl hqueue
  · obtain ⟨⟨⟨htrack, hinit⟩, hmoved, hframes⟩, hpost⟩ := hs
    refine ⟨⟨htrack, fun hnot => ?_⟩, hmoved, hframes⟩
    simp [hpost] at hnot

lemma wp_command_ends (htable : env.IsMixerTable) (hphase : s.phase = .running)
    (hnot : ¬ XaMixerNoBuffer s m) (hs : XaTracksOk s) :
    wp (xaBaseCommand xaMixer env m) (fun _ => XaTracksMoved s s.ext.plugin.frames)
      (fun _ => True) s := by
  have hkeeps {x : XaMixerProg Unit} (hx : Keeps (XaTracksMoved s s.ext.plugin.frames) x) :
      wp x (fun _ => XaTracksMoved s s.ext.plugin.frames) (fun _ => True) s :=
    wp_of_keeps hx hs.moved fun _ h => h
  rw [xaBaseCommand, show xaMixer.command = xaMixerCmd from rfl]
  cases hop : m.opcode with
  | setParam => exact wp_setParam_ends htable hs.moved
  | getParam => exact hkeeps tracksOnly_moved.keeps_getParam
  | route => exact hkeeps tracksOnly_moved.keeps_portRoute
  | unroute => exact hkeeps tracksOnly_moved.keeps_portUnroute
  | emptyThisBuffer => exact wp_emptyThisBuffer_ends hphase hop hnot hs
  | fillThisBuffer => exact hkeeps tracksOnly_moved.keeps_fillThisBuffer
  | flush => exact hkeeps XaTracksMoved.keeps_flush
  | pause => exact hkeeps XaTracksMoved.keeps_pause
  | resume => exact hkeeps XaTracksMoved.keeps_resume
  | unregister | setParamExt | getParamExt | other => trivial

end Hikey
