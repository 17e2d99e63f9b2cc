import Hikey.Io.Stream
import Hikey.Mixer.Frames

/-!
# What a mixer mixes

The bytes of a track in the frames are compared with the bytes that were put into its port.  They
come in the same order, and none comes twice, as long as the input length of the plugin belongs to a
track that is set up and active.  A track that is paused or flushed between its set-up and the
mixing leaves its input length behind, and the plugin goes on mixing the bytes in its buffer.
-/

namespace Hikey

open Prog XfInputPort

variable {s s₀ t : XaState XaMixer} {env : XaEnv} {m : XfMessage} {F : List XaFrame}
  {track track' : XaTrack} {i : Fin xaMixerMaxTrackNumber} {mem : U32 → UInt8}
  {mixed accepted : List UInt8} {n : U32} {k : ℕ} {port : XfInputPort}

/-! ## The bytes of a track -/

/-- The bytes of a track in the frames. -/
def xaMixedBytes (frames : List XaFrame) (i : Fin xaMixerMaxTrackNumber) : List UInt8 :=
  frames.flatMap fun frame => frame.mixed i

/-- The bytes of a message that is put into the port of a track. -/
def xaMixerAccepted (env : XaEnv) (s : XaState XaMixer) (m : XfMessage)
    (i : Fin xaMixerMaxTrackNumber) : List UInt8 :=
  if s.phase = .running ∧ s.base.postinit = true ∧ m.opcode = .emptyThisBuffer ∧
      xaMixerTrack m.dstPort = some i ∧ (s.ext.track i).input.enabled = true then
    m.payload env.mem
  else []

/-- The environment of an event. -/
def XaEvent.environment : XaEvent → Option XaEnv
  | .command env _ => some env
  | .deliver env => some env
  | .process env => some env
  | _ => none

/-- The bytes that a track accepts with an event. -/
def XaEvent.acceptedBytes (s : XaState XaMixer) (e : XaEvent) (i : Fin xaMixerMaxTrackNumber) :
    List UInt8 :=
  match e.environment, e.message s with
  | some env, some m => xaMixerAccepted env s m i
  | _, _ => []

/-- A mixer with the memory of the last event and the bytes that its tracks have accepted. -/
structure XaMixerStory where
  state : XaState XaMixer
  mem : U32 → UInt8
  accepted : Fin xaMixerMaxTrackNumber → List UInt8

/-- One event. -/
def XaMixerStory.next (g : XaMixerStory) (e : XaEvent) : Option XaMixerStory :=
  (xaStep xaMixer g.state e).map fun s =>
    { state := s
      mem := (e.environment.map XaEnv.mem).getD g.mem
      accepted := fun i => g.accepted i ++ e.acceptedBytes g.state i }

/-! ## The condition -/

/-- The command pauses or flushes a track that has been set up with data. -/
def XaMixerStale (s : XaState XaMixer) (m : XfMessage) : Prop :=
  s.phase = .running ∧ m.length = 0#32 ∧ ∃ i, xaMixerTrack m.dstPort = some i ∧
    s.ext.plugin.inputLength i ≠ 0#32 ∧
    (m.opcode = .pause ∧ (s.ext.track i).active = true ∨
      m.opcode = .flush ∧ ((s.ext.track i).active || (s.ext.track i).paused) = true)

/-- The allocated input buffers have the size asked for. -/
def XaEnv.IsMixerBlock (env : XaEnv) : Prop :=
  ∀ i, (env.block (xaTrackIdx i)).all fun block =>
    block.length = (env.api .getMemInfoSize (xaTrackIdx i)).value.toNat

/-- The condition on the events of a run: the payload of the queued messages is not overwritten, the
plugin is that of the mixer, and no track is paused or flushed after it has been set up with data.
-/
def XaMixerSteady (g : XaMixerStory) (e : XaEvent) : Prop :=
  (∀ env ∈ e.environment, ∀ i, ∀ m ∈ (g.state.ext.track i).input.queue,
    m.payload env.mem = m.payload g.mem) ∧
  (∀ m ∈ e.message g.state, ¬ XaMixerStale g.state m) ∧
    match e with
    | .command env _ => env.IsMixerTable ∧ env.IsMixerBlock
    | .deliver env => env.IsMixerTable ∧ env.IsMixerBlock
    | .process env => XaMixerNext g.state → env.IsMixer
    | _ => True

instance (g : XaMixerStory) (e : XaEvent) : Decidable (XaMixerSteady g e) := by
  unfold XaMixerSteady XaMixerStale XaMixerNext XaEnv.IsMixerTable XaEnv.IsMixerBlock
  match e with
  | .command .. | .deliver .. | .sinkReturn .. | .process .. | .otherPut .. | .otherCancel .. =>
    infer_instance

/-! ## Tracks -/

/-- An input port of a mixer has an internal buffer once it is created. -/
structure XaMixPort (port : XfInputPort) : Prop where
  fresh : port.created = false → port.enabled = false ∧ port.queue = []
  buffer : port.created = true → port.buffer.isSome = true
  cursor : port.CursorOk
  stored : port.BufferOk

/-- A track of which the frames have the bytes `mixed`, and which has accepted the bytes `accepted`;
its input length is `n`, and the first `k` bytes in its buffer have been mixed. -/
structure XaTrackMixes (mem : U32 → UInt8) (mixed accepted : List UInt8) (n : U32) (k : ℕ)
    (track : XaTrack) : Prop where
  port : XaMixPort track.input
  active : track.active = true → track.idle = false ∧ track.paused = false
  paused : track.paused = true → track.idle = false
  created : track.active = true ∨ track.paused = true → track.input.created = true
  length : n ≠ 0#32 → track.active = true ∧ track.inputSetup = true ∧ n = track.input.filled
  order : (mixed ++ (track.input.stored.drop k ++ track.input.unread mem)).Sublist accepted

/-- The input length of a track that is not set up is zero. -/
lemma XaTrackMixes.length_eq_zero (h : XaTrackMixes mem mixed accepted n k track)
    (hnot : track.active = false ∨ track.inputSetup = false) : n = 0#32 := by
  by_contra hn
  obtain ⟨hactive, hsetup, -⟩ := h.length hn
  rcases hnot with hnot | hnot
  · simp [hactive] at hnot
  · simp [hsetup] at hnot

lemma XaTrackMixes.paused_of_active (h : XaTrackMixes mem mixed accepted n k track)
    (hpaused : track.paused = true) : track.active = false := by
  by_contra hactive
  have := (h.active (by simpa using hactive)).2
  simp [hpaused] at this

/-- The input of a track stays the same, and its input length is zero. -/
lemma XaTrackMixes.of_zero (h : XaTrackMixes mem mixed accepted 0#32 k track)
    (hinput : track'.input = track.input)
    (hactive : track'.active = true → track'.idle = false ∧ track'.paused = false)
    (hpaused : track'.paused = true → track'.idle = false)
    (hcreated : track'.active = true ∨ track'.paused = true → track.input.created = true) :
    XaTrackMixes mem mixed accepted 0#32 k track' := by
  refine ⟨hinput ▸ h.port, hactive, hpaused, ?_, fun hn => absurd rfl hn, ?_⟩
  · rwa [hinput]
  · rw [hinput]
    exact h.order

/-- The port of a track is empty. -/
lemma XaTrackMixes.of_empty (h : XaTrackMixes mem mixed accepted n k track)
    (hport : XaMixPort track'.input) (hqueue : track'.input.queue = [])
    (hfilled : track'.input.filled = 0#32)
    (hactive : track'.active = false) (hpaused : track'.paused = false) :
    XaTrackMixes mem mixed accepted 0#32 0 track' := by
  refine ⟨hport, ?_, ?_, ?_, fun hn => absurd rfl hn, ?_⟩
  · simp [hactive]
  · simp [hpaused]
  · simp [hactive, hpaused]
  · have hstored : track'.input.stored = [] := by simp [stored, hfilled]
    have hunread : track'.input.unread mem = [] := by simp [unread, hqueue]
    rw [hstored, hunread]
    simpa using (List.sublist_append_left _ _).trans h.order

lemma XaMixPort.purge (h : XaMixPort port) (hcreated : port.created = true) :
    XaMixPort (xfInputPortPurge port).1 ∧ (xfInputPortPurge port).1.queue = [] ∧
      (xfInputPortPurge port).1.filled = 0#32 := by
  rw [xfInputPortPurge, if_neg (by simp [hcreated])]
  refine ⟨⟨fun hnot => ?_, fun _ => h.buffer hcreated, ?_, fun buf hbuf => ?_⟩, rfl, rfl⟩
  · cases hnot
  · simp [CursorOk]
  · exact ⟨(h.stored buf hbuf).1, by simp⟩

/-- A message is put into the port. -/
lemma XaMixPort.put (mem : U32 → UInt8) (m : XfMessage) (h : XaMixPort port)
    (hen : port.enabled = true) :
    XaMixPort (xfInputPortPut port m).1 ∧ (xfInputPortPut port m).1.created = true ∧
      (xfInputPortPut port m).1.stored = port.stored ∧
      (xfInputPortPut port m).1.filled = port.filled ∧
      (xfInputPortPut port m).1.unread mem = port.unread mem ++ m.payload mem := by
  have hcreated : port.created = true := by
    by_contra hnot
    have := (h.fresh (by simpa using hnot)).1
    simp [hen] at this
  obtain ⟨port', hput, -, hcursor, hunread, -, hframe⟩ := xfInputPortPut_spec mem hen m
  rw [hput]
  have hbuffer : port'.buffer = port.buffer := by rw [hframe]
  have hfilled : port'.filled = port.filled := by rw [hframe]
  have hlength : port'.length = port.length := by rw [hframe]
  have hcreated' : port'.created = true := by rw [hframe, hcreated]
  refine ⟨⟨?_, ?_, hcursor h.cursor, ?_⟩, hcreated', ?_, hfilled, hunread⟩
  · simp [hcreated']
  · rw [hbuffer]
    exact fun _ => h.buffer hcreated
  · unfold BufferOk
    rw [hbuffer, hfilled, hlength]
    exact h.stored
  · simp only [XfInputPort.stored, hbuffer, hfilled]

lemma isSome_of_bypass {port' : XfInputPort} (h : port'.bypass = port.bypass)
    (hbuffer : port.buffer.isSome = true) : port'.buffer.isSome = true := by
  unfold XfInputPort.bypass at h
  rw [← Option.not_isNone, h, Option.not_isNone]
  exact hbuffer

/-- The port is filled. -/
lemma XaMixPort.fill (h : XaMixPort port) (hcreated : port.created = true)
    {r : XfInputPort × List XfMessage × Bool} (hres : xfInputPortFill mem port = some r) :
    XaMixPort r.1 ∧ r.1.created = true ∧
      r.1.stored ++ r.1.unread mem = port.stored ++ port.unread mem := by
  obtain ⟨port', done, full, hfill, hcopied, -⟩ :=
    xfInputPortFill_spec mem h.cursor h.stored (h.buffer hcreated)
  rw [hfill, Option.some_inj] at hres
  subst hres
  have hcreated' : port'.created = true := by rw [hcopied.frame, hcreated]
  refine ⟨⟨?_, fun _ => ?_, hcopied.cursor, hcopied.buffer⟩, hcreated', hcopied.bytes⟩
  · simp [hcreated']
  · exact isSome_of_bypass hcopied.bypass (h.buffer hcreated)

/-- Bytes are taken from the buffer. -/
lemma XaMixPort.consume (mem : U32 → UInt8) (h : XaMixPort port) (hcreated : port.created = true)
    {r : XfInputPort × List XfMessage} (hres : xfInputPortConsume port n = some r) :
    XaMixPort r.1 ∧ r.1.created = true ∧ r.1.stored = port.stored.drop n.toNat ∧
      r.1.unread mem = port.unread mem := by
  obtain ⟨buf, hbuf⟩ := Option.isSome_iff_exists.mp (h.buffer hcreated)
  obtain ⟨port', hconsume, hstored, hok, hframe, hbypass⟩ :=
    xfInputPortConsume_buffered hbuf h.stored n
  rw [hconsume, Option.some_inj] at hres
  subst hres
  have hcreated' : port'.created = true := by rw [hframe, hcreated]
  have hqueue : port'.queue = port.queue := by rw [hframe]
  have haccess : port'.access = port.access := by rw [hframe]
  have hremaining : port'.remaining = port.remaining := by rw [hframe]
  refine ⟨⟨?_, fun _ => ?_, ?_, hok⟩, hcreated', hstored, ?_⟩
  · simp [hcreated']
  · exact isSome_of_bypass hbypass (h.buffer hcreated)
  · unfold CursorOk CursorIn
    rw [hqueue, haccess, hremaining]
    exact h.cursor
  · simp only [unread, hqueue, haccess, hremaining]

/-! ## The tracks of a mixer -/

/-- The frames `F` have the bytes of the tracks in order; the first `k i` bytes in the buffer of
track `i` have been mixed. -/
structure XaMixes (mem : U32 → UInt8) (acc : Fin xaMixerMaxTrackNumber → List UInt8)
    (k : Fin xaMixerMaxTrackNumber → ℕ) (F : List XaFrame) (s : XaState XaMixer) : Prop where
  track : ∀ i, XaTrackMixes mem (xaMixedBytes F i) (acc i) (s.ext.plugin.inputLength i) (k i)
    (s.ext.track i)
  initial : s.base.postinit = false →
    ∀ i, (s.ext.track i).active = false ∧ (s.ext.track i).paused = false
  frames : s.ext.plugin.frames = F

variable {acc acc' : Fin xaMixerMaxTrackNumber → List UInt8} {d d' : Fin xaMixerMaxTrackNumber → ℕ}

lemma tracksOnly_mixes : XaMixerTracksOnly (XaMixes mem acc d F) := by
  rintro s t ⟨hpost, hsame, -, hlength, hsameFrames, -⟩ ⟨htrack, hinit, hframes⟩
  refine ⟨?_, ?_, hsameFrames.trans hframes⟩
  · rwa [hsame, hlength]
  · rwa [hsame, hpost]

/-- One track is changed. -/
lemma XaMixes.change (h : XaMixes mem acc d F s) (i : Fin xaMixerMaxTrackNumber)
    (hi : XaTrackMixes mem (xaMixedBytes F i) (acc' i) (t.ext.plugin.inputLength i) (d' i)
      (t.ext.track i))
    (hother : ∀ j, j ≠ i → t.ext.track j = s.ext.track j ∧
      t.ext.plugin.inputLength j = s.ext.plugin.inputLength j ∧ acc' j = acc j ∧ d' j = d j)
    (hframes : t.ext.plugin.frames = s.ext.plugin.frames)
    (hinit : t.base.postinit = false → s.base.postinit = false ∧
      (t.ext.track i).active = false ∧ (t.ext.track i).paused = false) :
    XaMixes mem acc' d' F t := by
  refine ⟨fun j => ?_, fun hpost j => ?_, hframes.trans h.frames⟩
  · by_cases hj : j = i
    · subst hj
      exact hi
    · obtain ⟨htrack, hlength, hacc, hd⟩ := hother j hj
      rw [htrack, hlength, hacc, hd]
      exact h.track j
  · obtain ⟨hpost, hi⟩ := hinit hpost
    by_cases hj : j = i
    · subst hj
      exact hi
    · rw [(hother j hj).1]
      exact h.initial hpost j

lemma XaMixes.setTrack (h : XaMixes mem acc d F s) (i : Fin xaMixerMaxTrackNumber) {core : XfCore}
    (hi : XaTrackMixes mem (xaMixedBytes F i) (acc i) (s.ext.plugin.inputLength i) (d i) track)
    (hinit : s.base.postinit = false → track.active = false ∧ track.paused = false) :
    XaMixes mem acc d F { s with ext := s.ext.setTrack i track, core := core } := by
  refine h.change i ?_ (fun j hj => ⟨?_, rfl, rfl, rfl⟩) rfl fun hpost => ⟨hpost, ?_⟩
  · rw [setTrack_track]
    exact hi
  · simp [XaMixer.setTrack, hj]
  · simpa using hinit hpost

/-! ## Commands -/

/-- A command without bytes for a track. -/
lemma wp_pause_mixes (hphase : s.phase = .running) (hop : m.opcode = .pause)
    (hnot : ¬ XaMixerStale s m) (hs : XaMixes mem acc 0 F s) :
    wp (xaMixerPause env m) (fun _ => XaMixes mem acc 0 F) (fun _ => True) s := by
  have hresponse (t : XaState XaMixer) (ht : XaMixes mem acc 0 F t) :
      wp (xfResponse m : XaMixerProg Unit) (fun _ => XaMixes mem acc 0 F) (fun _ => True) t :=
    wp_of_keeps (tracksOnly_mixes.keeps_response m) ht fun _ h => h
  rw [xaMixerPause, wp_bind, wp_check]
  refine ⟨fun hlength => ?_, fun _ => trivial⟩
  cases hi : xaMixerTrack m.dstPort with
  | none => trivial
  | some i =>
    simp only
    rw [wp_bind, wp_get, wp_bind, wp_ite, wp_pure]
    refine ⟨fun hactive => ?_, fun _ => hresponse s hs⟩
    have hzero : s.ext.plugin.inputLength i = 0#32 := by
      by_contra hne
      exact hnot ⟨hphase, by simpa using hlength, i, hi, hne, .inl ⟨hop, hactive⟩⟩
    have htrack := hs.track i
    obtain ⟨hidle, hpaused⟩ := htrack.active hactive
    rw [wp_bind, xaTrackModify, wp_xaExtModify]
    refine wp_mono (tracksOnly_mixes.keeps_wake _ (hs.setTrack i ?_ fun hpost => ?_))
      (fun _ t ht => hresponse t ht) fun _ _ => trivial
    · rw [hzero] at htrack ⊢
      refine htrack.of_zero rfl ?_ (fun _ => hidle) fun _ => htrack.created (.inl hactive)
      simp [hactive]
    · simp [(hs.initial hpost i).1] at hactive

lemma keeps_resume_mixes : Keeps (XaMixes mem acc 0 F) (xaMixerResume env m) := by
  refine (Keeps.check _).bind fun _ => ?_
  cases xaMixerTrack m.dstPort with
  | none => exact Keeps.fail
  | some i =>
    intro s hs
    simp only
    rw [wp_bind, wp_get, wp_bind, wp_ite, wp_pure]
    refine ⟨fun hpaused => ?_, fun _ => tracksOnly_mixes.keeps_response m s hs⟩
    have htrack := hs.track i
    have hactive := htrack.paused_of_active hpaused
    have hidle := htrack.paused hpaused
    rw [wp_bind, xaTrackModify, wp_xaExtModify]
    refine wp_mono (tracksOnly_mixes.keeps_wake _ (hs.setTrack i ?_ fun hpost => ?_))
      (fun _ t ht => tracksOnly_mixes.keeps_response m t ht) fun _ ht => ht
    · have hzero := htrack.length_eq_zero (.inl hactive)
      rw [hzero] at htrack ⊢
      refine htrack.of_zero rfl (fun _ => ⟨hidle, ?_⟩) ?_ fun _ => htrack.created (.inr hpaused)
      · simp [hpaused]
      · simp [hpaused]
    · simp [(hs.initial hpost i).2] at hpaused

lemma wp_flush_mixes (hphase : s.phase = .running) (hop : m.opcode = .flush)
    (hnot : ¬ XaMixerStale s m) (hs : XaMixes mem acc 0 F s) :
    wp (xaMixerFlush env m) (fun _ => XaMixes mem acc 0 F) (fun _ => True) s := by
  have hresponse (t : XaState XaMixer) (ht : XaMixes mem acc 0 F t) :
      wp (xfResponse m : XaMixerProg Unit) (fun _ => XaMixes mem acc 0 F) (fun _ => True) t :=
    wp_of_keeps (tracksOnly_mixes.keeps_response m) ht fun _ h => h
  rw [xaMixerFlush, wp_bind, wp_check]
  refine ⟨fun hlength => ?_, fun _ => trivial⟩
  rw [wp_bind, wp_get, wp_ite]
  refine ⟨fun _ => wp_of_keeps ((Keeps.check _).bind fun _ => tracksOnly_mixes.keeps_output _) hs
    fun _ h => h, fun _ => ?_⟩
  cases hi : xaMixerTrack m.dstPort with
  | none => trivial
  | some i =>
    simp only
    rw [wp_bind, wp_ite, wp_pure]
    refine ⟨fun hbusy => ?_, fun _ => hresponse s hs⟩
    have hzero : s.ext.plugin.inputLength i = 0#32 := by
      by_contra hne
      exact hnot ⟨hphase, by simpa using hlength, i, hi, hne, .inr ⟨hop, hbusy⟩⟩
    have htrack := hs.track i
    obtain ⟨hport, hqueue, hfilled⟩ :=
      htrack.port.purge (htrack.created (by simpa using hbusy))
    rw [wp_bind, xaTrackInputPurge, wp_xaTrackInput]
    rintro r hr
    obtain rfl := Option.some_inj.mp hr
    rw [wp_bind, xaTrackModify, wp_xaExtModify]
    simp only [setTrack_track, setTrack_setTrack]
    refine wp_mono (tracksOnly_mixes.keeps_wake _ (hs.setTrack i ?_ fun _ => ⟨rfl, rfl⟩))
      (fun _ t ht => hresponse t ht) fun _ _ => trivial
    rw [hzero]
    exact htrack.of_empty hport hqueue hfilled rfl rfl

/-- A message is put into the port of a track. -/
lemma XaTrackMixes.put (h : XaTrackMixes mem mixed accepted n 0 track)
    (hen : track.input.enabled = true) (hinput : track'.input = (xfInputPortPut track.input m).1)
    (hsetup : track'.inputSetup = track.inputSetup)
    (hflags : track'.idle = track.idle ∧ track'.active = track.active ∧
        track'.paused = track.paused ∨
      track.idle = true ∧ track'.idle = false ∧ track'.active = true ∧
        track'.paused = track.paused) :
    XaTrackMixes mem mixed (accepted ++ m.payload mem) n 0 track' := by
  obtain ⟨hport, hcreated, hstored, hfilled, hunread⟩ := h.port.put mem m hen
  rw [← hinput] at hport hcreated hstored hfilled hunread
  have horder : (mixed ++ (track'.input.stored.drop 0 ++ track'.input.unread mem)).Sublist
      (accepted ++ m.payload mem) := by
    rw [hstored, hunread, ← List.append_assoc, ← List.append_assoc, List.append_assoc mixed]
    exact h.order.append (List.Sublist.refl _)
  rcases hflags with ⟨hidle, hactive, hpaused⟩ | ⟨hidle₀, hidle, hactive, hpaused⟩
  · refine ⟨hport, ?_, ?_, fun _ => hcreated, ?_, horder⟩
    · rw [hidle, hactive, hpaused]
      exact h.active
    · rw [hidle, hpaused]
      exact h.paused
    · rw [hactive, hsetup, hfilled]
      exact h.length
  · -- an idle track becomes active
    have hpaused₀ : track.paused = false := by
      by_contra hnot
      simp [h.paused (by simpa using hnot)] at hidle₀
    have hactive₀ : track.active = false := by
      by_contra hnot
      simp [(h.active (by simpa using hnot)).1] at hidle₀
    refine ⟨hport, fun _ => ⟨hidle, hpaused.trans hpaused₀⟩, fun _ => hidle, fun _ => hcreated,
      fun hn => absurd (h.length_eq_zero (.inl hactive₀)) hn, horder⟩

lemma accepted_of_opcode (hop : m.opcode ≠ .emptyThisBuffer) :
    (fun i => acc i ++ xaMixerAccepted env s m i) = acc := by
  funext i
  rw [xaMixerAccepted, if_neg fun h => hop h.2.2.1, List.append_nil]

lemma wp_emptyThisBuffer_mixes (hphase : s.phase = .running) (hop : m.opcode = .emptyThisBuffer)
    (hs : XaMixes env.mem acc 0 F s) :
    wp (xaMixerEmptyThisBuffer env m)
      (fun _ => XaMixes env.mem (fun i => acc i ++ xaMixerAccepted env s m i) 0 F)
      (fun _ => True) s := by
  -- the track `i` gets to `track`
  have hchange (i : Fin xaMixerMaxTrackNumber) (hi : xaMixerTrack m.dstPort = some i)
      (hpost : s.base.postinit = true) (track : XaTrack) (core : XfCore)
      (hnew : XaTrackMixes env.mem (xaMixedBytes F i) (acc i ++ xaMixerAccepted env s m i)
        (s.ext.plugin.inputLength i) 0 track) :
      XaMixes env.mem (fun i => acc i ++ xaMixerAccepted env s m i) 0 F
        { s with ext := s.ext.setTrack i track, core := core } := by
    have hother (j : Fin xaMixerMaxTrackNumber) (hj : j ≠ i) :
        acc j ++ xaMixerAccepted env s m j = acc j := by
      rw [xaMixerAccepted, if_neg fun h => hj ?_, List.append_nil]
      obtain ⟨-, -, -, hsame, -⟩ := h
      exact (Option.some_inj.mp (hi.symm.trans hsame)).symm
    refine hs.change i ?_ (fun j hj => ⟨?_, rfl, hother j hj, rfl⟩) rfl fun hnot => ?_
    · rw [setTrack_track]
      exact hnew
    · simp [XaMixer.setTrack, hj]
    · have hnot : s.base.postinit = false := hnot
      simp [hnot] at hpost
  have hacc (i : Fin xaMixerMaxTrackNumber) (hi : xaMixerTrack m.dstPort = some i)
      (hpost : s.base.postinit = true) (hen : (s.ext.track i).input.enabled = true) :
      xaMixerAccepted env s m i = m.payload env.mem := by
    rw [xaMixerAccepted, if_pos ⟨hphase, hpost, hop, hi, hen⟩]
  refine tracksOnly_mixes.wp_emptyThisBuffer_of (fun i hi hpost hfirst hidle => ?_)
    fun i hi hpost _ => ?_
  · have htrack := hs.track i
    have hen := enabled_of_xfInputPortPut hfirst
    have hactive : (s.ext.track i).active = false := by
      by_contra hactive
      simp [(htrack.active (by simpa using hactive)).1] at hidle
    refine hchange i hi hpost _ _ ?_
    rw [hacc i hi hpost hen]
    exact htrack.put hen rfl rfl (.inr ⟨hidle, by simp [hidle], by simp [hactive], rfl⟩)
  · have htrack := hs.track i
    refine hchange i hi hpost _ _ ?_
    cases hen : (s.ext.track i).input.enabled with
    | false =>
      have hput : xfInputPortPut (s.ext.track i).input m =
          ((s.ext.track i).input, [m.ok], false) := by simp [xfInputPortPut, hen]
      rw [hput, xaMixerAccepted, if_neg (by simp [hen]), List.append_nil]
      exact ⟨htrack.port, htrack.active, htrack.paused, htrack.created, htrack.length, htrack.order⟩
    | true =>
      rw [hacc i hi hpost hen]
      exact htrack.put hen rfl rfl (.inl ⟨rfl, rfl, rfl⟩)

/-- A port that is initialized with a buffer of its size. -/
lemma xaMixPort_init {port' : XfInputPort} {size : U32} {block : Option (List UInt8)}
    (hsize : size ≠ 0#32) (hblock : block.all fun block => block.length = size.toNat)
    (hres : xfInputPortInit port size block = (port', true)) :
    XaMixPort port' ∧ port'.queue = [] ∧ port'.filled = 0#32 := by
  cases block with
  | none => simp [xfInputPortInit, hsize] at hres
  | some buf =>
    have hbuf : buf.length = size.toNat := by simpa using hblock
    simp only [xfInputPortInit, hsize, ne_eq, not_false_eq_true, reduceCtorEq, and_false, if_false,
      Prod.mk.injEq, and_true] at hres
    subst hres
    refine ⟨⟨fun hnot => ?_, fun _ => rfl, ?_, ?_⟩, rfl, rfl⟩
    · cases hnot
    · simp [CursorOk]
    · rintro b hb
      obtain rfl := Option.some_inj.mp hb
      exact ⟨hbuf, by simp⟩

lemma wp_setParam_mixes (htable : env.IsMixerTable) (hblock : env.IsMixerBlock)
    (hs : XaMixes mem acc 0 F s) :
    wp (xaBaseSetParam xaMixerHooks env m) (fun _ => XaMixes mem acc 0 F) (fun _ => True) s := by
  refine wp_setParam_of (J := fun s => XaMixes mem acc 0 F s ∧ s.base.postinit = false)
    tracksOnly_mixes ?_ ?_ (fun s hs hnot => ⟨hs, hnot⟩) ?_ hs
  · rintro s t hsame ⟨hs, hpost⟩
    exact ⟨tracksOnly_mixes s t hsame hs, hsame.postinit.trans hpost⟩
  · rintro s i ⟨hs, hpost⟩ r hr
    obtain ⟨hport, hqueue, hfilled⟩ := xaMixPort_init (htable i) (hblock i) hr
    have htrack := hs.track i
    have hzero := htrack.length_eq_zero (.inl (hs.initial hpost i).1)
    refine ⟨hs.setTrack i ?_ fun _ => ⟨rfl, rfl⟩, hpost⟩
    rw [hzero]
    exact htrack.of_empty hport hqueue hfilled rfl rfl
  · rintro s ⟨hs, hpost⟩
    refine ⟨hs.track, fun hnot => ?_, hs.frames⟩
    simp [hpost] at hnot

lemma wp_command_mixes (htable : env.IsMixerTable) (hblock : env.IsMixerBlock)
    (hphase : s.phase = .running) (hnot : ¬ XaMixerStale s m) (hs : XaMixes env.mem acc 0 F s) :
    wp (xaBaseCommand xaMixer env m)
      (fun _ => XaMixes env.mem (fun i => acc i ++ xaMixerAccepted env s m i) 0 F)
      (fun _ => True) s := by
  by_cases hempty : m.opcode = .emptyThisBuffer
  · rw [xaBaseCommand, show xaMixer.command = xaMixerCmd from rfl, hempty]
    exact wp_emptyThisBuffer_mixes hphase hempty hs
  rw [accepted_of_opcode hempty]
  have hkeeps {x : XaMixerProg Unit} (hx : Keeps (XaMixes env.mem acc 0 F) x) :
      wp x (fun _ => XaMixes env.mem acc 0 F) (fun _ => True) s := wp_of_keeps hx hs fun _ h => h
  rw [xaBaseCommand, show xaMixer.command = xaMixerCmd from rfl]
  cases hop : m.opcode with
  | setParam => exact wp_setParam_mixes htable hblock hs
  | getParam => exact hkeeps tracksOnly_mixes.keeps_getParam
  | route => exact hkeeps tracksOnly_mixes.keeps_portRoute
  | unroute => exact hkeeps tracksOnly_mixes.keeps_portUnroute
  | emptyThisBuffer => exact absurd hop hempty
  | fillThisBuffer => exact hkeeps tracksOnly_mixes.keeps_fillThisBuffer
  | flush => exact wp_flush_mixes hphase hop hnot hs
  | pause => exact wp_pause_mixes hphase hop hnot hs
  | resume => exact hkeeps keeps_resume_mixes
  | unregister | setParamExt | getParamExt | other => trivial

/-- Commands write no frame. -/
lemma keeps_command_frames :
    Keeps (fun s : XaState XaMixer => s.ext.plugin.frames = F) (xaBaseCommand xaMixer env m) := by
  have hinput : XaMixerInputFree fun s : XaState XaMixer => s.ext.plugin.frames = F :=
    fun s t hsame hs => hsame.frames.trans hs
  have htracks : XaMixerTracksOnly fun s : XaState XaMixer => s.ext.plugin.frames = F :=
    fun s t hsame hs => hsame.frames.trans hs
  rw [xaBaseCommand, show xaMixer.command = xaMixerCmd from rfl]
  cases m.opcode with
  | setParam =>
    refine keeps_xaBaseSetParam (fun _ hs _ => hs) (fun _ hs => hs) (fun i => ?_) (fun _ hs => hs)
      (htracks.keepsResponse m)
    refine (keeps_xaApi _ _).bind fun type => (keeps_xaApi _ _).bind fun size =>
      (keeps_xaApi _ _).bind fun align => Keeps.ite (fun _ => (Keeps.check _).bind fun _ =>
        (Keeps.check _).bind fun _ => htracks.keeps_memPtr _ _) fun _ => Keeps.ite (fun _ =>
          (Keeps.check _).bind fun _ => htracks.keeps_memPtr _ _) fun _ => Keeps.ite (fun _ => ?_)
            fun _ => Keeps.fail
    refine Keeps.ite (fun _ => ?_) fun _ => (Keeps.check _).bind fun _ => (Keeps.check _).bind
      fun _ => (keeps_xaApi _ _).bind fun _ => Keeps.bind (htracks.keeps_ext (fun _ => rfl)
        (fun _ => rfl) (fun _ => rfl) fun _ => rfl) fun _ => htracks.keeps_output _
    cases xaMixerTrack (i.setWidth 16) with
    | none => exact Keeps.fail
    | some i =>
      exact (Keeps.check _).bind fun _ => (hinput.keeps_trackInput _).bind fun _ =>
        (Keeps.check _).bind fun _ => (hinput.keeps_trackModify _).bind fun _ =>
          (keeps_xaApi _ _).bind fun _ => hinput.keeps_trackModify _
  | getParam => exact htracks.keeps_getParam
  | route => exact htracks.keeps_portRoute
  | unroute => exact htracks.keeps_portUnroute
  | emptyThisBuffer => exact hinput.keeps_emptyThisBuffer
  | fillThisBuffer => exact htracks.keeps_fillThisBuffer
  | flush =>
    by_cases hport : m.dstPort = xaMixerOutputPort
    · refine (Keeps.check _).bind fun _ => Keeps.get.bind fun _ => ?_
      rw [if_pos hport]
      exact (Keeps.check _).bind fun _ => htracks.keeps_output _
    · exact hinput.keeps_flushTrack hport
  | pause => exact hinput.keeps_pause
  | resume => exact hinput.keeps_resume
  | unregister | setParamExt | getParamExt | other => exact Keeps.fail

end Hikey
