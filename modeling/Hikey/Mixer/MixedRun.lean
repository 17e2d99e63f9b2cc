import Hikey.Mixer.Mixed

/-!
# The frames have the bytes of the tracks in order

A process step fills the buffers of the active tracks, mixes them and consumes what has been mixed.
Between the mixing and the consuming the first bytes of a buffer are both in the frames and in the
buffer.
-/

namespace Hikey

open Prog XfInputPort

variable {s s₀ t : XaState XaMixer} {env : XaEnv} {m : XfMessage} {F : List XaFrame}
  {track track' : XaTrack} {i : Fin xaMixerMaxTrackNumber} {mem : U32 → UInt8}
  {mixed accepted : List UInt8} {n : U32} {k : ℕ} {port : XfInputPort}
  {acc acc' : Fin xaMixerMaxTrackNumber → List UInt8} {d d' : Fin xaMixerMaxTrackNumber → ℕ}

/-! ## The set-up of the input -/

/-- The port of an active track is filled. -/
lemma XaTrackMixes.fill (h : XaTrackMixes mem mixed accepted n 0 track)
    (hactive : track.active = true) (hsetup : track.inputSetup = false)
    {r : XfInputPort × List XfMessage × Bool} (hres : xfInputPortFill mem track.input = some r) :
    XaTrackMixes mem mixed accepted n 0 { track with input := r.1 } ∧ n = 0#32 := by
  have hzero := h.length_eq_zero (.inr hsetup)
  obtain ⟨hport, hcreated, hbytes⟩ := h.port.fill (h.created (.inl hactive)) hres
  refine ⟨⟨hport, h.active, h.paused, fun _ => hcreated, fun hn => absurd hzero hn, ?_⟩, hzero⟩
  have horder := h.order
  simp only [List.drop_zero] at horder ⊢
  rwa [hbytes]

/-- A track that is filled is set up with its bytes. -/
lemma XaTrackMixes.setup (h : XaTrackMixes mem mixed accepted 0#32 0 track)
    (hactive : track.active = true) (hn : n = 0#32 ∨ n = track.input.filled) :
    XaTrackMixes mem mixed accepted n 0 { track with inputSetup := true } := by
  refine ⟨h.port, h.active, h.paused, h.created, fun hne => ⟨hactive, rfl, ?_⟩, h.order⟩
  exact hn.resolve_left hne

/-- What the set-up keeps: the frames have the bytes of the tracks in order, and the same tracks are
active as in the state `s₀`. -/
structure XaMixesSetup (s₀ : XaState XaMixer) (mem : U32 → UInt8)
    (acc : Fin xaMixerMaxTrackNumber → List UInt8) (s : XaState XaMixer) : Prop where
  mixes : XaMixes mem acc 0 s₀.ext.plugin.frames s
  active : ∀ i, (s.ext.track i).active = (s₀.ext.track i).active

lemma tracksOnly_setup : XaMixerTracksOnly (XaMixesSetup s₀ mem acc) := by
  rintro s t hsame ⟨hmixes, hactive⟩
  refine ⟨tracksOnly_mixes s t hsame hmixes, ?_⟩
  rwa [hsame.track]

/-- An active track is changed. -/
lemma XaMixesSetup.change (h : XaMixesSetup s₀ mem acc s) (i : Fin xaMixerMaxTrackNumber)
    (hactive : (s.ext.track i).active = true) (hi' : track.active = true) {core : XfCore}
    {plugin : XaPcmMixer} (hframes : plugin.frames = s.ext.plugin.frames)
    (hother : ∀ j, j ≠ i → plugin.inputLength j = s.ext.plugin.inputLength j)
    (hi : XaTrackMixes mem (xaMixedBytes s₀.ext.plugin.frames i) (acc i) (plugin.inputLength i) 0
      track) : XaMixesSetup s₀ mem acc { s with
        ext := { s.ext with track := Function.update s.ext.track i track, plugin := plugin }
        core := core } := by
  refine ⟨h.mixes.change i ?_ (fun j hj => ⟨?_, hother j hj, rfl, rfl⟩) hframes fun hpost => ?_,
    fun j => ?_⟩
  · simpa using hi
  · simp [hj]
  · have hpost : s.base.postinit = false := hpost
    simp [(h.mixes.initial hpost i).1] at hactive
  · by_cases hj : j = i
    · subst hj
      simpa [hi'] using (h.active j).symm.trans hactive
    · simpa [hj] using h.active j

lemma wp_setupTrack_mixes (hactive : (s.ext.track i).active = true)
    (hsetup : (s.ext.track i).inputSetup = false) (hs : XaMixesSetup s₀ env.mem acc s) :
    wp (xaMixerSetupTrack env i) (fun _ => XaMixesSetup s₀ env.mem acc)
      (XaMixesSetup s₀ env.mem acc) s := by
  have htrack := hs.mixes.track i
  have hzero := htrack.length_eq_zero (.inr hsetup)
  rw [xaMixerSetupTrack, wp_bind, wp_get, wp_ite]
  refine ⟨fun _ => ?_, fun _ => ?_⟩
  · -- the track is not due yet
    rw [wp_bind, xaTrackModify, wp_xaExtModify, wp_pure]
    refine hs.change i hactive ?_ rfl (fun _ _ => rfl) ?_
    · exact hactive
    · rw [hzero] at htrack ⊢
      exact htrack.setup hactive (.inl rfl)
  · rw [wp_bind, xaTrackInputFill, wp_xaTrackInput]
    rintro r hr
    obtain ⟨hfill, -⟩ := htrack.fill hactive hsetup hr
    have hfilled : XaMixesSetup s₀ env.mem acc { s with
        ext := s.ext.setTrack i { s.ext.track i with input := r.1 }
        core := r.2.1.foldl XfCore.complete s.core } := by
      refine hs.change i hactive ?_ rfl (fun _ _ => rfl) hfill
      exact hactive
    rw [wp_ite, wp_pure]
    refine ⟨fun _ => ?_, fun _ => hfilled⟩
    rw [wp_bind, wp_get, wp_bind, xaMixerSetInputBytes, wp_bind, wp_xaApi]
    refine ⟨fun _ => ?_, fun _ => hfilled⟩
    rw [hzero] at hfill
    have hactive' : ((s.ext.setTrack i { s.ext.track i with input := r.1 }).track i).active =
        true := by
      simpa using hactive
    rw [wp_ite, wp_pure, xaPluginModify, wp_xaExtModify]
    refine ⟨fun _ => ?_, fun _ => ?_⟩
    · -- the plugin is told the number of bytes
      rw [wp_bind, xaTrackModify, wp_xaExtModify, wp_pure]
      refine hfilled.change i hactive' ?_ rfl (fun j hj => ?_) ?_
      · simpa using hactive
      · simp [XaMixer.setTrack, hj]
      · simp only [setTrack_track, Function.update_self]
        exact hfill.setup hactive (.inr rfl)
    · rw [wp_bind, xaTrackModify, wp_xaExtModify, wp_pure]
      refine hfilled.change i hactive' ?_ rfl (fun _ _ => rfl) ?_
      · simpa using hactive
      · have hlength : (s.ext.setTrack i { s.ext.track i with input := r.1 }).plugin.inputLength i =
            0#32 := hzero
        rw [hlength, setTrack_track]
        exact hfill.setup hactive (.inl rfl)

lemma wp_setupTracks_mixes (is : List (Fin xaMixerMaxTrackNumber)) (e : Bool)
    (hs : XaMixesSetup s₀ env.mem acc s) :
    wp (xaMixerSetupTracks env is e) (fun _ => XaMixesSetup s₀ env.mem acc)
      (XaMixesSetup s₀ env.mem acc) s := by
  induction is generalizing s e with
  | nil => exact hs
  | cons i is ih =>
    rw [xaMixerSetupTracks, wp_bind, wp_get, wp_ite, wp_ite]
    refine ⟨fun _ => ih _ hs, fun hactive => ⟨fun _ => ih _ hs, fun hsetup => ?_⟩⟩
    rw [wp_bind]
    refine wp_mono (wp_setupTrack_mixes (by simpa using hactive) (by simpa using hsetup) hs)
      (fun ok t ht => ?_) fun _ h => h
    rw [wp_ite, wp_pure]
    exact ⟨fun _ => ih _ ht, fun _ => ht⟩

lemma keeps_preprocess_mixes :
    Keeps (XaMixesSetup s₀ env.mem acc) (xaMixerPreprocess env) := by
  have hinput : Keeps (XaMixesSetup s₀ env.mem acc) (xaMixerSetupInput env) :=
    Keeps.get.bind fun _ => Keeps.bind (Keeps.ite (fun _ => tracksOnly_setup.keeps_output _)
      fun _ => Keeps.pure _) fun _ _ hs => wp_setupTracks_mixes _ _ hs
  refine Keeps.get.bind fun _ => Keeps.ite (fun _ => hinput) fun _ => Keeps.ite
    (fun _ => Keeps.pure _) fun _ => Keeps.ite (fun _ => Keeps.pure _) fun _ =>
      (tracksOnly_setup.keeps_memPtr _ _).bind fun _ => Keeps.bind ?_ fun _ => hinput
  exact tracksOnly_setup.keeps_ext (fun _ => rfl) (fun _ => rfl) (fun _ => rfl) fun _ => rfl

/-! ## The maintenance of the tracks -/

/-- The bytes of a track that have been mixed are consumed. -/
lemma XaTrackMixes.consume (h : XaTrackMixes mem mixed accepted n k track) (hk : k ≤ n.toNat)
    (hactive : track.active = true) {r : XfInputPort × List XfMessage}
    (hres : xfInputPortConsume track.input n = some r) (pts : U32) :
    XaTrackMixes mem mixed accepted 0#32 0
      { track with input := r.1, inputSetup := false, pts := pts } := by
  obtain ⟨hport, hcreated, hstored, hunread⟩ := h.port.consume mem
    (h.created (.inl hactive)) hres
  refine ⟨hport, h.active, h.paused, fun _ => hcreated, fun hn => absurd rfl hn, ?_⟩
  have hdrop : (track.input.stored.drop n.toNat).Sublist (track.input.stored.drop k) := by
    obtain ⟨l, hl⟩ := Nat.exists_eq_add_of_le hk
    rw [hl, ← List.drop_drop]
    exact List.drop_sublist _ _
  simp only [List.drop_zero, hstored, hunread]
  exact ((List.Sublist.refl mixed).append (hdrop.append (List.Sublist.refl _))).trans h.order

/-- The bytes of the tracks in the list `is` may have been mixed without being consumed. -/
structure XaMixesFinish (mem : U32 → UInt8) (acc : Fin xaMixerMaxTrackNumber → List UInt8)
    (F : List XaFrame) (is : List (Fin xaMixerMaxTrackNumber)) (d : Fin xaMixerMaxTrackNumber → ℕ)
    (s : XaState XaMixer) : Prop where
  mixes : XaMixes mem acc d F s
  le : ∀ i, d i ≤ (s.ext.plugin.inputLength i).toNat
  rest : ∀ i, i ∉ is → d i = 0

/-- One track has been maintained. -/
lemma XaMixesFinish.change {is : List (Fin xaMixerMaxTrackNumber)}
    (h : XaMixesFinish mem acc F (i :: is) d s)
    (hi : XaTrackMixes mem (xaMixedBytes F i) (acc i) (t.ext.plugin.inputLength i) 0
      (t.ext.track i))
    (hother : ∀ j, j ≠ i → t.ext.track j = s.ext.track j ∧
      t.ext.plugin.inputLength j = s.ext.plugin.inputLength j)
    (hframes : t.ext.plugin.frames = s.ext.plugin.frames)
    (hinit : t.base.postinit = false → s.base.postinit = false ∧
      (t.ext.track i).active = false ∧ (t.ext.track i).paused = false) :
    XaMixesFinish mem acc F is (Function.update d i 0) t := by
  refine ⟨h.mixes.change i ?_ (fun j hj => ⟨(hother j hj).1, (hother j hj).2, rfl, ?_⟩)
    hframes hinit,
    fun j => ?_, fun j hj => ?_⟩
  · simpa using hi
  · simp [hj]
  · by_cases hj : j = i
    · subst hj
      simp
    · simpa [hj, (hother j hj).2] using h.le j
  · by_cases hi : j = i
    · subst hi
      simp
    · simpa [hi] using h.rest j (by simp [hi, hj])

lemma wp_finishTrack_mixes {is : List (Fin xaMixerMaxTrackNumber)}
    (hs : XaMixesFinish mem acc F (i :: is) d s) :
    wp (xaMixerFinishTrack env i) (fun _ => XaMixesFinish mem acc F is (Function.update d i 0))
      (fun _ => True) s := by
  have htrack := hs.mixes.track i
  rw [xaMixerFinishTrack, wp_bind, wp_get, wp_ite, wp_pure]
  refine ⟨fun hidle => ?_, fun hactive => ?_⟩
  · -- the input length of a track that is not active is zero
    have hzero := htrack.length_eq_zero (.inl (by simpa using hidle))
    have hd : d i = 0 := by
      have := hs.le i
      simpa [hzero] using this
    refine hs.change (by rwa [hd] at htrack) (fun _ _ => ⟨rfl, rfl⟩) rfl fun hpost => ⟨hpost, ?_⟩
    exact hs.mixes.initial hpost i
  · have hactive : (s.ext.track i).active = true := by simpa using hactive
    have hpost (hnot : s.base.postinit = false) : False := by
      simp [(hs.mixes.initial hnot i).1] at hactive
    rw [wp_bind, xaTrackModify, wp_xaExtModify, wp_bind, xaMixerGetCuridxInputBuf, wp_bind, wp_get,
      wp_bind, wp_xaApi]
    refine ⟨fun _ => ?_, fun _ => trivial⟩
    rw [wp_bind, xaPluginModify, wp_xaExtModify, wp_pure, wp_bind, xaTrackInputConsume,
      wp_xaTrackInput]
    rintro r hr
    obtain ⟨⟨port, ms⟩, hconsume, rfl⟩ := Option.map_eq_some_iff.mp hr
    simp only [setTrack_track] at hconsume ⊢
    have hnew := htrack.consume (hs.le i) hactive hconsume
      ((s.ext.track i).pts + s.ext.frameSize)
    rw [wp_bind, wp_get, wp_ite, setTrack_track, wp_pure]
    refine ⟨fun _ => ?_, fun _ => ?_⟩
    · -- the track returns to idle
      obtain ⟨hport, hqueue, hfilled⟩ := hnew.port.purge (hnew.created (.inl hactive))
      obtain ⟨-, hpaused⟩ := htrack.active hactive
      rw [wp_bind, xaTrackInputPurge, wp_xaTrackInput]
      rintro r hr
      obtain rfl := Option.some_inj.mp hr
      rw [xaTrackModify, wp_xaExtModify]
      simp only [setTrack_track, setTrack_setTrack]
      refine hs.change ?_ (fun j hj => ?_) rfl fun hnot => (hpost hnot).elim
      · simp only [XaMixer.setTrack, Function.update_self]
        refine hnew.of_empty hport hqueue hfilled ?_ hpaused
        simp [hactive]
      · simp [XaMixer.setTrack, hj]
    · refine hs.change ?_ (fun j hj => ?_) rfl fun hnot => (hpost hnot).elim
      · simp only [XaMixer.setTrack, Function.update_self]
        exact hnew
      · simp [XaMixer.setTrack, hj]

lemma wp_finishTracks_mixes (is : List (Fin xaMixerMaxTrackNumber))
    (hs : XaMixesFinish mem acc F is d s) :
    wp (xaMixerFinishTracks env is) (fun _ => XaMixes mem acc 0 F) (fun _ => True) s := by
  induction is generalizing s d with
  | nil =>
    obtain rfl : d = 0 := funext fun i => hs.rest i (by simp)
    exact hs.mixes
  | cons i is ih =>
    rw [xaMixerFinishTracks, wp_bind]
    exact wp_mono (wp_finishTrack_mixes hs) (fun _ t ht => ih ht) fun _ h => h

/-! ## Process steps -/

/-- A step writes no frame, or it writes one in which every track that is not active is silent. -/
def XaMixerSilent (s s' : XaState XaMixer) : Prop :=
  s'.ext.plugin.frames = s.ext.plugin.frames ∨
  ∃ frame, s'.ext.plugin.frames = s.ext.plugin.frames ++ [frame] ∧
    ∀ i, (s.ext.track i).active = false → frame.mixed i = []

/-- What a process step has done. -/
def XaMixesDone (s₀ : XaState XaMixer) (mem : U32 → UInt8)
    (acc : Fin xaMixerMaxTrackNumber → List UInt8) (s : XaState XaMixer) : Prop :=
  XaMixes mem acc 0 s.ext.plugin.frames s ∧ XaMixerSilent s₀ s

lemma XaMixesSetup.done (h : XaMixesSetup s₀ mem acc s) : XaMixesDone s₀ mem acc s := by
  obtain ⟨hmixes, -⟩ := h
  refine ⟨?_, .inl hmixes.frames⟩
  rw [hmixes.frames]
  exact hmixes

/-- The bytes of a track in a frame are those that the plugin has been told. -/
lemma XaTrackMixes.mix (h : XaTrackMixes mem mixed accepted n 0 track) :
    XaTrackMixes mem
      (mixed ++ (track.input.buffer.getD []).take n.toNat) accepted n n.toNat track := by
  refine ⟨h.port, h.active, h.paused, h.created, h.length, ?_⟩
  have horder := h.order
  rw [List.drop_zero] at horder
  have hbytes : (track.input.buffer.getD []).take n.toNat ++ track.input.stored.drop n.toNat =
      track.input.stored := by
    by_cases hn : n = 0#32
    · simp [hn]
    · obtain ⟨-, -, hfilled⟩ := h.length hn
      rw [XfInputPort.stored, ← hfilled, List.drop_take, Nat.sub_self, List.take_zero,
        List.append_nil]
  rw [List.append_assoc, ← List.append_assoc (List.take _ _), hbytes]
  exact horder

lemma keeps_finishOutput_mixes :
    Keeps (XaMixes mem acc 0 F) (xaMixerFinishOutput env) :=
  keeps_finishOutput_of (Keeps.modify fun _ hs => ⟨hs.track, hs.initial, hs.frames⟩)
    (fun _ => tracksOnly_mixes.keeps_output _)
    (tracksOnly_mixes.keeps_ext (fun _ => rfl) (fun _ => rfl) (fun _ => rfl) fun _ => rfl)
    tracksOnly_mixes.keeps_schedule

lemma wp_postprocess_mixes (hmixer : env.IsMixer) (done : U32) (hs : XaMixesSetup s₀ mem acc s) :
    wp (xaMixerHooks.postprocess env done) (fun _ => XaMixesDone s₀ mem acc)
      (XaMixesDone s₀ mem acc) s := by
  have hfinish {F : List XaFrame} {d : Fin xaMixerMaxTrackNumber → ℕ} {t : XaState XaMixer}
      (ht : XaMixesFinish mem acc F (List.finRange xaMixerMaxTrackNumber) d t)
      (hF : ∀ u : XaState XaMixer, u.ext.plugin.frames = F → XaMixerSilent s₀ u) :
      wp (do
          xaMixerFinishTracks env (List.finRange xaMixerMaxTrackNumber)
          xaMixerFinishOutput env)
        (fun _ => XaMixesDone s₀ mem acc) (XaMixesDone s₀ mem acc) t := by
    have hdone (u : XaState XaMixer) (hu : XaMixes mem acc 0 F u) : XaMixesDone s₀ mem acc u := by
      refine ⟨?_, hF u hu.frames⟩
      rw [hu.frames]
      exact hu
    rw [wp_bind]
    refine wp_mono (wp_and (wp_finishTracks_mixes _ ht) (wp_finishTracks_noError hmixer _))
      (fun _ u hu => ?_) fun _ h => h.2.elim
    exact wp_mono (keeps_finishOutput_mixes u hu.1) (fun _ v hv => hdone v hv)
      fun v hv => hdone v hv
  obtain ⟨hmixes, hactive⟩ := id hs
  rw [xaMixerHooks, wp_bind, xaMixerExecuted, wp_bind, wp_get, wp_ite, wp_pure]
  refine ⟨fun hexec => ?_, fun _ => ?_⟩
  · -- a frame is written
    rw [xaMixerDoExecute, wp_bind, wp_get, xaPluginModify, wp_xaExtModify, xaMixerPostprocess,
      wp_bind, wp_get, if_neg (by simp [hexec.2])]
    refine hfinish (F := s₀.ext.plugin.frames ++
      [⟨s.core.memPtr xaMixerOutIdx, xaMixerMixed s.ext⟩])
      (d := fun i => (s.ext.plugin.inputLength i).toNat) ⟨⟨fun i => ?_, hmixes.initial, ?_⟩,
        fun _ => le_rfl, fun i hi => absurd (List.mem_finRange i) hi⟩
      fun u hu => .inr ⟨_, hu, fun i hidle => ?_⟩
    · have := (hmixes.track i).mix
      simpa only [xaMixedBytes, List.flatMap_append, List.flatMap_cons, List.flatMap_nil,
        List.append_nil, xaMixerMixed] using this
    · simp only [hmixes.frames]
    · have hzero := (hmixes.track i).length_eq_zero (.inl ((hactive i).trans hidle))
      simp [xaMixerMixed, hzero]
  · rw [xaMixerPostprocess, wp_bind, wp_get, wp_ite]
    refine ⟨fun _ => ?_, fun _ => hfinish (d := 0) ⟨hmixes, fun _ => Nat.zero_le _, fun _ _ => rfl⟩
      fun u hu => .inl hu⟩
    exact wp_mono (tracksOnly_setup.keeps_prepareRuntime s hs) (fun _ u hu => hu.done)
      fun u hu => hu.done

lemma wp_process_mixes (hmixer : env.IsMixer) (hs : XaMixes env.mem acc 0 s.ext.plugin.frames s) :
    wp (xaBaseProcess xaMixerHooks env) (fun _ => XaMixesDone s env.mem acc)
      (XaMixesDone s env.mem acc) s := by
  have hs' : XaMixesSetup s env.mem acc { s with base := { s.base with schedule := false } } :=
    tracksOnly_setup s _ ⟨rfl, rfl, rfl, rfl, rfl, [], rfl, rfl⟩ ⟨hs, fun _ => rfl⟩
  rw [xaBaseProcess, wp_bind, wp_xaBaseModify, wp_bind]
  refine wp_mono (keeps_preprocess_mixes _ hs') (fun ok t ht => ?_) fun t ht => ht.done
  rw [wp_ite, wp_pure]
  refine ⟨fun _ => ?_, fun _ => ht.done⟩
  rw [wp_bind]
  exact wp_mono (tracksOnly_setup.keeps_execute t ht)
    (fun done u hu => wp_postprocess_mixes hmixer done hu) fun u hu => hu.done

/-! ## Runs -/

/-- The bytes of the tracks in the frames are in order, and those of a running mixer go on in order.
-/
structure XaMixerStoryOk (g : XaMixerStory) : Prop where
  order : ∀ i, (xaMixedBytes g.state.ext.plugin.frames i).Sublist (g.accepted i)
  running : g.state.phase = .running →
    XaMixes g.mem g.accepted 0 g.state.ext.plugin.frames g.state

lemma XaMixes.order (h : XaMixes mem acc d F s) (i : Fin xaMixerMaxTrackNumber) :
    (xaMixedBytes F i).Sublist (acc i) :=
  (List.sublist_append_left _ _).trans (h.track i).order

/-- The payload of the queued messages is the same in another memory. -/
lemma XaMixes.congr_mem {mem' : U32 → UInt8} (h : XaMixes mem acc d F s)
    (hmem : ∀ i, ∀ m ∈ (s.ext.track i).input.queue, m.payload mem' = m.payload mem) :
    XaMixes mem' acc d F s := by
  refine ⟨fun i => ?_, h.initial, h.frames⟩
  obtain ⟨hport, hactive, hpaused, hcreated, hlength, horder⟩ := h.track i
  refine ⟨hport, hactive, hpaused, hcreated, hlength, ?_⟩
  rwa [unread_congr hport.cursor (hmem i)]

lemma wp_dispatch_mixes (htable : env.IsMixerTable) (hblock : env.IsMixerBlock)
    (hnot : ¬ XaMixerStale s m)
    (hs : s.phase = .running → XaMixes env.mem acc 0 s.ext.plugin.frames s) :
    wp (xfCoreDispatch xaMixer env m)
      (fun _ t => t.ext.plugin.frames = s.ext.plugin.frames ∧ (t.phase = .running →
        XaMixes env.mem (fun i => acc i ++ xaMixerAccepted env s m i) 0 s.ext.plugin.frames t))
      (fun t => t.ext.plugin.frames = s.ext.plugin.frames ∧ (t.phase = .running →
        XaMixes env.mem (fun i => acc i ++ xaMixerAccepted env s m i) 0 s.ext.plugin.frames t))
          s := by
  refine wp_dispatch_of_command (E := fun t => t.ext.plugin.frames = s.ext.plugin.frames)
    (fun hphase => ?_) (fun t u ht hdown hu => ⟨hu.trans ht, fun h => absurd h hdown⟩)
    fun _ u hdown hu => ⟨hu, fun h => absurd h hdown⟩
  refine wp_mono (wp_and (wp_command_mixes htable hblock hphase hnot (hs hphase))
    (keeps_command_frames s rfl)) (fun _ t ht => ⟨ht.2, fun _ => ht.1⟩) fun t ht => ht.2

lemma XaMixes.withCore (h : XaMixes mem acc d F s) (core : XfCore) :
    XaMixes mem acc d F { s with core := core } :=
  ⟨h.track, h.initial, h.frames⟩

variable {g g' : XaMixerStory}

/-- Bytes that are accepted come behind the bytes in the frames. -/
lemma XaMixerStoryOk.of_command {mem : U32 → UInt8}
    {more : Fin xaMixerMaxTrackNumber → List UInt8} (hg : XaMixerStoryOk g)
    (hframes : t.ext.plugin.frames = g.state.ext.plugin.frames)
    (hrunning : t.phase = .running → XaMixes mem (fun i => g.accepted i ++ more i) 0
      g.state.ext.plugin.frames t) :
    XaMixerStoryOk { state := t, mem := mem, accepted := fun i => g.accepted i ++ more i } ∧
      XaMixerSilent g.state t := by
  refine ⟨⟨fun i => ?_, fun hphase => ?_⟩, .inl hframes⟩
  · simp only [hframes]
    exact (hg.order i).trans (List.sublist_append_left _ _)
  · simp only [hframes]
    exact hrunning hphase

/-- No bytes are accepted without a message. -/
lemma acceptedBytes_of_message {e : XaEvent} (hmessage : e.message s = none)
    (i : Fin xaMixerMaxTrackNumber) : e.acceptedBytes s i = [] := by
  unfold XaEvent.acceptedBytes
  rw [hmessage]
  split <;> simp_all

/-- Every event that meets the condition keeps the bytes of the tracks in order, and a frame is
silent for tracks that are not active. -/
lemma XaMixerStoryOk.step {e : XaEvent} (hg : XaMixerStoryOk g) (hsteady : XaMixerSteady g e)
    (hnext : g.next e = some g') : XaMixerStoryOk g' ∧ XaMixerSilent g.state g'.state := by
  obtain ⟨hmem, hstale, hevent⟩ := hsteady
  obtain ⟨t, hstep, rfl⟩ := Option.map_eq_some_iff.mp hnext
  replace hstep := xaStep_effect hstep
  cases hstep with
  | @command env m hstep =>
    have hs (hphase : g.state.phase = .running) := (hg.running hphase).congr_mem (hmem env rfl)
    have := Prog.after_of_wp (I := fun t => t.ext.plugin.frames = g.state.ext.plugin.frames ∧
      (t.phase = .running →
        XaMixes env.mem (fun i => g.accepted i ++ xaMixerAccepted env g.state m i)
        0 g.state.ext.plugin.frames t))
          (wp_dispatch_mixes hevent.1 hevent.2 (hstale m rfl) hs) hstep
    exact hg.of_command this.1 this.2
  | @deliver env m back hback hstep =>
    have hmessage : XaEvent.message g.state (.deliver env) = some m := by
      simp [XaEvent.message, hback]
    have hs (hphase : g.state.phase = .running) :=
      ((hg.running hphase).congr_mem (hmem env rfl)).withCore { g.state.core with back := back }
    have hnot : ¬ XaMixerStale { g.state with core := { g.state.core with back := back } } m :=
      hstale m hmessage
    have := Prog.after_of_wp (I := fun t => t.ext.plugin.frames = g.state.ext.plugin.frames ∧
      (t.phase = .running → XaMixes env.mem
        (fun i => g.accepted i ++ xaMixerAccepted env g.state m i)
        0 g.state.ext.plugin.frames t)) (wp_dispatch_mixes hevent.1 hevent.2 hnot hs) hstep
    have hbytes (i : Fin xaMixerMaxTrackNumber) :
        XaEvent.acceptedBytes g.state (.deliver env) i = xaMixerAccepted env g.state m i := by
      simp only [XaEvent.acceptedBytes, XaEvent.environment, hmessage]
    simp only [hbytes]
    exact hg.of_command this.1 this.2
  | @process env sched hget hstep =>
    have hs (hphase : g.state.phase = .running) := (hg.running hphase).congr_mem (hmem env rfl)
    obtain ⟨hmixes, hsilent⟩ := after_xfCoreProcess (I := fun t => XaMixesDone
      { g.state with core := { g.state.core with sched := sched } } env.mem g.accepted t)
      hstep fun hphase => wp_process_mixes (hevent ⟨hphase, by simp [hget]⟩)
        ((hs hphase).withCore _)
    have hmessage : XaEvent.message g.state (.process env) = none := rfl
    simp only [acceptedBytes_of_message hmessage, List.append_nil]
    exact ⟨⟨fun i => hmixes.order i, fun _ => hmixes⟩, hsilent⟩
  | @idle _ core hstep hmessage =>
    subst hstep
    refine hg.of_command rfl fun hphase => ?_
    simp only [acceptedBytes_of_message hmessage, List.append_nil]
    refine XaMixes.withCore ?_ core
    cases henv : e.environment with
    | none => exact hg.running hphase
    | some env => exact (hg.running hphase).congr_mem (hmem env henv)

/-- A step of a mixer by an event that is allowed and meets the condition. -/
def XaMixerStoryIf (C : XaMixerStory → XaEvent → Prop) (g g' : XaMixerStory) : Prop :=
  ∃ e : XaEvent, e.Allowed g.state ∧ C g e ∧ g.next e = some g'

/-- A mixer that has accepted nothing yet. -/
def XaMixerStory.start (s : XaState XaMixer) (mem : U32 → UInt8) : XaMixerStory :=
  ⟨s, mem, fun _ => []⟩

lemma xaMixerStoryOk_start (task : U32) (item : U32 → XfMessage) (core : XfCore)
    (mem : U32 → UInt8) : XaMixerStoryOk (.start (xaMixerFactory task item core) mem) := by
  refine ⟨fun _ => List.Sublist.refl _,
    fun _ => ⟨fun i => ⟨⟨fun _ => ⟨rfl, rfl⟩, ?_, ?_, ?_⟩, ?_, ?_,
    ?_, fun hn => absurd rfl hn, List.Sublist.refl _⟩, fun _ _ => ⟨rfl, rfl⟩, rfl⟩⟩
  · exact fun h => by cases h
  · rintro m queue ⟨⟩
  · rintro buf ⟨⟩
  · exact fun h => by cases h
  · exact fun h => by cases h
  · rintro (h | h) <;> cases h

/-- In every run of a mixer in which no track is paused or flushed after it has been set up with
data, the frames have the bytes of every track in the order in which they were accepted, each at
most once, and every frame is silent for the tracks that are not active when it is mixed. -/
theorem xaMixer_mixes (task : U32) (item : U32 → XfMessage) (core : XfCore) (mem : U32 → UInt8)
    (g g' : XaMixerStory)
    (hrun : Relation.ReflTransGen (XaMixerStoryIf XaMixerSteady)
      (.start (xaMixerFactory task item core) mem) g)
    (hstep : XaMixerStoryIf XaMixerSteady g g') :
    (∀ i, (xaMixedBytes g'.state.ext.plugin.frames i).Sublist (g'.accepted i)) ∧
      XaMixerSilent g.state g'.state := by
  have hinv : XaMixerStoryOk g := by
    refine run_invariant XaMixerStoryOk ?_ (xaMixerStoryOk_start task item core mem) hrun
    rintro g g' hg ⟨e, -, hsteady, hstep⟩
    exact (hg.step hsteady hstep).1
  obtain ⟨e, -, hsteady, hstep⟩ := hstep
  obtain ⟨hok, hsilent⟩ := hinv.step hsteady hstep
  exact ⟨hok.order, hsilent⟩

/-! ### Runs on fixed events -/

section Fixed

variable (C : XaMixerStory → XaEvent → Prop) [∀ g e, Decidable (C g e)]

/-- The story of the events, which must meet a condition. -/
def XaMixerStory.after : XaMixerStory → List XaEvent → Option XaMixerStory
  | g, [] => some g
  | g, e :: es =>
    if e.allowed g.state = true ∧ C g e then
      match g.next e with
      | none => none
      | some g => g.after es
    else none

variable {C}

lemma XaMixerStory.after_reach {es : List XaEvent} (h : g.after C es = some g') :
    Relation.ReflTransGen (XaMixerStoryIf C) g g' := by
  induction es generalizing g with
  | nil =>
    obtain rfl : g = g' := by simpa [XaMixerStory.after] using h
    exact .refl
  | cons e es ih =>
    rw [XaMixerStory.after] at h
    by_cases hallowed : e.allowed g.state = true ∧ C g e
    · rw [if_pos hallowed] at h
      cases hnext : g.next e with
      | none => simp [hnext] at h
      | some g₁ =>
        rw [hnext] at h
        exact .head ⟨e, XaEvent.allowed_iff hallowed.1, hallowed.2, hnext⟩ (ih h)
    · rw [if_neg hallowed] at h
      cases h

variable (C) in
/-- What one more event does after a story of fixed events. -/
lemma XaMixerStory.exists_step {β : Type} (g : XaMixerStory) (es : List XaEvent) (e : XaEvent)
    (f : XaMixerStory → XaMixerStory → β) {b : β}
    (h : ((g.after C es).bind fun g₁ => (g₁.after C [e]).map (f g₁)) = some b) :
    ∃ g₁ g₂, Relation.ReflTransGen (XaMixerStoryIf C) g g₁ ∧ XaMixerStoryIf C g₁ g₂ ∧
      f g₁ g₂ = b := by
  obtain ⟨g₁, hrun, h₁⟩ := Option.bind_eq_some_iff.mp h
  obtain ⟨g₂, hstep, hf⟩ := Option.map_eq_some_iff.mp h₁
  refine ⟨g₁, g₂, after_reach hrun, ?_, hf⟩
  simp only [XaMixerStory.after] at hstep
  by_cases hallowed : e.allowed g₁.state = true ∧ C g₁ e
  · rw [if_pos hallowed] at hstep
    cases hnext : g₁.next e with
    | none => simp [hnext] at hstep
    | some g₃ =>
      obtain rfl : g₃ = g₂ := by simpa [hnext] using hstep
      exact ⟨e, XaEvent.allowed_iff hallowed.1, hallowed.2, hnext⟩
  · rw [if_neg hallowed] at hstep
    cases hstep

end Fixed

/-- A stream of 2048 bytes is mixed into a frame. -/
theorem xaMixer_mixes_one : ∃ g g', XaMixerStoryIf XaMixerSteady g g' ∧
    (g'.accepted 0).length = 2048 ∧ (xaMixedBytes g'.state.ext.plugin.frames 0).length = 2048 ∧
    (∀ i, (xaMixedBytes g'.state.ext.plugin.frames i).Sublist (g'.accepted i)) ∧
    XaMixerSilent g.state g'.state := by
  obtain ⟨g, g', hrun, hstep, hg⟩ := XaMixerStory.exists_step XaMixerSteady
    (.start xaMixerSample fun _ => 0) (xaMixerStart ++
      [.command .mixer (.host 2 .emptyThisBuffer 0#16 2048#32 64#32),
        .command .mixer (.host 3 .fillThisBuffer xaMixerOutputPort 2048#32 4096#32)])
    (.process .mixer) (fun _ g' => ((g'.accepted 0).length,
      (xaMixedBytes g'.state.ext.plugin.frames 0).length))
    (b := (2048, 2048)) (by decide +kernel)
  obtain ⟨haccepted, hmixed⟩ := Prod.mk.inj hg
  exact ⟨g, g', hstep, haccepted, hmixed, xaMixer_mixes _ _ _ _ g g' hrun hstep⟩

/-- A track is paused while the mixer waits for the data of another one: its bytes are mixed into
the next frame, in which it should be silent, and into the frame after that. -/
theorem xaMixer_mixes_paused : ∃ g g', Relation.ReflTransGen (XaMixerStoryIf fun _ _ => True)
      (.start xaMixerSample fun _ => 0) g ∧ XaMixerStoryIf (fun _ _ => True) g g' ∧
    (¬ (xaMixedBytes g'.state.ext.plugin.frames 0).Sublist (g'.accepted 0)) ∧
    ¬ XaMixerSilent g.state g'.state := by
  obtain ⟨g, g', hrun, hstep, hg⟩ := XaMixerStory.exists_step (fun _ _ => True)
    (.start xaMixerSample fun _ => 0) (xaMixerStart ++
      [.command .mixer (.host 2 .emptyThisBuffer 0#16 2048#32 64#32),
        .command .mixer (.host 3 .emptyThisBuffer 1#16 4#32 64#32),
        .command .mixer (.host 4 .fillThisBuffer xaMixerOutputPort 2048#32 4096#32),
        .process .mixer,
        .command .mixer (.host 5 .emptyThisBuffer 1#16 8192#32 64#32),
        .command .mixer (.host 6 .pause 0#16 0#32 0#32),
        .process .mixer,
        .command .mixer (.host 7 .fillThisBuffer xaMixerOutputPort 2048#32 4096#32)])
    (.process .mixer) (fun g g' => ((g'.accepted 0).length,
      (xaMixedBytes g'.state.ext.plugin.frames 0).length, (g.state.ext.track 0).active,
      g.state.ext.plugin.frames.length,
      g'.state.ext.plugin.frames.map fun frame => (frame.mixed 0).length))
    (b := (2048, 4096, false, 1, [2048, 2048])) (by decide +kernel)
  simp only [Prod.mk.injEq] at hg
  obtain ⟨haccepted, hmixed, hidle, hone, hlengths⟩ := hg
  refine ⟨g, g', hrun, hstep, fun hsub => ?_, ?_⟩
  · have := hsub.length_le
    omega
  · rintro (hsame | ⟨frame, hnew, hsilent⟩)
    · have := congrArg List.length hlengths
      rw [hsame, List.length_map, hone] at this
      simp at this
    · rw [hnew, List.map_append, List.map_cons, List.map_nil, hsilent 0 hidle] at hlengths
      have := congrArg List.getLast? hlengths
      simp at this

end Hikey
