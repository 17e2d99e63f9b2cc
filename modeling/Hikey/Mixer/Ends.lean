import Hikey.Mixer.Tracks

/-!
# The end of a stream on a track

When the end of a stream is reached, the message without data is the only one in the input queue of
the track, and the next mixing step gives it back and returns the track to idle.  A step that fills
the port once more takes the end back instead: `xa_mixer_preprocess` fills the port of every active
track that is not set up.
-/

namespace Hikey

open Prog

variable {s s₀ t : XaState XaMixer} {env : XaEnv} {m : XfMessage} {F : List XaFrame}
  {ms : List XfMessage} {track : XaTrack} {i : Fin xaMixerMaxTrackNumber}

/-! ## The condition -/

/-- The port of the track is filled when the mixer gets to the track. -/
def XaMixer.fills (mixer : XaMixer) (i : Fin xaMixerMaxTrackNumber) : Bool :=
  (mixer.track i).active && !(mixer.track i).inputSetup &&
    !xfTimeAfter (mixer.track i).pts mixer.pts

/-- The loop of `xa_mixer_preprocess` fills a port in which the end of the stream has been reached:
it gets to the track since all ports before it are prefilled. -/
def XaMixer.refills (mixer : XaMixer) : List (Fin xaMixerMaxTrackNumber) → Prop
  | [] => False
  | i :: is =>
    if mixer.fills i then
      (mixer.track i).input.done = true ∨ ¬ (mixer.track i).input.short ∧ mixer.refills is
    else mixer.refills is

/-- A process step takes the end of a stream back. -/
def XaMixerRefills (s : XaState XaMixer) : Prop :=
  (s.ext.outputSetup = true ∨
    s.base.runtimeInit = false ∧ xfOutputPortData s.ext.output ≠ 0#32) ∧
    s.ext.refills (List.finRange xaMixerMaxTrackNumber)

/-- The condition on the events of a run: the plugin is that of the mixer, no process step takes the
end of a stream back, and no stream begins with a message that has data and no buffer. -/
def XaMixerForward (s : XaState XaMixer) (e : XaEvent) : Prop :=
  (∀ m ∈ e.message s, ¬ XaMixerNoBuffer s m) ∧
    match e with
    | .command env _ => env.IsMixerTable
    | .deliver env => env.IsMixerTable
    | .process env => XaMixerNext s → env.IsMixer ∧ ¬ XaMixerRefills s
    | _ => True

section Decidable

instance (mixer : XaMixer) : DecidablePred mixer.refills := fun is => by
  induction is with
  | nil => exact inferInstanceAs (Decidable False)
  | cons i is ih =>
    unfold XaMixer.refills
    infer_instance

instance (s : XaState XaMixer) (e : XaEvent) : Decidable (XaMixerForward s e) := by
  unfold XaMixerForward XaMixerNoBuffer XaMixerNext XaMixerRefills XaEnv.IsMixerTable
  match e with
  | .command .. | .deliver .. | .sinkReturn .. | .process .. | .otherPut .. | .otherCancel .. =>
    infer_instance

end Decidable

lemma refills_congr {mixer mixer' : XaMixer} {is : List (Fin xaMixerMaxTrackNumber)}
    (htrack : ∀ i ∈ is, mixer'.track i = mixer.track i) (hpts : mixer'.pts = mixer.pts) :
    mixer'.refills is ↔ mixer.refills is := by
  induction is with
  | nil => rfl
  | cons i is ih =>
    have hi := htrack i List.mem_cons_self
    have ih := ih fun j hj => htrack j (List.mem_cons_of_mem _ hj)
    have hfills : mixer'.fills i = mixer.fills i := by simp only [XaMixer.fills, hi, hpts]
    rw [XaMixer.refills, XaMixer.refills, hfills, hi]
    by_cases hf : mixer.fills i = true
    · rw [if_pos hf, if_pos hf, ih]
    · rw [if_neg hf, if_neg hf, ih]

/-! ## The set-up of the input -/

/-- The tracks of the list are those of `s₀`, and no port in which the end of the stream has been
reached is going to be filled. -/
structure XaTracksPending (s₀ : XaState XaMixer) (F : List XaFrame)
    (is : List (Fin xaMixerMaxTrackNumber)) (s : XaState XaMixer) : Prop where
  moved : XaTracksMoved s₀ F s
  same : ∀ i ∈ is, s.ext.track i = s₀.ext.track i
  forward : ¬ s.ext.refills is

variable {is : List (Fin xaMixerMaxTrackNumber)}

lemma tracksOnly_pending : XaMixerTracksOnly (XaTracksPending s₀ F is) := by
  rintro s t hsame ⟨hmoved, htrack, hforward⟩
  refine ⟨tracksOnly_moved s t hsame hmoved, fun i hi => ?_, ?_⟩
  · rw [hsame.track, htrack i hi]
  · rwa [refills_congr (fun i _ => by rw [hsame.track]) hsame.pts]

lemma XaTracksPending.setInputLength {d : Fin xaMixerMaxTrackNumber → U32}
    (h : XaTracksPending s₀ F is s) : XaTracksPending s₀ F is { s with
      ext := { s.ext with plugin := { s.ext.plugin with inputLength := d } } } :=
  ⟨h.moved.setInputLength, h.same, fun hrefills => h.forward (by
    refine (refills_congr ?_ ?_).mp hrefills
    · exact fun _ _ => rfl
    · rfl)⟩

/-- A track that is not in the list is changed. -/
lemma XaTracksPending.of_setTrack {core : XfCore} (hi : i ∉ is)
    (hmoved : XaTracksMoved s₀ F { s with ext := s.ext.setTrack i track, core := core })
    (hsame : ∀ j ∈ is, s.ext.track j = s₀.ext.track j) (hforward : ¬ s.ext.refills is) :
    XaTracksPending s₀ F is { s with ext := s.ext.setTrack i track, core := core } := by
  have hother (j : Fin xaMixerMaxTrackNumber) (hj : j ∈ is) :
      (s.ext.setTrack i track).track j = s.ext.track j := by
    have hne : j ≠ i := by
      rintro rfl
      exact hi hj
    simp [XaMixer.setTrack, hne]
  refine ⟨hmoved, fun j hj => (hother j hj).trans (hsame j hj), ?_⟩
  rwa [refills_congr hother rfl]

/-- The port of an active track is filled. -/
lemma XaTrackOk.fill (h : XaTrackOk track) (ms : List XfMessage) (hactive : track.active = true)
    (hdone : track.input.done = false) {mem : U32 → UInt8}
    {r : XfInputPort × List XfMessage × Bool} (hres : xfInputPortFill mem track.input = some r) :
    XaTrackOk { track with input := r.1 } ∧ XaTrackMoved track ms { track with input := r.1 } := by
  obtain ⟨hport, hle, hcreated, hlast⟩ := h.port.fill hdone hres
  refine ⟨⟨hport, h.active, h.paused, fun _ => .inl hactive, fun _ => .inr (.inl hactive),
    fun _ => ?_⟩, .inl ⟨hle, hlast⟩⟩
  rw [hcreated]
  exact h.created (.inr (.inl hactive))

lemma wp_setupTrack_ends (hi : i ∉ is) (hactive : (s.ext.track i).active = true)
    (hsetup : (s.ext.track i).inputSetup = false) (hs : XaTracksPending s₀ F (i :: is) s) :
    wp (xaMixerSetupTrack env i)
      (fun ok t => XaTracksMoved s₀ F t ∧ (ok = true → XaTracksPending s₀ F is t))
      (XaTracksMoved s₀ F) s := by
  obtain ⟨hmoved, hsame, hforward⟩ := hs
  have hsame' (j : Fin xaMixerMaxTrackNumber) (hj : j ∈ is) : s.ext.track j = s₀.ext.track j :=
    hsame j (List.mem_cons_of_mem _ hj)
  rw [XaMixer.refills] at hforward
  rw [xaMixerSetupTrack, wp_bind, wp_get, wp_ite]
  refine ⟨fun hafter => ?_, fun hafter => ?_⟩
  · -- the track is not due yet
    have hfills : s.ext.fills i = false := by simp [XaMixer.fills, hafter]
    rw [if_neg (by simp [hfills])] at hforward
    rw [wp_bind, xaTrackModify, wp_xaExtModify, wp_pure]
    have hset : XaTracksMoved s₀ F { s with
        ext := s.ext.setTrack i { s.ext.track i with inputSetup := true } } :=
      hmoved.setFields i rfl rfl rfl rfl
    exact ⟨hset, fun _ => XaTracksPending.of_setTrack hi hset hsame' hforward⟩
  · have hfills : s.ext.fills i = true := by simp [XaMixer.fills, hactive, hsetup, hafter]
    rw [if_pos hfills] at hforward
    obtain ⟨hdone, hrest⟩ := not_or.mp hforward
    rw [wp_bind, xaTrackInputFill, wp_xaTrackInput]
    rintro r hr
    obtain ⟨hok, hmove⟩ := (hmoved.ok.track i).fill [] hactive (by simpa using hdone) hr
    have hfilled := hmoved.setTrack (l := r.2.1) i hok (fun ms₀ _ => by
      rw [← hsame i List.mem_cons_self]
      exact hmove.mono fun _ h => by cases h) fun hpost => by
        have hq := hmoved.ok.initial hpost i
        simp only [xfInputPortFill, hq, if_true, Option.some.injEq] at hr
        rw [← hr]
        exact hq
    rw [wp_ite, wp_pure]
    refine ⟨fun hfull => ?_, fun _ => ⟨hfilled, fun h => by cases h⟩⟩
    have hforward' : ¬ s.ext.refills is := fun h => hrest ⟨fun hshort => by
      have := (hmoved.ok.track i).port.fill_short hshort hr
      simp [hfull] at this, h⟩
    have hpending := XaTracksPending.of_setTrack hi hfilled hsame' hforward'
    rw [wp_bind, wp_get, wp_bind]
    refine wp_mono (keeps_setInputBytes (fun _ _ h => h.setInputLength) _ _ hpending)
      (fun _ t ht => ?_)
      fun t ht => ht.moved
    rw [wp_bind, xaTrackModify, wp_xaExtModify, wp_pure]
    have hset : XaTracksMoved s₀ F { t with
        ext := t.ext.setTrack i { t.ext.track i with inputSetup := true } } :=
      ht.moved.setFields i rfl rfl rfl rfl
    exact ⟨hset, fun _ => XaTracksPending.of_setTrack hi hset ht.same ht.forward⟩

lemma wp_setupTracks_ends (hnodup : is.Nodup) (e : Bool) (hs : XaTracksPending s₀ F is s) :
    wp (xaMixerSetupTracks env is e) (fun _ => XaTracksMoved s₀ F) (XaTracksMoved s₀ F) s := by
  induction is generalizing s e with
  | nil => exact hs.moved
  | cons i is ih =>
    obtain ⟨hi, hnodup⟩ := List.nodup_cons.mp hnodup
    have hskip (hfills : s.ext.fills i = false) : XaTracksPending s₀ F is s := by
      refine ⟨hs.moved, fun j hj => hs.same j (List.mem_cons_of_mem _ hj), ?_⟩
      have := hs.forward
      rwa [XaMixer.refills, if_neg (by simp [hfills])] at this
    rw [xaMixerSetupTracks, wp_bind, wp_get, wp_ite, wp_ite]
    refine ⟨fun hidle => ih hnodup _ (hskip ?_), fun hactive => ⟨fun hsetup => ih hnodup _
      (hskip ?_), fun hsetup => ?_⟩⟩
    · simp [XaMixer.fills, show (s.ext.track i).active = false by simpa using hidle]
    · simp [XaMixer.fills, hsetup]
    · rw [wp_bind]
      refine wp_mono (wp_setupTrack_ends hi (by simpa using hactive) (by simpa using hsetup) hs)
        (fun ok t ht => ?_) fun _ h => h
      rw [wp_ite, wp_pure]
      exact ⟨fun hok => ih hnodup _ (ht.2 hok), fun _ => ht.1⟩

lemma wp_preprocess_ends (hnot : ¬ XaMixerRefills s) (hs : XaTracksMoved s₀ F s)
    (hsame : s.ext.track = s₀.ext.track) :
    wp (xaMixerPreprocess env) (fun _ => XaTracksMoved s₀ F) (XaTracksMoved s₀ F) s := by
  have hinput (t : XaState XaMixer)
      (ht : XaTracksPending s₀ F (List.finRange xaMixerMaxTrackNumber) t) :
      wp (xaMixerSetupInput env) (fun _ => XaTracksMoved s₀ F) (XaTracksMoved s₀ F) t := by
    rw [xaMixerSetupInput, wp_bind, wp_get, wp_bind]
    refine wp_mono (Keeps.ite (fun _ => tracksOnly_pending.keeps_output _) (fun _ => Keeps.pure _) t
      ht) (fun _ u hu => ?_) fun u hu => hu.moved
    exact wp_setupTracks_ends (List.nodup_finRange _) _ hu
  have hsame (i : Fin xaMixerMaxTrackNumber) (_ : i ∈ List.finRange xaMixerMaxTrackNumber) :
      s.ext.track i = s₀.ext.track i := by rw [hsame]
  rw [xaMixerPreprocess, wp_bind, wp_get, wp_ite, wp_ite, wp_ite, wp_pure, wp_pure]
  refine ⟨fun hset => hinput s ⟨hs, hsame, fun h => hnot ⟨.inl hset, h⟩⟩,
    fun _ => ⟨fun _ => hs, fun hinit => ⟨fun _ => hs, fun hdata => ?_⟩⟩⟩
  have hpending : XaTracksPending s₀ F (List.finRange xaMixerMaxTrackNumber) s :=
    ⟨hs, hsame, fun h => hnot ⟨.inr ⟨by simpa using hinit, hdata⟩, h⟩⟩
  rw [wp_bind]
  refine wp_mono (tracksOnly_pending.keeps_memPtr _ _ s hpending) (fun _ t ht => ?_)
    fun t ht => ht.moved
  rw [wp_bind]
  refine wp_mono (tracksOnly_pending.keeps_ext ?_ ?_ ?_ ?_ t ht) (fun _ u hu => hinput u hu)
    fun u hu => hu.moved
  · exact fun _ => rfl
  · exact fun _ => rfl
  · exact fun _ => rfl
  · exact fun _ => rfl

/-! ## The maintenance of the tracks -/

/-- An active track is the only one that differs from those of `s`. -/
structure XaTrackBusy (s₀ : XaState XaMixer) (F : List XaFrame) (s : XaState XaMixer)
    (i : Fin xaMixerMaxTrackNumber) (t : XaState XaMixer) : Prop where
  moved : XaTracksMoved s₀ F t
  active : (t.ext.track i).active = true
  others : ∀ j, j ≠ i → t.ext.track j = s.ext.track j

lemma others_setTrack (track : XaTrack) (h : ∀ j, j ≠ i → t.ext.track j = s.ext.track j)
    (j : Fin xaMixerMaxTrackNumber) (hj : j ≠ i) :
    (t.ext.setTrack i track).track j = s.ext.track j := by
  rw [← h j hj]
  simp [XaMixer.setTrack, hj]

/-- The internal buffer of an active track is consumed. -/
lemma XaTrackBusy.consume (h : XaTrackBusy s₀ F s i t) {n : U32}
    {r : XfInputPort × List XfMessage}
    (hres : xfInputPortConsume (t.ext.track i).input n = some r) : XaTrackBusy s₀ F s i { t with
      ext := t.ext.setTrack i { t.ext.track i with input := r.1 }
      core := r.2.foldl XfCore.complete t.core } := by
  have hok := h.moved.ok.track i
  have hcreated := hok.created (.inr (.inl h.active))
  obtain ⟨hport, -, hqueue, hstage, hcreated', -, -⟩ := hok.port.consume hcreated hres
  refine ⟨h.moved.setTrack i ⟨hport, hok.active, hok.paused, fun _ => .inl h.active,
    fun _ => .inr (.inl h.active), fun _ => hcreated'⟩ (fun ms₀ hms₀ => ?_) fun hpost => ?_, ?_,
    others_setTrack _ h.others⟩
  · have hsame : XaTrackMoved (s₀.ext.track i) ms₀ { t.ext.track i with input := r.1 } := by
      unfold XaTrackMoved at hms₀ ⊢
      simpa only [hstage, hqueue] using hms₀
    exact hsame.mono fun m hm => List.mem_append_left _ hm
  · exact hqueue.trans (h.moved.ok.initial hpost i)
  · simpa using h.active

/-- The track is active only when the end of the stream has not been reached. -/
lemma wp_finishTrack_ends (hs : XaTracksMoved s₀ F s) :
    wp (xaMixerFinishTrack env i) (fun _ t => XaTracksMoved s₀ F t ∧
      (∀ j, j ≠ i → t.ext.track j = s.ext.track j) ∧
      ((t.ext.track i).active = true → (t.ext.track i).input.done = false)) (fun _ => True) s := by
  rw [xaMixerFinishTrack, wp_bind, wp_get, wp_ite, wp_pure]
  refine ⟨fun hidle => ⟨hs, fun _ _ => rfl, fun hactive => ?_⟩, fun hactive => ?_⟩
  · simp [hactive] at hidle
  · rw [wp_bind, xaTrackModify, wp_xaExtModify, wp_bind]
    have hbusy : XaTrackBusy s₀ F s i { s with ext := s.ext.setTrack i { s.ext.track i with
        inputSetup := false, pts := (s.ext.track i).pts + s.ext.frameSize } } := by
      refine ⟨hs.setFields i rfl rfl rfl rfl, ?_, others_setTrack _ fun _ _ => rfl⟩
      simpa using hactive
    refine wp_mono (keeps_getCuridxInputBuf (fun _ _ h =>
      ⟨h.moved.setInputLength, h.active, h.others⟩) _ hbusy) (fun n t ht => ?_)
      fun _ _ => trivial
    rw [wp_bind, xaTrackInputConsume, wp_xaTrackInput]
    rintro r hr
    obtain ⟨⟨port, ms⟩, hconsume, rfl⟩ := Option.map_eq_some_iff.mp hr
    have hu := ht.consume hconsume
    generalize ({ t with
      ext := t.ext.setTrack i { t.ext.track i with input := port }
      core := ms.foldl XfCore.complete t.core } : XaState XaMixer) = u at hu
    rw [wp_bind, wp_get, wp_ite, wp_pure]
    refine ⟨fun _ => ?_, fun hdone => ⟨hu.moved, hu.others, fun _ => by simpa using hdone⟩⟩
    have hok := hu.moved.ok.track i
    obtain ⟨hidle, hpaused⟩ := hok.active hu.active
    rw [wp_bind, xaTrackInputPurge, wp_xaTrackInput]
    rintro r hr
    obtain rfl := Option.some_inj.mp hr
    rw [xaTrackModify, wp_xaExtModify]
    simp only [setTrack_track, setTrack_setTrack]
    refine ⟨hu.moved.setTrack i (hok.purge ?_ ?_ hpaused (hok.created (.inr (.inl hu.active))) rfl)
      (fun ms₀ h => h.purge hok ?_ rfl) (fun _ => hok.port.purge.2.1), others_setTrack _ hu.others,
      fun h => ?_⟩
    · simp [hidle]
    · simp [hu.active]
    · simp [hidle]
    · simp [hu.active] at h

lemma wp_finishTracks_ends (hs : XaTracksMoved s₀ F s) (hnodup : is.Nodup) :
    wp (xaMixerFinishTracks env is) (fun _ t => XaTracksMoved s₀ F t ∧
      (∀ j, j ∉ is → t.ext.track j = s.ext.track j) ∧
      ∀ j ∈ is, (t.ext.track j).active = true → (t.ext.track j).input.done = false)
      (fun _ => True) s := by
  induction is generalizing s with
  | nil => exact ⟨hs, fun _ _ => rfl, fun j hj => by cases hj⟩
  | cons i is ih =>
    obtain ⟨hi, hnodup⟩ := List.nodup_cons.mp hnodup
    rw [xaMixerFinishTracks, wp_bind]
    refine wp_mono (wp_finishTrack_ends hs) (fun _ t ht => ?_) fun _ h => h
    obtain ⟨hmoved, hothers, hdone⟩ := ht
    refine wp_mono (ih hmoved hnodup) (fun _ u hu => ?_) fun _ h => h
    obtain ⟨hmoved', hothers', hdone'⟩ := hu
    refine ⟨hmoved', fun j hj => ?_, fun j hj => ?_⟩
    · have hne : j ≠ i := by
        rintro rfl
        exact hj List.mem_cons_self
      rw [hothers' j fun h => hj (List.mem_cons_of_mem _ h), hothers j hne]
    · rcases List.mem_cons.mp hj with rfl | hj
      · rw [hothers' j hi]
        exact hdone
      · exact hdone' j hj

/-- The tracks that are active have not reached the end of their streams. -/
structure XaTracksReturned (s₀ s : XaState XaMixer) : Prop where
  moved : ∃ F, XaTracksMoved s₀ F s
  returned : ∀ i, (s.ext.track i).active = true → (s.ext.track i).input.done = false

lemma tracksOnly_returned : XaMixerTracksOnly (XaTracksReturned s₀) := by
  rintro s t hsame ⟨⟨F, hmoved⟩, hreturned⟩
  refine ⟨⟨F, tracksOnly_moved s t hsame hmoved⟩, ?_⟩
  rwa [hsame.track]

lemma keeps_finishOutput_ends : Keeps (XaTracksReturned s₀) (xaMixerFinishOutput env) := by
  refine keeps_finishOutput_of (Keeps.modify fun s hs => ?_)
    (fun _ => tracksOnly_returned.keeps_output _)
    (tracksOnly_returned.keeps_ext (fun _ => rfl) (fun _ => rfl) (fun _ => rfl) fun _ => rfl)
    tracksOnly_returned.keeps_schedule
  -- the presentation time of the mixer moves on
  obtain ⟨⟨F, hok, hmoved, hframes⟩, hreturned⟩ := hs
  exact ⟨⟨F, ⟨hok.track, hok.initial⟩, hmoved, hframes⟩, hreturned⟩

lemma wp_finish_ends (hmixer : env.IsMixer) (hs : XaTracksMoved s₀ F s) :
    wp (do
        xaMixerFinishTracks env (List.finRange xaMixerMaxTrackNumber)
        xaMixerFinishOutput env)
      (fun _ => XaTracksReturned s₀) (XaTracksReturned s₀) s := by
  rw [wp_bind]
  refine wp_mono (wp_and (wp_finishTracks_ends hs (List.nodup_finRange _))
    (wp_finishTracks_noError hmixer _)) (fun _ t ht => ?_) fun _ h => h.2.elim
  obtain ⟨⟨hmoved, -, hreturned⟩, -⟩ := ht
  exact keeps_finishOutput_ends t ⟨⟨F, hmoved⟩, fun i => hreturned i (List.mem_finRange i)⟩

/-- The message without data is completed once when the track of a stream that has ended is
maintained. -/
def XaTrackFinishes (env : XaEnv) (s : XaState XaMixer) (i : Fin xaMixerMaxTrackNumber) : Prop :=
  ∃ m, (s.ext.track i).input.queue = [m] ∧ m.length = 0#32 ∧
    wp (xaMixerFinishTrack env i) (fun _ t => t.core = s.core.complete m.ok ∧
      (t.ext.track i).idle = true ∧ (t.ext.track i).input.queue = []) (fun _ => False) s

lemma XaTrackOk.finishes (h : XaTrackOk (s.ext.track i)) (hmixer : env.IsMixer)
    (hactive : (s.ext.track i).active = true) (hdone : (s.ext.track i).input.done = true) :
    XaTrackFinishes env s i := by
  have hstage : (s.ext.track i).input.stage ≠ 0 := by simp [XfInputPort.stage, hdone]
  obtain ⟨queue, m, hqueue, hm, hnil⟩ := h.port.getLast hstage
  obtain rfl := hnil hdone
  obtain ⟨-, -, -, -, -, -, hfatal⟩ := hmixer
  refine ⟨m, hqueue, hm, ?_⟩
  rw [xaMixerFinishTrack, wp_bind, wp_get, wp_ite, wp_pure]
  refine ⟨fun hidle => by simp [hactive] at hidle, fun _ => ?_⟩
  rw [wp_bind, xaTrackModify, wp_xaExtModify, wp_bind, xaMixerGetCuridxInputBuf, wp_bind, wp_get,
    wp_bind, wp_xaApi]
  refine ⟨fun _ => ?_, fun hf => by simp [(hfatal i).2] at hf⟩
  rw [wp_bind, xaPluginModify, wp_xaExtModify, wp_pure, wp_bind, xaTrackInputConsume,
    wp_xaTrackInput]
  rintro r hr
  obtain ⟨⟨port, ms⟩, hconsume, rfl⟩ := Option.map_eq_some_iff.mp hr
  simp only [setTrack_track] at hconsume ⊢
  obtain ⟨hport, rfl, hqueue', -, -, -, hdone'⟩ :=
    h.port.consume (h.created (.inr (.inl hactive))) hconsume
  rw [wp_bind, wp_get, wp_ite, setTrack_track]
  refine ⟨fun _ => ?_, fun hnot => absurd (hdone'.trans hdone) hnot⟩
  rw [wp_bind, xaTrackInputPurge, wp_xaTrackInput]
  rintro r hr
  obtain rfl := Option.some_inj.mp hr
  obtain ⟨-, hnone, -, hms⟩ := hport.purge
  rw [xaTrackModify, wp_xaExtModify]
  simp only [setTrack_track]
  refine ⟨?_, ?_, hnone⟩
  · rw [hms, hqueue', hqueue]
    rfl
  · simp [(h.active hactive).1]

/-! ## Process steps -/

/-- After a step the tracks have moved on, and when a frame has been written, those that have
reached the end of their streams are no more active. -/
def XaTracksDone (s₀ s : XaState XaMixer) : Prop :=
  XaTracksMoved s₀ s₀.ext.plugin.frames s ∨ XaTracksReturned s₀ s

lemma wp_postprocess_ends (hmixer : env.IsMixer) (done : U32)
    (hs : XaTracksMoved s₀ s₀.ext.plugin.frames s) :
    wp (xaMixerHooks.postprocess env done) (fun _ => XaTracksDone s₀) (XaTracksDone s₀) s := by
  have hfinish {F : List XaFrame} {t : XaState XaMixer} (ht : XaTracksMoved s₀ F t) :
      wp (do
          xaMixerFinishTracks env (List.finRange xaMixerMaxTrackNumber)
          xaMixerFinishOutput env)
        (fun _ => XaTracksDone s₀) (XaTracksDone s₀) t :=
    wp_mono (wp_finish_ends hmixer ht) (fun _ u hu => .inr hu) fun u hu => .inr hu
  rw [xaMixerHooks, wp_bind, xaMixerExecuted, wp_bind, wp_get, wp_ite, wp_pure]
  refine ⟨fun hexec => ?_, fun _ => ?_⟩
  · -- a frame is written
    rw [xaMixerDoExecute, wp_bind, wp_get, xaPluginModify, wp_xaExtModify, xaMixerPostprocess,
      wp_bind, wp_get, if_neg (by simp [hexec.2])]
    obtain ⟨⟨htrack, hinit⟩, hmoved, -⟩ := hs
    exact hfinish ⟨⟨htrack, hinit⟩, hmoved, rfl⟩
  · rw [xaMixerPostprocess, wp_bind, wp_get, wp_ite]
    refine ⟨fun _ => ?_, fun _ => hfinish hs⟩
    exact wp_mono (tracksOnly_moved.keeps_prepareRuntime s hs) (fun _ u hu => .inl hu)
      fun u hu => .inl hu

lemma wp_process_ends (hmixer : env.IsMixer) (hnot : ¬ XaMixerRefills s) (hs : XaTracksOk s) :
    wp (xaBaseProcess xaMixerHooks env) (fun _ => XaTracksDone s) (XaTracksDone s) s := by
  have hs' : XaTracksMoved s s.ext.plugin.frames
      { s with base := { s.base with schedule := false } } :=
    tracksOnly_moved s _ ⟨rfl, rfl, rfl, rfl, rfl, [], rfl, rfl⟩ hs.moved
  rw [xaBaseProcess, wp_bind, wp_xaBaseModify, wp_bind]
  refine wp_mono (wp_preprocess_ends hnot hs' rfl) (fun ok t ht => ?_) fun t ht => .inl ht
  rw [wp_ite, wp_pure]
  refine ⟨fun _ => ?_, fun _ => .inl ht⟩
  rw [wp_bind]
  exact wp_mono (tracksOnly_moved.keeps_execute t ht)
    (fun done u hu => wp_postprocess_ends hmixer done hu)
    fun u hu => .inl hu

/-! ## Runs -/

/-- The tracks of a running mixer are good. -/
def XaTracksRunOk (s : XaState XaMixer) : Prop := s.phase = .running → XaTracksOk s

/-- What a step does to the end of the stream on a track, `ms` being the messages that it completes.
The end moves on, or the track returns to idle with an empty queue.  The message without data stays
the last one of the queue, and it is completed when the track returns to idle. -/
structure XaTrackEnds (s s' : XaState XaMixer) (ms : List XfMessage)
    (i : Fin xaMixerMaxTrackNumber) : Prop where
  forward : (s.ext.track i).input.stage ≤ (s'.ext.track i).input.stage ∨
    (s'.ext.track i).idle = true ∧ (s'.ext.track i).input.queue = []
  announced : (s'.ext.track i).input.eos = true →
    ∃ queue m, (s'.ext.track i).input.queue = queue ++ [m] ∧ m.length = 0#32
  reached : (s'.ext.track i).input.done = true →
    ((s'.ext.track i).active = true ∨ (s'.ext.track i).paused = true) ∧
      ∃ m, (s'.ext.track i).input.queue = [m] ∧ m.length = 0#32
  completed : (s.ext.track i).input.stage ≠ 0 →
    ∃ m, (s.ext.track i).input.queue.getLast? = some m ∧ m.length = 0#32 ∧
      ((s'.ext.track i).input.queue.getLast? = some m ∨
        (s'.ext.track i).idle = true ∧ (s'.ext.track i).input.queue = [] ∧ m.ok ∈ ms)
  returned : s'.ext.plugin.frames ≠ s.ext.plugin.frames →
    (s'.ext.track i).active = true → (s'.ext.track i).input.done = false

/-- What a step does to the ends of the streams on all tracks, and the messages that it completes;
some of the messages of the sink may have been returned. -/
def XaMixerStreamEnds (s s' : XaState XaMixer) : Prop :=
  ∃ sink ms, sink.Sublist s.core.sink ∧
    XfCore.Completes { s.core with sink := sink } ms s'.core ∧ ∀ i, XaTrackEnds s s' ms i

lemma XaTracksMoved.of_core {core : XfCore} (h : XaTracksMoved { s with core := core } F t)
    (hsink : core.sink = s.core.sink) (hproxy : core.proxy = s.core.proxy) :
    XaTracksMoved s F t := by
  obtain ⟨hok, ⟨ms, ⟨hms, hms'⟩, hmoved⟩, hframes⟩ := h
  refine ⟨hok, ⟨ms, ⟨?_, ?_⟩, hmoved⟩, hframes⟩
  · rw [hms, foldl_complete_sink, foldl_complete_sink, hsink]
  · rw [hms', foldl_complete_proxy, foldl_complete_proxy, hproxy]

lemma XaTracksDone.of_core {core : XfCore} (h : XaTracksDone { s with core := core } t)
    (hsink : core.sink = s.core.sink) (hproxy : core.proxy = s.core.proxy) : XaTracksDone s t := by
  rcases h with h | ⟨⟨F, hmoved⟩, hreturned⟩
  · exact .inl (h.of_core hsink hproxy)
  · exact .inr ⟨⟨F, hmoved.of_core hsink hproxy⟩, hreturned⟩

lemma XaTracksDone.ok (h : XaTracksDone s t) : XaTracksOk t := by
  rcases h with h | ⟨⟨F, hmoved⟩, -⟩
  · exact h.ok
  · exact hmoved.ok

/-- What has been shown of a step, for each track. -/
lemma XaTracksDone.streamEnds {sink : List XfMessage} (hsink : sink.Sublist s.core.sink)
    (hs : XaTracksOk s) (h : XaTracksDone { s with core := { s.core with sink := sink } } t) :
    XaMixerStreamEnds s t := by
  obtain ⟨F, hmoved, hreturned⟩ : ∃ F,
      XaTracksMoved { s with core := { s.core with sink := sink } } F t ∧
      (t.ext.plugin.frames ≠ s.ext.plugin.frames → ∀ i, (t.ext.track i).active = true →
        (t.ext.track i).input.done = false) := by
    rcases h with h | ⟨⟨F, hmoved⟩, hreturned⟩
    · exact ⟨_, h, fun hne => absurd h.frames hne⟩
    · exact ⟨F, hmoved, fun _ => hreturned⟩
  obtain ⟨hok, ⟨ms, hms, hmove⟩, -⟩ := hmoved
  refine ⟨sink, ms, hsink, hms, fun i => ⟨?_, fun heos => ?_, fun hdone => ?_,
    fun hstage => ?_, fun hne => hreturned hne i⟩⟩
  · rcases hmove i with ⟨hle, -⟩ | ⟨hidle, hqueue, -⟩
    · exact .inl hle
    · exact .inr ⟨hidle, hqueue⟩
  · have hstage : (t.ext.track i).input.stage ≠ 0 := by
      simp only [XfInputPort.stage, heos, if_true]
      split <;> decide
    obtain ⟨queue, m, hqueue, hm, -⟩ := (hok.track i).port.getLast hstage
    exact ⟨queue, m, hqueue, hm⟩
  · have hstage : (t.ext.track i).input.stage ≠ 0 := by simp [XfInputPort.stage, hdone]
    obtain ⟨queue, m, hqueue, hm, hnil⟩ := (hok.track i).port.getLast hstage
    obtain rfl := hnil hdone
    exact ⟨(hok.track i).queued (by simp [hqueue]), m, hqueue, hm⟩
  · obtain ⟨queue, m, hqueue, hm, -⟩ := (hs.track i).port.getLast hstage
    have hlast : (s.ext.track i).input.queue.getLast? = some m := by simp [hqueue]
    refine ⟨m, hlast, hm, ?_⟩
    rcases hmove i with ⟨-, hsame⟩ | ⟨hidle, hqueue', hcompleted⟩
    · exact .inl ((hsame hstage).trans hlast)
    · exact .inr ⟨hidle, hqueue', hcompleted hstage m hlast⟩

/-- A command moves the ends of the streams on, unless it takes the component down. -/
lemma wp_dispatch_ends (htable : env.IsMixerTable) (hnot : ¬ XaMixerNoBuffer s m)
    (hs : XaTracksRunOk s) : wp (xfCoreDispatch xaMixer env m)
      (fun _ t => t.phase = .running → s.phase = .running ∧ XaTracksDone s t)
      (fun t => t.phase = .running → s.phase = .running ∧ XaTracksDone s t) s := by
  refine wp_dispatch_of_command (E := fun _ => True) (fun hphase => ?_)
    (fun _ u _ hdown _ h => absurd h hdown) fun _ u hdown _ h => absurd h hdown
  exact wp_mono (wp_command_ends htable hphase hnot (hs hphase))
    (fun _ t ht _ => ⟨hphase, .inl ht⟩) fun _ h => h

lemma XaTracksOk.withCore (h : XaTracksOk s) (core : XfCore) : XaTracksOk { s with core := core } :=
  ⟨h.track, h.initial⟩

/-- Every event that meets the condition moves the ends of the streams on. -/
lemma XaTracksRunOk.step {e : XaEvent} (hs : XaTracksRunOk s) (hforward : XaMixerForward s e)
    (hstep : xaStep xaMixer s e = some t) (hphase : t.phase = .running) :
    XaTracksOk t ∧ XaMixerStreamEnds s t := by
  obtain ⟨hbuffer, hevent⟩ := hforward
  have hdone (h : t.phase = .running → s.phase = .running ∧ XaTracksDone s t) :
      XaTracksOk t ∧ XaMixerStreamEnds s t := by
    obtain ⟨hrunning, hdone⟩ := h hphase
    exact ⟨hdone.ok, hdone.streamEnds (List.Sublist.refl _) (hs hrunning)⟩
  replace hstep := xaStep_effect hstep
  cases hstep with
  | @command _ m hstep =>
    exact hdone (Prog.after_of_wp (I := fun t => t.phase = .running →
      s.phase = .running ∧ XaTracksDone s t) (wp_dispatch_ends hevent (hbuffer m rfl) hs) hstep)
  | @deliver _ m back hback hstep =>
    have hs' : XaTracksRunOk { s with core := { s.core with back := back } } :=
      fun h => (hs h).withCore _
    refine hdone fun hphase => ?_
    have := Prog.after_of_wp (I := fun t => t.phase = .running → s.phase = .running ∧
      XaTracksDone { s with core := { s.core with back := back } } t)
      (wp_dispatch_ends hevent ?_ hs') hstep hphase
    · exact ⟨this.1, this.2.of_core rfl rfl⟩
    · exact hbuffer m (by simp [XaEvent.message, hback])
  | @process _ sched hget hstep =>
    refine hdone fun hphase => ?_
    have := after_xfCoreProcess (I := fun t => s.phase = .running ∧
      XaTracksDone { s with core := { s.core with sched := sched } } t) hstep fun hrunning => ?_
    · exact ⟨this.1, this.2.of_core rfl rfl⟩
    · obtain ⟨hmixer, hnot⟩ := hevent ⟨hrunning, by simp [hget]⟩
      have hrunning : s.phase = .running := hrunning
      exact wp_mono (wp_process_ends hmixer hnot ((hs hrunning).withCore _))
        (fun _ t ht => ⟨hrunning, ht⟩) fun t ht => ⟨hrunning, ht⟩
  | @idle _ core hstep hmessage hsink hproxy =>
    subst hstep
    have hok : XaTracksOk s := hs hphase
    have hdone : XaTracksDone { s with core := { s.core with sink := core.sink } }
        { s with core := core } :=
      .inl ⟨hok.withCore core, ⟨[], ⟨rfl, hproxy⟩, fun _ => .refl _ _⟩, rfl⟩
    exact ⟨hdone.ok, hdone.streamEnds hsink hok⟩

lemma xaTrackOk_zero : XaTrackOk .zero := by
  refine ⟨.of_queue_nil ?_ ?_ rfl rfl rfl, ?_, ?_, ?_, ?_, ?_⟩ <;>
    simp [XaTrack.zero, XfInputPort.zero]

/-- In every run of a mixer in which no process step fills a port in which the end of the stream has
been reached, and no stream begins with data without a buffer, the ends of the streams only move on,
until the track returns to idle with the message without data completed; the next frame returns it
to idle. -/
theorem xaMixer_ends (task : U32) (item : U32 → XfMessage) (core : XfCore) (s s' : XaState XaMixer)
    (hrun : XaRun xaMixer XaMixerForward (xaMixerFactory task item core) s)
    (hstep : XaStepIf xaMixer XaMixerForward s s') (hphase : s'.phase = .running) :
    XaMixerStreamEnds s s' ∧ ∀ env i, XaEnv.IsMixer env → (s'.ext.track i).active = true →
      (s'.ext.track i).input.done = true → XaTrackFinishes env s' i := by
  have hinv : XaTracksRunOk s := by
    refine run_invariant XaTracksRunOk ?_ (fun _ => ⟨fun _ => xaTrackOk_zero, fun _ _ => rfl⟩) hrun
    rintro s t hs ⟨e, -, hforward, hstep⟩ hphase
    exact (hs.step hforward hstep hphase).1
  obtain ⟨e, -, hforward, hstep⟩ := hstep
  obtain ⟨hok, hends⟩ := hinv.step hforward hstep hphase
  exact ⟨hends, fun env i hmixer hactive hdone => (hok.track i).finishes hmixer hactive hdone⟩

/-- The end of a stream of 2048 bytes is reached in the second mixing step, which returns the track
to idle. -/
theorem xaMixer_ends_one : ∃ s s', XaStepIf xaMixer XaMixerForward s s' ∧
    (s.ext.track 0).input.stage = 1 ∧ (s'.ext.track 0).idle = true ∧ XaMixerStreamEnds s s' := by
  obtain ⟨s, s', hrun, hstep, hs⟩ := exists_step_of_xaRun xaMixer XaMixerForward
    xaMixerSample (xaMixerStart ++
      [.command .mixer (.host 2 .emptyThisBuffer 0#16 2048#32 64#32),
        .command .mixer (.host 3 .emptyThisBuffer 0#16 0#32 0#32),
        .command .mixer (.host 4 .fillThisBuffer xaMixerOutputPort 2048#32 4096#32),
        .process .mixer,
        .command .mixer (.host 5 .fillThisBuffer xaMixerOutputPort 2048#32 4096#32)])
    (.process .mixer) (fun s s' => ((s.ext.track 0).input.stage, (s'.ext.track 0).idle, s'.phase))
    (b := (1, true, .running)) (by decide +kernel)
  simp only [Prod.mk.injEq] at hs
  obtain ⟨hstage, hidle, hphase⟩ := hs
  exact ⟨s, s', hstep, hstage, hidle, (xaMixer_ends _ _ _ s s' hrun hstep hphase).1⟩

/-- The stream consists of a message without data and without a buffer: its end is reached at once,
and taken back by the next step. -/
theorem xaMixer_ends_refill : ∃ s s', XaRun xaMixer (fun _ _ => True) xaMixerSample s ∧
    XaStepIf xaMixer (fun _ _ => True) s s' ∧ s'.phase = .running ∧ ¬ XaMixerStreamEnds s s' := by
  obtain ⟨s, s', hrun, hstep, hs⟩ := exists_step_of_xaRun xaMixer (fun _ _ => True)
    xaMixerSample (xaMixerStart ++
      [.command .mixer (.host 2 .emptyThisBuffer 0#16 0#32 0#32),
        .command .mixer (.host 3 .fillThisBuffer xaMixerOutputPort 2048#32 4096#32)])
    (.process .mixer) (fun s s' => ((s.ext.track 0).input.stage, (s'.ext.track 0).input.stage,
      (s'.ext.track 0).idle, s'.phase))
    (b := (2, 1, false, .running)) (by decide +kernel)
  simp only [Prod.mk.injEq] at hs
  obtain ⟨hstage, hstage', hidle, hphase⟩ := hs
  refine ⟨s, s', hrun, hstep, hphase, ?_⟩
  rintro ⟨sink, ms, -, -, hends⟩
  rcases (hends 0).forward with hle | ⟨hnot, -⟩
  · omega
  · simp [hidle] at hnot

end Hikey
