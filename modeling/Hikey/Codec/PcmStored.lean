import Hikey.Codec.PcmRun

/-!
# The counts that the PCM plugin has stored

Only a step that processes samples stores counts.  Up to the first such step of a run the plugin
answers with the zeros of its start, so that the condition on the steps without samples is met.
-/

namespace Hikey

open Prog

variable {s t : XaState XaPcmCodec} {env : XaEnv} {m : XfMessage} {P : U32 → U32 → U32 → Prop}
  {c p : U32}

/-- A condition on the counts that are stored and on the number of samples of the last step. -/
def XaPcmStored (P : U32 → U32 → U32 → Prop) (s : XaState XaPcmCodec) : Prop :=
  P s.ext.pcm.consumed s.ext.pcm.produced s.ext.samples

/-! ## Programs that store nothing -/

lemma keeps_xaPcmCodec_stored {α : Type} (x : XaCodecProg α) :
    Keeps (XaPcmStored P) (xaPcmCodec x) := by
  intro s hs
  rw [xaPcmCodec, wp_zoom]
  exact wp_mono wp_trivial (fun _ _ _ => hs) fun _ _ => hs

lemma keeps_xaPcmCall_stored {f : XaPcm → Option XaPcm}
    (hf : ∀ d d', f d = some d' → d'.consumed = d.consumed ∧ d'.produced = d.produced) :
    Keeps (XaPcmStored P) (xaPcmCall f) := by
  intro s hs
  refine wp_xaPcmCall (fun d hd => ?_) hs
  obtain ⟨hc, hp⟩ := hf _ d hd
  change P d.consumed d.produced s.ext.samples
  rw [hc, hp]
  exact hs

lemma keeps_xaPcmSetMemPtr_stored (idx ptr : U32) :
    Keeps (XaPcmStored P) (xaPcmCall fun d => xaPcmSetMemPtr d idx ptr) :=
  keeps_xaPcmCall_stored fun d d' hd => by
    rw [xaPcmSetMemPtr_spec hd]
    exact ⟨rfl, rfl⟩

lemma keepsResponse_stored (m : XfMessage) : KeepsResponse (XaPcmStored P) m :=
  fun _ _ _ _ _ hs => hs

lemma keeps_setupOutput_stored : Keeps (XaPcmStored P) (xaPcmSetupOutput env) := by
  refine Keeps.get.bind fun _ => Keeps.ite (fun _ => Keeps.ite (fun _ => Keeps.pure _) fun _ => ?_)
    fun _ => Keeps.pure _
  exact (keeps_xaPcmSetMemPtr_stored _ _).bind fun _ =>
    (keeps_xaPcmCodec_stored _).bind fun _ => Keeps.pure _

lemma keeps_filled_stored : Keeps (XaPcmStored P) (xaPcmFilled env) := by
  refine Keeps.get.bind fun _ => Keeps.ite (fun _ => Keeps.ite (fun _ => ?_) fun _ =>
    Keeps.ite (fun _ => Keeps.pure _) fun _ => Keeps.pure _) fun _ => keeps_xaPcmCodec_stored _
  exact (keeps_xaPcmSetMemPtr_stored _ _).bind fun _ => Keeps.pure _

lemma keeps_setupInput_stored : Keeps (XaPcmStored P) (xaPcmSetupInput env) := by
  refine Keeps.get.bind fun _ => Keeps.ite (fun _ => keeps_filled_stored.bind fun filled => ?_)
    fun _ => Keeps.pure _
  cases filled with
  | none => exact Keeps.pure _
  | some n =>
    refine Keeps.get.bind fun _ => Keeps.bind
      (Keeps.ite (fun _ => Keeps.modify fun _ hs => hs) fun _ => Keeps.pure _) fun _ => ?_
    refine Keeps.bind (keeps_xaPcmCall_stored fun d d' hd => ?_) fun _ =>
      (keeps_xaPcmCodec_stored _).bind fun _ => Keeps.pure _
    rw [(xaPcmSetInputBytes_spec hd).1]
    exact ⟨rfl, rfl⟩

lemma keeps_postprocess_stored {done : U32} :
    Keeps (XaPcmStored P) (xaPcmPostprocess env done) := by
  refine Keeps.bind ?_ fun _ => Keeps.get.bind fun _ => (keeps_xaPcmCodec_stored _).bind fun _ =>
    Keeps.get.bind fun _ => Keeps.ite (fun _ => Keeps.modify fun _ hs => hs) fun _ => Keeps.pure _
  refine Keeps.get.bind fun _ => (keeps_xaApi _ _).bind fun _ => Keeps.bind
    (Keeps.ite (fun _ => keeps_xaApi _ _) fun _ => Keeps.pure _) fun _ => ?_
  exact Keeps.modify fun _ hs => hs

lemma keeps_setParam_stored : Keeps (XaPcmStored P) (xaBaseSetParam xaPcmHooks env m) := by
  refine keeps_xaBaseSetParam (J := XaPcmStored P) (fun _ hs _ => hs) (fun _ hs => hs)
    (fun i => ?_) (fun _ hs => hs) (keepsResponse_stored m)
  have hptr (idx ptr : U32) : Keeps (XaPcmStored P) (xaSetMemPtr env idx ptr) :=
    Keeps.bind (Keeps.modify fun _ hs => hs) fun _ => (keeps_xaApi _ _).bind fun _ => Keeps.pure _
  refine (keeps_xaApi _ _).bind fun _ => (keeps_xaApi _ _).bind fun _ =>
    (keeps_xaApi _ _).bind fun _ => Keeps.ite (fun _ => ?_) fun _ => Keeps.ite (fun _ => ?_)
      fun _ => Keeps.ite (fun _ => keeps_xaPcmCodec_stored _) fun _ => Keeps.fail
  · exact (Keeps.check _).bind fun _ => (Keeps.check _).bind fun _ => hptr _ _
  · exact (Keeps.check _).bind fun _ => hptr _ _

/-- No command stores anything. -/
lemma keeps_command_stored : Keeps (XaPcmStored P) (xaBaseCommand xaPcmAudioCodec env m) := by
  have hpurged : Keeps (XaPcmStored P) xaPcmPurged := Keeps.modify fun _ hs => hs
  have hinit : Keeps (XaPcmStored P) (xaPcmModify xaPcmDoRuntimeInit) :=
    Keeps.modify fun _ hs => hs
  rw [xaBaseCommand, show xaPcmAudioCodec.command = xaPcmCmd from rfl]
  cases m.opcode with
  | setParam => exact keeps_setParam_stored
  | getParam =>
    exact keeps_xaBaseGetParam (fun _ _ => keeps_xaPcmCodec_stored _) (keepsResponse_stored m)
  | emptyThisBuffer =>
    refine Keeps.get.bind fun _ => (keeps_xaPcmCodec_stored _).bind fun _ => Keeps.get.bind fun _ =>
      Keeps.bind (Keeps.ite (fun _ => hinit) fun _ => Keeps.pure _) fun _ => ?_
    exact Keeps.ite (fun _ => Keeps.modify fun _ hs => hs) fun _ => Keeps.pure _
  | fillThisBuffer =>
    exact Keeps.get.bind fun _ => (keeps_xaPcmCodec_stored _).bind fun _ =>
      Keeps.ite (fun _ => hpurged) fun _ => Keeps.pure _
  | flush =>
    exact Keeps.get.bind fun _ => (keeps_xaPcmCodec_stored _).bind fun _ =>
      Keeps.ite (fun _ => hinit.bind fun _ => hpurged) fun _ => Keeps.pure _
  | route | unroute | setParamExt | getParamExt => exact keeps_xaPcmCodec_stored _
  | unregister | pause | resume | other => exact Keeps.fail

lemma keeps_dispatch_stored : Keeps (XaPcmStored P) (xfCoreDispatch xaPcmAudioCodec env m) := by
  refine Keeps.get.bind fun s => ?_
  cases s.phase with
  | running =>
    intro t ht
    rw [wp_orElse]
    exact wp_mono (keeps_command_stored t ht) (fun _ _ h => h) fun r hr =>
      keeps_xaPcmCodec_stored _ r hr
  | terminating =>
    exact (keeps_xaPcmCodec_stored _).bind fun _ =>
      Keeps.ite (fun _ => keeps_xaPcmCodec_stored _) fun _ => Keeps.pure _
  | destroyed => exact fun _ ht => ht

/-! ## Steps -/

/-- The counts of a step without samples. -/
def XaPcmSame (c p consumed produced samples : U32) : Prop :=
  samples = 0#32 → consumed = c ∧ produced = p

/-- The plugin stores counts only when it processes samples. -/
lemma wp_execute_stored (hs : XaPcmStored (fun c' p' _ => c' = c ∧ p' = p) s) :
    wp xaPcmExecute (fun _ => XaPcmStored (XaPcmSame c p)) (XaPcmStored (XaPcmSame c p)) s := by
  rw [xaPcmExecute, wp_bind, wp_get, wp_bind, wp_xaExtModify, wp_ite]
  refine ⟨fun _ _ => hs, fun hinit => ?_⟩
  rw [wp_ite]
  refine ⟨fun hexec => ?_, fun _ _ => hs⟩
  refine wp_xaPcmCall (fun d hd h0 => ?_) fun _ => hs
  -- the samples of the step are those that were set up
  have hinit : s.base.runtimeInit = false := by simpa using hinit
  have hsize : s.ext.pcm.insize = 0#32 := by simpa [hinit, hexec] using h0
  obtain ⟨hc, hp⟩ := (xaPcmDoExecute_spec hd).2.2.1 hsize
  exact ⟨hc.trans hs.1, hp.trans hs.2⟩

lemma wp_preprocess_stored (hs : XaPcmStored (fun c' p' _ => c' = c ∧ p' = p) s) :
    wp (xaPcmPreprocess env) (fun _ => XaPcmStored (XaPcmSame c p))
      (XaPcmStored (XaPcmSame c p)) s := by
  have hsame (t : XaState XaPcmCodec) (ht : XaPcmStored (fun c' p' _ => c' = c ∧ p' = p) t) :
      XaPcmStored (XaPcmSame c p) t := fun _ => ht
  rw [xaPcmPreprocess, wp_bind]
  refine wp_mono (keeps_setupOutput_stored s hs) (fun ok t ht => ?_) hsame
  rw [wp_ite, wp_bind]
  refine ⟨fun _ => ?_, fun _ => hsame t ht⟩
  refine wp_mono (keeps_setupInput_stored t ht) (fun ok' r hr => ?_) hsame
  rw [wp_ite, wp_bind]
  exact ⟨fun _ => wp_execute_stored hr, fun _ => hsame r hr⟩

lemma wp_process_stored (hs : XaPcmStored (fun c' p' _ => c' = c ∧ p' = p) s) :
    wp (xaBaseProcess xaPcmHooks env) (fun _ => XaPcmStored (XaPcmSame c p))
      (XaPcmStored (XaPcmSame c p)) s := by
  rw [xaBaseProcess, wp_bind, wp_xaBaseModify, wp_bind]
  refine wp_mono (wp_preprocess_stored hs) (fun ok t ht => ?_) fun _ h => h
  refine Keeps.ite (I := XaPcmStored (XaPcmSame c p)) (fun _ => Keeps.bind ?_ fun done =>
    keeps_postprocess_stored) (fun _ => Keeps.pure _) t ht
  have hbase (f : XaBaseState → XaBaseState) :
      Keeps (XaPcmStored (XaPcmSame c p)) (xaBaseModify f) := Keeps.modify fun _ h => h
  refine Keeps.get.bind fun _ => Keeps.ite (fun _ => ?_) fun _ => Keeps.ite (fun _ => ?_)
    fun _ => Keeps.pure _
  all_goals
    exact (keeps_xaApi _ _).bind fun _ => (keeps_xaApi _ _).bind fun _ =>
      Keeps.bind (Keeps.ite (fun _ => hbase _) fun _ => Keeps.pure _) fun _ => Keeps.pure _

/-- An event after which there are no samples leaves the counts that are stored as they are. -/
theorem xaStep_stored {e : XaEvent} (hstep : xaStep xaPcmAudioCodec s e = some t)
    (hsamples : t.ext.samples = 0#32) :
    t.ext.pcm.consumed = s.ext.pcm.consumed ∧ t.ext.pcm.produced = s.ext.pcm.produced := by
  have hs : XaPcmStored (fun c p _ => c = s.ext.pcm.consumed ∧ p = s.ext.pcm.produced) s :=
    ⟨rfl, rfl⟩
  replace hstep := xaStep_effect hstep
  cases hstep with
  | command hstep => exact Prog.after_of_wp (keeps_dispatch_stored s hs) hstep
  | deliver _ hstep =>
    refine Prog.after_of_wp (keeps_dispatch_stored
      (P := fun c p _ => c = s.ext.pcm.consumed ∧ p = s.ext.pcm.produced) _ ?_) hstep
    exact hs
  | process _ hstep =>
    have hsame : XaPcmStored (XaPcmSame s.ext.pcm.consumed s.ext.pcm.produced) t :=
      after_xfCoreProcess hstep fun _ => wp_process_stored hs
    exact hsame hsamples
  | idle hstep => exact hstep ▸ ⟨rfl, rfl⟩

/-! ## Runs -/

/-- An event after which there are no samples. -/
def XaPcmSilent (s : XaState XaPcmCodec) (e : XaEvent) : Prop :=
  ∀ t, xaStep xaPcmAudioCodec s e = some t → t.ext.samples = 0#32

/-- Up to the first step with samples, the counts that are stored are zero. -/
theorem xaPcmStored_of_silent {config : XaPcmConfig} {task : U32} {item : U32 → XfMessage}
    {core : XfCore}
    (hrun : XaRun xaPcmAudioCodec XaPcmSilent (xaPcmFactory config task item core) s) :
    s.ext.pcm.consumed = 0#32 ∧ s.ext.pcm.produced = 0#32 := by
  refine run_invariant (fun s => s.ext.pcm.consumed = 0#32 ∧ s.ext.pcm.produced = 0#32) ?_
    ⟨rfl, rfl⟩ hrun
  rintro s t ⟨hc, hp⟩ ⟨e, -, hsilent, hstep⟩
  obtain ⟨hc', hp'⟩ := xaStep_stored hstep (hsilent t hstep)
  exact ⟨hc'.trans hc, hp'.trans hp⟩

/-- Up to there, every event of the streams meets the condition on the steps without samples. -/
theorem xaPcmCounts_of_silent {config : XaPcmConfig} {task : U32} {item : U32 → XfMessage}
    {core : XfCore} {e : XaEvent}
    (hrun : XaRun xaPcmAudioCodec XaPcmSilent (xaPcmFactory config task item core) s)
    (he : XaPcmStream s e) : XaPcmCounts s e := by
  refine ⟨he, ?_⟩
  cases e with
  | process env => exact fun _ _ => xaPcmStored_of_silent hrun
  | command | deliver | sinkReturn | otherPut | otherCancel => trivial

end Hikey
