import Hikey.Codec.Setup

/-!
# The output pointer in a run

The process step hands the pointer over, and gives the message away that it belongs to when
something has been produced.  It goes wrong where the stage of a codec ends: the run-time
initialization writes to scratch memory, and the end of a stream empties the output queue of a codec
that is not routed.
-/

namespace Hikey

open Prog

variable {s t : XaState XaCodec} {env : XaEnv} {m : XfMessage}

/-! ## The answers of the plugin -/

/-- The size of a sample, by the answers of the plugin. -/
def XaEnv.sampleSize (env : XaEnv) : U32 :=
  (env.api .getConfigParam 0x10000#32).value *
    (if (env.api .getConfigParam 0x10002#32).value = 16#32 then 2#32 else 4#32)

/-- The plugin answers what it is asked at the end of the run-time initialization. -/
def XaEnv.Prepared (env : XaEnv) (c : XaCodec) : Prop :=
  (env.api .getCuridxInputBuf c.inIdx).fatal = false ∧
  (c.sampleSize ≠ 0#32 → (env.api .getOutputBytes c.outIdx).fatal = false) ∧
  (env.api .getConfigParam 0x10001#32).fatal = false ∧
  (env.api .getConfigParam 0x10000#32).fatal = false ∧
  (env.api .getConfigParam 0x10002#32).fatal = false ∧
  (env.api .getMemInfoSize c.inIdx).fatal = false ∧
  (env.api .getMemInfoSize c.outIdx).fatal = false ∧
  (env.api .getMemInfoSize c.outIdx).value / env.sampleSize * env.sampleSize =
    (env.api .getMemInfoSize c.outIdx).value ∧
  xfTimebaseFactor (env.api .getConfigParam 0x10001#32).value ≠ 0#32

/-- The plugin, or the contents of the variable `done`, tell that the stage is done. -/
def XaEnv.stageDone (env : XaEnv) (base : XaBaseState) : U32 :=
  if base.execution then (env.api .doneQuery 0#32).value else env.done

lemma XaEnv.Prepared.congr {c c' : XaCodec} (h : env.Prepared c) (hin : c'.inIdx = c.inIdx)
    (hout : c'.outIdx = c.outIdx) (hsize : c'.sampleSize = c.sampleSize) : env.Prepared c' := by
  unfold XaEnv.Prepared
  rw [hin, hout, hsize]
  exact h

/-- The bytes that the plugin has produced. -/
def XaEnv.produced (env : XaEnv) (c : XaCodec) : U32 :=
  if c.sampleSize ≠ 0#32 then (env.api .getOutputBytes c.outIdx).value else 0#32

/-- A process step strands the output pointer: the run-time initialization ends with an error, or
the stream of a codec that is not routed ends without output. -/
def XaCodecStrands (env : XaEnv) (s : XaState XaCodec) : Prop :=
  if s.base.runtimeInit then (env.api .initDoneQuery 0#32).value ≠ 0#32 ∧ ¬ env.Prepared s.ext
  else s.ext.output.routed = false ∧ env.stageDone s.base ≠ 0#32 ∧ env.produced s.ext = 0#32

/-- The condition on the events of a run: the input and the output memory of the plugin have
different indices, no process step strands the output pointer, and no command drains the output
queue. -/
def XaCodecKeepsOutput (s : XaState XaCodec) (e : XaEvent) : Prop :=
  (∀ m ∈ e.message s, ¬ XaCodecDrains s m) ∧
    match e with
    | .process env => s.ext.inIdx ≠ s.ext.outIdx ∧ ¬ XaCodecStrands env s
    | _ => True

instance (env : XaEnv) (c : XaCodec) : Decidable (env.Prepared c) := by
  unfold XaEnv.Prepared
  infer_instance

instance (env : XaEnv) (s : XaState XaCodec) : Decidable (XaCodecStrands env s) := by
  unfold XaCodecStrands
  infer_instance

instance (s : XaState XaCodec) (e : XaEvent) : Decidable (XaCodecKeepsOutput s e) := by
  unfold XaCodecKeepsOutput
  match e with
  | .command .. | .deliver .. | .sinkReturn .. | .process .. | .otherPut .. | .otherCancel .. =>
    infer_instance

/-! ## The set-up -/

/-- What a set-up leaves as it is. -/
structure XaCodecPrepared (s t : XaState XaCodec) : Prop where
  base : t.base = s.base
  output : t.ext.output = s.ext.output
  inIdx : t.ext.inIdx = s.ext.inIdx
  outIdx : t.ext.outIdx = s.ext.outIdx
  sampleSize : t.ext.sampleSize = s.ext.sampleSize

lemma XaCodecPrepared.refl (s : XaState XaCodec) : XaCodecPrepared s s := ⟨rfl, rfl, rfl, rfl, rfl⟩

lemma wp_setupOutput_output (hs : XaOutputOk s) :
    wp (xaCodecSetupOutput env) (fun ok t => XaOutputOk t ∧ XaCodecPrepared s t ∧
      (ok = true → t.ext.outputSetup = true)) XaOutputOk s := by
  simp only [xaCodecSetupOutput, wp_bind, wp_get, wp_ite, wp_pure, wp_xaSetMemPtr, wp_xaExtModify,
    Bool.not_eq_true']
  refine ⟨fun hset => ⟨fun _ => ⟨hs, .refl s, by simp⟩, fun hdata => ⟨fun _ => ?_, fun _ => ?_⟩⟩,
    fun hset => ⟨hs, .refl s, fun _ => by simpa using hset⟩⟩
  · refine ⟨⟨⟨fun hpost => ?_, hs.staged.runtimeInit⟩, fun hinit _ => ?_⟩,
      ⟨rfl, rfl, rfl, rfl, rfl⟩, fun _ => by simp [hset]⟩
    · obtain ⟨hinit, -, -, hqueue⟩ := hs.staged.initial hpost
      simp [hinit, hqueue, xfOutputPortData] at hdata
    · -- the buffer of the first message
      have hinit : s.base.runtimeInit = false := hinit
      cases hqueue : s.ext.output.queue with
      | nil => simp [hinit, hqueue, xfOutputPortData] at hdata
      | cons m queue => exact ⟨m, queue, rfl, by simp [hinit, hqueue, xfOutputPortData]⟩
  · exact ⟨⟨hs.staged.initial, hs.staged.runtimeInit⟩, fun _ h => by simp [hset] at h⟩

/-- The set-up of the input does not touch the output pointer. -/
lemma keeps_setupInput_output (hidx : s.ext.inIdx ≠ s.ext.outIdx) :
    Keeps (fun t => XaOutputOk t ∧ XaCodecPrepared s t ∧ t.ext.outputSetup = true)
      (xaCodecSetupInput env) := by
  have hext (c : XaCodec → XaCodec) (hc : ∀ e, (c e).output = e.output)
      (hset : ∀ e, (c e).outputSetup = e.outputSetup) (hin : ∀ e, (c e).inIdx = e.inIdx)
      (hout : ∀ e, (c e).outIdx = e.outIdx) (hsize : ∀ e, (c e).sampleSize = e.sampleSize) :
      Keeps (fun t => XaOutputOk t ∧ XaCodecPrepared s t ∧ t.ext.outputSetup = true)
        (xaExtModify c) := by
    refine Keeps.modify fun t ht => ⟨ht.1.congr ⟨rfl, rfl, rfl, ?_, hset _, hout _, ?_⟩,
      ⟨ht.2.1.base, (hc _).trans ht.2.1.output, (hin _).trans ht.2.1.inIdx,
        (hout _).trans ht.2.1.outIdx, (hsize _).trans ht.2.1.sampleSize⟩, (hset _).trans ht.2.2⟩
    · simp only [hc]
    · simp only [hout]
  refine Keeps.get.bind fun _ => Keeps.ite (fun _ => Keeps.bind ?_ fun filled => ?_)
    fun _ => Keeps.pure _
  · intro t ht
    simp only [xaCodecFilled, wp_bind, wp_get, wp_ite, wp_pure, wp_xaSetMemPtr,
      wp_xaCodecInputFill]
    have hne : t.ext.outIdx ≠ t.ext.inIdx := by
      rw [ht.2.1.inIdx, ht.2.1.outIdx]
      exact hidx.symm
    have hptr (ptr : U32) : XaOutputOk { t with core := { t.core with
        memPtr := Function.update t.core.memPtr t.ext.inIdx ptr } } :=
      ht.1.congr ⟨rfl, rfl, rfl, rfl, rfl, rfl, by simp [Function.update_of_ne hne]⟩
    refine ⟨fun _ => ⟨fun _ => ⟨fun _ => ?_, fun _ => ?_⟩, fun _ => ⟨fun _ => ht, fun _ => ht⟩⟩,
      fun _ => ⟨fun _ => ht, fun _ input ms full _ => ?_⟩⟩
    · exact ⟨hptr _, ⟨ht.2.1.base, ht.2.1.output, ht.2.1.inIdx, ht.2.1.outIdx, ht.2.1.sampleSize⟩,
        ht.2.2⟩
    · exact ⟨hptr _, ⟨ht.2.1.base, ht.2.1.output, ht.2.1.inIdx, ht.2.1.outIdx, ht.2.1.sampleSize⟩,
        ht.2.2⟩
    · have hfill : XaOutputOk (t.withInput input ms) :=
        ht.1.congr ⟨rfl, rfl, rfl, rfl, rfl, rfl, by simp⟩
      exact ⟨fun _ => ⟨hfill, ⟨ht.2.1.base, ht.2.1.output, ht.2.1.inIdx, ht.2.1.outIdx,
        ht.2.1.sampleSize⟩, ht.2.2⟩, fun _ => ⟨hfill, ⟨ht.2.1.base, ht.2.1.output, ht.2.1.inIdx,
        ht.2.1.outIdx, ht.2.1.sampleSize⟩, ht.2.2⟩⟩
  · cases filled with
    | none => exact Keeps.pure _
    | some n =>
      refine Keeps.get.bind fun _ => Keeps.bind (Keeps.ite (fun _ => ?_) fun _ => Keeps.pure _)
        fun _ => (keeps_xaApi _ _).bind fun _ => Keeps.bind (hext _ (by intro; rfl) (by intro; rfl)
          (by intro; rfl) (by intro; rfl) (by intro; rfl)) fun _ => Keeps.pure _
      exact (keeps_xaApi _ _).bind fun _ => Keeps.pure _

/-- When the preprocessing has succeeded, the output is set up. -/
lemma wp_preprocess_output (hidx : s.ext.inIdx ≠ s.ext.outIdx) (hs : XaOutputOk s) :
    wp (xaCodecPreprocess env) (fun ok t => XaOutputOk t ∧
      (ok = true → XaCodecPrepared s t ∧ t.ext.outputSetup = true)) XaOutputOk s := by
  rw [xaCodecPreprocess, wp_bind]
  refine wp_mono (wp_setupOutput_output hs) (fun ok t ht => ?_) fun _ h => h
  rw [wp_ite]
  refine ⟨fun hok => ?_, fun _ => ⟨ht.1, fun h => by cases h⟩⟩
  exact wp_mono (keeps_setupInput_output hidx t ⟨ht.1, ht.2.1, ht.2.2 hok⟩)
    (fun _ u hu => ⟨hu.1, fun _ => hu.2⟩) fun _ hu => hu.1

/-! ## The end of a step -/

/-- While the run-time initialization goes on, nothing is asked of the output queue. -/
def XaOutputIniting (s : XaState XaCodec) : Prop :=
  s.base.postinit = true ∧ s.base.runtimeInit = true ∧ s.base.execution = false

lemma XaOutputIniting.ok (h : XaOutputIniting s) : XaOutputOk s :=
  XaOutputClear.ok ⟨h.1, fun _ => h.2.2, fun hnot => by simp [h.2.1] at hnot⟩

/-- What the postprocessing does to the stage and to the schedule flag. -/
lemma keeps_postprocess {K : XaState XaCodec → Prop} (done : U32)
    (hext : ∀ s ext core, K s → K { s with ext := ext, core := core })
    (hsched : ∀ s flag sched, K s → K { s with
      base := { s.base with schedule := flag }, core := { s.core with sched := sched } }) :
    Keeps K (xaCodecPostprocess env done) := by
  have hmodify (c : XaCodec → XaCodec) : Keeps K (xaExtModify c) :=
    Keeps.modify fun s hs => hext s _ s.core hs
  have hinput {α : Type} (g : XfInputPort → Option (XfInputPort × List XfMessage × α)) :
      Keeps K (xaCodecInput g) := keeps_xaCodecInput (fun s _ _ hs => hext s _ _ hs) g
  have houtput {α : Type}
      (g : XfOutputPort → Option (XfOutputPort × List XfMemEvent × List XfMessage × α)) :
      Keeps K (xaCodecOutput g) := keeps_xaCodecOutput (fun s _ _ _ hs => hext s _ _ hs) g
  have hprepare : Keeps K (xaCodecPrepareRuntime env) := by
    refine Keeps.get.bind fun _ => Keeps.bind
      (Keeps.ite (fun _ => Keeps.undefined) fun _ => Keeps.pure _) fun _ => ?_
    refine (keeps_xaApi _ _).bind fun _ => (keeps_xaApi _ _).bind fun _ =>
      (keeps_xaApi _ _).bind fun _ => (keeps_xaApi _ _).bind fun _ => (keeps_xaApi _ _).bind
        fun _ => (hmodify _).bind fun _ => ?_
    refine Keeps.bind (Keeps.ite (fun _ => Keeps.undefined) fun _ => Keeps.pure _) fun _ => ?_
    exact (Keeps.check _).bind fun _ => (Keeps.check _).bind fun _ =>
      (hmodify _).bind fun _ => houtput _
  refine Keeps.get.bind fun _ => (keeps_xaApi _ _).bind fun _ => Keeps.bind
    (Keeps.ite (fun _ => keeps_xaApi _ _) fun _ => Keeps.pure _) fun _ => ?_
  refine Keeps.bind (Keeps.ite (fun _ => (hinput _).bind fun _ => hmodify _)
    fun _ => Keeps.pure _) fun _ => ?_
  refine Keeps.bind (Keeps.ite (fun _ => (hmodify _).bind fun _ => (houtput _).bind
    fun _ => hmodify _) fun _ => Keeps.pure _) fun _ => Keeps.ite (fun _ => ?_) fun _ => ?_
  · refine Keeps.get.bind fun _ => Keeps.ite (fun _ => Keeps.pure _) fun _ => Keeps.ite
      (fun _ => hprepare.bind fun _ => hmodify _) fun _ => (houtput _).bind fun _ => ?_
    exact Keeps.ite (fun _ => hinput _) fun _ => Keeps.pure _
  · refine Keeps.get.bind fun _ => Keeps.ite (fun _ => ?_) fun _ => Keeps.pure _
    exact fun s hs => wp_xaBaseSchedule_of fun flag sched => hsched s flag sched hs

/-- On the right answers the run-time is prepared without an error. -/
lemma wp_prepareRuntime (h : env.Prepared s.ext) (hin : t.ext.inIdx = s.ext.inIdx)
    (hout : t.ext.outIdx = s.ext.outIdx) :
    wp (xaCodecPrepareRuntime env) (fun _ u => u.base = t.base) (fun _ => False) t := by
  obtain ⟨-, -, hrate, hchannels, hwidth, hsizeIn, hsizeOut, hframe, hfactor⟩ := h
  rw [XaEnv.sampleSize] at hframe
  simp only [xaCodecPrepareRuntime, wp_bind, wp_get, wp_ite, wp_pure, wp_update, wp_xaApi, wp_check,
    wp_xaExtModify, wp_xaCodecOutputProduce, hin, hout, hrate, hchannels, hwidth, hsizeIn, hsizeOut]
  simp [hframe, hfactor, -mul_ite]

/-- The end of the run-time initialization: the output is not set up any more. -/
lemma wp_postprocess_prepared (h : env.Prepared s.ext) (hpost : s.base.postinit = true)
    (hinit : s.base.runtimeInit = false) (hexec : s.base.execution = true) {done : U32}
    (hdone : done ≠ 0#32) :
    wp (xaCodecPostprocess env done) (fun _ => XaOutputOk) (fun _ => False) s := by
  obtain ⟨hconsumed, hproduced, -⟩ := id h
  -- consuming and producing keep the stage and the indices
  let W (t : XaState XaCodec) : Prop :=
    t.base = s.base ∧ t.ext.inIdx = s.ext.inIdx ∧ t.ext.outIdx = s.ext.outIdx
  simp only [xaCodecPostprocess, wp_bind (x := Prog.get), wp_get, wp_bind (x := xaApi _ _ _),
    wp_xaApi]
  refine ⟨fun _ => ?_, fun hfatal => by simp [hconsumed] at hfatal⟩
  rw [wp_bind]
  refine wp_mono (Q := fun _ => W) (E := fun _ => False) ?_ (fun produced t ht => ?_) fun _ h => h
  · rw [wp_ite, wp_xaApi, wp_pure]
    exact ⟨fun hsize =>
      ⟨fun _ => ⟨rfl, rfl, rfl⟩, fun hfatal => by simp [hproduced hsize] at hfatal⟩,
      fun _ => ⟨rfl, rfl, rfl⟩⟩
  rw [wp_bind]
  refine wp_mono (Q := fun _ => W) (E := fun _ => False) ?_ (fun _ t ht => ?_) fun _ h => h
  · simp only [wp_ite, wp_bind, wp_xaCodecInputConsume, wp_xaExtModify, wp_pure]
    exact ⟨fun _ _ _ _ => ht, fun _ => ht⟩
  rw [wp_bind]
  refine wp_mono (Q := fun _ => W) (E := fun _ => False) ?_ (fun _ t ht => ?_) fun _ h => h
  · simp only [wp_ite, wp_bind, wp_xaCodecOutputProduce, wp_xaExtModify, wp_pure]
    exact ⟨fun _ _ _ _ => ht, fun _ => ht⟩
  -- the stage is the execution by now
  obtain ⟨hbase, hin, hout⟩ := ht
  simp only [wp_ite, xaCodecStageDone, wp_bind, wp_get, hbase, hinit, hexec]
  refine ⟨fun _ => ⟨fun h => by simp at h, fun _ => ⟨fun _ => ?_, fun h => by simp at h⟩⟩,
    fun h => absurd hdone h⟩
  refine wp_mono (wp_prepareRuntime h hin hout) (fun _ u hu => ?_) fun _ h => h
  exact XaOutputClear.ok ⟨by simp [hu, hbase, hpost], fun h => by simp [hu, hbase, hinit] at h,
    fun _ => rfl⟩

/-- The end of a step outside of the run-time initialization, when the output has been set up. -/
lemma wp_postprocess_output (hs : XaOutputOk s) (hset : s.ext.outputSetup = true)
    (hinit : s.base.runtimeInit = false) {done : U32}
    (hdone : done ≠ 0#32 → s.base.execution = false ∧
      (env.produced s.ext = 0#32 → s.ext.output.routed = true)) :
    wp (xaCodecPostprocess env done) (fun _ => XaOutputOk) XaOutputOk s := by
  have hpost : s.base.postinit = true := by
    by_contra hnot
    obtain ⟨-, -, hclear, -⟩ := hs.staged.initial (by simpa using hnot)
    simp [hset] at hclear
  simp only [xaCodecPostprocess, wp_bind (x := Prog.get), wp_get, wp_bind (x := xaApi _ _ _),
    wp_xaApi]
  refine ⟨fun _ => ?_, fun _ => hs⟩
  rw [wp_bind]
  refine wp_mono (Q := fun a t => t = s ∧ a = env.produced s.ext) (E := XaOutputOk) ?_
    (fun produced t ht => ?_) fun _ h => h
  · rw [wp_ite, wp_xaApi, wp_pure]
    exact ⟨fun hsize => ⟨fun _ => ⟨rfl, by simp [XaEnv.produced, hsize]⟩, fun _ => hs⟩,
      fun hsize => ⟨rfl, by simp [XaEnv.produced, hsize]⟩⟩
  obtain ⟨rfl, rfl⟩ := ht
  -- the bytes consumed do not matter
  rw [wp_bind]
  refine wp_mono (Q := fun _ u => XaOutputOk u ∧ u.base = t.base ∧ u.ext.output = t.ext.output ∧
    u.ext.outputSetup = true) (E := XaOutputOk) ?_ (fun _ u hu => ?_) fun _ h => h
  · simp only [wp_ite, wp_bind, wp_xaCodecInputConsume, wp_xaExtModify, wp_pure]
    refine ⟨fun _ _ _ _ => ⟨hs.congr ⟨rfl, rfl, rfl, rfl, rfl, rfl, by simp⟩, ?_⟩,
      fun _ => ⟨hs, by simp [hset]⟩⟩
    simpa using hset
  obtain ⟨hu, hbase, houtput, hset'⟩ := hu
  have hupost : u.base.postinit = true := by rw [hbase, hpost]
  have huinit : u.base.runtimeInit = false := by rw [hbase, hinit]
  -- the message that is produced takes the set-up with it
  rw [wp_bind]
  refine wp_mono (Q := fun _ v => v.base = t.base ∧ XaOutputOk v ∧
    (done ≠ 0#32 → v.ext.output.routed = true ∨ v.ext.outputSetup = false)) (E := XaOutputOk) ?_
    (fun _ v hv => ?_) fun _ h => h
  · simp only [wp_ite, wp_bind, wp_xaCodecOutputProduce, wp_xaExtModify, wp_pure]
    refine ⟨fun _ output m _ => ⟨hbase, XaOutputClear.ok ⟨hupost, hu.staged.runtimeInit, ?_⟩, ?_⟩,
      fun hzero => ⟨hbase, hu, fun hne => .inl ?_⟩⟩
    · intro _
      simpa using hset'
    · intro _
      exact .inr (by simpa using hset')
    · rw [houtput]
      exact (hdone hne).2 (by simpa using hzero)
  obtain ⟨hvbase, hv, hvset⟩ := hv
  simp only [wp_ite, wp_bind (x := Prog.get), wp_get, wp_pure]
  refine ⟨fun hne => ?_, fun _ => ⟨fun _ => keeps_xaBaseSchedule_output _ v hv, fun _ => hv⟩⟩
  simp only [xaCodecStageDone, wp_bind (x := Prog.get), wp_get, wp_ite, hvbase, hinit,
    (hdone hne).1]
  refine ⟨fun h => by simp at h, fun _ => ⟨fun h => by simp at h, fun _ => ?_⟩⟩
  rw [wp_bind]
  refine wp_outputFlush_output (by rw [hvbase, hpost]) hv ((hvset hne).imp_right fun h _ => h) ?_
  intro ok w hw
  exact Keeps.ite (fun _ => keeps_input_output _) (fun _ => Keeps.pure _) w hw

/-! ## Runs -/

/-- A process step that does not strand the output pointer keeps it good. -/
lemma wp_process_output (hidx : s.ext.inIdx ≠ s.ext.outIdx) (hnot : ¬ XaCodecStrands env s)
    (hs : XaOutputOk s) :
    wp (xaBaseProcess xaCodecHooks env) (fun _ => XaOutputOk) XaOutputOk s := by
  rw [xaBaseProcess, wp_bind, wp_xaBaseModify, wp_bind]
  refine wp_mono (wp_preprocess_output hidx (hs.congr ⟨rfl, rfl, rfl, rfl, rfl, rfl, rfl⟩))
    (fun ok t ht => ?_) fun _ h => h
  rw [wp_ite]
  refine ⟨fun hok => ?_, fun _ => ht.1⟩
  obtain ⟨ht, hprepared, hset⟩ := And.imp_right (fun h => h hok) ht
  have hinit : t.base.runtimeInit = s.base.runtimeInit := by rw [hprepared.base]
  have hexec : t.base.execution = s.base.execution := by rw [hprepared.base]
  cases hrt : t.base.runtimeInit with
  | true =>
    have hstage : XaOutputIniting t := by
      refine ⟨?_, hrt, ht.staged.runtimeInit hrt⟩
      by_contra hpost
      simp [(ht.staged.initial (by simpa using hpost)).1] at hrt
    rw [XaCodecStrands, if_pos (by rw [← hinit, hrt])] at hnot
    simp only [xaBaseExecute, wp_bind, wp_get, wp_ite, hrt, wp_xaApi, wp_xaBaseModify, wp_pure]
    refine ⟨fun _ => ⟨fun _ => ⟨fun _ => ⟨fun hdone => ?_, fun _ => ?_⟩, fun _ => ht⟩,
      fun _ => ht⟩, fun h => absurd trivial h⟩
    · -- the run-time initialization ends
      have hprep : env.Prepared s.ext := by_contra fun h => hnot ⟨hdone, h⟩
      refine wp_mono (wp_postprocess_prepared (s := { t with
          base := { t.base with runtimeInit := !true, execution := !t.base.execution } })
        (hprep.congr hprepared.inIdx hprepared.outIdx hprepared.sampleSize) hstage.1 rfl ?_ hdone)
        (fun _ _ h => h) fun _ h => h.elim
      simp [hstage.2.2]
    · -- the run-time initialization goes on
      exact wp_mono (keeps_postprocess _ (fun _ _ _ h => h) (fun _ _ _ h => h) t hstage)
        (fun _ _ h => h.ok) fun _ h => h.ok
  | false =>
    rw [XaCodecStrands, if_neg (by simp [← hinit, hrt])] at hnot
    have hproduced : env.produced t.ext = env.produced s.ext := by
      rw [XaEnv.produced, XaEnv.produced, hprepared.sampleSize, hprepared.outIdx]
    have hrouted (h : env.stageDone s.base ≠ 0#32) (hzero : env.produced t.ext = 0#32) :
        t.ext.output.routed = true := by
      rw [hprepared.output]
      by_contra hne
      exact hnot ⟨by simpa using hne, h, hproduced ▸ hzero⟩
    simp only [xaBaseExecute, wp_bind, wp_get, wp_ite, hrt, wp_xaApi, wp_xaBaseModify, wp_pure]
    refine ⟨fun h => by simp at h, fun _ => ⟨fun hex => ⟨fun _ => ⟨fun _ => ⟨fun hdone => ?_,
      fun hdone => ?_⟩, fun _ => ht⟩, fun _ => ht⟩, fun hex => ?_⟩⟩
    · -- the stream ends
      refine wp_postprocess_output (s := { t with
          base := { t.base with
            runtimeInit := false, execution := !t.base.execution,
            completed := !t.base.completed } })
        ⟨⟨fun hpost => ?_, fun h => by simp at h⟩, fun _ => ht.setup hrt⟩ hset rfl
        fun _ => ⟨by simp [hex], fun hzero => ?_⟩
      · simp [(ht.staged.initial hpost).2.1] at hex
      · exact hrouted (by rwa [XaEnv.stageDone, if_pos (by rw [← hexec, hex])]) hzero
    · exact wp_postprocess_output ht hset hrt fun h => absurd h hdone
    · -- the codec has completed a stream before
      refine wp_postprocess_output ht hset hrt fun hdone => ⟨by simpa using hex, fun hzero => ?_⟩
      exact hrouted (by rwa [XaEnv.stageDone, if_neg (by rwa [← hexec])]) hzero

/-! ## The bytes that a step reports -/

/-- The state in which the step of a component begins when the scheduler has taken its task. -/
def XaState.dispatched {κ : Type} (s : XaState κ) (sched : XfSched) : XaState κ :=
  { s with
    base := { s.base with schedule := false }
    core := { s.core with sched := sched } }

/-- The plugin executes without a fatal error, and reports some bytes as produced. -/
def XaEnv.Reports (env : XaEnv) (r : XaState XaCodec) : Prop :=
  (r.base.execution = true →
    (env.api .doExecute 0#32).fatal = false ∧ (env.api .doneQuery 0#32).fatal = false) ∧
  (env.api .getCuridxInputBuf r.ext.inIdx).fatal = false ∧
  (env.api .getOutputBytes r.ext.outIdx).fatal = false ∧
  env.produced r.ext ≠ 0#32

/-- After the plugin has executed in the state `r`, the step completes the message `m` with the
bytes that are reported as produced.  The messages of the input that is used up are completed before
it, and those that the end of the stream gives away after it. -/
structure XaCodecDelivered (env : XaEnv) (done : U32) (r t : XaState XaCodec) (m : XfMessage)
    (queue before after : List XfMessage) : Prop where
  completes : r.core.Completes (before ++ m.withLength (env.produced r.ext) :: after) t.core
  before : before = [] ∨ ∃ input, xfInputPortConsume r.ext.input
    (env.api .getCuridxInputBuf r.ext.inIdx).value = some (input, before)
  after : done = 0#32 → after = [] ∧ t.ext.output.queue = queue

/-- In a step in which the plugin executes in a state `r` outside of the run-time initialization,
and reports some bytes, it has the buffer of the first output message, which is delivered with these
bytes. -/
def XaCodecDelivers (env : XaEnv) (s s' : XaState XaCodec) : Prop :=
  ∀ sched r, xfSchedGet s.core.sched = some (sched, some s.task) →
    xaCodecPreprocess env (s.dispatched sched) = .ok true r →
    r.base.runtimeInit = false → env.Reports r →
    ∃ m queue before after, s.ext.output.queue = m :: queue ∧
      r.core.memPtr r.ext.outIdx = m.buffer ∧
      XaCodecDelivered env (env.stageDone r.base) r s' m queue before after

/-- The end of a step gives the first output message away with the bytes that are reported. -/
lemma wp_postprocess_delivered {done : U32} {queue : List XfMessage}
    (hqueue : s.ext.output.queue = m :: queue) (hinit : s.base.runtimeInit = false)
    (hdone : done ≠ 0#32 → s.base.execution = false)
    (hconsumed : (env.api .getCuridxInputBuf s.ext.inIdx).fatal = false)
    (hbytes : (env.api .getOutputBytes s.ext.outIdx).fatal = false)
    (hproduced : env.produced s.ext ≠ 0#32) :
    wp (xaCodecPostprocess env done)
      (fun _ t => ∃ before after, XaCodecDelivered env done s t m queue before after)
      (fun _ => False) s := by
  have hsize : s.ext.sampleSize ≠ 0#32 := fun h => hproduced (by simp [XaEnv.produced, h])
  simp only [xaCodecPostprocess, wp_bind (x := Prog.get), wp_get, wp_bind (x := xaApi _ _ _),
    wp_xaApi, if_pos hsize]
  refine ⟨fun _ => ⟨fun _ => ?_, fun h => by simp [hbytes] at h⟩, fun h => by simp [hconsumed] at h⟩
  have hvalue : (env.api .getOutputBytes s.ext.outIdx).value = env.produced s.ext := by
    simp [XaEnv.produced, hsize]
  rw [hvalue, wp_bind]
  -- the input that is used up
  refine wp_mono (Q := fun _ u => u.base = s.base ∧ u.ext.output = s.ext.output ∧
    ∃ before, s.core.Completes before u.core ∧ (before = [] ∨ ∃ input, xfInputPortConsume
      s.ext.input (env.api .getCuridxInputBuf s.ext.inIdx).value = some (input, before)))
    (E := fun _ => False) ?_ (fun _ u hu => ?_) fun _ h => h
  · simp only [wp_ite, wp_bind, wp_xaCodecInputConsume, wp_xaExtModify, wp_pure]
    exact ⟨fun _ input ms hms => ⟨rfl, rfl, ms, ⟨rfl, rfl⟩, .inr ⟨input, hms⟩⟩,
      fun _ => ⟨trivial, trivial, [], ⟨rfl, rfl⟩, .inl rfl⟩⟩
  obtain ⟨hubase, huoutput, before, hbefore, hinput⟩ := hu
  -- the output that is produced
  rw [wp_bind]
  refine wp_mono (Q := fun _ v => v.base = s.base ∧ v.ext.output.queue = queue ∧
    s.core.Completes (before ++ [m.withLength (env.produced s.ext)]) v.core)
    (E := fun _ => False) ?_ (fun _ v hv => ?_) fun _ h => h
  · simp only [wp_ite, wp_bind, wp_xaCodecOutputProduce, wp_xaExtModify, wp_pure]
    refine ⟨fun _ output m' hproduce => ?_, fun h => absurd hproduced h⟩
    rw [xfOutputPortProduce, huoutput, hqueue] at hproduce
    obtain ⟨rfl, rfl⟩ := Prod.mk.inj (Option.some_inj.mp hproduce)
    exact ⟨hubase, rfl, hbefore.trans ⟨by simp, by simp⟩⟩
  obtain ⟨hvbase, hvqueue, hv⟩ := hv
  rw [wp_ite]
  refine ⟨fun hne => ?_, fun hzero => ?_⟩
  · -- the stream ends
    have hend (t : XaState XaCodec) (after : List XfMessage) (h : v.core.Completes after t.core) :
        ∃ before after, XaCodecDelivered env done s t m queue before after :=
      ⟨before, after, by simpa using hv.trans h, hinput, fun h => absurd h hne⟩
    simp only [xaCodecStageDone, wp_bind, wp_get, wp_ite, hvbase, hinit, hdone hne, wp_pure,
      wp_xaCodecOutputFlush, wp_xaCodecInputPurge]
    refine ⟨fun h => by simp at h, fun _ => ⟨fun h => by simp at h, fun _ => ⟨fun _ => ?_,
      fun _ => ?_⟩⟩⟩
    · exact hend _ ((xfOutputPortFlush v.ext.output .fillThisBuffer).2.1 ++
        (xfInputPortPurge v.ext.input).2) ⟨by simp, by simp⟩
    · exact hend _ (xfOutputPortFlush v.ext.output .fillThisBuffer).2.1 ⟨by simp, by simp⟩
  · have hstay (t : XaState XaCodec) (hsink : t.core.sink = v.core.sink)
        (hproxy : t.core.proxy = v.core.proxy) (hout : t.ext.output = v.ext.output) :
        ∃ before after, XaCodecDelivered env done s t m queue before after :=
      ⟨before, [], ⟨hsink.trans hv.1, hproxy.trans hv.2⟩, hinput,
        fun _ => ⟨rfl, by rw [hout, hvqueue]⟩⟩
    rw [wp_bind, wp_get, wp_ite]
    exact ⟨fun _ => wp_xaBaseSchedule_of fun _ _ => hstay _ rfl rfl rfl,
      fun _ => hstay _ rfl rfl rfl⟩

/-- A step that does not strand the output pointer delivers the bytes that are reported as produced.
-/
lemma wp_process_delivers {r : XaState XaCodec} (hidx : s.ext.inIdx ≠ s.ext.outIdx)
    (hs : XaOutputOk s)
    (hr : xaCodecPreprocess env { s with base := { s.base with schedule := false } } = .ok true r)
    (hinit : r.base.runtimeInit = false) (hreports : env.Reports r) :
    wp (xaBaseProcess xaCodecHooks env) (fun _ t => ∃ m queue before after,
        s.ext.output.queue = m :: queue ∧ r.core.memPtr r.ext.outIdx = m.buffer ∧
        XaCodecDelivered env (env.stageDone r.base) r t m queue before after)
      (fun _ => False) s := by
  have hpre : wp (xaCodecPreprocess env) _ _
      { s with base := { s.base with schedule := false } } :=
    wp_preprocess_output hidx (hs.congr ⟨rfl, rfl, rfl, rfl, rfl, rfl, rfl⟩)
  rw [wp, hr] at hpre
  obtain ⟨hrok, hprepared⟩ := hpre
  obtain ⟨hprepared, hset⟩ := hprepared rfl
  obtain ⟨m, queue, hqueue, hptr⟩ := hrok.setup hinit hset
  have hsqueue : s.ext.output.queue = m :: queue := by rw [← hqueue, hprepared.output]
  obtain ⟨hexecute, hconsumed, hbytes, hproduced⟩ := hreports
  have hpost (base : XaBaseState) (done : U32) (hbase : base.runtimeInit = false)
      (hdone : done ≠ 0#32 → base.execution = false) (hstage : env.stageDone r.base = done) :
      wp (xaCodecPostprocess env done) (fun _ t => ∃ m queue before after,
        s.ext.output.queue = m :: queue ∧ r.core.memPtr r.ext.outIdx = m.buffer ∧
        XaCodecDelivered env (env.stageDone r.base) r t m queue before after)
        (fun _ => False) { r with base := base } := by
    rw [hstage]
    refine wp_mono (wp_postprocess_delivered (s := { r with base := base }) hqueue hbase hdone
      hconsumed hbytes hproduced) (fun _ t ht => ?_) fun _ h => h
    obtain ⟨before, after, hcompletes, hbefore, hafter⟩ := ht
    exact ⟨m, queue, before, after, hsqueue, hptr, hcompletes, hbefore, hafter⟩
  rw [xaBaseProcess, wp_bind, wp_xaBaseModify, wp_bind]
  change wp (xaCodecPreprocess env) _ _ _
  rw [wp, hr]
  simp only [wp_ite, wp_bind, xaBaseExecute, wp_get, hinit, wp_xaApi, wp_xaBaseModify, wp_pure]
  refine ⟨fun _ => ⟨fun h => by simp at h, fun _ => ⟨fun hexec => ?_, fun hexec => ?_⟩⟩,
    fun h => by simp at h⟩
  · obtain ⟨hdo, hquery⟩ := hexecute hexec
    refine ⟨fun _ => ⟨fun _ => ⟨fun _ => ?_, fun hzero => ?_⟩, fun h => by simp [hquery] at h⟩,
      fun h => by simp [hdo] at h⟩
    · exact hpost _ _ rfl (fun _ => by simp [hexec]) (by rw [XaEnv.stageDone, if_pos hexec])
    · exact hpost r.base _ hinit (fun h => absurd h hzero) (by rw [XaEnv.stageDone, if_pos hexec])
  · exact hpost r.base _ hinit (fun _ => by simpa using hexec)
      (by rw [XaEnv.stageDone, if_neg hexec])

/-! ## Every event -/

/-- The output pointer of a running codec is good. -/
def XaOutputRunOk (s : XaState XaCodec) : Prop := s.phase = .running → XaOutputOk s

/-- The cleanup takes the component down. -/
lemma wp_cleanup_phase : wp (xaAudioCodecCleanup m) (fun _ t => t.phase ≠ .running)
    (fun _ => False) s := by
  simp only [xaAudioCodecCleanup, xaAudioCodecDestroy, wp_bind, wp_xfResponse]
  refine wp_xaBaseCancel_of fun flag sched => ?_
  simp only [wp_xaCodecInputPurge, wp_xaCodecOutputFlush, wp_ite, wp_bind, wp_xaExtModify,
    wp_xaCodecOutputDestroy, wp_xaBaseDestroy, wp_modify]
  exact ⟨fun _ _ _ _ => by simp, fun _ => by simp⟩

/-- A component that is not running does not run again. -/
lemma keeps_destroy_phase : Keeps (fun t => t.phase ≠ .running) xaAudioCodecDestroy :=
  Keeps.bind (Keeps.modify fun _ hs => hs) fun _ =>
    (keeps_xaCodecOutput (fun _ _ _ _ hs => hs) _).bind fun _ => Keeps.modify fun _ _ => by simp

lemma keeps_terminate_phase : Keeps (fun t => t.phase ≠ .running) (xaAudioCodecTerminate m) := by
  refine Keeps.get.bind fun _ => Keeps.ite (fun _ => ?_) fun _ => Keeps.ite (fun _ => Keeps.pure _)
    fun _ => Keeps.ite (fun _ => Keeps.pure _) fun _ => ?_
  · exact (keeps_xaCodecOutput (fun _ _ _ _ hs => hs) _).bind fun _ => Keeps.pure _
  · exact Keeps.bind (Keeps.modify fun _ hs => hs) fun _ => Keeps.pure _

lemma wp_dispatch_output (hnot : ¬ XaCodecDrains s m) (hs : XaOutputRunOk s) :
    wp (xfCoreDispatch xaAudioCodec env m) (fun _ => XaOutputRunOk) XaOutputRunOk s := by
  have hdown (t : XaState XaCodec) (ht : t.phase ≠ .running) : XaOutputRunOk t :=
    fun h => absurd h ht
  rw [xfCoreDispatch, wp_bind, wp_get]
  cases hphase : s.phase with
  | running =>
    rw [wp_orElse]
    refine wp_mono (wp_command_output hphase hnot (hs hphase)) (fun _ t ht _ => ht) fun t _ => ?_
    exact wp_mono wp_cleanup_phase (fun _ u hu => hdown u hu) fun _ h => h.elim
  | terminating =>
    refine wp_mono (Keeps.bind keeps_terminate_phase (fun destroy => ?_) s (by simp [hphase]))
      (fun _ t ht => hdown t ht) fun t ht => hdown t ht
    exact Keeps.ite (fun _ => keeps_destroy_phase) fun _ => Keeps.pure _
  | destroyed => exact hdown _ (by simp [hphase])

lemma XaOutputRunOk.core (h : XaOutputRunOk s) {core : XfCore}
    (hptr : core.memPtr = s.core.memPtr) : XaOutputRunOk { s with core := core } :=
  fun hphase => (h hphase).congr ⟨rfl, rfl, rfl, rfl, rfl, rfl, by rw [hptr]⟩

/-- Every event that meets the condition keeps the output pointer good. -/
lemma XaOutputRunOk.step {e : XaEvent} (hs : XaOutputRunOk s) (hkeeps : XaCodecKeepsOutput s e)
    (hstep : xaStep xaAudioCodec s e = some t) : XaOutputRunOk t := by
  obtain ⟨hdrains, hevent⟩ := hkeeps
  replace hstep := xaStep_effect hstep
  cases hstep with
  | @command _ m hstep => exact Prog.after_of_wp (wp_dispatch_output (hdrains m rfl) hs) hstep
  | @deliver _ m _ hback hstep =>
    refine Prog.after_of_wp (wp_dispatch_output ?_ ?_) hstep
    · exact hdrains m (by simp [XaEvent.message, hback])
    · exact hs.core rfl
  | @process _ sched _ hstep =>
    have hs' : XaOutputRunOk { s with core := { s.core with sched := sched } } := hs.core rfl
    exact fun _ => after_xfCoreProcess hstep fun hphase =>
      wp_process_output hevent.1 hevent.2 (hs' hphase)
  | idle hstep hmessage hsink hproxy hptr => exact hstep ▸ hs.core hptr

/-- A process step delivers what the plugin produces to the buffer that it has been given. -/
lemma XaOutputOk.delivers (hs : XaOutputOk s) (hidx : s.ext.inIdx ≠ s.ext.outIdx)
    (hstep : xaStep xaAudioCodec s (.process env) = some t) :
    XaCodecDelivers env s t := by
  intro sched r hsched hr hinit hreports
  simp only [xaStep, hsched, if_pos] at hstep
  have hs' : XaOutputOk { s with core := { s.core with sched := sched } } :=
    hs.congr ⟨rfl, rfl, rfl, rfl, rfl, rfl, rfl⟩
  refine after_xfCoreProcess (I := fun u => ∃ m queue before after,
    s.ext.output.queue = m :: queue ∧ r.core.memPtr r.ext.outIdx = m.buffer ∧
    XaCodecDelivered env (env.stageDone r.base) r u m queue before after) hstep fun _ => ?_
  exact wp_mono (wp_process_delivers hidx hs' hr hinit hreports) (fun _ _ h => h) fun _ h => h.elim

/-- In every run of a codec in which no process step strands the output pointer and no command
drains the output queue, the plugin has the buffer of the first output message whenever the output
of the running component is set up outside of the run-time initialization, and the bytes that a
process step reports as produced are delivered in the message whose buffer has been written. -/
theorem xaAudioCodec_outputSetup (task : U32) (item : U32 → XfMessage) (core : XfCore)
    (s : XaState XaCodec)
    (hrun : XaRun xaAudioCodec XaCodecKeepsOutput (xaAudioCodecFactory task item core) s)
    (hrunning : s.phase = .running) :
    (s.base.runtimeInit = false → s.ext.outputSetup = true →
      ∃ m queue, s.ext.output.queue = m :: queue ∧ s.core.memPtr s.ext.outIdx = m.buffer) ∧
    ∀ env s', XaCodecKeepsOutput s (.process env) →
      xaStep xaAudioCodec s (.process env) = some s' → XaCodecDelivers env s s' := by
  have hinv : XaOutputRunOk s := by
    refine run_invariant XaOutputRunOk ?_ (fun _ => ⟨⟨fun _ => ⟨rfl, rfl, rfl, rfl⟩, ?_⟩, ?_⟩) hrun
    · rintro s s' hs ⟨e, -, hkeeps, hstep⟩
      exact hs.step hkeeps hstep
    · exact fun h => by cases h
    · exact fun _ h => by cases h
  have hok := hinv hrunning
  exact ⟨hok.setup, fun env s' hkeeps hstep => hok.delivers hkeeps.2.1 hstep⟩

/-- The environment of a plugin that is not done with the stream after a step. -/
def XaEnv.ongoing : XaEnv :=
  { XaEnv.oneStep with
    api := fun cmd idx => if cmd = .doneQuery then ⟨false, 0#32⟩ else XaApiCmd.oneStep cmd idx }

/-- The environment of a plugin that produces 4 bytes in a step. -/
def XaEnv.producing : XaEnv :=
  { XaEnv.ongoing with
    api := fun cmd idx => if cmd = .getOutputBytes then ⟨false, 4#32⟩
    else XaEnv.ongoing.api cmd idx }

/-- A codec that has been given a buffer for its output. -/
def xaOutputGiven : List XaEvent :=
  [.command .ongoing (.host 0 .setParam 0#16 0#32 0#32),
    .command .ongoing (.host 1 .emptyThisBuffer 0#16 4#32 64#32),
    .command .ongoing (.host 2 .fillThisBuffer 1#16 20#32 128#32),
    .process .ongoing,
    .command .ongoing (.host 3 .fillThisBuffer 1#16 4#32 192#32),
    .process .ongoing]

/-- The plugin has the buffer at address 192, and in a further step it produces 4 bytes, which the
host receives in the message with this buffer. -/
theorem xaAudioCodec_outputSetup_given :
    ∃ s s', XaRun xaAudioCodec XaCodecKeepsOutput xaAudioCodecSample s ∧
      s.core.memPtr s.ext.outIdx = 192#32 ∧
      (∃ m queue, s.ext.output.queue = m :: queue ∧ s.core.memPtr s.ext.outIdx = m.buffer) ∧
      (s'.core.proxy.getLast?.map fun m => (m.buffer, m.length)) = some (192#32, 4#32) ∧
      XaCodecDelivers .producing s s' := by
  obtain ⟨s, hrun, hs⟩ := exists_of_xaRun xaAudioCodec XaCodecKeepsOutput xaAudioCodecSample
    (xaOutputGiven ++ [.command .ongoing (.host 4 .emptyThisBuffer 0#16 4#32 64#32)])
    (fun s => (s.phase, s.base.runtimeInit, s.ext.outputSetup, s.core.memPtr s.ext.outIdx,
      decide (XaCodecKeepsOutput s (.process .producing)),
      decide ((xaStep xaAudioCodec s (.process .producing)).map (fun s' =>
        s'.core.proxy.getLast?.map fun m => (m.buffer, m.length)) = some (some (192#32, 4#32)))))
    (b := (.running, false, true, 192#32, true, true)) (by decide +kernel)
  obtain ⟨hphase, hinit, hset, hptr, hkeeps, hstep⟩ : s.phase = .running ∧
      s.base.runtimeInit = false ∧ s.ext.outputSetup = true ∧
      s.core.memPtr s.ext.outIdx = 192#32 ∧ XaCodecKeepsOutput s (.process .producing) ∧
      (xaStep xaAudioCodec s (.process .producing)).map (fun s' =>
        s'.core.proxy.getLast?.map fun m => (m.buffer, m.length)) =
        some (some (192#32, 4#32)) := by simpa using hs
  obtain ⟨s', hs', hlast⟩ := Option.map_eq_some_iff.mp hstep
  obtain ⟨hsetup, hdelivers⟩ := xaAudioCodec_outputSetup _ _ _ s hrun hphase
  exact ⟨s, s', hrun, hptr, hsetup hinit hset, hlast, hdelivers _ s' hkeeps hs'⟩

/-- The input is flushed, which returns that buffer to the host, and the host sends another one: the
plugin still has the old one. -/
theorem xaAudioCodec_outputSetup_flush :
    ∃ s, XaRun xaAudioCodec (fun _ _ => True) xaAudioCodecSample s ∧ s.phase = .running ∧
      s.base.runtimeInit = false ∧ s.ext.outputSetup = true ∧
      ¬ ∃ m queue, s.ext.output.queue = m :: queue ∧ s.core.memPtr s.ext.outIdx = m.buffer := by
  obtain ⟨s, hrun, hs⟩ := exists_of_xaRun xaAudioCodec (fun _ _ => True) xaAudioCodecSample
    (xaOutputGiven ++ [.command .ongoing (.host 4 .flush 0#16 0#32 0#32),
      .command .ongoing (.host 5 .fillThisBuffer 1#16 4#32 256#32)])
    (fun s => (s.phase, s.base.runtimeInit, s.ext.outputSetup, s.core.memPtr s.ext.outIdx,
      s.ext.output.queue.map XfMessage.buffer))
    (b := (.running, false, true, 192#32, [256#32])) (by decide +kernel)
  obtain ⟨hphase, hinit, hset, hptr, hqueue⟩ : s.phase = .running ∧ s.base.runtimeInit = false ∧
      s.ext.outputSetup = true ∧ s.core.memPtr s.ext.outIdx = 192#32 ∧
      s.ext.output.queue.map XfMessage.buffer = [256#32] := by simpa using hs
  refine ⟨s, hrun, hphase, hinit, hset, fun ⟨m, queue, hq, hm⟩ => ?_⟩
  rw [hq, List.map_cons, ← hm, hptr] at hqueue
  simp at hqueue

end Hikey
