import Hikey.Codec.Process

/-!
# The output pointer of a codec

`xa_codec_preprocess` hands the buffer of the first output message to the plugin once, and remembers
by the flag `XA_CODEC_FLAG_OUTPUT_SETUP` that it has done so.  The pointer is good as long as that
message stays the first one.
-/

namespace Hikey

open Prog

variable {s s' : XaState XaCodec} {env : XaEnv} {m : XfMessage}

/-- When the output is set up, the plugin has the buffer of the first message of the output queue.
-/
def XaOutputSetup (s : XaState XaCodec) : Prop :=
  s.ext.outputSetup = true →
    ∃ m queue, s.ext.output.queue = m :: queue ∧ s.core.memPtr s.ext.outIdx = m.buffer

/-- The stages follow one another, and before the first one there is nothing to write to. -/
structure XaCodecStaged (s : XaState XaCodec) : Prop where
  initial : s.base.postinit = false → s.base.runtimeInit = false ∧ s.base.execution = false ∧
    s.ext.outputSetup = false ∧ s.ext.output.queue = []
  runtimeInit : s.base.runtimeInit = true → s.base.execution = false

/-- The pointer is good outside of the run-time initialization. -/
structure XaOutputOk (s : XaState XaCodec) : Prop where
  staged : XaCodecStaged s
  setup : s.base.runtimeInit = false → XaOutputSetup s

/-- The component has been initialized, and nothing is asked of its output queue. -/
structure XaOutputClear (s : XaState XaCodec) : Prop where
  postinit : s.base.postinit = true
  runtimeInit : s.base.runtimeInit = true → s.base.execution = false
  setup : s.base.runtimeInit = false → s.ext.outputSetup = false

lemma XaOutputClear.ok (h : XaOutputClear s) : XaOutputOk s where
  staged := ⟨fun hpost => by simp [h.postinit] at hpost, h.runtimeInit⟩
  setup := fun hinit hset => by simp [h.setup hinit] at hset

/-- Only what the output pointer does not depend on is different. -/
structure XaOutputSame (s s' : XaState XaCodec) : Prop where
  postinit : s'.base.postinit = s.base.postinit
  runtimeInit : s'.base.runtimeInit = s.base.runtimeInit
  execution : s'.base.execution = s.base.execution
  queue : s'.ext.output.queue = s.ext.output.queue
  setup : s'.ext.outputSetup = s.ext.outputSetup
  outIdx : s'.ext.outIdx = s.ext.outIdx
  memPtr : s'.core.memPtr s'.ext.outIdx = s.core.memPtr s.ext.outIdx

lemma XaOutputOk.congr (h : XaOutputOk s) (hsame : XaOutputSame s s') : XaOutputOk s' := by
  obtain ⟨hpost, hinit, hexec, hqueue, hsetup, -, hptr⟩ := hsame
  refine ⟨⟨?_, ?_⟩, ?_⟩
  · rw [hpost, hinit, hexec, hsetup, hqueue]
    exact h.staged.initial
  · rw [hinit, hexec]
    exact h.staged.runtimeInit
  · unfold XaOutputSetup
    rw [hinit, hsetup, hqueue, hptr]
    exact h.setup

lemma XaOutputClear.congr (h : XaOutputClear s) (hpost : s'.base.postinit = s.base.postinit)
    (hinit : s'.base.runtimeInit = s.base.runtimeInit)
    (hexec : s'.base.execution = s.base.execution)
    (hsetup : s'.ext.outputSetup = s.ext.outputSetup) : XaOutputClear s' := by
  refine ⟨hpost.trans h.postinit, ?_, ?_⟩
  · rw [hinit, hexec]
    exact h.runtimeInit
  · rw [hinit, hsetup]
    exact h.setup

/-- Messages that are put at the end of the output queue leave its first message where it is. -/
lemma XaOutputOk.append (h : XaOutputOk s) {output : XfOutputPort} {ms : List XfMessage}
    {mem : List XfMemEvent} {done : List XfMessage} (hpost : s.base.postinit = true)
    (hqueue : output.queue = s.ext.output.queue ++ ms) :
    XaOutputOk (s.withOutput output mem done) where
  staged := ⟨fun hnot => by simp [hpost] at hnot, h.staged.runtimeInit⟩
  setup := by
    intro hinit hset
    obtain ⟨m, queue, hq, hptr⟩ := h.setup hinit hset
    exact ⟨m, queue ++ ms, by simp [hqueue, hq], by simpa using hptr⟩

/-! ## Programs that leave the output alone -/

lemma keeps_input_output {α : Type}
    (f : XfInputPort → Option (XfInputPort × List XfMessage × α)) :
    Keeps XaOutputOk (xaCodecInput f) :=
  keeps_xaCodecInput (fun _ _ _ hs => hs.congr ⟨rfl, rfl, rfl, rfl, rfl, rfl, by simp⟩) f

lemma keeps_xfResponse_output (m : XfMessage) :
    Keeps XaOutputOk (xfResponse m : XaCodecProg Unit) :=
  fun _ hs => hs.congr ⟨rfl, rfl, rfl, rfl, rfl, rfl, by simp⟩

lemma keepsResponse_output (m : XfMessage) : KeepsResponse XaOutputOk m :=
  fun _ _ _ _ => keeps_xfResponse_output _

lemma keeps_xaBaseSchedule_output (dts : U32) :
    Keeps XaOutputOk (xaBaseSchedule dts : XaCodecProg Unit) :=
  fun _ hs => wp_xaBaseSchedule_of fun _ _ => hs.congr ⟨rfl, rfl, rfl, rfl, rfl, rfl, rfl⟩

section Clear

lemma keeps_output_clear {α : Type}
    (f : XfOutputPort → Option (XfOutputPort × List XfMemEvent × List XfMessage × α)) :
    Keeps XaOutputClear (xaCodecOutput f) :=
  keeps_xaCodecOutput (fun _ _ _ _ hs => hs.congr rfl rfl rfl rfl) f

lemma keeps_xfResponse_clear (m : XfMessage) :
    Keeps XaOutputClear (xfResponse m : XaCodecProg Unit) :=
  fun _ hs => hs.congr rfl rfl rfl rfl

lemma keeps_xaBaseSchedule_clear (dts : U32) :
    Keeps XaOutputClear (xaBaseSchedule dts : XaCodecProg Unit) :=
  fun _ hs => wp_xaBaseSchedule_of fun _ _ => hs.congr rfl rfl rfl rfl

end Clear

/-! ## Commands -/

/-- The post-initialization: nothing is set up, and there is nothing to write to. -/
structure XaOutputInitial (s : XaState XaCodec) : Prop where
  postinit : s.base.postinit = false
  runtimeInit : s.base.runtimeInit = false
  execution : s.base.execution = false
  setup : s.ext.outputSetup = false
  queue : s.ext.output.queue = []

lemma XaOutputInitial.ok (h : XaOutputInitial s) : XaOutputOk s where
  staged := ⟨fun _ => ⟨h.runtimeInit, h.execution, h.setup, h.queue⟩, fun _ => h.execution⟩
  setup := fun _ hset => by simp [h.setup] at hset

lemma keeps_setParam_output : Keeps XaOutputOk (xaBaseSetParam xaCodecHooks env m) := by
  refine keeps_xaBaseSetParam (J := XaOutputInitial) ?_ (fun _ h => h.ok) (fun i => ?_) ?_
    (keepsResponse_output m)
  · intro s hs hpost
    obtain ⟨hinit, hexec, hsetup, hqueue⟩ := hs.staged.initial hpost
    exact ⟨hpost, hinit, hexec, hsetup, hqueue⟩
  · refine keeps_xaCodecMemtab (fun s s' h hset hs => ?_) (fun _ _ _ hs => ?_)
      (fun _ _ hs => ?_) i
    · exact ⟨by rw [h.base, hs.postinit], by rw [h.base, hs.runtimeInit],
        by rw [h.base, hs.execution], hset.trans hs.setup, by rw [h.output, hs.queue]⟩
    · exact ⟨hs.postinit, hs.runtimeInit, hs.execution, hs.setup, hs.queue⟩
    · exact ⟨hs.postinit, hs.runtimeInit, hs.execution, hs.setup, rfl⟩
  · intro s hs
    refine ⟨⟨fun hpost => by simp [hs.postinit] at hpost, fun _ => hs.execution⟩, fun hinit => ?_⟩
    simp [hs.runtimeInit] at hinit

lemma wp_fillOutput_output (hpost : s.base.postinit = true) (hs : XaOutputOk s) :
    wp (xaCodecFillOutput m) (fun _ => XaOutputOk) (fun _ => True) s := by
  rw [xaCodecFillOutput, wp_bind, wp_get, wp_bind, wp_xaCodecOutputPut]
  refine wp_of_keeps (Keeps.ite (fun _ => keeps_xaBaseSchedule_output _) fun _ => Keeps.pure _)
    (hs.append hpost rfl) fun _ h => h

lemma wp_fillThisBuffer_output (hs : XaOutputOk s) :
    wp (xaCodecFillThisBuffer env m) (fun _ => XaOutputOk) (fun _ => True) s := by
  simp only [xaCodecFillThisBuffer, wp_bind, wp_check, wp_get, wp_ite]
  refine ⟨fun _ => ⟨fun hpost => ⟨fun _ => wp_fillOutput_output hpost hs, fun _ => ⟨fun _ => ?_,
    fun _ => ⟨fun _ => ?_, fun _ => wp_fillOutput_output hpost hs⟩⟩⟩, fun _ => trivial⟩,
    fun _ => trivial⟩
  · -- the flow-control message ends the stream; the output queue stays as it is
    rw [wp_xaCodecOutputFlushDone]
    refine wp_of_keeps (keeps_input_output _) (@XaOutputOk.append s hs _ [] _ _ hpost ?_)
      fun _ h => h
    simp [xfOutputPortFlushDone]
  · exact wp_of_keeps (keeps_xfResponse_output _) hs fun _ h => h

/-- A new route appends its messages. -/
lemma queue_xfOutputPortRoute {port port' : XfOutputPort} {id : XfMsgId} {n length : U32}
    {alloc : U32 → U32} {mem : List XfMemEvent} {ok : Bool}
    (h : xfOutputPortRoute port id n length alloc = some (port', mem, ok)) :
    ∃ ms, port'.queue = port.queue ++ ms := by
  have hloop (k : ℕ) (i : U32) (port : XfOutputPort) (mem : List XfMemEvent) :
      ∃ ms, (xfOutputPortRouteLoop id length alloc k i port mem).1.queue = port.queue ++ ms := by
    induction k generalizing i port mem with
    | zero => exact ⟨[], (List.append_nil _).symm⟩
    | succ k ih =>
      rw [xfOutputPortRouteLoop]
      split
      · exact ⟨[], (List.append_nil _).symm⟩
      · obtain ⟨ms, hms⟩ := ih (i + 1#32) _ (mem ++ [.alloc (.buffer (alloc i) length)])
        exact ⟨_ :: ms, by rw [hms, xfMsgEnqueue, List.append_assoc]; rfl⟩
  unfold xfOutputPortRoute at h
  split at h
  · obtain ⟨rfl, -⟩ := Prod.mk.inj (Option.some_inj.mp h)
    exact ⟨[], (List.append_nil _).symm⟩
  split at h
  · cases h
  obtain ⟨ms, hms⟩ := hloop n.toNat 1#32
    { port with pool := { port.pool with p := alloc 0#32, n := n + 1#32 } }
    [.alloc (.pool (alloc 0#32) (n + 1#32))]
  simp only at h
  split at h
  all_goals
    next hres =>
    rw [hres] at hms
    obtain ⟨rfl, -⟩ := Prod.mk.inj (Option.some_inj.mp h)
    exact ⟨ms, hms⟩

lemma wp_portRoute_output (hs : XaOutputOk s) :
    wp (xaCodecPortRoute env m) (fun _ => XaOutputOk) (fun _ => True) s := by
  simp only [xaCodecPortRoute, wp_bind, wp_check, wp_get, wp_xaCodecOutputRoute]
  refine ⟨fun hpost => ⟨fun _ => ⟨fun _ => ?_, fun _ => trivial⟩, fun _ => trivial⟩,
    fun _ => trivial⟩
  intro output mem ok hroute
  obtain ⟨ms, hms⟩ := queue_xfOutputPortRoute hroute
  refine ⟨fun _ => ?_, fun _ => trivial⟩
  rw [← wp_bind (f := fun _ => xfResponse m.ok)]
  exact wp_of_keeps ((keeps_xaBaseSchedule_output _).bind fun _ => keeps_xfResponse_output _)
    (hs.append hpost hms) fun _ h => h

lemma wp_portUnroute_output (hs : XaOutputOk s) :
    wp (xaCodecPortUnroute env m) (fun _ => XaOutputOk) (fun _ => True) s := by
  rw [xaCodecPortUnroute, wp_bind, wp_get, wp_bind, wp_check]
  refine ⟨fun hpost => ?_, fun _ => trivial⟩
  rw [wp_bind, wp_check]
  refine ⟨fun _ => ?_, fun _ => trivial⟩
  rw [wp_bind]
  refine wp_xaBaseCancel_of fun flag sched => ?_
  rw [wp_bind, wp_xaExtModify]
  refine wp_of_keeps (I := XaOutputClear) ?_ ⟨hpost, hs.staged.runtimeInit, fun _ => rfl⟩
    fun _ h => h.ok
  refine (keeps_output_clear _).bind fun _ => Keeps.ite (fun _ => ?_) fun _ => keeps_output_clear _
  exact (keeps_output_clear _).bind fun _ => keeps_xfResponse_clear _

lemma wp_emptyThisBuffer_output (hs : XaOutputOk s) :
    wp (xaCodecEmptyThisBuffer env m) (fun _ => XaOutputOk) (fun _ => True) s := by
  simp only [xaCodecEmptyThisBuffer, wp_bind, wp_check, wp_get, wp_xaCodecInputPut, wp_ite,
    wp_xaBaseModify, wp_xaExtModify, wp_xaApi, wp_pure]
  refine ⟨fun _ => ⟨fun _ => ⟨fun _ => ⟨fun _ => ⟨fun _ => ⟨fun _ => ⟨fun _ => ?_, fun _ => ?_⟩,
    fun _ => trivial⟩, fun _ => trivial⟩, fun _ => ⟨fun _ => ⟨fun _ => ?_, fun _ => ?_⟩,
    fun _ => trivial⟩⟩, fun _ => ?_⟩, fun _ => trivial⟩, fun _ => trivial⟩
  · refine wp_of_keeps (keeps_xaBaseSchedule_clear _) ?_ fun _ h => h.ok
    exact ⟨rfl, fun _ => by simp_all, fun _ => rfl⟩
  · exact XaOutputClear.ok ⟨rfl, fun _ => by simp_all, fun _ => rfl⟩
  · exact wp_of_keeps (keeps_xaBaseSchedule_output _)
      (hs.congr ⟨rfl, rfl, rfl, rfl, rfl, rfl, by simp⟩) fun _ h => h
  all_goals exact hs.congr ⟨rfl, rfl, rfl, rfl, rfl, rfl, by simp⟩

/-- The command empties the output queue of a codec that has set its output up, and leaves it set
up: the input of a codec that is not routed is flushed, or the output port while it is being
unrouted. -/
def XaCodecDrains (s : XaState XaCodec) (m : XfMessage) : Prop :=
  s.phase = .running ∧ s.base.postinit = true ∧ s.base.runtimeInit = false ∧
    s.ext.outputSetup = true ∧ m.opcode = .flush ∧ m.length = 0#32 ∧
    (m.dstPort = 0#16 ∧ s.ext.output.routed = false ∨
      m.dstPort ≠ 0#16 ∧ s.ext.output.unrouting = true)

instance (s : XaState XaCodec) (m : XfMessage) : Decidable (XaCodecDrains s m) := by
  unfold XaCodecDrains
  infer_instance

/-- The flush of a routed port keeps its messages. -/
lemma queue_xfOutputPortFlush {port : XfOutputPort} {opcode : XfOpcode} (h : port.routed = true) :
    (xfOutputPortFlush port opcode).1.queue = port.queue := by
  unfold xfOutputPortFlush
  rw [if_pos h]
  split
  · rfl
  · split <;> rfl

/-- The flush of an output port, when it is routed or nothing is asked of its queue. -/
lemma wp_outputFlush_output {opcode : XfOpcode} {Q : Bool → XaState XaCodec → Prop}
    {E : XaState XaCodec → Prop} (hpost : s.base.postinit = true) (hs : XaOutputOk s)
    (hrouted : s.ext.output.routed = true ∨
      (s.base.runtimeInit = false → s.ext.outputSetup = false))
    (hQ : ∀ ok t, XaOutputOk t → Q ok t) : wp (xaCodecOutputFlush opcode) Q E s := by
  rw [wp_xaCodecOutputFlush]
  apply hQ
  rcases hrouted with hrouted | hclear
  · exact hs.append hpost (by rw [queue_xfOutputPortFlush hrouted, List.append_nil])
  · exact XaOutputClear.ok ⟨hpost, hs.staged.runtimeInit, hclear⟩

lemma wp_flush_output (hphase : s.phase = .running) (hop : m.opcode = .flush)
    (hnot : ¬ XaCodecDrains s m) (hs : XaOutputOk s) :
    wp (xaCodecFlush env m) (fun _ => XaOutputOk) (fun _ => True) s := by
  rw [xaCodecFlush, wp_bind, wp_get, wp_bind, wp_check]
  refine ⟨fun hpost => ?_, fun _ => trivial⟩
  rw [wp_bind, wp_check]
  refine ⟨fun hlength => ?_, fun _ => trivial⟩
  have hlength : m.length = 0#32 := by simpa using hlength
  have hclear (h : m.dstPort = 0#16 ∧ s.ext.output.routed = false ∨
      m.dstPort ≠ 0#16 ∧ s.ext.output.unrouting = true) (hinit : s.base.runtimeInit = false) :
      s.ext.outputSetup = false := by
    by_contra hset
    exact hnot ⟨hphase, hpost, hinit, by simpa using hset, hop, hlength, h⟩
  rw [wp_ite]
  refine ⟨fun hport => ?_, fun hport => ?_⟩
  · -- the input port
    rw [wp_bind]
    refine wp_xaBaseCancel_of fun flag sched => ?_
    simp only [wp_bind, wp_xaCodecInputPurge, wp_xaExtModify, wp_xaApi]
    refine ⟨fun _ => ?_, fun _ => trivial⟩
    refine wp_outputFlush_output hpost (hs.congr ⟨rfl, rfl, rfl, rfl, rfl, rfl, by simp⟩) ?_ ?_
    · cases hrouted : s.ext.output.routed with
      | true => exact .inl hrouted
      | false => exact .inr fun hinit => hclear (.inl ⟨hport, hrouted⟩) hinit
    · intro ok t ht
      exact wp_of_keeps (Keeps.ite (fun _ => keeps_xfResponse_output _)
        fun _ => keeps_input_output _) ht fun _ h => h
  rw [wp_ite]
  refine ⟨fun hunrouting => ?_, fun _ => ?_⟩
  · -- the output port while it is being unrouted
    exact wp_of_keeps (keeps_output_clear _)
      ⟨hpost, hs.staged.runtimeInit, hclear (.inr ⟨hport, hunrouting⟩)⟩ fun _ h => h.ok
  · -- the output port; the output is not set up any more
    refine wp_bind.mpr (wp_mono (Q := fun _ t => t.base = s.base) (E := fun _ => True) ?_
      (fun _ t ht => ?_) fun _ _ => trivial)
    · simp only [wp_ite, wp_bind, wp_xaCodecOutputFlush, wp_xfResponse, wp_xaCodecOutputFlushDone,
        wp_xaCodecInputPurgeDone]
      exact ⟨fun _ => rfl, fun _ _ _ _ => rfl⟩
    · rw [wp_xaExtModify]
      refine XaOutputClear.ok ⟨?_, ?_, fun _ => rfl⟩
      · rw [ht]
        exact hpost
      · rw [ht]
        exact hs.staged.runtimeInit

lemma wp_command_output (hphase : s.phase = .running) (hnot : ¬ XaCodecDrains s m)
    (hs : XaOutputOk s) :
    wp (xaBaseCommand xaAudioCodec env m) (fun _ => XaOutputOk) (fun _ => True) s := by
  rw [xaBaseCommand, show xaAudioCodec.command = xaCodecCmd from rfl]
  cases hop : m.opcode with
  | setParam => exact wp_of_keeps keeps_setParam_output hs fun _ h => h
  | getParam =>
    exact wp_of_keeps (keeps_xaBaseGetParam (fun i id => keeps_xaCodecGetparam i id)
      (keepsResponse_output m)) hs fun _ h => h
  | route => exact wp_portRoute_output hs
  | unroute => exact wp_portUnroute_output hs
  | emptyThisBuffer => exact wp_emptyThisBuffer_output hs
  | fillThisBuffer => exact wp_fillThisBuffer_output hs
  | flush => exact wp_flush_output hphase hop hnot hs
  | setParamExt =>
    exact wp_of_keeps (keeps_xaBaseSetParamExt (keepsResponse_output m)) hs fun _ h => h
  | getParamExt =>
    exact wp_of_keeps (keeps_xaBaseGetParamExt (keepsResponse_output m)) hs fun _ h => h
  | unregister | pause | resume | other => trivial

end Hikey
