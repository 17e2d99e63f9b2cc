import Hikey.Codec.Process

/-!
# The schedule flag of a codec

The schedule flag of `base->state` says whether the task of the component is in the scheduler tree.
`xa_base_schedule` and `xa_base_cancel` keep it that way; `xa_codec_empty_this_buffer` overwrites
the whole state word when it restarts a completed stream, which loses the flag of a codec that is
scheduled.
-/

namespace Hikey

open Prog

/-- The task of the component is in the scheduler tree exactly if the schedule flag is set. -/
def XaScheduled {κ : Type} (s : XaState κ) : Prop :=
  ∃ L, XfSchedShape s.core.sched L ∧ (s.task ∈ L ↔ s.base.schedule = true)

section Base

variable {κ : Type} {s s' : XaState κ} {I : XaState κ → Prop} {dts : U32}

lemma XaScheduled.congr (h : XaScheduled s) (htask : s'.task = s.task)
    (hsched : s'.core.sched = s.core.sched) (hflag : s'.base.schedule = s.base.schedule) :
    XaScheduled s' := by
  rw [XaScheduled, htask, hsched, hflag]
  exact h

/-- The component with another scheduler and schedule flag. -/
def XaState.withSched (s : XaState κ) (flag : Bool) (sched : XfSched) : XaState κ :=
  { s with
    base := { s.base with schedule := flag }
    core := { s.core with sched := sched } }

lemma withSched_self : s.withSched s.base.schedule s.core.sched = s := rfl

/-- The component is scheduled with its flag. -/
def XaScheduledRun (s : XaState κ) : Prop := XaScheduled s ∧ s.phase = .running

/-- The component is scheduled with its flag, and not scheduled any more when it is terminated. -/
def XaScheduledOk (s : XaState κ) : Prop :=
  XaScheduled s ∧ (s.phase ≠ .running → s.base.schedule = false)

lemma XaScheduledRun.ok (h : XaScheduledRun s) : XaScheduledOk s :=
  ⟨h.1, fun hphase => absurd h.2 hphase⟩

/-- `xa_base_schedule` puts the task into the tree unless it is there. -/
lemma XaScheduled.wp_schedule (h : XaScheduled s) {Q : Unit → XaState κ → Prop}
    {E : XaState κ → Prop}
    (hQ : ∀ sched, XaScheduled (s.withSched true sched) → Q () (s.withSched true sched)) :
    wp (xaBaseSchedule dts) Q E s := by
  obtain ⟨L, hL, hmem⟩ := h
  rw [xaBaseSchedule, wp_update]
  intro t a hres
  cases hflag : s.base.schedule with
  | true =>
    obtain ⟨rfl, rfl⟩ : s = t ∧ () = a := by simpa [hflag] using hres
    have := hQ s.core.sched
    rw [← hflag, withSched_self] at this
    exact this ⟨L, hL, hmem⟩
  | false =>
    have hnot : s.task ∉ L := fun hin => by simpa [hflag] using hmem.mp hin
    obtain ⟨sched', as, bs, hput, hsplit, hshape, -⟩ :=
      hL.put hnot (xfSchedTimestamp s.core.sched + dts)
    obtain ⟨rfl, rfl⟩ : s.withSched true sched' = t ∧ () = a := by
      simpa [hflag, hput, XaState.withSched] using hres
    exact hQ sched' ⟨as ++ s.task :: bs, hshape, by simp [XaState.withSched]⟩

/-- `xa_base_cancel` takes the task out of the tree. -/
lemma XaScheduled.wp_cancel (h : XaScheduled s) {Q : Unit → XaState κ → Prop}
    {E : XaState κ → Prop}
    (hQ : ∀ sched, XaScheduled (s.withSched false sched) → Q () (s.withSched false sched)) :
    wp xaBaseCancel Q E s := by
  obtain ⟨L, hL, hmem⟩ := h
  rw [xaBaseCancel, wp_update]
  intro t a hres
  cases hflag : s.base.schedule with
  | false =>
    obtain ⟨rfl, rfl⟩ : s = t ∧ () = a := by simpa [hflag] using hres
    have := hQ s.core.sched
    rw [← hflag, withSched_self] at this
    exact this ⟨L, hL, hmem⟩
  | true =>
    obtain ⟨sched', hcancel, hshape, -⟩ := hL.cancel (hmem.mpr hflag)
    obtain ⟨rfl, rfl⟩ : s.withSched false sched' = t ∧ () = a := by
      simpa [hflag, hcancel, XaState.withSched] using hres
    have hnodup : L.Nodup := hL.holds.nodup
    exact hQ sched' ⟨L.erase s.task, hshape, by simp [XaState.withSched, hnodup.mem_erase_iff]⟩

lemma XaScheduledRun.congr (h : XaScheduledRun s) (htask : s'.task = s.task)
    (hphase : s'.phase = s.phase) (hsched : s'.core.sched = s.core.sched)
    (hflag : s'.base.schedule = s.base.schedule) : XaScheduledRun s' :=
  ⟨h.1.congr htask hsched hflag, hphase.trans h.2⟩

lemma keeps_xaBaseSchedule : Keeps XaScheduledRun (xaBaseSchedule dts : XaProg κ Unit) :=
  fun _ hs => hs.1.wp_schedule fun _ h => ⟨h, hs.2⟩

lemma keeps_xaBaseCancel : Keeps XaScheduledRun (xaBaseCancel : XaProg κ Unit) :=
  fun _ hs => hs.1.wp_cancel fun _ h => ⟨h, hs.2⟩

lemma keeps_xfResponse (m : XfMessage) : Keeps XaScheduledRun (xfResponse m : XaProg κ Unit) :=
  fun _ hs => ⟨hs.1.congr rfl (by simp) rfl, hs.2⟩

lemma keepsResponse_scheduled (m : XfMessage) : KeepsResponse (XaScheduledRun (κ := κ)) m :=
  fun _ _ _ _ => keeps_xfResponse _

end Base

section Codec

variable {s s' : XaState XaCodec} {env : XaEnv} {m : XfMessage}

lemma keeps_ext_scheduled (f : XaCodec → XaCodec) : Keeps XaScheduledRun (xaExtModify f) :=
  Keeps.modify fun _ hs => hs.congr rfl rfl rfl rfl

lemma keeps_input_scheduled {α : Type}
    (f : XfInputPort → Option (XfInputPort × List XfMessage × α)) :
    Keeps XaScheduledRun (xaCodecInput f) :=
  keeps_xaCodecInput (fun _ _ _ hs => hs.congr rfl rfl (by simp) rfl) f

lemma keeps_output_scheduled {α : Type}
    (f : XfOutputPort → Option (XfOutputPort × List XfMemEvent × List XfMessage × α)) :
    Keeps XaScheduledRun (xaCodecOutput f) :=
  keeps_xaCodecOutput (fun _ _ _ _ hs => hs.congr rfl rfl (by simp) rfl) f

lemma keeps_fillOutput_scheduled (m : XfMessage) : Keeps XaScheduledRun (xaCodecFillOutput m) :=
  Keeps.get.bind fun _ => (keeps_output_scheduled _).bind fun _ =>
    Keeps.ite (fun _ => keeps_xaBaseSchedule) fun _ => Keeps.pure _

lemma keeps_fillThisBuffer_scheduled : Keeps XaScheduledRun (xaCodecFillThisBuffer env m) := by
  refine (Keeps.check _).bind fun _ => Keeps.get.bind fun _ => (Keeps.check _).bind fun _ => ?_
  refine Keeps.ite (fun _ => keeps_fillOutput_scheduled _) fun _ => Keeps.ite (fun _ => ?_)
    fun _ => Keeps.ite (fun _ => keeps_xfResponse _) fun _ => keeps_fillOutput_scheduled _
  exact (keeps_output_scheduled _).bind fun _ => keeps_input_scheduled _

lemma keeps_portRoute_scheduled : Keeps XaScheduledRun (xaCodecPortRoute env m) :=
  Keeps.get.bind fun _ => (Keeps.check _).bind fun _ => (Keeps.check _).bind fun _ =>
    (Keeps.check _).bind fun _ => (keeps_output_scheduled _).bind fun _ => (Keeps.check _).bind
      fun _ => keeps_xaBaseSchedule.bind fun _ => keeps_xfResponse _

lemma keeps_portUnroute_scheduled : Keeps XaScheduledRun (xaCodecPortUnroute env m) := by
  refine Keeps.get.bind fun _ => (Keeps.check _).bind fun _ => (Keeps.check _).bind fun _ =>
    keeps_xaBaseCancel.bind fun _ => (keeps_ext_scheduled _).bind fun _ =>
      (keeps_output_scheduled _).bind fun _ => Keeps.ite (fun _ => ?_)
        fun _ => keeps_output_scheduled _
  exact (keeps_output_scheduled _).bind fun _ => keeps_xfResponse _

lemma keeps_flush_scheduled : Keeps XaScheduledRun (xaCodecFlush env m) := by
  refine Keeps.get.bind fun _ => (Keeps.check _).bind fun _ => (Keeps.check _).bind fun _ =>
    Keeps.ite (fun _ => ?_) fun _ => Keeps.ite (fun _ => keeps_output_scheduled _) fun _ => ?_
  · refine keeps_xaBaseCancel.bind fun _ => (keeps_input_scheduled _).bind fun _ =>
      (keeps_ext_scheduled _).bind fun _ => (keeps_xaApi _ _).bind fun _ =>
        (keeps_ext_scheduled _).bind fun _ => (keeps_output_scheduled _).bind fun _ => ?_
    exact Keeps.ite (fun _ => keeps_xfResponse _) fun _ => keeps_input_scheduled _
  · refine Keeps.bind (Keeps.ite (fun _ => ?_) fun _ => ?_) fun _ => keeps_ext_scheduled _
    · exact (keeps_output_scheduled _).bind fun _ => keeps_xfResponse _
    · exact (keeps_output_scheduled _).bind fun _ => keeps_input_scheduled _

lemma keeps_setParam_scheduled :
    Keeps XaScheduledRun (xaBaseSetParam xaCodecHooks env m) := by
  refine keeps_xaBaseSetParam (J := XaScheduledRun) (fun _ hs _ => hs) (fun _ hs => hs)
    (fun i => ?_) (fun _ hs => hs.congr rfl rfl rfl rfl) (keepsResponse_scheduled m)
  exact keeps_xaCodecMemtab (fun s s' h _ hs => hs.congr h.task h.phase h.sched (by rw [h.base]))
    (fun _ _ _ hs => hs.congr rfl rfl (by simp) rfl)
      (fun _ _ hs => hs.congr rfl rfl (by simp) rfl) i

/-- The command restarts a completed stream while the component is scheduled: the message is the
first one in the input queue, and `base->state` is overwritten as a whole. -/
def XaCodecRestarts (s : XaState XaCodec) (m : XfMessage) : Prop :=
  s.phase = .running ∧ m.opcode = .emptyThisBuffer ∧ m.dstPort = 0#16 ∧ s.base.postinit = true ∧
    s.base.completed = true ∧ s.base.schedule = true ∧ s.ext.input.enabled = true ∧
    s.ext.input.queue = []

instance (s : XaState XaCodec) (m : XfMessage) : Decidable (XaCodecRestarts s m) := by
  unfold XaCodecRestarts
  infer_instance

/-- A message that is not the first one does not restart a stream. -/
lemma xfInputPortPut_first {port : XfInputPort} (h : (xfInputPortPut port m).2.2 = true) :
    port.enabled = true ∧ port.queue = [] := by
  unfold xfInputPortPut xfMsgEnqueue at h
  cases henabled : port.enabled with
  | false => simp [henabled] at h
  | true =>
    refine ⟨rfl, ?_⟩
    by_contra hne
    have hempty : port.queue.isEmpty = false := by simpa using hne
    by_cases hlength : m.length = 0#32 <;> simp [henabled, hlength, hempty] at h

lemma wp_emptyThisBuffer_scheduled (hop : m.opcode = .emptyThisBuffer)
    (hnot : ¬ XaCodecRestarts s m) (hs : XaScheduledRun s) :
    wp (xaCodecEmptyThisBuffer env m) (fun _ => XaScheduledRun) XaScheduledRun s := by
  -- the part after a possible restart
  have hrest : Keeps XaScheduledRun (do
      let s ← Prog.get
      Prog.check (s.base.runtimeInit || s.base.execution)
      (if s.ext.output.ready then xaBaseSchedule 0#32 else pure ⟨⟩) : XaCodecProg Unit) :=
    Keeps.get.bind fun _ => (Keeps.check _).bind fun _ =>
      Keeps.ite (fun _ => keeps_xaBaseSchedule) fun _ => Keeps.pure _
  rw [xaCodecEmptyThisBuffer, wp_bind, wp_check]
  refine ⟨fun hport => ?_, fun _ => hs⟩
  simp only [wp_bind (x := Prog.get), wp_get]
  rw [wp_bind, wp_check]
  refine ⟨fun hpost => ?_, fun _ => hs⟩
  rw [wp_bind, wp_xaCodecInputPut, wp_ite]
  have hput : XaScheduledRun (s.withInput (xfInputPortPut s.ext.input m).1
      (xfInputPortPut s.ext.input m).2.1) := hs.congr rfl rfl (by simp) rfl
  refine ⟨fun hfirst => ?_, fun _ => hput⟩
  obtain ⟨henabled, hqueue⟩ := xfInputPortPut_first hfirst
  rw [wp_bind]
  refine wp_mono (Q := fun _ => XaScheduledRun) (E := XaScheduledRun) ?_
    (fun _ t ht => hrest t ht) fun _ ht => ht
  rw [wp_ite]
  refine ⟨fun hcompleted => ?_, fun _ => hput⟩
  have hflag : s.base.schedule = false := by
    by_contra hflag
    exact hnot ⟨hs.2, hop, by simpa using hport, hpost, hcompleted, by simpa using hflag, henabled,
      hqueue⟩
  rw [wp_bind, wp_xaBaseModify]
  refine Keeps.bind (keeps_ext_scheduled _) (fun _ => (keeps_xaApi _ _).bind fun _ =>
    keeps_ext_scheduled _) _ (hput.congr rfl rfl rfl ?_)
  exact hflag.symm

lemma wp_command_scheduled (hnot : ¬ XaCodecRestarts s m) (hs : XaScheduledRun s) :
    wp (xaBaseCommand xaAudioCodec env m) (fun _ => XaScheduledRun) XaScheduledRun s := by
  rw [xaBaseCommand, show xaAudioCodec.command = xaCodecCmd from rfl]
  cases hop : m.opcode with
  | setParam => exact keeps_setParam_scheduled s hs
  | getParam =>
    exact keeps_xaBaseGetParam (fun i id => keeps_xaCodecGetparam i id) (keepsResponse_scheduled m)
      s hs
  | route => exact keeps_portRoute_scheduled s hs
  | unroute => exact keeps_portUnroute_scheduled s hs
  | emptyThisBuffer => exact wp_emptyThisBuffer_scheduled hop hnot hs
  | fillThisBuffer => exact keeps_fillThisBuffer_scheduled s hs
  | flush => exact keeps_flush_scheduled s hs
  | setParamExt => exact keeps_xaBaseSetParamExt (keepsResponse_scheduled m) s hs
  | getParamExt => exact keeps_xaBaseGetParamExt (keepsResponse_scheduled m) s hs
  | unregister | pause | resume | other => exact hs

/-- A component that is being taken down is not scheduled. -/
def XaUnscheduled (s : XaState XaCodec) : Prop := XaScheduled s ∧ s.base.schedule = false

lemma XaUnscheduled.ok (h : XaUnscheduled s) : XaScheduledOk s := ⟨h.1, fun _ => h.2⟩

lemma keeps_input_unscheduled {α : Type}
    (f : XfInputPort → Option (XfInputPort × List XfMessage × α)) :
    Keeps XaUnscheduled (xaCodecInput f) :=
  keeps_xaCodecInput (fun _ _ _ hs => ⟨hs.1.congr rfl (by simp) rfl, hs.2⟩) f

lemma keeps_output_unscheduled {α : Type}
    (f : XfOutputPort → Option (XfOutputPort × List XfMemEvent × List XfMessage × α)) :
    Keeps XaUnscheduled (xaCodecOutput f) :=
  keeps_xaCodecOutput (fun _ _ _ _ hs => ⟨hs.1.congr rfl (by simp) rfl, hs.2⟩) f

lemma keeps_destroy_unscheduled : Keeps XaUnscheduled xaAudioCodecDestroy :=
  Keeps.bind (Keeps.modify fun _ hs => ⟨hs.1.congr rfl rfl rfl, hs.2⟩) fun _ =>
    (keeps_output_unscheduled _).bind fun _ =>
      Keeps.modify fun _ hs => ⟨hs.1.congr rfl rfl rfl, hs.2⟩

lemma keeps_terminate_unscheduled : Keeps XaUnscheduled (xaAudioCodecTerminate m) := by
  refine Keeps.get.bind fun _ => Keeps.ite (fun _ => ?_) fun _ => Keeps.ite (fun _ => Keeps.pure _)
    fun _ => Keeps.ite (fun _ => Keeps.pure _) fun _ => ?_
  · exact (keeps_output_unscheduled _).bind fun _ => Keeps.pure _
  · exact Keeps.bind (Keeps.modify fun _ hs => ⟨hs.1.congr rfl (by simp) rfl, hs.2⟩) fun _ =>
      Keeps.pure _

/-- The cleanup cancels the task before anything else. -/
lemma wp_cleanup_scheduled (hs : XaScheduledRun s) :
    wp (xaAudioCodecCleanup m) (fun _ => XaUnscheduled) XaUnscheduled s := by
  have hcomplete : XaScheduled { s with core := s.core.complete m.err } :=
    hs.1.congr rfl (by simp) rfl
  rw [xaAudioCodecCleanup, wp_bind, wp_xfResponse, wp_bind]
  refine hcomplete.wp_cancel fun sched hsched => ?_
  have hafter : XaUnscheduled (XaState.withSched { s with core := s.core.complete m.err }
      false sched) := ⟨hsched, rfl⟩
  refine Keeps.bind (keeps_input_unscheduled _) (fun _ => (keeps_output_unscheduled _).bind
    fun _ => Keeps.ite (fun _ => keeps_destroy_unscheduled) fun _ => ?_) _ hafter
  exact Keeps.modify fun _ hs => ⟨hs.1.congr rfl rfl rfl, hs.2⟩

lemma wp_dispatch_scheduled (hnot : ¬ XaCodecRestarts s m) (hs : XaScheduledOk s) :
    wp (xfCoreDispatch xaAudioCodec env m) (fun _ => XaScheduledOk) XaScheduledOk s := by
  rw [xfCoreDispatch, wp_bind, wp_get]
  cases hphase : s.phase with
  | running =>
    rw [wp_orElse]
    refine wp_mono (wp_command_scheduled hnot ⟨hs.1, hphase⟩) (fun _ t ht => ht.ok) fun t ht => ?_
    exact wp_mono (wp_cleanup_scheduled ht) (fun _ _ h => h.ok) fun _ h => h.ok
  | terminating =>
    have hun : XaUnscheduled s := ⟨hs.1, hs.2 (by simp [hphase])⟩
    refine wp_mono (Keeps.bind keeps_terminate_unscheduled (fun destroy => ?_) s hun)
      (fun _ _ h => h.ok) fun _ h => h.ok
    exact Keeps.ite (fun _ => keeps_destroy_unscheduled) fun _ => Keeps.pure _
  | destroyed =>
    have hun : XaUnscheduled s := ⟨hs.1, hs.2 (by simp [hphase])⟩
    exact XaUnscheduled.ok ⟨hun.1.congr rfl (by simp) rfl, hun.2⟩

/-- The process step of a codec that has been taken out of the scheduler. -/
lemma rules_scheduled : XaCodecProcessRules env XaScheduledRun XaScheduledRun where
  local_ := fun _ _ h hs => hs.congr h.task h.phase h.sched (by rw [h.base])
  stop := fun _ hs => hs
  fill := fun _ _ _ _ hs _ _ _ => hs.congr rfl rfl (by simp) rfl
  initDone := fun _ hs _ => hs.congr rfl rfl rfl rfl
  executeDone := fun _ hs _ _ => hs.congr rfl rfl rfl rfl
  consume := fun _ _ _ hs _ _ => hs.congr rfl rfl (by simp) rfl
  produce := fun _ _ _ _ hs _ => hs.congr rfl rfl (by simp) rfl
  flush := fun s hs _ _ => Keeps.bind (keeps_output_scheduled _) (fun _ =>
    Keeps.ite (fun _ => keeps_input_scheduled _) fun _ => Keeps.pure _) s hs
  schedule := fun s _ hs _ _ => keeps_xaBaseSchedule s hs

/-- Every event keeps the schedule flag in line with the tree, unless it restarts a completed stream
of a scheduled component. -/
lemma XaScheduledOk.step {e : XaEvent} (hs : XaScheduledOk s) (hallowed : e.Allowed s)
    (hnot : ∀ m, e.message s = some m → ¬ XaCodecRestarts s m)
    (hstep : xaStep xaAudioCodec s e = some s') : XaScheduledOk s' := by
  cases e with
  | command env m => exact Prog.after_of_wp (wp_dispatch_scheduled (hnot m rfl) hs) hstep
  | deliver env =>
    cases hback : s.core.back with
    | nil => simp [xaStep, hback] at hstep
    | cons m back =>
      simp only [xaStep, hback] at hstep
      refine Prog.after_of_wp (wp_dispatch_scheduled ?_ ?_) hstep
      · exact hnot m (by simp [XaEvent.message, hback])
      · exact ⟨hs.1.congr rfl rfl rfl, hs.2⟩
  | sinkReturn i length =>
    cases hget : s.core.sink[i]? with
    | none => simp [xaStep, hget] at hstep
    | some m =>
      simp only [xaStep, hget, Option.some.injEq] at hstep
      subst hstep
      exact ⟨hs.1.congr rfl rfl rfl, hs.2⟩
  | process env =>
    obtain ⟨⟨L, hL, hmem⟩, hphase⟩ := hs
    rcases hL.get with ⟨rfl, hget⟩ | ⟨n, rest, sched, rfl, hget, hrest, -, -⟩
    · simp [xaStep, hget] at hstep
    · have hnodup : n ∉ rest := (List.nodup_cons.1 hL.holds.nodup).1
      simp only [xaStep, hget] at hstep
      by_cases hn : n = s.task
      · rw [if_pos hn] at hstep
        have hflag : s.base.schedule = true := hmem.1 (by simp [hn])
        refine XaScheduledRun.ok (after_xfCoreProcess (I := XaScheduledRun) hstep fun hrunning =>
          rules_scheduled.wp_process ⟨⟨rest, hrest, ?_⟩, hrunning⟩)
        simpa [← hn] using hnodup
      · rw [if_neg hn, Option.some.injEq] at hstep
        subst hstep
        refine ⟨⟨rest, hrest, ?_⟩, hphase⟩
        rw [List.mem_cons] at hmem
        simpa [Ne.symm hn] using hmem
  | otherPut t ts =>
    obtain ⟨⟨L, hL, hmem⟩, hphase⟩ := hs
    obtain ⟨hne, hout⟩ := hallowed
    obtain ⟨sched, as, bs, hput, rfl, hshape, -⟩ := hL.put (hout L hL) ts
    simp only [xaStep, hput, Option.map_some, Option.some.injEq] at hstep
    subst hstep
    refine ⟨⟨_, hshape, ?_⟩, hphase⟩
    rw [List.mem_append] at hmem
    simpa [Ne.symm hne] using hmem
  | otherCancel t =>
    obtain ⟨⟨L, hL, hmem⟩, hphase⟩ := hs
    obtain ⟨hne, hin⟩ := hallowed
    obtain ⟨sched, hcancel, hshape, -⟩ := hL.cancel (hin L hL)
    simp only [xaStep, hcancel, Option.map_some, Option.some.injEq] at hstep
    subst hstep
    refine ⟨⟨_, hshape, ?_⟩, hphase⟩
    simp only [hL.holds.nodup.mem_erase_iff, Ne.symm hne, ne_eq, not_false_eq_true, true_and]
    exact hmem

/-- The condition on the events of a run: no command restarts a completed stream of a scheduled
component. -/
def XaCodecNoRestart (s : XaState XaCodec) (e : XaEvent) : Prop :=
  ∀ m ∈ e.message s, ¬ XaCodecRestarts s m

instance (s : XaState XaCodec) (e : XaEvent) : Decidable (XaCodecNoRestart s e) := by
  unfold XaCodecNoRestart
  infer_instance

/-- In every run of a codec in which no command restarts a completed stream while the component is
scheduled, its task is in the scheduler tree at most once, it is in there exactly if the schedule
flag is set, and it is not in there any more when the component has begun to terminate. -/
theorem xaAudioCodec_scheduled (task : U32) (item : U32 → XfMessage) (core : XfCore) (L : List U32)
    (hsched : XfSchedShape core.sched L) (htask : task ∉ L) (s : XaState XaCodec)
    (hrun : XaRun xaAudioCodec XaCodecNoRestart (xaAudioCodecFactory task item core) s) :
    ∃ L, XfSchedShape s.core.sched L ∧ L.Nodup ∧ (s.task ∈ L ↔ s.base.schedule = true) ∧
      (s.phase ≠ .running → s.task ∉ L) := by
  have hinv : XaScheduledOk s := by
    refine run_invariant XaScheduledOk ?_ ⟨⟨L, hsched, ?_⟩, fun h => absurd rfl h⟩ hrun
    · rintro s s' hs ⟨e, hallowed, hnot, hstep⟩
      exact hs.step hallowed hnot hstep
    · simp [xaAudioCodecFactory, htask]
  obtain ⟨⟨L, hL, hmem⟩, hphase⟩ := hinv
  refine ⟨L, hL, hL.holds.nodup, hmem, fun hne hin => ?_⟩
  have hflag := hmem.mp hin
  rw [hphase hne] at hflag
  cases hflag

/-- The set-up of a codec and the routing of its output port. -/
def xaSetupAndRoute : List XaEvent :=
  [.command .oneStep (.host 0 .setParam 0#16 0#32 0#32),
    .command .oneStep (.host 1 .route 1#16 16#32 256#32)]

/-- A codec that is routed is scheduled. -/
theorem xaAudioCodec_scheduled_route :
    ∃ s, XaRun xaAudioCodec XaCodecNoRestart xaAudioCodecSample s ∧
    s.base.schedule = true ∧ ∃ L, XfSchedShape s.core.sched L ∧ L.Nodup ∧
      (s.task ∈ L ↔ s.base.schedule = true) ∧ (s.phase ≠ .running → s.task ∉ L) := by
  obtain ⟨s, hrun, hflag⟩ := exists_of_xaRun xaAudioCodec XaCodecNoRestart xaAudioCodecSample
    xaSetupAndRoute (fun s => s.base.schedule) (b := true) (by decide +kernel)
  exact ⟨s, hrun, hflag,
    xaAudioCodec_scheduled 64#32 _ XfCore.sample [] (xfSchedShape_init _) (by simp) s hrun⟩

/-- The commands of a stream that runs to its end on an unrouted port, which is then routed. -/
def xaRouteAfterEnd : List XaEvent :=
  [.command .oneStep (.host 0 .setParam 0#16 0#32 0#32),
    .command .oneStep (.host 1 .emptyThisBuffer 0#16 4#32 64#32),
    .command .oneStep (.host 2 .fillThisBuffer 1#16 20#32 128#32),
    .process .oneStep,
    .command .oneStep (.host 3 .fillThisBuffer 1#16 4#32 192#32),
    .process .oneStep,
    .command .oneStep (.host 4 .route 1#16 16#32 256#32)]

/-- The port of a completed stream is routed, which schedules the component, and the next message of
the host restarts the stream: the schedule flag is gone while the task is in the tree. -/
theorem xaAudioCodec_scheduled_restart :
    ∃ s, XaRun xaAudioCodec (fun _ _ => True) xaAudioCodecSample s ∧
      ¬ ∃ L, XfSchedShape s.core.sched L ∧ (s.task ∈ L ↔ s.base.schedule = true) := by
  obtain ⟨s, hrun, hs⟩ := exists_of_xaRun xaAudioCodec (fun _ _ => True) xaAudioCodecSample
    (xaRouteAfterEnd ++ [.command .oneStep (.host 5 .emptyThisBuffer 0#16 4#32 64#32)])
    (fun s => (s.base.schedule, s.task, (xfSchedGet s.core.sched).bind Prod.snd))
    (b := (false, 64#32, some 64#32)) (by decide +kernel)
  obtain ⟨hflag, htask, hget⟩ : s.base.schedule = false ∧ s.task = 64#32 ∧
      (xfSchedGet s.core.sched).bind Prod.snd = some 64#32 := by simpa using hs
  refine ⟨s, hrun, fun ⟨L, hL, hmem⟩ => ?_⟩
  rcases hL.get with ⟨rfl, hnone⟩ | ⟨n, rest, sched, rfl, hsome, -⟩
  · simp [hnone] at hget
  · have hn : n = 64#32 := by simpa [hsome] using hget
    have := hmem.mp (by simp [htask, hn])
    simp [hflag] at this

end Codec

end Hikey
