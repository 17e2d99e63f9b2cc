import Hikey.Component.Codec

/-!
# Weakest preconditions of the operations of a component

For every operation that the programs of a component are built from: what holds afterwards.  What a
completed message does not touch is recorded as simp lemmas about `XfCore.complete`.
-/

namespace Hikey

open Prog

variable {κ : Type} {s : XaState κ} {Q : Unit → XaState κ → Prop} {E : XaState κ → Prop}
  {env : XaEnv} {core core' core'' : XfCore} {m : XfMessage} {ms ms' : List XfMessage}

/-! ## Completing messages -/

/-- The message belongs to the pool of a port. -/
def XfMessage.pooled (m : XfMessage) : Bool :=
  match m.ptr with
  | .proxy _ => false
  | .item _ _ => true

@[simp] lemma complete_sched : (core.complete m).sched = core.sched := by
  rw [XfCore.complete]
  split <;> rfl

@[simp] lemma foldl_complete_sched : (ms.foldl XfCore.complete core).sched = core.sched := by
  induction ms generalizing core with
  | nil => rfl
  | cons m ms ih => rw [List.foldl_cons, ih, complete_sched]

@[simp] lemma complete_back : (core.complete m).back = core.back := by
  rw [XfCore.complete]
  split <;> rfl

@[simp] lemma foldl_complete_back : (ms.foldl XfCore.complete core).back = core.back := by
  induction ms generalizing core with
  | nil => rfl
  | cons m ms ih => rw [List.foldl_cons, ih, complete_back]

@[simp] lemma complete_mem : (core.complete m).mem = core.mem := by
  rw [XfCore.complete]
  split <;> rfl

@[simp] lemma foldl_complete_mem : (ms.foldl XfCore.complete core).mem = core.mem := by
  induction ms generalizing core with
  | nil => rfl
  | cons m ms ih => rw [List.foldl_cons, ih, complete_mem]

@[simp] lemma complete_memPtr : (core.complete m).memPtr = core.memPtr := by
  rw [XfCore.complete]
  split <;> rfl

@[simp] lemma foldl_complete_memPtr : (ms.foldl XfCore.complete core).memPtr = core.memPtr := by
  induction ms generalizing core with
  | nil => rfl
  | cons m ms ih => rw [List.foldl_cons, ih, complete_memPtr]

/-- A completed message of the pool goes to the sink. -/
@[simp] lemma complete_sink :
    (core.complete m).sink = core.sink ++ if m.pooled then [m.turn] else [] := by
  rw [XfCore.complete, XfMessage.pooled]
  split <;> simp_all

@[simp] lemma foldl_complete_sink : (ms.foldl XfCore.complete core).sink =
    core.sink ++ (ms.filter XfMessage.pooled).map XfMessage.turn := by
  induction ms generalizing core with
  | nil => simp
  | cons m ms ih =>
    rw [List.foldl_cons, ih, complete_sink, List.filter_cons]
    cases m.pooled <;> simp

/-- Other completed messages go back to the proxy. -/
@[simp] lemma complete_proxy :
    (core.complete m).proxy = core.proxy ++ if m.pooled then [] else [m.swap] := by
  rw [XfCore.complete, XfMessage.pooled]
  split <;> simp_all

@[simp] lemma foldl_complete_proxy : (ms.foldl XfCore.complete core).proxy =
    core.proxy ++ (ms.filter fun m => !m.pooled).map XfMessage.swap := by
  induction ms generalizing core with
  | nil => simp
  | cons m ms ih =>
    rw [List.foldl_cons, ih, complete_proxy, List.filter_cons]
    cases m.pooled <;> simp

/-- The messages that are completed from one core to another. -/
def XfCore.Completes (core : XfCore) (ms : List XfMessage) (core' : XfCore) : Prop :=
  core'.sink = (ms.foldl XfCore.complete core).sink ∧
    core'.proxy = (ms.foldl XfCore.complete core).proxy

lemma XfCore.Completes.trans (h : core.Completes ms core') (h' : core'.Completes ms' core'') :
    core.Completes (ms ++ ms') core'' := by
  obtain ⟨hsink, hproxy⟩ := h
  obtain ⟨hsink', hproxy'⟩ := h'
  constructor
  · rw [hsink', foldl_complete_sink, hsink]
    simp
  · rw [hproxy', foldl_complete_proxy, hproxy]
    simp

/-! ## Operations of every component -/

@[simp] lemma wp_xfResponses : wp (xfResponses ms) Q E s ↔
    Q ⟨⟩ { s with core := ms.foldl XfCore.complete s.core } := Iff.rfl

@[simp] lemma wp_xfResponse : wp (xfResponse m) Q E s ↔
    Q ⟨⟩ { s with core := s.core.complete m } := Iff.rfl

@[simp] lemma wp_xaBaseModify {f : XaBaseState → XaBaseState} :
    wp (xaBaseModify f) Q E s ↔ Q ⟨⟩ { s with base := f s.base } := Iff.rfl

@[simp] lemma wp_xaExtModify {f : κ → κ} :
    wp (xaExtModify f) Q E s ↔ Q ⟨⟩ { s with ext := f s.ext } := Iff.rfl

@[simp] lemma wp_xaBaseDestroy : wp (xaBaseDestroy : XaProg κ Unit) Q E s ↔
    Q ⟨⟩ { s with phase := .destroyed } := Iff.rfl

@[simp] lemma wp_xaApi {cmd : XaApiCmd} {idx : U32} {Q : U32 → XaState κ → Prop} :
    wp (xaApi env cmd idx) Q E s ↔
      ((env.api cmd idx).fatal = false → Q (env.api cmd idx).value s) ∧
      ((env.api cmd idx).fatal = true → E s) := by
  simp [xaApi]

@[simp] lemma wp_xaSetMemPtr {idx ptr : U32} : wp (xaSetMemPtr env idx ptr) Q E s ↔
    ((env.api .setMemPtr idx).fatal = false → Q ⟨⟩ { s with
      core := { s.core with memPtr := Function.update s.core.memPtr idx ptr } }) ∧
    ((env.api .setMemPtr idx).fatal = true → E { s with
      core := { s.core with memPtr := Function.update s.core.memPtr idx ptr } }) := by
  simp [xaSetMemPtr]

/-- Scheduling touches the scheduler and the schedule flag only. -/
lemma wp_xaBaseSchedule_of {κ : Type} {s : XaState κ} {dts : U32} {Q : Unit → XaState κ → Prop}
    {E : XaState κ → Prop} (h : ∀ flag sched, Q () { s with
      base := { s.base with schedule := flag }
      core := { s.core with sched := sched } }) : wp (xaBaseSchedule dts) Q E s := by
  rw [xaBaseSchedule, wp_update]
  intro t a hres
  cases hflag : s.base.schedule with
  | true =>
    obtain ⟨rfl, rfl⟩ : s = t ∧ () = a := by simpa [hflag] using hres
    exact h s.base.schedule s.core.sched
  | false =>
    simp only [hflag, Bool.not_false, if_true, Option.map_eq_some_iff, Prod.mk.injEq] at hres
    obtain ⟨sched, -, rfl, -⟩ := hres
    exact h true sched

/-- And so does the cancelling. -/
lemma wp_xaBaseCancel_of {κ : Type} {s : XaState κ} {Q : Unit → XaState κ → Prop}
    {E : XaState κ → Prop} (h : ∀ flag sched, Q () { s with
      base := { s.base with schedule := flag }
      core := { s.core with sched := sched } }) : wp xaBaseCancel Q E s := by
  rw [xaBaseCancel, wp_update]
  intro t a hres
  cases hflag : s.base.schedule with
  | false =>
    obtain ⟨rfl, rfl⟩ : s = t ∧ () = a := by simpa [hflag] using hres
    exact h s.base.schedule s.core.sched
  | true =>
    simp only [hflag, if_true, Option.map_eq_some_iff, Prod.mk.injEq] at hres
    obtain ⟨sched, -, rfl, -⟩ := hres
    exact h false sched

/-- A program that keeps a condition returns with it, whatever happens on errors. -/
lemma wp_of_keeps {α κ : Type} {I I' : XaState κ → Prop} {x : XaProg κ α} {s : XaState κ}
    (hx : Keeps I x) (hs : I s) (h : ∀ t, I t → I' t) : wp x (fun _ => I') (fun _ => True) s :=
  wp_mono (hx s hs) (fun _ t ht => h t ht) fun _ _ => trivial

/-! ## Operations on the ports of a codec -/

section Codec

variable {s : XaState XaCodec} {Q : Unit → XaState XaCodec → Prop} {E : XaState XaCodec → Prop}

/-- The component with another input port, after the completion of messages. -/
def XaState.withInput (s : XaState XaCodec) (input : XfInputPort) (ms : List XfMessage) :
    XaState XaCodec :=
  { s with
    ext := { s.ext with input := input }
    core := ms.foldl XfCore.complete s.core }

/-- The component with another output port, after memory events and the completion of messages. -/
def XaState.withOutput (s : XaState XaCodec) (output : XfOutputPort) (mem : List XfMemEvent)
    (ms : List XfMessage) : XaState XaCodec :=
  { s with
    ext := { s.ext with output := output }
    core := ms.foldl XfCore.complete { s.core with mem := s.core.mem ++ mem } }

section Projections

variable (s : XaState XaCodec) (input : XfInputPort) (output : XfOutputPort)
  (mem : List XfMemEvent) (ms : List XfMessage)

@[simp] lemma withInput_task : (s.withInput input ms).task = s.task := rfl
@[simp] lemma withInput_phase : (s.withInput input ms).phase = s.phase := rfl
@[simp] lemma withInput_base : (s.withInput input ms).base = s.base := rfl
@[simp] lemma withInput_input : (s.withInput input ms).ext.input = input := rfl
@[simp] lemma withInput_output : (s.withInput input ms).ext.output = s.ext.output := rfl
@[simp] lemma withInput_outIdx : (s.withInput input ms).ext.outIdx = s.ext.outIdx := rfl
@[simp] lemma withInput_outputSetup :
    (s.withInput input ms).ext.outputSetup = s.ext.outputSetup := rfl
@[simp] lemma withInput_core :
    (s.withInput input ms).core = ms.foldl XfCore.complete s.core := rfl

@[simp] lemma withOutput_task : (s.withOutput output mem ms).task = s.task := rfl
@[simp] lemma withOutput_phase : (s.withOutput output mem ms).phase = s.phase := rfl
@[simp] lemma withOutput_base : (s.withOutput output mem ms).base = s.base := rfl
@[simp] lemma withOutput_input : (s.withOutput output mem ms).ext.input = s.ext.input := rfl
@[simp] lemma withOutput_output : (s.withOutput output mem ms).ext.output = output := rfl
@[simp] lemma withOutput_outIdx : (s.withOutput output mem ms).ext.outIdx = s.ext.outIdx := rfl
@[simp] lemma withOutput_outputSetup :
    (s.withOutput output mem ms).ext.outputSetup = s.ext.outputSetup := rfl
@[simp] lemma withOutput_core : (s.withOutput output mem ms).core =
    ms.foldl XfCore.complete { s.core with mem := s.core.mem ++ mem } := rfl

end Projections

lemma wp_xaCodecInput {α β : Type} {f : XfInputPort → Option β}
    {g : β → XfInputPort × List XfMessage × α} {Q : α → XaState XaCodec → Prop} :
    wp (xaCodecInput fun port => (f port).map g) Q E s ↔
      ∀ r, f s.ext.input = some r → Q (g r).2.2 (s.withInput (g r).1 (g r).2.1) := by
  simp only [xaCodecInput, wp_update, Option.map_map, Option.map_eq_some_iff]
  constructor
  · intro h r hf
    exact h _ _ ⟨r, hf, rfl⟩
  · rintro h t a ⟨r, hf, hr⟩
    obtain ⟨rfl, rfl⟩ := Prod.mk.inj hr
    exact h r hf

lemma wp_xaCodecOutput {α β : Type} {f : XfOutputPort → Option β}
    {g : β → XfOutputPort × List XfMemEvent × List XfMessage × α}
    {Q : α → XaState XaCodec → Prop} :
    wp (xaCodecOutput fun port => (f port).map g) Q E s ↔
      ∀ r, f s.ext.output = some r →
        Q (g r).2.2.2 (s.withOutput (g r).1 (g r).2.1 (g r).2.2.1) := by
  simp only [xaCodecOutput, wp_update, Option.map_map, Option.map_eq_some_iff]
  constructor
  · intro h r hf
    exact h _ _ ⟨r, hf, rfl⟩
  · rintro h t a ⟨r, hf, hr⟩
    obtain ⟨rfl, rfl⟩ := Prod.mk.inj hr
    exact h r hf

@[simp] lemma wp_xaCodecInputPut {Q : Bool → XaState XaCodec → Prop} :
    wp (xaCodecInputPut m) Q E s ↔
      Q (xfInputPortPut s.ext.input m).2.2
        (s.withInput (xfInputPortPut s.ext.input m).1 (xfInputPortPut s.ext.input m).2.1) :=
  Iff.rfl

@[simp] lemma wp_xaCodecInputPurge : wp xaCodecInputPurge Q E s ↔
    Q ⟨⟩ (s.withInput (xfInputPortPurge s.ext.input).1 (xfInputPortPurge s.ext.input).2) :=
  Iff.rfl

@[simp] lemma wp_xaCodecInputFill {mem : U32 → UInt8} {Q : Bool → XaState XaCodec → Prop} :
    wp (xaCodecInputFill mem) Q E s ↔ ∀ input ms full,
      xfInputPortFill mem s.ext.input = some (input, ms, full) → Q full (s.withInput input ms) := by
  have := wp_xaCodecInput (s := s) (E := E) (Q := Q) (f := xfInputPortFill mem) (g := id)
  simp only [Option.map_id_fun, id, Prod.forall] at this
  exact this

@[simp] lemma wp_xaCodecInputConsume {n : U32} : wp (xaCodecInputConsume n) Q E s ↔
    ∀ input ms, xfInputPortConsume s.ext.input n = some (input, ms) →
      Q ⟨⟩ (s.withInput input ms) := by
  rw [xaCodecInputConsume, wp_xaCodecInput]
  exact Prod.forall

@[simp] lemma wp_xaCodecInputControlSave : wp (xaCodecInputControlSave m) Q E s ↔
    Q ⟨⟩ (s.withInput (xfInputPortControlSave s.ext.input m) []) := Iff.rfl

@[simp] lemma wp_xaCodecInputPurgeDone : wp xaCodecInputPurgeDone Q E s ↔
    ∀ input m, xfInputPortPurgeDone s.ext.input = some (input, m) →
      Q ⟨⟩ (s.withInput input [m]) := by
  rw [xaCodecInputPurgeDone, wp_xaCodecInput]
  exact Prod.forall

@[simp] lemma wp_xaCodecOutputPut {Q : Bool → XaState XaCodec → Prop} :
    wp (xaCodecOutputPut m) Q E s ↔
      Q (xfOutputPortPut s.ext.output m).2
        (s.withOutput (xfOutputPortPut s.ext.output m).1 [] []) := Iff.rfl

@[simp] lemma wp_xaCodecOutputProduce {n : U32} : wp (xaCodecOutputProduce n) Q E s ↔
    ∀ output m, xfOutputPortProduce s.ext.output n = some (output, m) →
      Q ⟨⟩ (s.withOutput output [] [m]) := by
  rw [xaCodecOutputProduce, wp_xaCodecOutput]
  exact Prod.forall

@[simp] lemma wp_xaCodecOutputFlush {opcode : XfOpcode} {Q : Bool → XaState XaCodec → Prop} :
    wp (xaCodecOutputFlush opcode) Q E s ↔
      Q (xfOutputPortFlush s.ext.output opcode).2.2
        (s.withOutput (xfOutputPortFlush s.ext.output opcode).1 []
          (xfOutputPortFlush s.ext.output opcode).2.1) := Iff.rfl

@[simp] lemma wp_xaCodecOutputFlushDone : wp xaCodecOutputFlushDone Q E s ↔
    Q ⟨⟩ (s.withOutput (xfOutputPortFlushDone s.ext.output) [] []) := Iff.rfl

@[simp] lemma wp_xaCodecOutputRoute {id : XfMsgId} {n length : U32} {alloc : U32 → U32}
    {Q : Bool → XaState XaCodec → Prop} : wp (xaCodecOutputRoute id n length alloc) Q E s ↔
      ∀ output mem ok, xfOutputPortRoute s.ext.output id n length alloc = some (output, mem, ok) →
        Q ok (s.withOutput output mem []) := by
  rw [xaCodecOutputRoute, wp_xaCodecOutput]
  simp only [Prod.forall]

@[simp] lemma wp_xaCodecOutputUnroute : wp xaCodecOutputUnroute Q E s ↔
    ∀ output mem, xfOutputPortUnroute s.ext.output = some (output, mem) →
      Q ⟨⟩ (s.withOutput output mem []) := by
  rw [xaCodecOutputUnroute, wp_xaCodecOutput]
  exact Prod.forall

@[simp] lemma wp_xaCodecOutputUnrouteStart : wp (xaCodecOutputUnrouteStart m) Q E s ↔
    Q ⟨⟩ (s.withOutput (xfOutputPortUnrouteStart s.ext.output m) [] []) := Iff.rfl

@[simp] lemma wp_xaCodecOutputUnrouteDone : wp xaCodecOutputUnrouteDone Q E s ↔
    ∀ output mem m, xfOutputPortUnrouteDone s.ext.output = some (output, mem, m) →
      Q ⟨⟩ (s.withOutput output mem [m]) := by
  rw [xaCodecOutputUnrouteDone, wp_xaCodecOutput]
  simp only [Prod.forall]

@[simp] lemma wp_xaCodecOutputDestroy : wp xaCodecOutputDestroy Q E s ↔
    ∀ output mem, xfOutputPortDestroy s.ext.output = some (output, mem) →
      Q ⟨⟩ (s.withOutput output mem []) := by
  rw [xaCodecOutputDestroy, wp_xaCodecOutput]
  exact Prod.forall

end Codec

end Hikey
