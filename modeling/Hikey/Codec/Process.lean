import Hikey.Component.Loops
import Hikey.Component.System

/-!
# What the process step and the post-initialization of a codec can do

Two rules reduce a condition on a codec to the operations that change its ports and its stage.
Between them, a process step and the post-initialization change only the bookkeeping between the
class and the plugin (`XaCodecLocal`).
-/

namespace Hikey

open Prog

variable {s s' : XaState XaCodec} {I J : XaState XaCodec → Prop} {env : XaEnv} {m : XfMessage}

/-- Only the bookkeeping between the class and the plugin is different. -/
structure XaCodecLocal (s s' : XaState XaCodec) : Prop where
  task : s'.task = s.task
  phase : s'.phase = s.phase
  base : s'.base = s.base
  input : s'.ext.input = s.ext.input
  output : s'.ext.output = s.ext.output
  sched : s'.core.sched = s.core.sched
  sink : s'.core.sink = s.core.sink
  back : s'.core.back = s.core.back
  proxy : s'.core.proxy = s.core.proxy
  mem : s'.core.mem = s.core.mem

/-- The condition `J` is kept inside a process step, and `I` holds when the step is over. -/
structure XaCodecProcessRules (env : XaEnv) (J I : XaState XaCodec → Prop) : Prop where
  local_ : ∀ s s', XaCodecLocal s s' → J s → J s'
  stop : ∀ s, J s → I s
  fill : ∀ s input ms full, J s → s.ext.input.bypass = false → s.ext.input.done = false →
    xfInputPortFill env.mem s.ext.input = some (input, ms, full) → J (s.withInput input ms)
  initDone : ∀ s, J s → s.base.runtimeInit = true → J { s with
    base := { s.base with runtimeInit := !s.base.runtimeInit, execution := !s.base.execution } }
  executeDone : ∀ s, J s → s.base.runtimeInit = false → s.base.execution = true → J { s with
    base := { s.base with execution := !s.base.execution, completed := !s.base.completed } }
  consume : ∀ s input ms, J s → (env.api .getCuridxInputBuf s.ext.inIdx).value ≠ 0#32 →
    xfInputPortConsume s.ext.input (env.api .getCuridxInputBuf s.ext.inIdx).value =
      some (input, ms) → J (s.withInput input ms)
  produce : ∀ s n output m, J s → xfOutputPortProduce s.ext.output n = some (output, m) →
    J (s.withOutput output [] [m])
  flush : ∀ s, J s → s.base.runtimeInit = false → s.base.execution = false →
    wp (do if ← xaCodecOutputFlush .fillThisBuffer then xaCodecInputPurge else pure ())
      (fun _ => I) I s
  schedule : ∀ s dts, J s → s.ext.input.ready = true → s.ext.output.ready = true →
    wp (xaBaseSchedule dts) (fun _ => I) I s

namespace XaCodecProcessRules

variable (h : XaCodecProcessRules env J I)
include h

lemma keeps_ext {f : XaCodec → XaCodec} (hin : ∀ c, (f c).input = c.input)
    (hout : ∀ c, (f c).output = c.output) : Keeps J (xaExtModify f) :=
  Keeps.modify fun s hs =>
    h.local_ s _ ⟨rfl, rfl, rfl, hin _, hout _, rfl, rfl, rfl, rfl, rfl⟩ hs

lemma keeps_setMemPtr (idx ptr : U32) : Keeps J (xaSetMemPtr env idx ptr) :=
  Keeps.bind
    (Keeps.modify fun s hs => by
      exact h.local_ s _ ⟨rfl, rfl, rfl, rfl, rfl, rfl, rfl, rfl, rfl, rfl⟩ hs)
    fun _ => (keeps_xaApi _ _).bind fun _ => Keeps.pure _

lemma keeps_setupOutput : Keeps J (xaCodecSetupOutput env) :=
  Keeps.get.bind fun _ => Keeps.ite
    (fun _ => Keeps.ite (fun _ => Keeps.pure _) fun _ => (h.keeps_setMemPtr _ _).bind fun _ =>
      (h.keeps_ext (by intro; rfl) (by intro; rfl)).bind fun _ => Keeps.pure _)
    fun _ => Keeps.pure _

lemma keeps_filled : Keeps J (xaCodecFilled env) := by
  intro s hs
  simp only [xaCodecFilled, wp_bind, wp_get, wp_ite]
  refine ⟨fun _ => ⟨fun _ => ?_, fun _ => ⟨fun _ => hs, fun _ => hs⟩⟩, fun hbuf =>
    ⟨fun _ => hs, fun hdone => ?_⟩⟩
  · exact wp_mono (h.keeps_setMemPtr _ _ s hs) (fun _ t ht => ht) fun t ht => ht
  · rw [wp_xaCodecInputFill]
    intro input ms full hfill
    have := h.fill s input ms full hs (by simpa using hbuf) (by simpa using hdone) hfill
    rw [wp_ite]
    exact ⟨fun _ => this, fun _ => this⟩

lemma keeps_setupInput : Keeps J (xaCodecSetupInput env) := by
  refine Keeps.get.bind fun _ => Keeps.ite (fun _ => h.keeps_filled.bind fun filled => ?_)
    fun _ => Keeps.pure _
  cases filled with
  | none => exact Keeps.pure _
  | some n =>
    refine Keeps.get.bind fun _ => Keeps.bind (Keeps.ite (fun _ => ?_) fun _ => Keeps.pure _)
      fun _ => (keeps_xaApi _ _).bind fun _ =>
        (h.keeps_ext (by intro; rfl) (by intro; rfl)).bind fun _ => Keeps.pure _
    exact (keeps_xaApi _ _).bind fun _ => Keeps.pure _

lemma keeps_preprocess : Keeps J (xaCodecPreprocess env) :=
  h.keeps_setupOutput.bind fun _ => Keeps.ite (fun _ => h.keeps_setupInput) fun _ => Keeps.pure _

lemma keeps_execute : Keeps J (xaBaseExecute env : XaCodecProg U32) := by
  intro s hs
  simp only [xaBaseExecute, wp_bind, wp_get, wp_ite, wp_xaApi, wp_xaBaseModify, wp_pure]
  refine ⟨fun hrt => ⟨fun _ => ⟨fun _ => ⟨fun _ => h.initDone s hs hrt, fun _ => hs⟩, fun _ => hs⟩,
    fun _ => hs⟩, fun hrt => ⟨fun hex => ⟨fun _ => ⟨fun _ => ⟨fun _ =>
      h.executeDone s hs (by simpa using hrt) hex, fun _ => hs⟩, fun _ => hs⟩, fun _ => hs⟩,
    fun _ => hs⟩⟩

lemma keeps_produce (n : U32) : Keeps J (xaCodecOutputProduce n) := by
  intro s hs
  rw [wp_xaCodecOutputProduce]
  exact fun output m hres => h.produce s n output m hs hres

lemma keeps_prepareRuntime : Keeps J (xaCodecPrepareRuntime env) := by
  refine Keeps.get.bind fun _ => Keeps.bind
    (Keeps.ite (fun _ => Keeps.undefined) fun _ => Keeps.pure _) fun _ => ?_
  refine (keeps_xaApi _ _).bind fun _ => (keeps_xaApi _ _).bind fun _ =>
    (keeps_xaApi _ _).bind fun _ => (keeps_xaApi _ _).bind fun _ => (keeps_xaApi _ _).bind
      fun _ => (h.keeps_ext (by intro; rfl) (by intro; rfl)).bind fun _ => ?_
  refine Keeps.bind (Keeps.ite (fun _ => Keeps.undefined) fun _ => Keeps.pure _) fun _ => ?_
  exact (Keeps.check _).bind fun _ => (Keeps.check _).bind fun _ =>
    (h.keeps_ext (by intro; rfl) (by intro; rfl)).bind fun _ => h.keeps_produce _

/-- A program that keeps `J` ends with `I`. -/
lemma wp_of_keeps {α : Type} {x : XaCodecProg α} (hx : Keeps J x) {s : XaState XaCodec}
    (hs : J s) : wp x (fun _ => I) I s :=
  wp_mono (hx s hs) (fun _ t ht => h.stop t ht) fun t ht => h.stop t ht

/-- After a program that keeps `J` the rest of the step goes on with `J`. -/
lemma wp_bind_of_keeps {α β : Type} {x : XaCodecProg α} {f : α → XaCodecProg β}
    (hx : Keeps J x) {s : XaState XaCodec} (hs : J s)
    (hf : ∀ a t, J t → wp (f a) (fun _ => I) I t) : wp (x >>= f) (fun _ => I) I s := by
  rw [wp_bind]
  exact wp_mono (hx s hs) hf fun t ht => h.stop t ht

lemma wp_stageDone (hs : J s) : wp (xaCodecStageDone env) (fun _ => I) I s := by
  simp only [xaCodecStageDone, wp_bind (x := Prog.get), wp_get, wp_ite]
  refine ⟨fun _ => h.stop s hs, fun hrt => ⟨fun _ => ?_, fun hex => ?_⟩⟩
  · exact h.wp_of_keeps (h.keeps_prepareRuntime.bind fun _ =>
      h.keeps_ext (by intro; rfl) (by intro; rfl)) hs
  · exact h.flush s hs (by simpa using hrt) (by simpa using hex)

lemma keeps_producePart (produced : U32) : Keeps J (do
    xaExtModify fun c => { c with produced := c.produced + produced / c.sampleSize }
    xaCodecOutputProduce produced
    xaExtModify fun c => { c with outputSetup := !c.outputSetup } : XaCodecProg Unit) :=
  Keeps.bind (h.keeps_ext (by intro; rfl) (by intro; rfl)) fun _ =>
    (h.keeps_produce produced).bind fun _ => h.keeps_ext (by intro; rfl) (by intro; rfl)

lemma wp_postprocess (hs : J s) (done : U32) :
    wp (xaCodecPostprocess env done) (fun _ => I) I s := by
  simp only [xaCodecPostprocess, wp_bind (x := Prog.get), wp_get, wp_bind (x := xaApi _ _ _),
    wp_xaApi]
  refine ⟨fun _ => ?_, fun _ => h.stop s hs⟩
  rw [wp_bind]
  refine wp_mono (Q := fun _ t => t = s) (E := J) ?_ (fun produced t ht => ?_)
    fun t ht => h.stop t ht
  · rw [wp_ite, wp_xaApi, wp_pure]
    exact ⟨fun _ => ⟨fun _ => rfl, fun _ => hs⟩, fun _ => rfl⟩
  subst ht
  -- the bytes consumed
  rw [wp_bind]
  refine wp_mono (Q := fun _ => J) (E := J) ?_ (fun _ t ht => ?_) fun t ht => h.stop t ht
  · rw [wp_ite, wp_bind, wp_xaCodecInputConsume, wp_pure]
    refine ⟨fun hne input ms hres => ?_, fun _ => hs⟩
    exact h.keeps_ext (by intro; rfl) (by intro; rfl) _ (h.consume _ input ms hs hne hres)
  -- the bytes produced
  refine h.wp_bind_of_keeps (Keeps.ite (fun _ => h.keeps_producePart produced)
    fun _ => Keeps.pure _) ht fun _ t ht => ?_
  simp only [wp_ite, wp_bind (x := Prog.get), wp_get, wp_pure]
  refine ⟨fun _ => h.wp_stageDone ht, fun _ => ⟨fun hready => ?_, fun _ => h.stop t ht⟩⟩
  rw [Bool.and_eq_true] at hready
  exact h.schedule t _ ht hready.1 hready.2

/-- The condition `J` inside a process step. -/
theorem wp_process (hs : J { s with base := { s.base with schedule := false } }) :
    wp (xaBaseProcess xaCodecHooks env) (fun _ => I) I s := by
  simp only [xaBaseProcess, wp_bind (x := xaBaseModify _), wp_xaBaseModify]
  refine h.wp_bind_of_keeps h.keeps_preprocess hs fun ok t ht => ?_
  rw [wp_ite]
  exact ⟨fun _ => h.wp_bind_of_keeps h.keeps_execute ht fun done t ht => h.wp_postprocess ht done,
    fun _ => h.stop t ht⟩

end XaCodecProcessRules

/-- The post-initialization keeps a condition that the initialization of the ports keeps; it does
not set up the output. -/
lemma keeps_xaCodecMemtab
    (hlocal : ∀ s s', XaCodecLocal s s' → s'.ext.outputSetup = s.ext.outputSetup → J s → J s')
    (hin : ∀ s size block, J s →
      J (s.withInput (xfInputPortInit s.ext.input size block).1 []))
    (hout : ∀ s size, J s → J (s.withOutput (xfOutputPortInit s.ext.output size) [] []))
    (i : U32) : Keeps J (xaBaseMemtab xaCodecHooks env i) := by
  have hext {f : XaCodec → XaCodec} (hf : ∀ c, (f c).input = c.input)
      (hf' : ∀ c, (f c).output = c.output) (hset : ∀ c, (f c).outputSetup = c.outputSetup) :
      Keeps J (xaExtModify f) :=
    Keeps.modify fun s hs =>
      hlocal s _ ⟨rfl, rfl, rfl, hf _, hf' _, rfl, rfl, rfl, rfl, rfl⟩ (hset _) hs
  have hptr (idx ptr : U32) : Keeps J (xaSetMemPtr env idx ptr : XaCodecProg Unit) :=
    Keeps.bind
      (Keeps.modify fun s hs => by
        exact hlocal s _ ⟨rfl, rfl, rfl, rfl, rfl, rfl, rfl, rfl, rfl, rfl⟩ rfl hs)
      fun _ => (keeps_xaApi _ _).bind fun _ => Keeps.pure _
  refine (keeps_xaApi _ _).bind fun type => (keeps_xaApi _ _).bind fun size =>
    (keeps_xaApi _ _).bind fun align => Keeps.ite (fun _ => ?_) fun _ => Keeps.ite (fun _ => ?_)
      fun _ => Keeps.ite (fun _ => Keeps.ite (fun _ => ?_) fun _ => ?_) fun _ => Keeps.fail
  · exact (Keeps.check _).bind fun _ => (Keeps.check _).bind fun _ => hptr _ _
  · exact (Keeps.check _).bind fun _ => hptr _ _
  · refine Keeps.bind (fun s hs => hin s size _ hs) fun ok => (Keeps.check _).bind fun _ =>
      Keeps.bind (hext (by intro; rfl) (by intro; rfl) (by intro; rfl)) fun _ => ?_
    exact Keeps.ite (fun _ => (keeps_xaApi _ _).bind fun _ => Keeps.pure _) fun _ => Keeps.pure _
  · exact (Keeps.check _).bind fun _ => Keeps.bind (fun s hs => hout s size hs) fun _ =>
      hext (by intro; rfl) (by intro; rfl) (by intro; rfl)

lemma keeps_xaCodecGetparam (i id : U32) : Keeps I (xaCodecGetparam env i id) :=
  Keeps.ite (fun _ => Keeps.pure _) fun _ => (keeps_xaApi _ _).bind fun _ => Keeps.pure _

lemma keeps_xaCodecInput {α : Type} (hI : ∀ s input ms, I s → I (s.withInput input ms))
    (f : XfInputPort → Option (XfInputPort × List XfMessage × α)) : Keeps I (xaCodecInput f) := by
  intro s hs
  have := wp_xaCodecInput (s := s) (E := I) (Q := fun _ => I) (f := f) (g := id)
  simp only [Option.map_id_fun, id] at this
  rw [this]
  exact fun r _ => hI s r.1 r.2.1 hs

lemma keeps_xaCodecOutput {α : Type} (hI : ∀ s output mem ms, I s → I (s.withOutput output mem ms))
    (f : XfOutputPort → Option (XfOutputPort × List XfMemEvent × List XfMessage × α)) :
    Keeps I (xaCodecOutput f) := by
  intro s hs
  have := wp_xaCodecOutput (s := s) (E := I) (Q := fun _ => I) (f := f) (g := id)
  simp only [Option.map_id_fun, id] at this
  rw [this]
  exact fun r _ => hI s r.1 r.2.1 r.2.2.1 hs

end Hikey
