import Hikey.Codec.Pcm

/-!
# The counts of a PCM codec between its steps

The commands put messages into the input port and purge it; what the plugin has consumed does not
change.
-/

namespace Hikey

open Prog XfInputPort

variable {s t : XaState XaPcmCodec} {u v : XaState XaCodec} {env : XaEnv} {m : XfMessage}

/-! ## The condition on the events -/

/-- The answers of the plugin to the post-initialization. -/
def XaEnv.IsPcmTable (env : XaEnv) : Prop :=
  env.api .getNMemtabs 0#32 = ⟨false, 2#32⟩ ∧
  env.api .getMemInfoType 0#32 = ⟨false, 2#32⟩ ∧ env.api .getMemInfoSize 0#32 = ⟨false, 0#32⟩ ∧
  env.api .getMemInfoType 1#32 = ⟨false, 3#32⟩

/-- The answers of the plugin to the calls of the base in a process step. -/
def XaEnv.IsPcm (env : XaEnv) (s : XaState XaPcmCodec) : Prop :=
  env.api .initProcess 0#32 = ⟨false, 0#32⟩ ∧ env.api .initDoneQuery 0#32 = ⟨false, 1#32⟩ ∧
  env.api .doExecute 0#32 = ⟨false, 0#32⟩ ∧
  match xaPcmPreprocess env s with
  | .ok true t => env.api .doneQuery 0#32 = ⟨false, if t.ext.pcm.complete then 1#32 else 0#32⟩
  | _ => True

/-- The component is the next one to be processed. -/
def XaPcmNext (s : XaState XaPcmCodec) : Prop :=
  s.phase = .running ∧ (xfSchedGet s.core.sched).map Prod.snd = some (some s.task)

/-- The process step of the component is executed, and the plugin processes no samples in it: there
is no input, or the stream has been completed before. -/
def XaPcmIdle (s : XaState XaPcmCodec) : Prop :=
  s.base.runtimeInit = false ∧
    (s.ext.codec.outputSetup = true ∨ xfOutputPortData s.ext.codec.output ≠ 0#32) ∧
    if s.ext.codec.inputSetup = true then s.base.execution = true → s.ext.pcm.insize = 0#32
    else if s.ext.codec.input.access ≠ 0#32 then
      s.base.execution = true → s.ext.codec.input.remaining = 0#32
    else s.ext.codec.input.done = true

/-- The messages of an input stream: messages with data have a buffer, the input is not flushed, and
the flow-control message at the end of a stream follows the completion of the stream. -/
def XaPcmMessage (s : XaState XaPcmCodec) (m : XfMessage) : Prop :=
  (m.opcode = .emptyThisBuffer → m.length ≠ 0#32 → m.buffer ≠ 0#32) ∧
  (m.opcode = .flush → m.dstPort ≠ 0#16 ∧
    (s.ext.codec.output.routed = true → s.ext.codec.output.unrouting = true)) ∧
  (m.opcode = .fillThisBuffer → s.ext.codec.output.isControl m = true → s.base.execution = false)

/-- The events of the streams of a PCM codec. -/
def XaPcmStream (s : XaState XaPcmCodec) (e : XaEvent) : Prop :=
  (∀ m ∈ e.message s, XaPcmMessage s m) ∧
    match e with
    | .command env _ => env.IsPcmTable
    | .deliver env => env.IsPcmTable
    | .process env => XaPcmNext s → env.IsPcm s
    | _ => True

/-- The events of streams in which no step without samples follows one with samples. -/
def XaPcmCounts (s : XaState XaPcmCodec) (e : XaEvent) : Prop :=
  XaPcmStream s e ∧
    match e with
    | .process _ =>
      XaPcmNext s → XaPcmIdle s → s.ext.pcm.consumed = 0#32 ∧ s.ext.pcm.produced = 0#32
    | _ => True

section Decidable

instance (env : XaEnv) (s : XaState XaPcmCodec) : Decidable (env.IsPcm s) := by
  unfold XaEnv.IsPcm
  cases xaPcmPreprocess env s with
  | ok b t => cases b <;> infer_instance
  | error t => infer_instance
  | undefined => infer_instance

instance (s : XaState XaPcmCodec) (e : XaEvent) : Decidable (XaPcmStream s e) := by
  unfold XaPcmStream XaPcmMessage XaPcmNext XaEnv.IsPcmTable
  match e with
  | .command .. | .deliver .. | .sinkReturn .. | .process .. | .otherPut .. | .otherCancel .. =>
    infer_instance

instance (s : XaState XaPcmCodec) (e : XaEvent) : Decidable (XaPcmCounts s e) := by
  unfold XaPcmCounts XaPcmNext XaPcmIdle
  match e with
  | .command .. | .deliver .. | .sinkReturn .. | .process .. | .otherPut .. | .otherCancel .. =>
    infer_instance

end Decidable

/-! ## The invariant -/

/-- A report of a step that consumes no more than the rest of the current message, and nothing when
it has no samples. -/
def XaPcmReport.Ok (r : XaPcmReport) : Prop :=
  r.consumed.toNat ≤ r.remaining.toNat ∧
    (r.samples = 0#32 → r.consumed = 0#32 ∧ r.produced = 0#32)

/-- While the stream is not completed, an input that is set up is a part of the current message. -/
def XaPcmSetup (s : XaState XaPcmCodec) : Prop :=
  s.base.runtimeInit = true ∨ s.base.execution = true → s.ext.codec.inputSetup = true →
    s.ext.pcm.insize.toNat ≤ 1024 ∧
    s.ext.pcm.insize.toNat * s.ext.pcm.config.inStride.toNat ≤ s.ext.codec.input.remaining.toNat ∧
    (s.ext.pcm.insize ≠ 0#32 → s.ext.codec.input.queue ≠ [])

/-- The bytes delivered are those consumed and those pending. -/
structure XaPcmOk (s : XaState XaPcmCodec) : Prop where
  initial : s.base.postinit = false → s.base.runtimeInit = false ∧ s.base.execution = false ∧
    s.ext.codec.inputSetup = false ∧ s.ext.codec.input.queue = []
  fresh : s.base.postinit = false ∨ s.base.runtimeInit = true →
    s.ext.pcm.consumed = 0#32 ∧ s.ext.pcm.produced = 0#32
  port : XaPcmPort s.ext.codec.input
  setup : XaPcmSetup s
  delivered : s.ext.delivered = s.ext.consumed + s.ext.codec.input.pending
  reports : ∀ r ∈ s.ext.reports, r.Ok

/-- The part of the codec class that the counts depend on is the same. -/
structure XaCodecInputSame (u v : XaState XaCodec) : Prop where
  postinit : v.base.postinit = u.base.postinit
  runtimeInit : v.base.runtimeInit = u.base.runtimeInit
  execution : v.base.execution = u.base.execution
  input : v.ext.input = u.ext.input
  inputSetup : v.ext.inputSetup = u.ext.inputSetup

lemma XaCodecInputSame.refl (u : XaState XaCodec) : XaCodecInputSame u u :=
  ⟨rfl, rfl, rfl, rfl, rfl⟩

@[simp] lemma codec_withCodec : (s.withCodec u).codec = u := rfl

lemma XaPcmOk.congr (h : XaPcmOk s) (hsame : XaCodecInputSame s.codec t.codec)
    (hpcm : t.ext.pcm.consumed = s.ext.pcm.consumed ∧ t.ext.pcm.produced = s.ext.pcm.produced ∧
      t.ext.pcm.insize = s.ext.pcm.insize ∧ t.ext.pcm.config = s.ext.pcm.config)
    (hdelivered : t.ext.delivered = s.ext.delivered) (hconsumed : t.ext.consumed = s.ext.consumed)
    (hreports : t.ext.reports = s.ext.reports) : XaPcmOk t := by
  have hpost : t.base.postinit = s.base.postinit := hsame.postinit
  have hinit : t.base.runtimeInit = s.base.runtimeInit := hsame.runtimeInit
  have hexec : t.base.execution = s.base.execution := hsame.execution
  have hinput : t.ext.codec.input = s.ext.codec.input := hsame.input
  have hsetup : t.ext.codec.inputSetup = s.ext.codec.inputSetup := hsame.inputSetup
  obtain ⟨hc, hp, hi, hconfig⟩ := hpcm
  refine ⟨?_, ?_, ?_, ?_, ?_, ?_⟩
  · rw [hpost, hinit, hexec, hsetup, hinput]
    exact h.initial
  · rw [hpost, hinit, hc, hp]
    exact h.fresh
  · rw [hinput]
    exact h.port
  · unfold XaPcmSetup
    rw [hinit, hexec, hsetup, hinput, hi, hconfig]
    exact h.setup
  · rw [hdelivered, hconsumed, hinput]
    exact h.delivered
  · rw [hreports]
    exact h.reports

/-! ## Programs of the codec class that leave the input alone -/

section Same

lemma keeps_output_same {α : Type}
    (f : XfOutputPort → Option (XfOutputPort × List XfMemEvent × List XfMessage × α)) :
    Keeps (XaCodecInputSame u) (xaCodecOutput f) :=
  keeps_xaCodecOutput (fun _ _ _ _ h => ⟨h.1, h.2, h.3, h.4, h.5⟩) f

lemma keeps_xfResponse_same (m : XfMessage) :
    Keeps (XaCodecInputSame u) (xfResponse m : XaCodecProg Unit) :=
  fun _ h => ⟨h.1, h.2, h.3, h.4, h.5⟩

lemma keepsResponse_same (m : XfMessage) : KeepsResponse (XaCodecInputSame u) m :=
  fun _ _ _ _ => keeps_xfResponse_same _

lemma keeps_xaBaseSchedule_same (dts : U32) :
    Keeps (XaCodecInputSame u) (xaBaseSchedule dts : XaCodecProg Unit) :=
  fun _ h => wp_xaBaseSchedule_of fun _ _ => ⟨h.1, h.2, h.3, h.4, h.5⟩

lemma keeps_xaBaseCancel_same : Keeps (XaCodecInputSame u) (xaBaseCancel : XaCodecProg Unit) :=
  fun _ h => wp_xaBaseCancel_of fun _ _ => ⟨h.1, h.2, h.3, h.4, h.5⟩

lemma keeps_ext_same {f : XaCodec → XaCodec} (hinput : ∀ c, (f c).input = c.input)
    (hsetup : ∀ c, (f c).inputSetup = c.inputSetup) :
    Keeps (XaCodecInputSame u) (xaExtModify f) :=
  Keeps.modify fun _ h => ⟨h.1, h.2, h.3, (hinput _).trans h.4, (hsetup _).trans h.5⟩

lemma keeps_fillOutput_same : Keeps (XaCodecInputSame u) (xaCodecFillOutput m) :=
  Keeps.get.bind fun _ => (keeps_output_same _).bind fun _ =>
    Keeps.ite (fun _ => keeps_xaBaseSchedule_same _) fun _ => Keeps.pure _

lemma keeps_portRoute_same : Keeps (XaCodecInputSame u) (xaCodecPortRoute env m) :=
  Keeps.get.bind fun _ => (Keeps.check _).bind fun _ => (Keeps.check _).bind fun _ =>
    (Keeps.check _).bind fun _ => (keeps_output_same _).bind fun _ => (Keeps.check _).bind fun _ =>
      (keeps_xaBaseSchedule_same _).bind fun _ => keeps_xfResponse_same _

lemma keeps_portUnroute_same : Keeps (XaCodecInputSame u) (xaCodecPortUnroute env m) := by
  refine Keeps.get.bind fun _ => (Keeps.check _).bind fun _ => (Keeps.check _).bind fun _ =>
    keeps_xaBaseCancel_same.bind fun _ => Keeps.bind
      (keeps_ext_same (by intro; rfl) (by intro; rfl)) fun _ => (keeps_output_same _).bind fun _ =>
        Keeps.ite (fun _ => ?_) fun _ => keeps_output_same _
  exact (keeps_output_same _).bind fun _ => keeps_xfResponse_same _

end Same

/-- Such a program keeps the counts. -/
lemma wp_xaPcmCodec_same {α : Type} {x : XaCodecProg α}
    (hx : ∀ u, Keeps (XaCodecInputSame u) x) (hs : XaPcmOk s) :
    wp (xaPcmCodec x) (fun _ => XaPcmOk) XaPcmOk s := by
  rw [xaPcmCodec, wp_zoom]
  refine wp_mono (hx s.codec s.codec (.refl _)) (fun _ v hv => ?_) fun v hv => ?_
  · exact hs.congr hv ⟨rfl, rfl, rfl, rfl⟩ rfl rfl rfl
  · exact hs.congr hv ⟨rfl, rfl, rfl, rfl⟩ rfl rfl rfl

lemma keeps_xaPcmCodec_same {α : Type} {x : XaCodecProg α}
    (hx : ∀ u, Keeps (XaCodecInputSame u) x) : Keeps XaPcmOk (xaPcmCodec x) :=
  fun _ hs => wp_xaPcmCodec_same hx hs

/-! ## The commands -/

lemma keepsResponse_pcm (m : XfMessage) : KeepsResponse XaPcmOk m :=
  fun _ _ _ _ _ hs => hs.congr ⟨rfl, rfl, rfl, rfl, rfl⟩ ⟨rfl, rfl, rfl, rfl⟩ rfl rfl rfl

/-- A component with an empty input port, from which nothing has been consumed. -/
lemma XaPcmOk.initialized (h : XaPcmOk s) (hpost : s.base.postinit = false) {input : XfInputPort}
    (hq : input.queue = []) (hport : XaPcmPort input) (c : XaCodec)
    (hc : c.input = input ∧ c.inputSetup = false) :
    XaPcmOk { s with ext := { s.ext with codec := c } } := by
  obtain ⟨hinit, hexec, -, hqueue⟩ := h.initial hpost
  obtain ⟨hinput, hsetup⟩ := hc
  refine ⟨fun _ => ⟨hinit, hexec, hsetup, by simp [hinput, hq]⟩, h.fresh, ?_, fun _ hset => ?_, ?_,
    h.reports⟩
  · simpa [hinput] using hport
  · simp [hsetup] at hset
  · have := h.delivered
    rw [pending_of_queue_nil hqueue] at this
    simp only [hinput, pending_of_queue_nil hq]
    exact this

lemma keeps_memtab_pcm {idx type : U32} {size : U32} (hsize : type = 2#32 → size = 0#32) :
    Keeps (fun s => XaPcmOk s ∧ s.base.postinit = false)
      (xaPcmHooks.memtab env idx type size) := by
  rintro s ⟨hs, hpost⟩
  obtain ⟨-, -, hsetup, hqueue⟩ := hs.initial hpost
  change wp (Prog.zoom _ _ (xaCodecMemtab env idx type size)) _ _ s
  rw [wp_zoom, xaCodecMemtab, wp_ite]
  refine ⟨fun htype => ?_, fun _ => ?_⟩
  · -- the input port, in bypass mode
    obtain rfl := hsize htype
    have hport : XaPcmPort (xfInputPortInit s.ext.codec.input 0#32 (env.block idx)).1 := by
      simp only [xfInputPortInit]
      exact xaPcmPort_of_queue_nil rfl (.inl rfl) rfl rfl rfl rfl
    rw [wp_bind]
    simp only [xaCodecInput, wp_update, Option.map_some, Option.some.injEq, Prod.mk.injEq, wp_bind,
      wp_check, wp_xaExtModify, wp_ite, wp_pure]
    rintro t ok ⟨rfl, rfl⟩
    have hok (i : U32) := hs.initialized hpost rfl hport
      { s.ext.codec with
        input := (xfInputPortInit s.ext.codec.input 0#32 (env.block idx)).1, inIdx := i }
      ⟨rfl, hsetup⟩
    refine ⟨fun _ => ⟨fun hne => absurd rfl hne, fun _ => ⟨hok idx, hpost⟩⟩, fun _ => ?_⟩
    exact ⟨hok s.ext.codec.inIdx, hpost⟩
  · simp only [xaCodecOutput, wp_update, Option.map_some, Option.some.injEq, Prod.mk.injEq, wp_bind,
      wp_check, wp_xaExtModify]
    refine ⟨fun _ t a hres => ?_, fun _ => ⟨hs.congr ⟨rfl, rfl, rfl, rfl, rfl⟩
      ⟨rfl, rfl, rfl, rfl⟩ rfl rfl rfl, hpost⟩⟩
    obtain ⟨rfl, -⟩ := hres
    exact ⟨hs.congr ⟨rfl, rfl, rfl, rfl, rfl⟩ ⟨rfl, rfl, rfl, rfl⟩ rfl rfl rfl, hpost⟩

lemma keeps_setParam_pcm (htable : env.IsPcmTable) :
    Keeps XaPcmOk (xaBaseSetParam xaPcmHooks env m) := by
  obtain ⟨hn, htype, hsize, htype'⟩ := htable
  have hptr (idx ptr : U32) : Keeps (fun s => XaPcmOk s ∧ s.base.postinit = false)
      (xaSetMemPtr env idx ptr) := by
    refine Keeps.bind (Keeps.modify fun s hs => ⟨?_, hs.2⟩) fun _ =>
      (keeps_xaApi _ _).bind fun _ => Keeps.pure _
    exact hs.1.congr ⟨rfl, rfl, rfl, rfl, rfl⟩ ⟨rfl, rfl, rfl, rfl⟩ rfl rfl rfl
  have htab (i : U32) (hi : (env.api .getMemInfoType i).value = 2#32 →
      (env.api .getMemInfoSize i).value = 0#32) :
      Keeps (fun s => XaPcmOk s ∧ s.base.postinit = false) (xaBaseMemtab xaPcmHooks env i) := by
    intro s hs
    rw [xaBaseMemtab]
    simp only [wp_bind (x := xaApi _ _ _), wp_xaApi]
    refine ⟨fun _ => ⟨fun _ => ⟨fun _ => ?_, fun _ => hs⟩, fun _ => hs⟩, fun _ => hs⟩
    refine Keeps.ite (fun _ => ?_)
      (fun _ => Keeps.ite (fun _ => ?_) fun _ => Keeps.ite (fun _ => ?_)
      fun _ => Keeps.fail) s hs
    · exact (Keeps.check _).bind fun _ => (Keeps.check _).bind fun _ => hptr _ _
    · exact (Keeps.check _).bind fun _ => hptr _ _
    · exact keeps_memtab_pcm hi
  refine keeps_xaBaseSetParam_of (J := fun s => XaPcmOk s ∧ s.base.postinit = false)
    (fun s hs hpost => ⟨hs, hpost⟩) (fun _ h => h.1) ?_ (fun s hs => ?_) (keepsResponse_pcm m)
  · intro s hs
    rw [xaBasePostinit]
    simp only [wp_bind (x := xaApi _ _ _), wp_xaApi]
    refine ⟨fun _ => ⟨fun _ => ?_, fun _ => hs⟩, fun _ => hs⟩
    rw [hn]
    refine (Keeps.bind (htab 0#32 fun _ => by rw [hsize]) fun _ => Keeps.bind (htab 1#32 ?_)
      fun _ => Keeps.pure _) s hs
    intro h
    rw [htype'] at h
    simp at h
  · obtain ⟨hok, hpost⟩ := hs
    obtain ⟨hinit, hexec, hsetup, hqueue⟩ := hok.initial hpost
    refine ⟨fun h => ?_, fun _ => hok.fresh (.inl hpost), hok.port, fun _ hset => ?_, hok.delivered,
      hok.reports⟩
    · simp [hpost] at h
    · simp [hsetup] at hset

/-- The stream ends when the input is purged. -/
lemma XaPcmOk.purged {input : XfInputPort} (hpost : s.base.postinit = true)
    (hfresh : s.base.runtimeInit = true → s.ext.pcm.consumed = 0#32 ∧ s.ext.pcm.produced = 0#32)
    (hport : XaPcmPort input) (hq : input.queue = []) (hinput : s.ext.codec.input = input)
    (hsetup : XaPcmSetup s) (hdelivered : s.ext.delivered = 0) (hconsumed : s.ext.consumed = 0)
    (hreports : ∀ r ∈ s.ext.reports, r.Ok) : XaPcmOk s where
  initial h := by simp [hpost] at h
  fresh h := by
    rcases h with h | h
    · simp [hpost] at h
    · exact hfresh h
  port := by
    rw [hinput]
    exact hport
  setup := hsetup
  delivered := by rw [hinput, pending_of_queue_nil hq, hdelivered, hconsumed]
  reports := hreports

lemma wp_emptyThisBuffer_pcm (hm : m.length ≠ 0#32 → m.buffer ≠ 0#32) (hs : XaPcmOk s) :
    wp (xaPcmEmptyThisBuffer env m) (fun _ => XaPcmOk) (fun _ => True) s := by
  -- the codec class puts the message into the port, and may restart the stream
  have hcodec : wp (xaCodecEmptyThisBuffer (s.ext.pcm.answers env) m)
      (fun _ v => s.base.postinit = true ∧ v.base.postinit = true ∧
        (v.base.runtimeInit = true → s.base.runtimeInit = true) ∧
        v.ext.input = (xfInputPortPut s.ext.codec.input m).1 ∧
        (v.ext.inputSetup = true → s.ext.codec.inputSetup = true ∧
          v.base.runtimeInit = s.base.runtimeInit ∧ v.base.execution = s.base.execution))
      (fun _ => True) s.codec := by
    simp only [xaCodecEmptyThisBuffer, wp_bind, wp_check, wp_get, wp_xaCodecInputPut, wp_ite,
      wp_xaBaseModify, wp_xaExtModify, wp_xaApi, wp_pure]
    refine ⟨fun _ => ⟨fun hpost => ⟨fun _ => ⟨fun _ => ⟨fun _ => ⟨fun _ => ⟨fun _ => ?_,
      fun _ => ?_⟩, fun _ => trivial⟩, fun _ => trivial⟩, fun _ => ⟨fun _ => ⟨fun _ => ?_,
      fun _ => ?_⟩, fun _ => trivial⟩⟩, fun _ => ?_⟩, fun _ => trivial⟩, fun _ => trivial⟩
    · exact wp_xaBaseSchedule_of fun _ _ => ⟨hpost, rfl, fun h => by simp at h, rfl,
        fun h => by simp at h⟩
    · exact ⟨hpost, trivial, fun h => by simp at h, rfl, fun h => by simp at h⟩
    · exact wp_xaBaseSchedule_of fun _ _ => ⟨hpost, hpost, fun h => h, rfl,
        fun h => ⟨h, rfl, rfl⟩⟩
    all_goals exact ⟨hpost, hpost, fun h => h, rfl, fun h => ⟨h, rfl, rfl⟩⟩
  rw [xaPcmEmptyThisBuffer, wp_bind, wp_get, wp_bind, xaPcmCodec, wp_zoom]
  refine wp_mono hcodec (fun _ v hv => ?_) fun _ _ => trivial
  obtain ⟨hspost, hpost, hinit, hinput, hsetup⟩ := hv
  -- the plugin does not count
  rw [wp_bind, wp_get, wp_bind]
  refine wp_mono (Q := fun _ t => t.base = v.base ∧ t.ext.codec = v.ext ∧
    t.ext.pcm.consumed = s.ext.pcm.consumed ∧ t.ext.pcm.produced = s.ext.pcm.produced ∧
    t.ext.pcm.insize = s.ext.pcm.insize ∧ t.ext.pcm.config = s.ext.pcm.config ∧
    t.ext.delivered = s.ext.delivered ∧ t.ext.consumed = s.ext.consumed ∧
    t.ext.reports = s.ext.reports) (E := fun _ => True) ?_ (fun _ t ht => ?_) fun _ h => h
  · rw [wp_ite]
    exact ⟨fun _ => ⟨rfl, rfl, rfl, rfl, rfl, rfl, rfl, rfl, rfl⟩,
      fun _ => ⟨rfl, rfl, rfl, rfl, rfl, rfl, rfl, rfl, rfl⟩⟩
  obtain ⟨hbase, hcodec, hc, hp, hi, hconfig, hdelivered, hconsumed, hreports⟩ := ht
  have hok {input : XfInputPort} {d : ℕ} (hport : XaPcmPort input)
      (hset : s.ext.codec.input.queue ≠ [] →
        input.queue ≠ [] ∧ input.remaining = s.ext.codec.input.remaining)
      (hput : v.ext.input = input)
      (hd : t.ext.delivered + d = t.ext.consumed + input.pending) :
      XaPcmOk { t with ext := { t.ext with delivered := t.ext.delivered + d } } := by
    refine ⟨fun h => ?_, fun h => ?_, ?_, fun hstage hset' => ?_, ?_, ?_⟩
    · simp [hbase, hpost] at h
    · simp only [hc, hp]
      refine hs.fresh (.inr (hinit ?_))
      simpa [hbase, hpost] using h
    · simpa [hcodec, hput] using hport
    · have hset' : v.ext.inputSetup = true := by simpa [hcodec] using hset'
      obtain ⟨hset', hinit', hexec'⟩ := hsetup hset'
      obtain ⟨hmax, hle, hne⟩ := hs.setup (by simpa [hbase, hinit', hexec'] using hstage) hset'
      simp only [hi, hconfig, hcodec, hput]
      refine ⟨hmax, ?_, fun h => (hset (hne h)).1⟩
      by_cases hzero : s.ext.pcm.insize = 0#32
      · simp [hzero]
      · rw [(hset (hne hzero)).2]
        exact hle
    · simpa [hcodec, hput] using hd
    · simpa [hreports] using hs.reports
  rw [wp_ite]
  refine ⟨fun hen => ?_, fun hen => ?_⟩
  · obtain ⟨hport, hpending, hremaining, hq⟩ := hs.port.put (m := m) hen hm
    refine hok hport (fun hne => ⟨hq, hremaining hne⟩) hinput ?_
    rw [hdelivered, hconsumed, hpending, hs.delivered, Nat.add_assoc]
  · -- the message is rejected
    have hput : (xfInputPortPut s.ext.codec.input m).1 = s.ext.codec.input := by
      simp [xfInputPortPut, hen]
    refine hok (d := 0) hs.port (fun hne => ⟨hne, rfl⟩) (hinput.trans hput) ?_
    rw [hdelivered, hconsumed, Nat.add_zero, hs.delivered]

lemma wp_fillThisBuffer_pcm
    (hcontrol : s.ext.codec.output.isControl m = true → s.base.execution = false)
    (hs : XaPcmOk s) : wp (xaPcmFillThisBuffer env m) (fun _ => XaPcmOk) (fun _ => True) s := by
  rw [xaPcmFillThisBuffer, wp_bind, wp_get, wp_bind, xaPcmCodec, wp_zoom]
  have hkeep (v : XaState XaCodec) (hv : XaCodecInputSame s.codec v) : XaPcmOk (s.withCodec v) :=
    hs.congr hv ⟨rfl, rfl, rfl, rfl⟩ rfl rfl rfl
  simp only [xaCodecFillThisBuffer, wp_bind (x := Prog.check _), wp_check, wp_bind (x := Prog.get),
    wp_get, wp_ite]
  refine ⟨fun _ => ⟨fun hpost => ⟨fun hinit => ?_, fun hinit => ⟨fun hctl => ?_,
    fun hctl => ⟨fun _ => ?_, fun _ => ?_⟩⟩⟩, fun _ => trivial⟩, fun _ => trivial⟩
  · refine wp_mono (keeps_fillOutput_same s.codec (.refl _)) (fun _ v hv => ?_) fun _ _ => trivial
    have hinit : s.base.runtimeInit = true := hinit
    exact ⟨fun h => by simp [hinit] at h, fun _ => hkeep v hv⟩
  · -- the flow-control message
    have hinit : s.base.runtimeInit = false := Bool.eq_false_iff.mpr hinit
    have hexec := hcontrol hctl
    rw [wp_bind, wp_xaCodecOutputFlushDone, wp_xaCodecInputPurge]
    refine ⟨fun _ => ?_, fun h => absurd (Bool.and_eq_true_iff.mpr ⟨by simp [hinit], hctl⟩) h⟩
    obtain ⟨hport, hq⟩ := hs.port.purge
    refine XaPcmOk.purged hpost (fun h => ?_) hport hq rfl (fun h => ?_) rfl rfl hs.reports
    · exact hs.fresh (.inr h)
    · rcases h with h | h
      · exact absurd (hinit.symm.trans h) (by simp)
      · exact absurd (hexec.symm.trans h) (by simp)
  all_goals
    refine wp_mono (Q := fun _ => XaCodecInputSame s.codec) (E := fun _ => True) ?_
      (fun _ v hv => ?_) fun _ _ => trivial
  · exact keeps_xfResponse_same _ s.codec (.refl _)
  · exact ⟨fun h => absurd (Bool.and_eq_true_iff.mp h).2 hctl, fun _ => hkeep v hv⟩
  · exact wp_mono (keeps_fillOutput_same s.codec (.refl _)) (fun _ _ h => h) fun _ _ => trivial
  · exact ⟨fun h => absurd (Bool.and_eq_true_iff.mp h).2 hctl, fun _ => hkeep v hv⟩

lemma wp_flush_pcm (hport : m.dstPort ≠ 0#16)
    (hrouted : s.ext.codec.output.routed = true → s.ext.codec.output.unrouting = true)
    (hs : XaPcmOk s) : wp (xaPcmFlush env m) (fun _ => XaPcmOk) (fun _ => True) s := by
  rw [xaPcmFlush, wp_bind, wp_get, wp_bind]
  refine wp_mono (Q := fun _ => XaPcmOk) (E := fun _ => True) ?_ (fun _ t ht => ?_) fun _ h => h
  · rw [xaPcmCodec, wp_zoom]
    refine wp_mono (Q := fun _ => XaCodecInputSame s.codec) (E := fun _ => True) ?_
      (fun _ v hv => hs.congr hv ⟨rfl, rfl, rfl, rfl⟩ rfl rfl rfl) fun _ _ => trivial
    simp only [xaCodecFlush, wp_bind (x := Prog.check _), wp_check, wp_bind (x := Prog.get), wp_get]
    refine ⟨fun _ => ⟨fun _ => ?_, fun _ => trivial⟩, fun _ => trivial⟩
    rw [wp_ite]
    refine ⟨fun h => absurd h hport, fun _ => ?_⟩
    refine wp_of_keeps (I := XaCodecInputSame s.codec) ?_ (.refl _) fun _ h => h
    refine Keeps.ite (fun _ => keeps_output_same _) fun hnot => Keeps.bind
      (Keeps.ite (fun _ => (keeps_output_same _).bind fun _ => keeps_xfResponse_same _)
        fun hr => ?_) fun _ => keeps_ext_same (by intro; rfl) (by intro; rfl)
    refine absurd (hrouted ?_) hnot
    cases h : s.ext.codec.output.routed with
    | true => rfl
    | false => exact absurd (by rw [Bool.not_eq_true']; exact h) hr
  · rw [wp_ite]
    exact ⟨fun h => absurd h hport, fun _ => ht⟩

/-- A command keeps the counts, unless it ends with an error. -/
lemma wp_command_pcm (htable : env.IsPcmTable) (hm : XaPcmMessage s m) (hs : XaPcmOk s) :
    wp (xaBaseCommand xaPcmAudioCodec env m) (fun _ => XaPcmOk) (fun _ => True) s := by
  obtain ⟨hdata, hflush, hcontrol⟩ := hm
  have hkeeps {x : XaPcmProg Unit} (hx : Keeps XaPcmOk x) :
      wp x (fun _ => XaPcmOk) (fun _ => True) s := wp_of_keeps hx hs fun _ h => h
  rw [xaBaseCommand, show xaPcmAudioCodec.command = xaPcmCmd from rfl]
  cases hop : m.opcode with
  | setParam => exact hkeeps (keeps_setParam_pcm htable)
  | getParam =>
    refine hkeeps (keeps_xaBaseGetParam (fun i id => ?_) (keepsResponse_pcm m))
    exact keeps_xaPcmCodec_same fun _ => keeps_xaCodecGetparam i id
  | route => exact hkeeps (keeps_xaPcmCodec_same fun _ => keeps_portRoute_same)
  | unroute => exact hkeeps (keeps_xaPcmCodec_same fun _ => keeps_portUnroute_same)
  | emptyThisBuffer => exact wp_emptyThisBuffer_pcm (hdata hop) hs
  | fillThisBuffer => exact wp_fillThisBuffer_pcm (hcontrol hop) hs
  | flush => exact wp_flush_pcm (hflush hop).1 (hflush hop).2 hs
  | setParamExt =>
    exact hkeeps (keeps_xaPcmCodec_same fun _ => keeps_xaBaseSetParamExt (keepsResponse_same m))
  | getParamExt =>
    exact hkeeps (keeps_xaPcmCodec_same fun _ => keeps_xaBaseGetParamExt (keepsResponse_same m))
  | unregister | pause | resume | other => trivial

end Hikey
