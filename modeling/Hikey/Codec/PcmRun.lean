import Hikey.Codec.PcmCommands
import Hikey.Codec.SetupRun

/-!
# The counts of a PCM codec in a run

A step hands at most the current message over to the plugin, and takes back what the plugin says it
has consumed of it.  A step without samples, which is executed at the end of a stream, takes back
the counts of the step before once more.
-/

namespace Hikey

open Prog XfInputPort

variable {s t : XaState XaPcmCodec} {u v : XaState XaCodec} {env : XaEnv} {m : XfMessage}

/-! ## The plugin -/

/-- Every hook consumes whole samples. -/
lemma consumed_hook (c : XaPcmConfig) (n : U32) : c.hook.consumed c n = n * c.inStride := by
  unfold XaPcmConfig.hook XaPcmConfig.inStride
  by_cases hwidth : c.inPcmWidth = 16#32
  · split
    · split <;> simp [XaPcmHook.consumed, xaPcmWidthBytes, hwidth, mul_assoc]
    · simp [XaPcmHook.consumed, xaPcmWidthBytes, hwidth, mul_assoc]
  · split
    · split <;> simp [XaPcmHook.consumed, xaPcmWidthBytes, hwidth, mul_assoc]
    · simp [XaPcmHook.consumed, xaPcmWidthBytes, hwidth, mul_assoc]

/-- The samples that the plugin is given are a part of the bytes that it is told of. -/
lemma xaPcmSetInputBytes_spec {d d' : XaPcm} {idx bytes : U32}
    (h : xaPcmSetInputBytes d idx bytes = some d') :
    d' = { d with insize := d'.insize } ∧ d'.insize.toNat ≤ 1024 ∧
      d'.insize.toNat * d.config.inStride.toNat ≤ bytes.toNat ∧
      (d'.insize = 0#32 ↔ bytes = 0#32) := by
  simp only [xaPcmSetInputBytes] at h
  split at h
  · next hvalid =>
    obtain ⟨-, -, hbytes⟩ := hvalid
    obtain rfl := Option.some_inj.mp h
    have hdiv : (bytes / d.config.inStride).toNat * d.config.inStride.toNat ≤ bytes.toNat := by
      rw [BitVec.toNat_udiv]
      exact Nat.div_mul_le_self _ _
    refine ⟨rfl, ?_, ?_, ?_⟩
    · dsimp only
      split
      · simp
      · next hlt =>
        have := BitVec.not_lt.mp hlt
        simpa using BitVec.le_def.mp this
    · dsimp only
      split
      · next hlt =>
        refine le_trans (Nat.mul_le_mul_right _ ?_) hdiv
        exact (BitVec.lt_def.mp hlt).le
      · exact hdiv
    · dsimp only
      refine ⟨fun h0 => ?_, fun h0 => by simp [h0]⟩
      split at h0
      · simp at h0
      · rw [hbytes, h0, BitVec.zero_mul]
  · cases h

/-- The set-up of a buffer changes a pointer only. -/
lemma xaPcmSetMemPtr_spec {d d' : XaPcm} {idx ptr : U32} (h : xaPcmSetMemPtr d idx ptr = some d') :
    d' = { d with input := d'.input, output := d'.output } := by
  unfold xaPcmSetMemPtr at h
  split at h
  · cases h
  split at h
  · obtain rfl := Option.some_inj.mp h
    rfl
  split at h
  · obtain rfl := Option.some_inj.mp h
    rfl
  · cases h

/-- The execution consumes the samples that are set up, or nothing is stored when there are none. -/
lemma xaPcmDoExecute_spec {d d' : XaPcm} (h : xaPcmDoExecute d = some d') :
    d'.insize = 0#32 ∧ d'.config = d.config ∧
      (d.insize = 0#32 → d'.consumed = d.consumed ∧ d'.produced = d.produced) ∧
      (d.insize ≠ 0#32 → d'.consumed = d.insize * d.config.inStride) := by
  -- the end of the stream does not change the counts
  have hend (e : XaPcm) : (if e.eos then { e with eos := !e.eos, complete := !e.complete } else e) =
      { e with
        eos := if e.eos then !e.eos else e.eos
        complete := if e.eos then !e.complete else e.complete } := by
    obtain ⟨_, _, eos, _⟩ := e
    cases eos <;> rfl
  unfold xaPcmDoExecute at h
  split at h
  · cases h
  obtain ⟨e, he, rfl⟩ := Option.map_eq_some_iff.mp h
  rw [hend]
  split at he
  · next hne =>
    unfold xaPcmProcess at he
    split at he
    · obtain rfl := Option.some_inj.mp he
      exact ⟨rfl, rfl, fun h0 => absurd h0 hne, fun _ => consumed_hook _ _⟩
    · cases he
  · next hzero =>
    obtain rfl := Option.some_inj.mp he
    have hzero : d.insize = 0#32 := by simpa using hzero
    exact ⟨hzero, rfl, fun _ => ⟨rfl, rfl⟩, fun hne => absurd hzero hne⟩

/-! ## The preprocessing -/

/-- What the preprocessing leaves as it is. -/
structure XaPcmPrepared (s t : XaState XaPcmCodec) : Prop where
  base : t.base = s.base
  input : t.ext.codec.input = s.ext.codec.input
  counts : t.ext.pcm.consumed = s.ext.pcm.consumed ∧ t.ext.pcm.produced = s.ext.pcm.produced
  config : t.ext.pcm.config = s.ext.pcm.config
  history : t.ext.delivered = s.ext.delivered ∧ t.ext.consumed = s.ext.consumed ∧
    t.ext.reports = s.ext.reports

lemma XaPcmPrepared.refl (s : XaState XaPcmCodec) : XaPcmPrepared s s :=
  ⟨rfl, rfl, ⟨rfl, rfl⟩, rfl, rfl, rfl, rfl⟩

lemma XaPcmPrepared.trans {r : XaState XaPcmCodec} (h : XaPcmPrepared s t)
    (h' : XaPcmPrepared t r) :
    XaPcmPrepared s r where
  base := h'.base.trans h.base
  input := h'.input.trans h.input
  counts := ⟨h'.counts.1.trans h.counts.1, h'.counts.2.trans h.counts.2⟩
  config := h'.config.trans h.config
  history := ⟨h'.history.1.trans h.history.1, h'.history.2.1.trans h.history.2.1,
    h'.history.2.2.trans h.history.2.2⟩

/-- The counts do not depend on the rest, as long as the input is set up as before. -/
lemma XaPcmPrepared.ok (h : XaPcmPrepared s t) (hs : XaPcmOk s) (hsetup : XaPcmSetup t)
    (hinit : s.base.postinit = false → t.ext.codec.inputSetup = false) : XaPcmOk t := by
  obtain ⟨hc, hp⟩ := h.counts
  obtain ⟨hdelivered, hconsumed, hreports⟩ := h.history
  refine ⟨fun hpost => ?_, fun hpost => ?_, ?_, hsetup, ?_, ?_⟩
  · rw [h.base] at hpost ⊢
    obtain ⟨hrt, hexec, -, hqueue⟩ := hs.initial hpost
    exact ⟨hrt, hexec, hinit hpost, by rw [h.input, hqueue]⟩
  · rw [hc, hp]
    rw [h.base] at hpost
    exact hs.fresh hpost
  · rw [h.input]
    exact hs.port
  · rw [hdelivered, hconsumed, h.input]
    exact hs.delivered
  · rw [hreports]
    exact hs.reports

/-- And it is when nothing has happened to it. -/
lemma XaPcmPrepared.ok_of_same (h : XaPcmPrepared s t) (hs : XaPcmOk s)
    (hset : t.ext.codec.inputSetup = s.ext.codec.inputSetup)
    (hinsize : t.ext.pcm.insize = s.ext.pcm.insize) : XaPcmOk t := by
  refine h.ok hs ?_ fun hpost => hset.trans (hs.initial hpost).2.2.1
  unfold XaPcmSetup
  rw [h.base, hset, hinsize, h.config, h.input]
  exact hs.setup

lemma wp_xaPcmCall {f : XaPcm → Option XaPcm} {Q : Unit → XaState XaPcmCodec → Prop}
    {E : XaState XaPcmCodec → Prop}
    (hsome : ∀ d, f s.ext.pcm = some d → Q () { s with ext := { s.ext with pcm := d } })
    (hnone : E s) : wp (xaPcmCall f) Q E s := by
  rw [xaPcmCall, wp_bind, wp_get]
  cases hf : f s.ext.pcm with
  | none => exact hnone
  | some d => exact hsome d hf

lemma wp_setupOutput_pcm (hs : XaPcmOk s) :
    wp (xaPcmSetupOutput env) (fun ok t => XaPcmPrepared s t ∧
      t.ext.codec.inputSetup = s.ext.codec.inputSetup ∧ t.ext.pcm.insize = s.ext.pcm.insize ∧
      (ok = true → s.base.runtimeInit = false → s.ext.codec.outputSetup = true ∨
        xfOutputPortData s.ext.codec.output ≠ 0#32)) XaPcmOk s := by
  simp only [xaPcmSetupOutput, wp_bind (x := Prog.get), wp_get, wp_ite, Bool.not_eq_true']
  refine ⟨fun hset => ⟨fun _ => ⟨.refl s, rfl, rfl, fun h => by cases h⟩, fun hdata => ?_⟩,
    fun hset => ⟨.refl s, rfl, rfl, fun _ _ => .inl (by simpa using hset)⟩⟩
  rw [wp_bind]
  refine wp_xaPcmCall (fun d hd => ?_) hs
  have hd := xaPcmSetMemPtr_spec hd
  rw [wp_bind, xaPcmCodec, wp_zoom, wp_xaExtModify]
  refine ⟨⟨rfl, rfl, ?_, ?_, rfl, rfl, rfl⟩, rfl, ?_, fun _ hinit => .inr fun h0 => hdata ?_⟩
  · rw [hd]
    exact ⟨rfl, rfl⟩
  · rw [hd]
    rfl
  · rw [hd]
    rfl
  · simp [hinit, h0]

/-- The input that is set up is a part of the current message; without samples there is no input. -/
def XaPcmGiven (s t : XaState XaPcmCodec) : Prop :=
  t.ext.codec.inputSetup = true ∧ XaPcmSetup t ∧
    (t.ext.pcm.insize = 0#32 →
      if s.ext.codec.inputSetup = true then s.ext.pcm.insize = 0#32
      else if s.ext.codec.input.access ≠ 0#32 then s.ext.codec.input.remaining = 0#32
      else s.ext.codec.input.done = true) ∧
    (s.ext.codec.inputSetup = true ∨ s.ext.codec.input.access ≠ 0#32 ∨
      s.ext.codec.input.done = true)

/-- The number of bytes in the input buffer. -/
lemma wp_filled_pcm (hs : XaPcmOk s) :
    wp (xaPcmFilled env) (fun filled t => XaPcmPrepared s t ∧
      t.ext.codec.inputSetup = s.ext.codec.inputSetup ∧ t.ext.pcm.insize = s.ext.pcm.insize ∧
      ∀ n ∈ filled, if s.ext.codec.input.access ≠ 0#32 then n = s.ext.codec.input.remaining
        else s.ext.codec.input.done = true ∧ n = 0#32) XaPcmOk s := by
  simp only [xaPcmFilled, wp_bind (x := Prog.get), wp_get, wp_ite, wp_pure]
  refine ⟨fun _ => ⟨fun haccess => ?_, fun haccess => ⟨fun _ => ?_, fun hdone => ?_⟩⟩,
    fun hnot => absurd (by simp [bypass, hs.port.bypass]) hnot⟩
  · rw [wp_bind]
    refine wp_xaPcmCall (fun d hd => ?_) hs
    have hd := xaPcmSetMemPtr_spec hd
    rw [wp_pure]
    refine ⟨⟨rfl, rfl, ?_, ?_, rfl, rfl, rfl⟩, rfl, ?_, fun n hn => ?_⟩
    · rw [hd]
      exact ⟨rfl, rfl⟩
    · rw [hd]
    · rw [hd]
    · rw [if_pos haccess]
      exact (Option.mem_some_iff.mp hn).symm
  · exact ⟨.refl s, trivial, trivial, fun n hn => by cases hn⟩
  · refine ⟨.refl s, trivial, trivial, fun n hn => ?_⟩
    rw [if_neg haccess]
    exact ⟨by simpa using hdone, (Option.mem_some_iff.mp hn).symm⟩

lemma wp_setupInput_pcm (hs : XaPcmOk s) :
    wp (xaPcmSetupInput env) (fun ok t => XaPcmPrepared s t ∧ XaPcmOk t ∧
      (ok = true → XaPcmGiven s t)) XaPcmOk s := by
  rw [xaPcmSetupInput, wp_bind, wp_get, wp_ite]
  refine ⟨fun hset => ?_, fun hset => ?_⟩
  swap
  · have hset : s.ext.codec.inputSetup = true := by simpa using hset
    exact ⟨.refl s, hs, fun _ => ⟨hset, hs.setup, fun h0 => by rw [if_pos hset]; exact h0,
      .inl hset⟩⟩
  have hset : s.ext.codec.inputSetup = false := by simpa using hset
  rw [wp_bind]
  refine wp_mono (wp_filled_pcm hs) (fun filled t ht => ?_) fun _ h => h
  obtain ⟨hframe, hsame, hinsize, hfilled⟩ := ht
  have htok := hframe.ok_of_same hs hsame hinsize
  cases filled with
  | none => exact ⟨hframe, htok, fun h => by cases h⟩
  | some n =>
    have hn := hfilled n rfl
    simp only [wp_bind (x := Prog.get), wp_get]
    rw [wp_bind]
    -- the plugin is told of the end of the stream
    refine wp_mono (Q := fun _ r => r.ext.codec = t.ext.codec ∧ XaPcmPrepared s r ∧
      r.ext.pcm.insize = s.ext.pcm.insize) (E := XaPcmOk) ?_ (fun _ r hr => ?_) fun _ h => h
    · rw [wp_ite]
      refine ⟨fun _ => ⟨rfl, hframe.trans ⟨rfl, rfl, ⟨rfl, rfl⟩, rfl, rfl, rfl, rfl⟩, hinsize⟩,
        fun _ => ⟨rfl, hframe, hinsize⟩⟩
    obtain ⟨hcodec, hr, hrinsize⟩ := hr
    have hrset : r.ext.codec.inputSetup = false := by rw [hcodec, hsame, hset]
    rw [wp_bind]
    refine wp_xaPcmCall (fun d hd => ?_) (hr.ok_of_same hs (hrset.trans hset.symm) hrinsize)
    obtain ⟨hd, hmax, hle, hzero⟩ := xaPcmSetInputBytes_spec hd
    rw [wp_bind, xaPcmCodec, wp_zoom, wp_xaExtModify, wp_pure]
    generalize hw : XaState.withCodec _ _ = w
    have hnext : XaPcmPrepared s w := by
      subst hw
      refine hr.trans ⟨rfl, rfl, ?_, ?_, rfl, rfl, rfl⟩
      · rw [hd]
        exact ⟨rfl, rfl⟩
      · rw [hd]
        rfl
    have hwset : w.ext.codec.inputSetup = true := by
      subst hw
      simp [XaState.withCodec, XaState.codec, hrset]
    have hwinsize : w.ext.pcm.insize = d.insize := by
      subst hw
      rfl
    have hrem : n.toNat ≤ s.ext.codec.input.remaining.toNat ∧
        (n ≠ 0#32 → s.ext.codec.input.queue ≠ []) := by
      by_cases haccess : s.ext.codec.input.access = 0#32
      · rw [if_neg (by simpa using haccess)] at hn
        rw [hn.2]
        exact ⟨by simp, fun h => absurd rfl h⟩
      · rw [if_pos haccess] at hn
        rw [hn]
        exact ⟨le_rfl, fun _ hq => haccess (hs.port.idle hq)⟩
    have hgiven : XaPcmSetup w := by
      intro _ _
      rw [hwinsize, hnext.config, hnext.input]
      refine ⟨hmax, ?_, fun hne => hrem.2 fun h0 => hne (hzero.mpr h0)⟩
      rw [← hr.config]
      exact le_trans hle hrem.1
    refine ⟨hnext, hnext.ok hs hgiven fun hpost => ?_, fun _ => ⟨hwset, hgiven, fun h0 => ?_, ?_⟩⟩
    · -- nothing has been put into the port before the post-initialization
      obtain ⟨-, -, -, hqueue⟩ := hs.initial hpost
      rw [if_neg (by simp [hs.port.idle hqueue])] at hn
      rcases hs.port.ended with ⟨-, hdone, -⟩ | ⟨-, -, ms, m, hq, -⟩
      · rw [hdone] at hn
        cases hn.1
      · simp [hqueue] at hq
    · rw [if_neg (by simp [hset])]
      have hn0 : n = 0#32 := hzero.mp (hwinsize ▸ h0)
      split
      · next haccess =>
        rw [if_pos haccess] at hn
        rw [← hn, hn0]
      · next haccess =>
        rw [if_neg haccess] at hn
        exact hn.1
    · by_cases haccess : s.ext.codec.input.access = 0#32
      · rw [if_neg (by simpa using haccess)] at hn
        exact .inr (.inr hn.1)
      · exact .inr (.inl haccess)

/-- The plugin has consumed a part of the current message; without samples nothing is stored. -/
structure XaPcmReady (s : XaState XaPcmCodec) : Prop where
  consumed : s.ext.pcm.consumed.toNat ≤ s.ext.codec.input.remaining.toNat
  pending : s.ext.pcm.consumed ≠ 0#32 →
    s.ext.codec.input.queue ≠ [] ∧ s.ext.codec.inputSetup = true
  idle : s.ext.samples = 0#32 → s.ext.pcm.consumed = 0#32 ∧ s.ext.pcm.produced = 0#32

/-- The plugin executes what is set up. -/
lemma wp_execute_pcm (hs : XaPcmOk s) (hset : s.ext.codec.inputSetup = true)
    (hidle : s.base.runtimeInit = false → (s.base.execution = true → s.ext.pcm.insize = 0#32) →
      s.ext.pcm.consumed = 0#32 ∧ s.ext.pcm.produced = 0#32) :
    wp xaPcmExecute (fun _ t => t.base = s.base ∧ XaPcmOk t ∧ XaPcmReady t) XaPcmOk s := by
  have hpost : s.base.postinit = true := by
    by_contra hnot
    have := (hs.initial (by simpa using hnot)).2.2.1
    rw [hset] at this
    cases this
  -- nothing is stored, and no samples are processed
  have hquiet (hc : s.ext.pcm.consumed = 0#32 ∧ s.ext.pcm.produced = 0#32)
      (w : XaState XaPcmCodec) (hw : XaPcmPrepared s w) : XaPcmReady w := by
    obtain ⟨hwc, hwp⟩ := hw.counts
    exact ⟨by rw [hwc, hc.1]; simp, fun hne => absurd (hwc.trans hc.1) hne,
      fun _ => ⟨hwc.trans hc.1, hwp.trans hc.2⟩⟩
  rw [xaPcmExecute, wp_bind, wp_get, wp_bind, wp_xaExtModify, wp_ite]
  refine ⟨fun hinit => ?_, fun hinit => ?_⟩
  · -- the run-time initialization
    have hprepared : XaPcmPrepared s { s with ext := { s.ext with
        samples := if !s.base.runtimeInit && s.base.execution then s.ext.pcm.insize else 0#32
        pcm := xaPcmDoRuntimeInit s.ext.pcm } } := ⟨rfl, rfl, ⟨rfl, rfl⟩, rfl, rfl, rfl, rfl⟩
    exact ⟨rfl, hprepared.ok_of_same hs rfl rfl, hquiet (hs.fresh (.inr hinit)) _ hprepared⟩
  have hinit : s.base.runtimeInit = false := by simpa using hinit
  rw [wp_ite]
  refine ⟨fun hexec => ?_, fun hexec => ?_⟩
  · refine wp_xaPcmCall (fun d hd => ?_) ?_
    swap
    · exact hs.congr ⟨rfl, rfl, rfl, rfl, rfl⟩ ⟨rfl, rfl, rfl, rfl⟩ rfl rfl rfl
    obtain ⟨hinsize, hconfig, hzero, hsome⟩ := xaPcmDoExecute_spec hd
    simp only [hinit, hexec, Bool.not_false, Bool.and_self, if_true]
    refine ⟨trivial,
      ⟨fun h => ?_, fun h => ?_, hs.port, fun _ _ => ?_, hs.delivered, hs.reports⟩, ?_⟩
    · exact absurd (hpost.symm.trans h) (by simp)
    · rcases h with h | h
      · exact absurd (hpost.symm.trans h) (by simp)
      · exact absurd (hinit.symm.trans h) (by simp)
    · simp [hinsize]
    by_cases h0 : s.ext.pcm.insize = 0#32
    · obtain ⟨hc, hp⟩ := hidle hinit fun _ => h0
      obtain ⟨hdc, hdp⟩ := hzero h0
      exact ⟨by simp [hdc, hc], fun hne => absurd (hdc.trans hc) hne,
        fun _ => ⟨hdc.trans hc, hdp.trans hp⟩⟩
    · obtain ⟨-, hle, hpending⟩ := hs.setup (.inr hexec) hset
      refine ⟨?_, fun _ => ⟨hpending h0, hset⟩, fun h => absurd h h0⟩
      rw [hsome h0, BitVec.toNat_mul]
      exact le_trans (Nat.mod_le _ _) hle
  · -- the stream has been completed
    have hprepared : XaPcmPrepared s { s with ext := { s.ext with
        samples := if !s.base.runtimeInit && s.base.execution then s.ext.pcm.insize else 0#32 } } :=
      ⟨rfl, rfl, ⟨rfl, rfl⟩, rfl, rfl, rfl, rfl⟩
    exact ⟨rfl, hprepared.ok_of_same hs rfl rfl,
      hquiet (hidle hinit fun h => absurd h hexec) _ hprepared⟩

lemma wp_preprocess_pcm (hs : XaPcmOk s)
    (hidle : XaPcmIdle s → s.ext.pcm.consumed = 0#32 ∧ s.ext.pcm.produced = 0#32) :
    wp (xaPcmPreprocess env) (fun ok t => XaPcmOk t ∧ (ok = true → XaPcmReady t)) XaPcmOk s := by
  rw [xaPcmPreprocess, wp_bind]
  refine wp_mono (wp_setupOutput_pcm hs) (fun ok t ht => ?_) fun _ h => h
  obtain ⟨hframe, hset, hinsize, hout⟩ := ht
  have htok := hframe.ok_of_same hs hset hinsize
  rw [wp_ite]
  refine ⟨fun hok => ?_, fun _ => ⟨htok, fun h => by cases h⟩⟩
  rw [wp_bind]
  refine wp_mono (wp_setupInput_pcm htok) (fun ok' r hr => ?_) fun _ h => h
  obtain ⟨hframe', hrok, hgiven⟩ := hr
  rw [wp_ite]
  refine ⟨fun hok' => ?_, fun _ => ⟨hrok, fun h => by cases h⟩⟩
  obtain ⟨hrset, -, hzero, hsome⟩ := hgiven hok'
  rw [hset, hinsize, hframe.input] at hzero
  rw [hset, hframe.input] at hsome
  rw [wp_bind]
  refine wp_mono (wp_execute_pcm hrok hrset fun hinit hnone => ?_)
    (fun _ w hw => ⟨hw.2.1, fun _ => hw.2.2⟩) fun _ h => h
  -- nothing is set up, so the step was idle from the beginning
  rw [hframe'.base, hframe.base] at hinit hnone
  rw [hframe'.counts.1, hframe'.counts.2, hframe.counts.1, hframe.counts.2]
  refine hidle ⟨hinit, hout hok hinit, ?_⟩
  by_cases hsset : s.ext.codec.inputSetup = true
  · rw [if_pos hsset] at hzero ⊢
    exact fun hexec => hzero (hnone hexec)
  rw [if_neg hsset] at hzero ⊢
  by_cases haccess : s.ext.codec.input.access = 0#32
  · rw [if_neg (by simpa using haccess)] at hzero ⊢
    rcases hsome with h | h | h
    · exact absurd h hsset
    · exact absurd haccess h
    · exact h
  · rw [if_pos haccess] at hzero ⊢
    exact fun hexec => hzero (hnone hexec)

/-! ## The postprocessing -/

/-- The input side of the codec class at the end of a step. -/
structure XaCodecInputAt (u : XaState XaCodec) (input : XfInputPort) (setup : Bool)
    (v : XaState XaCodec) : Prop where
  postinit : v.base.postinit = u.base.postinit
  runtimeInit : v.base.runtimeInit = u.base.runtimeInit
  execution : v.base.execution = u.base.execution
  input : v.ext.input = input
  inputSetup : v.ext.inputSetup = true → setup = true

/-- The input is purged at the end of the stream. -/
def XaCodecPurges (done : U32) (v : XaState XaCodec) : Prop :=
  done ≠ 0#32 ∧ v.base.runtimeInit = false ∧ v.base.execution = false ∧
    (v.ext.output.routed = false ∨ v.ext.output.idle = true)

section Postprocess

variable {input : XfInputPort} {setup : Bool}

lemma keeps_output_at {α : Type}
    (f : XfOutputPort → Option (XfOutputPort × List XfMemEvent × List XfMessage × α)) :
    Keeps (XaCodecInputAt u input setup) (xaCodecOutput f) :=
  keeps_xaCodecOutput (fun _ _ _ _ h => ⟨h.1, h.2, h.3, h.4, h.5⟩) f

lemma keeps_ext_at {f : XaCodec → XaCodec} (hinput : ∀ c, (f c).input = c.input)
    (hsetup : ∀ c, (f c).inputSetup = true → c.inputSetup = true) :
    Keeps (XaCodecInputAt u input setup) (xaExtModify f) :=
  Keeps.modify fun _ h => ⟨h.1, h.2, h.3, (hinput _).trans h.4, fun hset => h.5 (hsetup _ hset)⟩

lemma keeps_prepareRuntime_at :
    Keeps (XaCodecInputAt u input setup) (xaCodecPrepareRuntime env) := by
  refine Keeps.get.bind fun _ => Keeps.bind
    (Keeps.ite (fun _ => Keeps.undefined) fun _ => Keeps.pure _) fun _ => ?_
  refine (keeps_xaApi _ _).bind fun _ => (keeps_xaApi _ _).bind fun _ =>
    (keeps_xaApi _ _).bind fun _ => (keeps_xaApi _ _).bind fun _ => (keeps_xaApi _ _).bind
      fun _ => Keeps.bind (keeps_ext_at (by intro; rfl) (by intro _ h; exact h)) fun _ => ?_
  refine Keeps.bind (Keeps.ite (fun _ => Keeps.undefined) fun _ => Keeps.pure _) fun _ => ?_
  exact (Keeps.check _).bind fun _ => (Keeps.check _).bind fun _ =>
    Keeps.bind (keeps_ext_at (by intro; rfl) (by intro _ h; exact h)) fun _ => keeps_output_at _

/-- What becomes of the input of the codec class at the end of a stage. -/
lemma wp_stageDone_at {done : U32} (hdone : done ≠ 0#32) (hu : XaCodecInputAt u input setup v) :
    wp (xaCodecStageDone env)
      (fun _ w => XaCodecInputAt u input setup w ∧ ¬ XaCodecPurges done w ∨
        XaCodecInputAt u (xfInputPortPurge input).1 setup w ∧ XaCodecPurges done w)
      (XaCodecInputAt u input setup) v := by
  rw [xaCodecStageDone, wp_bind, wp_get, wp_ite]
  refine ⟨fun hinit => .inl ⟨hu, fun h => ?_⟩, fun hinit => ?_⟩
  · rw [h.2.1] at hinit
    cases hinit
  rw [wp_ite]
  refine ⟨fun hexec => ?_, fun hexec => ?_⟩
  · refine wp_mono (Keeps.bind keeps_prepareRuntime_at (fun _ =>
      keeps_ext_at (by intro; rfl) (by intro _ h; cases h)) v hu)
        (fun _ w hw => .inl ⟨hw, fun h => ?_⟩)
      fun _ h => h
    have := h.2.2.1
    rw [hw.execution, ← hu.execution, hexec] at this
    cases this
  · -- the end of the stream
    have hinit : v.base.runtimeInit = false := by simpa using hinit
    have hexec : v.base.execution = false := by simpa using hexec
    rw [wp_bind, wp_xaCodecOutputFlush, wp_ite, wp_xaCodecInputPurge, wp_pure]
    unfold xfOutputPortFlush
    cases hrouted : v.ext.output.routed with
    | false =>
      refine ⟨fun _ => .inr ⟨⟨hu.1, hu.2, hu.3, ?_, hu.5⟩, hdone, hinit, hexec, .inl ?_⟩,
        fun h => absurd rfl h⟩
      · simp [hu.input]
      · simp
    | true =>
      cases hidle : v.ext.output.idle with
      | true =>
        refine ⟨fun _ => .inr ⟨⟨hu.1, hu.2, hu.3, ?_, hu.5⟩, hdone, hinit, hexec, .inr ?_⟩,
          fun h => absurd rfl h⟩
        · simp [hu.input]
        · simp [hidle]
      | false =>
        cases hflush : v.ext.output.flushing with
        | true =>
          refine ⟨fun h => by simp at h, fun _ => .inl ⟨⟨hu.1, hu.2, hu.3, hu.4, hu.5⟩, ?_⟩⟩
          rintro ⟨-, -, -, h | h⟩
          · simp [hrouted] at h
          · simp [hidle] at h
        | false =>
          refine ⟨fun h => by simp at h, fun _ => .inl ⟨⟨hu.1, hu.2, hu.3, hu.4, hu.5⟩, ?_⟩⟩
          rintro ⟨-, -, -, h | h⟩
          · simp at h
          · simp at h

/-- What becomes of the input of the codec class at the end of a step that consumes `n` bytes. -/
lemma wp_postprocess_at {done n : U32} {P : XfInputPort → Bool → Prop}
    (hn : (env.api .getCuridxInputBuf u.ext.inIdx).fatal = false ∧
      (env.api .getCuridxInputBuf u.ext.inIdx).value = n)
    (hproduced : u.ext.sampleSize ≠ 0#32 → (env.api .getOutputBytes u.ext.outIdx).fatal = false)
    (hzero : n = 0#32 → P u.ext.input u.ext.inputSetup)
    (hconsume : n ≠ 0#32 → ∀ input ms, xfInputPortConsume u.ext.input n = some (input, ms) →
      P input (!u.ext.inputSetup)) :
    wp (xaCodecPostprocess env done)
      (fun _ w => ∃ input setup, P input setup ∧
        (XaCodecInputAt u input setup w ∧ ¬ XaCodecPurges done w ∨
          XaCodecInputAt u (xfInputPortPurge input).1 setup w ∧ XaCodecPurges done w))
      (fun w => ∃ input setup, P input setup ∧ XaCodecInputAt u input setup w) u := by
  obtain ⟨hcur, rfl⟩ := hn
  simp only [xaCodecPostprocess, wp_bind (x := Prog.get), wp_get, wp_bind (x := xaApi _ _ _),
    wp_xaApi]
  refine ⟨fun _ => ?_, fun h => absurd (hcur.symm.trans h) (by simp)⟩
  rw [wp_bind]
  refine wp_mono (Q := fun _ v => v = u) (E := fun _ => False) ?_ (fun produced v hv => ?_)
    fun _ h => h.elim
  · rw [wp_ite, wp_xaApi, wp_pure]
    exact ⟨fun hne => ⟨fun _ => rfl, fun h => absurd ((hproduced hne).symm.trans h) (by simp)⟩,
      fun _ => rfl⟩
  subst hv
  -- the bytes consumed
  rw [wp_bind]
  refine wp_mono (Q := fun _ w => ∃ input setup, P input setup ∧ XaCodecInputAt v input setup w)
    (E := fun _ => False) ?_ (fun _ w hw => ?_) fun _ h => h.elim
  · simp only [wp_ite, wp_bind, wp_xaCodecInputConsume, wp_xaExtModify, wp_pure]
    refine ⟨fun hne input ms hres => ?_, fun h0 => ?_⟩
    · exact ⟨input, _, hconsume hne input ms hres, rfl, rfl, rfl, rfl, fun h => h⟩
    · exact ⟨_, _, hzero (by simpa using h0), rfl, rfl, rfl, rfl, fun h => h⟩
  obtain ⟨input, setup, hP, hw⟩ := hw
  -- the bytes produced
  rw [wp_bind]
  refine wp_mono (Q := fun _ => XaCodecInputAt v input setup)
    (E := XaCodecInputAt v input setup) ?_ (fun _ r hr => ?_) fun r hr => ⟨input, setup, hP, hr⟩
  · refine Keeps.ite (fun _ => ?_) (fun _ => Keeps.pure _) w hw
    exact Keeps.bind (keeps_ext_at (by intro; rfl) (by intro _ h; exact h)) fun _ =>
      (keeps_output_at _).bind fun _ => keeps_ext_at (by intro; rfl) (by intro _ h; exact h)
  rw [wp_ite]
  refine ⟨fun hdone => ?_, fun hdone => ?_⟩
  · exact wp_mono (wp_stageDone_at hdone hr) (fun _ x hx => ⟨input, setup, hP, hx⟩)
      fun x hx => ⟨input, setup, hP, hx⟩
  · have hnot (x : XaState XaCodec) : ¬ XaCodecPurges done x := fun h => hdone h.1
    rw [wp_bind, wp_get, wp_ite, wp_pure]
    refine ⟨fun _ => wp_xaBaseSchedule_of fun _ _ => ?_,
      fun _ => ⟨input, setup, hP, .inl ⟨hr, hnot _⟩⟩⟩
    exact ⟨input, setup, hP, .inl ⟨⟨hr.1, hr.2, hr.3, hr.4, hr.5⟩, hnot _⟩⟩

end Postprocess

/-- The plugin answers with what is stored, or with nothing. -/
lemma answers_curidx (d : XaPcm) (idx : U32) :
    ((d.answers env).api .getCuridxInputBuf idx).value = 0#32 ∨
      ((d.answers env).api .getCuridxInputBuf idx).value = d.consumed := by
  simp only [XaPcm.answers]
  split
  · exact .inl rfl
  · split
    · exact .inl rfl
    · exact .inr rfl

lemma answers_outputBytes (d : XaPcm) (idx : U32) :
    ((d.answers env).api .getOutputBytes idx).value = 0#32 ∨
      ((d.answers env).api .getOutputBytes idx).value = d.produced := by
  simp only [XaPcm.answers]
  split
  · exact .inl rfl
  · exact .inr rfl

/-- The state after a report. -/
def XaPcmReported (s t : XaState XaPcmCodec) (consumed produced : U32) : Prop :=
  t = { s with ext := { s.ext with
    reports := s.ext.reports ++
      [⟨s.ext.samples, s.ext.codec.input.remaining, consumed, produced⟩]
    consumed := s.ext.consumed + consumed.toNat } }

lemma wp_report_pcm (hs : XaPcmOk s) :
    wp (xaPcmReport env) (fun _ t => ∃ c p, XaPcmReported s t c p ∧
      (c = 0#32 ∨ c = s.ext.pcm.consumed) ∧ (p = 0#32 ∨ p = s.ext.pcm.produced) ∧
      ((s.ext.pcm.answers env).api .getCuridxInputBuf s.ext.codec.inIdx).fatal = false ∧
      ((s.ext.pcm.answers env).api .getCuridxInputBuf s.ext.codec.inIdx).value = c ∧
      (s.ext.codec.sampleSize ≠ 0#32 →
        ((s.ext.pcm.answers env).api .getOutputBytes s.ext.codec.outIdx).fatal = false))
        XaPcmOk s := by
  simp only [xaPcmReport, wp_bind (x := Prog.get), wp_get, wp_bind (x := xaApi _ _ _), wp_xaApi]
  refine ⟨fun hcur => ?_, fun _ => hs⟩
  rw [wp_bind, wp_ite, wp_xaApi, wp_pure, wp_xaExtModify, wp_xaExtModify]
  refine ⟨fun hsize => ⟨fun hout => ?_, fun _ => hs⟩, fun hsize => ?_⟩
  · exact ⟨_, _, rfl, answers_curidx _ _, answers_outputBytes _ _, hcur, rfl, fun _ => hout⟩
  · exact ⟨_, _, rfl, answers_curidx _ _, .inl rfl, hcur, rfl, fun h => absurd h hsize⟩

/-- What a step that consumes `c` bytes leaves of the input. -/
structure XaPcmKept (s : XaState XaPcmCodec) (c : U32) (input : XfInputPort) (setup : Bool) :
    Prop where
  port : XaPcmPort input
  count : input.pending + c.toNat = s.ext.codec.input.pending
  setup : setup = true → s.ext.codec.inputSetup = true ∧ input = s.ext.codec.input
  empty : s.ext.codec.input.queue = [] → input = s.ext.codec.input

/-- A report is in order, and so are all of them after it. -/
lemma XaPcmReported.reports {c p : U32} (ht : XaPcmReported s t c p) (hs : XaPcmOk s)
    (hr : XaPcmReady s)
    (hc : c = 0#32 ∨ c = s.ext.pcm.consumed) (hp : p = 0#32 ∨ p = s.ext.pcm.produced) :
    ∀ r ∈ t.ext.reports, r.Ok := by
  intro r hmem
  unfold XaPcmReported at ht
  rw [ht] at hmem
  rcases List.mem_append.mp hmem with hmem | hmem
  · exact hs.reports r hmem
  · rw [List.mem_singleton.mp hmem]
    constructor
    · rcases hc with rfl | rfl
      · simp
      · exact hr.consumed
    · intro h0
      obtain ⟨hc0, hp0⟩ := hr.idle h0
      exact ⟨hc.elim id fun h => h.trans hc0, hp.elim id fun h => h.trans hp0⟩

/-- The input is not purged at the end of the step. -/
lemma XaPcmReported.stays {c p : U32} {input : XfInputPort} {setup : Bool} {v : XaState XaCodec}
    (ht : XaPcmReported s t c p) (hs : XaPcmOk s) (hreports : ∀ r ∈ t.ext.reports, r.Ok)
    (hkept : XaPcmKept s c input setup) (hv : XaCodecInputAt s.codec input setup v) :
    XaPcmOk (t.withCodec v) := by
  unfold XaPcmReported at ht
  have hpcm : t.ext.pcm = s.ext.pcm := by rw [ht]
  have hpost : v.base.postinit = s.base.postinit := hv.postinit
  have hinit : v.base.runtimeInit = s.base.runtimeInit := hv.runtimeInit
  have hexec : v.base.execution = s.base.execution := hv.execution
  refine ⟨fun h => ?_, fun h => ?_, ?_, fun hstage hset' => ?_, ?_, hreports⟩
  · obtain ⟨hrt, hex, hset', hqueue⟩ := hs.initial (hpost.symm.trans h)
    refine ⟨hinit.trans hrt, hexec.trans hex, ?_, ?_⟩
    · by_contra hne
      have := (hkept.setup (hv.inputSetup ((Bool.not_eq_false _).mp hne))).1
      rw [hset'] at this
      cases this
    · change v.ext.input.queue = []
      rw [hv.input, hkept.empty hqueue, hqueue]
  · change t.ext.pcm.consumed = 0#32 ∧ t.ext.pcm.produced = 0#32
    rw [hpcm]
    exact hs.fresh (h.imp (fun h => hpost.symm.trans h) fun h => hinit.symm.trans h)
  · change XaPcmPort v.ext.input
    rw [hv.input]
    exact hkept.port
  · obtain ⟨hsset, rfl⟩ := hkept.setup (hv.inputSetup hset')
    have := hs.setup (hstage.imp (fun h => hinit.symm.trans h) fun h => hexec.symm.trans h) hsset
    change t.ext.pcm.insize.toNat ≤ 1024 ∧
      t.ext.pcm.insize.toNat * t.ext.pcm.config.inStride.toNat ≤ v.ext.input.remaining.toNat ∧
      (t.ext.pcm.insize ≠ 0#32 → v.ext.input.queue ≠ [])
    rw [hpcm, hv.input]
    exact this
  · change t.ext.delivered = t.ext.consumed + v.ext.input.pending
    have hdelivered := hs.delivered
    have hcount := hkept.count
    rw [hv.input, ht]
    simp only
    omega

/-- The stream ends, and the input is purged. -/
lemma XaPcmReported.ends {c p done : U32} {input : XfInputPort} {setup : Bool} {v : XaState XaCodec}
    (ht : XaPcmReported s t c p) (hs : XaPcmOk s) (hreports : ∀ r ∈ t.ext.reports, r.Ok)
    (hkept : XaPcmKept s c input setup)
    (hv : XaCodecInputAt s.codec (xfInputPortPurge input).1 setup v)
    (hpurges : XaCodecPurges done v) :
    XaPcmOk { t.withCodec v with ext := { (t.withCodec v).ext with delivered := 0, consumed := 0 }
      } := by
  unfold XaPcmReported at ht
  have hpcm : t.ext.pcm = s.ext.pcm := by rw [ht]
  obtain ⟨hport, hqueue⟩ := hkept.port.purge
  obtain ⟨-, hinit, hexec, -⟩ := hpurges
  have hpost : v.base.postinit = s.base.postinit := hv.postinit
  refine ⟨fun h => ⟨hinit, hexec, ?_, ?_⟩, fun h => ?_, ?_, fun hstage _ => ?_, ?_, hreports⟩
  · by_contra hne
    have h' := (hkept.setup (hv.inputSetup ((Bool.not_eq_false _).mp hne))).1
    rw [(hs.initial (hpost.symm.trans h)).2.2.1] at h'
    cases h'
  · change v.ext.input.queue = []
    rw [hv.input]
    exact hqueue
  · change t.ext.pcm.consumed = 0#32 ∧ t.ext.pcm.produced = 0#32
    rw [hpcm]
    refine hs.fresh (h.imp (fun h => hpost.symm.trans h) fun h => ?_)
    exact absurd (hinit.symm.trans h) (by simp)
  · change XaPcmPort v.ext.input
    rw [hv.input]
    exact hport
  · rcases hstage with h | h
    · exact absurd (hinit.symm.trans h) (by simp)
    · exact absurd (hexec.symm.trans h) (by simp)
  · change 0 = 0 + v.ext.input.pending
    rw [hv.input, pending_of_queue_nil hqueue]

lemma wp_postprocess_pcm {done : U32} (hs : XaPcmOk s) (hr : XaPcmReady s) :
    wp (xaPcmPostprocess env done) (fun _ => XaPcmOk) XaPcmOk s := by
  rw [xaPcmPostprocess, wp_bind]
  refine wp_mono (wp_report_pcm hs) (fun _ t ht => ?_) fun _ h => h
  obtain ⟨c, p, ht, hc, hp, hcur, hvalue, hout⟩ := ht
  have hcodec : t.codec = s.codec := by unfold XaPcmReported at ht; rw [ht]; rfl
  have hpcm : t.ext.pcm = s.ext.pcm := by unfold XaPcmReported at ht; rw [ht]
  have hreports := ht.reports hs hr hc hp
  -- no more is consumed than the rest of the current message
  have hle : c.toNat ≤ s.ext.codec.input.remaining.toNat := by
    rcases hc with rfl | rfl
    · simp
    · exact hr.consumed
  have hpending (hne : c ≠ 0#32) :
      s.ext.codec.input.queue ≠ [] ∧ s.ext.codec.inputSetup = true := by
    rcases hc with rfl | rfl
    · exact absurd rfl hne
    · exact hr.pending hne
  rw [wp_bind, wp_get, wp_bind, xaPcmCodec, wp_zoom, hcodec, hpcm]
  refine wp_mono (wp_postprocess_at (P := XaPcmKept s c) (n := c) ⟨hcur, hvalue⟩ hout ?_ ?_)
    (fun _ v hv => ?_) fun v hv => ?_
  · rintro rfl
    exact ⟨hs.port, rfl, fun h => ⟨h, rfl⟩, fun _ => rfl⟩
  · intro hne input ms hres
    obtain ⟨hqueue, hset⟩ := hpending hne
    obtain ⟨hport, hcount⟩ := hs.port.consume hqueue hne hle hres
    refine ⟨hport, hcount, fun h => ?_, fun h => absurd h hqueue⟩
    have hset : s.codec.ext.inputSetup = true := hset
    simp [hset] at h
  · obtain ⟨input, setup, hkept, ⟨hv, hnot⟩ | ⟨hv, hpurges⟩⟩ := hv
    · rw [wp_bind, wp_get, wp_ite]
      exact ⟨fun h => absurd h hnot, fun _ => ht.stays hs hreports hkept hv⟩
    · rw [wp_bind, wp_get, wp_ite]
      exact ⟨fun _ => ht.ends hs hreports hkept hv hpurges, fun h => absurd hpurges h⟩
  · obtain ⟨input, setup, hkept, hv⟩ := hv
    exact ht.stays hs hreports hkept hv

/-! ## Runs -/

/-- The stage changes between the preprocessing and the postprocessing. -/
lemma XaPcmOk.stage (h : XaPcmOk s) (hr : XaPcmReady s) {base : XaBaseState}
    (hpost : base.postinit = s.base.postinit)
    (hinit : base.runtimeInit = true → s.base.runtimeInit = true)
    (hstage : base.runtimeInit = true ∨ base.execution = true →
      s.base.runtimeInit = true ∨ s.base.execution = true) :
    XaPcmOk { s with base := base } ∧ XaPcmReady { s with base := base } := by
  refine ⟨⟨fun hp => ?_, fun hp => ?_, h.port, fun hs => ?_, h.delivered, h.reports⟩,
    hr.consumed, hr.pending, hr.idle⟩
  · obtain ⟨hrt, hex, hset, hqueue⟩ := h.initial (hpost.symm.trans hp)
    refine ⟨?_, ?_, hset, hqueue⟩
    · by_contra hne
      have := hinit (by simpa using hne)
      rw [hrt] at this
      cases this
    · by_contra hne
      rcases hstage (.inr (by simpa using hne)) with h' | h'
      · rw [hrt] at h'
        cases h'
      · rw [hex] at h'
        cases h'
  · exact h.fresh (hp.imp (fun hp => hpost.symm.trans hp) hinit)
  · exact h.setup (hstage hs)

/-- A process step keeps the counts. -/
lemma wp_process_pcm (hs : XaPcmOk s)
    (hidle : XaPcmIdle s → s.ext.pcm.consumed = 0#32 ∧ s.ext.pcm.produced = 0#32) :
    wp (xaBaseProcess xaPcmHooks env) (fun _ => XaPcmOk) XaPcmOk s := by
  rw [xaBaseProcess, wp_bind, wp_xaBaseModify, wp_bind]
  have hs' : XaPcmOk { s with base := { s.base with schedule := false } } :=
    hs.congr ⟨rfl, rfl, rfl, rfl, rfl⟩ ⟨rfl, rfl, rfl, rfl⟩ rfl rfl rfl
  refine wp_mono (wp_preprocess_pcm hs' hidle) (fun ok t ht => ?_) fun _ h => h
  obtain ⟨htok, hready⟩ := ht
  rw [wp_ite]
  refine ⟨fun hok => ?_, fun _ => htok⟩
  have hready := hready hok
  -- the base counts the stages
  rw [wp_bind]
  refine wp_mono (Q := fun _ r => XaPcmOk r ∧ XaPcmReady r) (E := XaPcmOk) ?_
    (fun done r hr => wp_postprocess_pcm hr.1 hr.2) fun _ h => h
  simp only [xaBaseExecute, wp_bind, wp_get, wp_ite, wp_xaApi, wp_xaBaseModify, wp_pure]
  refine ⟨fun hinit => ⟨fun _ => ⟨fun _ => ⟨fun _ => ?_, fun _ => ⟨htok, hready⟩⟩, fun _ => htok⟩,
    fun _ => htok⟩, fun hinit => ⟨fun hexec => ⟨fun _ => ⟨fun _ => ⟨fun _ => ?_,
      fun _ => ⟨htok, hready⟩⟩, fun _ => htok⟩, fun _ => htok⟩, fun _ => ⟨htok, hready⟩⟩⟩
  · exact htok.stage hready rfl (fun _ => hinit) fun _ => .inl hinit
  · exact htok.stage hready rfl (fun h => h) fun _ => .inr hexec

/-- The counts of a running component. -/
def XaPcmRunOk (s : XaState XaPcmCodec) : Prop := s.phase = .running → XaPcmOk s

/-- A component that is not running does not run again. -/
lemma keeps_phase_pcm {α : Type} {x : XaCodecProg α} (hx : Keeps (fun v => v.phase ≠ .running) x) :
    Keeps (fun s => s.phase ≠ .running) (xaPcmCodec x) := by
  intro s hs
  rw [xaPcmCodec, wp_zoom]
  exact wp_mono (hx s.codec hs) (fun _ _ h => h) fun _ h => h

lemma wp_dispatch_pcm (htable : env.IsPcmTable) (hm : XaPcmMessage s m) (hs : XaPcmRunOk s) :
    wp (xfCoreDispatch xaPcmAudioCodec env m) (fun _ => XaPcmRunOk) XaPcmRunOk s := by
  have hdown (t : XaState XaPcmCodec) (ht : t.phase ≠ .running) : XaPcmRunOk t :=
    fun h => absurd h ht
  rw [xfCoreDispatch, wp_bind, wp_get]
  cases hphase : s.phase with
  | running =>
    rw [wp_orElse]
    refine wp_mono (wp_command_pcm htable hm (hs hphase)) (fun _ t ht _ => ht) fun t _ => ?_
    change wp (xaPcmCodec (xaAudioCodecCleanup m)) _ _ t
    rw [xaPcmCodec, wp_zoom]
    exact wp_mono wp_cleanup_phase (fun _ v hv => hdown _ hv) fun _ h => h.elim
  | terminating =>
    refine wp_mono (Keeps.bind (keeps_phase_pcm keeps_terminate_phase) (fun destroy => ?_) s
      (by simp [hphase])) (fun _ t ht => hdown t ht) fun t ht => hdown t ht
    exact Keeps.ite (fun _ => keeps_phase_pcm keeps_destroy_phase) fun _ => Keeps.pure _
  | destroyed => exact hdown _ (by simp [hphase])

lemma XaPcmRunOk.core (h : XaPcmRunOk s) (core : XfCore) : XaPcmRunOk { s with core := core } :=
  fun hphase => (h hphase).congr ⟨rfl, rfl, rfl, rfl, rfl⟩ ⟨rfl, rfl, rfl, rfl⟩ rfl rfl rfl

/-- Every event that meets the condition keeps the counts. -/
lemma XaPcmRunOk.step {e : XaEvent} (hs : XaPcmRunOk s) (he : XaPcmCounts s e)
    (hstep : xaStep xaPcmAudioCodec s e = some t) : XaPcmRunOk t := by
  obtain ⟨⟨hmessage, hplugin⟩, hcounts⟩ := he
  replace hstep := xaStep_effect hstep
  cases hstep with
  | @command _ m hstep => exact Prog.after_of_wp (wp_dispatch_pcm hplugin (hmessage m rfl) hs) hstep
  | @deliver _ m _ hback hstep =>
    refine Prog.after_of_wp (wp_dispatch_pcm hplugin ?_ (hs.core _)) hstep
    exact hmessage m (by simp [XaEvent.message, hback])
  | process hget hstep =>
    exact fun _ => after_xfCoreProcess hstep fun hphase =>
      wp_process_pcm (hs.core _ hphase) fun hidle => hcounts ⟨hphase, by rw [hget]; rfl⟩ hidle
  | @idle _ core hstep => exact hstep ▸ hs.core core

/-- In every run of a PCM codec on input streams in which no step without samples follows one with
samples, the bytes delivered on the current stream are those consumed and those pending, all of them
are consumed at the end of the stream, no step consumes more than the rest of the current message,
and a step without samples reports that nothing was consumed or produced. -/
theorem xaPcmCodec_counts (config : XaPcmConfig) (task : U32) (item : U32 → XfMessage)
    (core : XfCore) (s : XaState XaPcmCodec)
    (hrun : XaRun xaPcmAudioCodec XaPcmCounts (xaPcmFactory config task item core) s)
    (hrunning : s.phase = .running) :
    s.ext.delivered = s.ext.consumed + s.ext.codec.input.pending ∧
    (s.ext.codec.input.done = true → s.ext.consumed = s.ext.delivered) ∧
    ∀ r ∈ s.ext.reports, r.consumed.toNat ≤ r.remaining.toNat ∧
      (r.samples = 0#32 → r.consumed = 0#32 ∧ r.produced = 0#32) := by
  have hinv : XaPcmRunOk s := by
    refine run_invariant XaPcmRunOk ?_ (fun _ => ?_) hrun
    · rintro s s' hs ⟨e, -, hcounts, hstep⟩
      exact hs.step hcounts hstep
    · refine ⟨fun _ => ⟨rfl, rfl, rfl, rfl⟩, fun _ => ⟨rfl, rfl⟩, ?_, ?_, rfl, ?_⟩
      · exact xaPcmPort_of_queue_nil rfl (.inr rfl) rfl rfl rfl rfl
      · rintro _ ⟨⟩
      · rintro r ⟨⟩
  have hok := hinv hrunning
  refine ⟨hok.delivered, fun hdone => ?_, fun r hr => hok.reports r hr⟩
  have := hok.delivered
  rw [(hok.port.pending_of_done hdone).1] at this
  exact this.symm

/-! ## A stream of one sample -/

/-- The environment of the plugin, which tells whether the stream is done. -/
def XaEnv.pcm (done : U32) : XaEnv :=
  { XaEnv.oneStep with
    api := fun cmd idx =>
      if cmd = .doneQuery then ⟨false, done⟩
      else if cmd = .getMemInfoSize ∧ idx = 1#32 then ⟨false, 4096#32⟩
      else XaApiCmd.oneStep cmd idx }

/-- A stereo codec of 16-bit samples. -/
def xaPcmSample : XaState XaPcmCodec :=
  xaPcmFactory ⟨48000#32, 16#32, 16#32, 2#32, 2#32, 0x10#32, .inl rfl,
    .inl rfl, by decide, by decide⟩
    64#32 (fun i => ⟨.item 0#32 i, ⟨0#16, 0#16⟩, .other, 0#32, 0#32⟩) .sample

/-- A message of one sample and the end of the stream, of which the codec processes the first. -/
def xaPcmOneSample : List XaEvent :=
  [.command (.pcm 0#32) (.host 0 .setParam 0#16 0#32 0#32),
    .command (.pcm 0#32) (.host 1 .emptyThisBuffer 0#16 4#32 64#32),
    .command (.pcm 0#32) (.host 2 .emptyThisBuffer 0#16 0#32 0#32),
    .command (.pcm 0#32) (.host 3 .fillThisBuffer 1#16 20#32 128#32),
    .process (.pcm 0#32),
    .command (.pcm 0#32) (.host 4 .fillThisBuffer 1#16 4096#32 192#32),
    .process (.pcm 0#32)]

/-- The four bytes of the sample are consumed. -/
theorem xaPcmCodec_counts_one_sample :
    ∃ s, XaRun xaPcmAudioCodec XaPcmCounts xaPcmSample s ∧ s.ext.codec.input.done = true ∧
      s.ext.delivered = 4 ∧ s.ext.consumed = s.ext.delivered := by
  obtain ⟨s, hrun, hs⟩ := exists_of_xaRun xaPcmAudioCodec XaPcmCounts xaPcmSample xaPcmOneSample
    (fun s => (s.phase, s.ext.codec.input.done, s.ext.delivered)) (b := (.running, true, 4))
    (by decide +kernel)
  obtain ⟨hphase, hdone, hdelivered⟩ : s.phase = .running ∧ s.ext.codec.input.done = true ∧
      s.ext.delivered = 4 := by simpa using hs
  exact ⟨s, hrun, hdone, hdelivered, (xaPcmCodec_counts _ _ _ _ s hrun hphase).2.1 hdone⟩

/-- The step at the end of the stream consumes the four bytes once more, of a message that has no
bytes left, and produces them once more. -/
theorem xaPcmCodec_counts_end :
    ∃ s, XaRun xaPcmAudioCodec XaPcmStream xaPcmSample s ∧ s.phase = .running ∧
      ∃ r ∈ s.ext.reports, r.samples = 0#32 ∧ ¬ r.consumed.toNat ≤ r.remaining.toNat ∧
        ¬ (r.consumed = 0#32 ∧ r.produced = 0#32) := by
  obtain ⟨s, hrun, hs⟩ := exists_of_xaRun xaPcmAudioCodec XaPcmStream xaPcmSample
    (xaPcmOneSample ++ [.command (.pcm 0#32) (.host 5 .fillThisBuffer 1#16 4096#32 256#32),
      .process (.pcm 1#32)])
    (fun s => (s.phase, s.ext.reports)) (b := (.running,
      [⟨0#32, 4#32, 0#32, 0#32⟩, ⟨1#32, 4#32, 4#32, 4#32⟩, ⟨0#32, 0#32, 4#32, 4#32⟩]))
    (by decide +kernel)
  obtain ⟨hphase, hreports⟩ : s.phase = .running ∧ s.ext.reports =
      [⟨0#32, 4#32, 0#32, 0#32⟩, ⟨1#32, 4#32, 4#32, 4#32⟩, ⟨0#32, 0#32, 4#32, 4#32⟩] := by
    simpa using hs
  refine ⟨s, hrun, hphase, ⟨0#32, 0#32, 4#32, 4#32⟩, by simp [hreports], rfl, ?_, ?_⟩
  · decide
  · decide

end Hikey
