import Hikey.Codec.SetupRun
import Hikey.Component.Mixer

/-!
# Delays of the scheduler (`xf-timebase.h`)

The scheduler counts in ticks, of which there is a whole number for a sample at every supported
rate.  A codec stores the ticks of a byte, rounded down, and multiplies by bytes; the mixer
multiplies the ticks of a sample by samples.
-/

namespace Hikey

open Prog

/-! ## Delays -/

/-- `XF_TIMEBASE_FREQ`. -/
def xfTimebaseFreq : ℕ := 56448000

/-- The delay in `xa_codec_postprocess`. -/
def XaCodec.dts (c : XaCodec) (produced : U32) : U32 := produced * c.factor

/-- A delay is the exact duration of some samples at a rate, and the order of timestamps is defined
for it. -/
def DurationExact (dts : U32) (samples rate : ℕ) : Prop :=
  dts.toNat * rate = samples * xfTimebaseFreq ∧ dts.toNat < 2 ^ 31

/-- The duration of a sample is a whole number of ticks for each of its `sampleSize` bytes, and all
the ticks fit.  At a rate of 12000 the factor is 5120 where 4704 is right: the rounding makes up for
this if a sample has more than 416 bytes. -/
def DurationFits (samples sampleSize rate : ℕ) : Prop :=
  samples = 0 ∨ sampleSize ∣ xfTimebaseFreq / rate ∧ (rate = 12000 → 416 < sampleSize) ∧
    samples * (xfTimebaseFreq / rate) < 2 ^ 31

/-! ## Factors -/

section Factor

variable {rate : U32} {samples sampleSize ticks factor : ℕ}

/-- The factor is the number of ticks of a sample, except for 12000. -/
lemma xfTimebaseFactor_spec (h : xfTimebaseFactor rate ≠ 0#32) :
    (rate.toNat = 12000 ∧ (xfTimebaseFactor rate).toNat = 5120) ∨
      rate.toNat ≠ 12000 ∧ 0 < rate.toNat ∧
        (xfTimebaseFactor rate).toNat * rate.toNat = xfTimebaseFreq := by
  rw [xfTimebaseFactor] at h ⊢
  split at h
  case h_17 => exact absurd rfl h
  case h_16 heq => exact .inl ⟨heq, rfl⟩
  all_goals
    rename_i heq
    rw [BitVec.toNat_udiv, heq]
    exact .inr (by decide)

/-- The rounded ticks of the bytes of a sample. -/
lemma mul_div_eq_iff (hsize : 0 < sampleSize) : sampleSize * (factor / sampleSize) = ticks ↔
    sampleSize ∣ ticks ∧ ticks ≤ factor ∧ factor - ticks < sampleSize := by
  have hdiv := Nat.div_add_mod factor sampleSize
  have hmod := Nat.mod_lt factor hsize
  constructor
  · rintro rfl
    exact ⟨dvd_mul_right _ _, by omega, by omega⟩
  · rintro ⟨⟨k, rfl⟩, hle, hlt⟩
    have hlow : k ≤ factor / sampleSize := (Nat.le_div_iff_mul_le hsize).mpr (by rwa [Nat.mul_comm])
    have hhigh : factor / sampleSize < k + 1 := by
      rw [Nat.div_lt_iff_lt_mul hsize, Nat.add_one_mul, Nat.mul_comm]
      omega
    rw [Nat.le_antisymm (Nat.lt_succ_iff.mp hhigh) hlow]

/-- The ticks that a rate has, and the factor that is used for it. -/
structure RateTicks (rate ticks factor : ℕ) : Prop where
  exact : ticks * rate = xfTimebaseFreq
  pos : 0 < rate
  le : ticks ≤ factor
  small : factor ≤ 2 * ticks
  diff : factor - ticks = if rate = 12000 then 416 else 0

lemma xfTimebaseFactor_ticks (h : xfTimebaseFactor rate ≠ 0#32) :
    RateTicks rate.toNat (xfTimebaseFreq / rate.toNat) (xfTimebaseFactor rate).toNat := by
  rcases xfTimebaseFactor_spec h with ⟨hrate, hfactor⟩ | ⟨hrate, hpos, hfactor⟩
  · rw [hrate, hfactor]
    exact ⟨by decide, by decide, by decide, by decide, by decide⟩
  · have hticks : xfTimebaseFreq / rate.toNat = (xfTimebaseFactor rate).toNat := by
      rw [← hfactor, Nat.mul_div_cancel _ hpos]
    rw [hticks]
    exact ⟨hfactor, hpos, le_rfl, by omega, by rw [if_neg hrate, Nat.sub_self]⟩

/-- The duration of samples in 32 bits. -/
lemma durationExact_iff {dts : U32} {rate : ℕ} (h : RateTicks rate (xfTimebaseFreq / rate) factor)
    (hsize : 0 < sampleSize)
    (hdts : dts.toNat = samples * (sampleSize * (factor / sampleSize)) % 2 ^ 32) :
    DurationExact dts samples rate ↔ DurationFits samples sampleSize rate := by
  have hticks (samples : ℕ) :
      samples * xfTimebaseFreq = samples * (xfTimebaseFreq / rate) * rate := by
    rw [Nat.mul_assoc, h.exact]
  have hle : samples * (sampleSize * (factor / sampleSize)) ≤
      samples * (2 * (xfTimebaseFreq / rate)) :=
    Nat.mul_le_mul_left _ ((Nat.mul_div_le factor sampleSize).trans h.small)
  have htwo : samples * (2 * (xfTimebaseFreq / rate)) = 2 * (samples * (xfTimebaseFreq / rate)) :=
    Nat.mul_left_comm ..
  constructor
  · rintro ⟨hexact, hlt⟩
    rw [hticks] at hexact
    have heq := Nat.eq_of_mul_eq_mul_right h.pos hexact
    rcases Nat.eq_zero_or_pos samples with hzero | hpos
    · exact .inl hzero
    · -- the factor is less than twice the ticks, so that nothing wraps around
      rw [Nat.mod_eq_of_lt (by omega)] at hdts
      have hsample := Nat.eq_of_mul_eq_mul_left hpos (hdts.symm.trans heq)
      obtain ⟨hdvd, -, hdiff⟩ := (mul_div_eq_iff hsize).mp hsample
      rw [h.diff] at hdiff
      refine .inr ⟨hdvd, fun hrate => ?_, by omega⟩
      rwa [if_pos hrate] at hdiff
  · rintro (rfl | ⟨hdvd, hrate, hlt⟩)
    · rw [Nat.zero_mul, Nat.zero_mod] at hdts
      exact ⟨by rw [hdts, Nat.zero_mul, Nat.zero_mul], by omega⟩
    · have hdiff : factor - xfTimebaseFreq / rate < sampleSize := by
        rw [h.diff]
        split
        · exact hrate ‹_›
        · exact hsize
      rw [(mul_div_eq_iff hsize).mpr ⟨hdvd, h.le, hdiff⟩, Nat.mod_eq_of_lt (by omega)] at hdts
      exact ⟨by rw [hdts, hticks], by omega⟩

end Factor

/-! ## Codecs -/

section Codec

variable {env : XaEnv} {s u : XaState XaCodec}

/-- The sample rate, by the answer of the plugin of a codec. -/
def XaEnv.sampleRate (env : XaEnv) : U32 := (env.api .getConfigParam 0x10001#32).value

/-- What `xa_codec_prepare_runtime` stores. -/
lemma prepareRuntime_ok (h : xaCodecPrepareRuntime env s = .ok ⟨⟩ u) :
    xfTimebaseFactor env.sampleRate ≠ 0#32 ∧ env.sampleSize ≠ 0#32 ∧
      u.ext.sampleSize = env.sampleSize ∧
      u.ext.factor = xfTimebaseFactor env.sampleRate / env.sampleSize := by
  have hwp : wp (xaCodecPrepareRuntime env) (fun _ u => xfTimebaseFactor env.sampleRate ≠ 0#32 ∧
      env.sampleSize ≠ 0#32 ∧ u.ext.sampleSize = env.sampleSize ∧
      u.ext.factor = xfTimebaseFactor env.sampleRate / env.sampleSize) (fun _ => True) s := by
    simp only [xaCodecPrepareRuntime, wp_bind, wp_get, wp_ite, wp_pure, wp_update,
      wp_xaApi, wp_check,
      wp_xaExtModify, wp_xaCodecOutputProduce]
    simp [XaEnv.sampleSize, XaEnv.sampleRate, -mul_ite]
    intro _ _ _ _ _ _ hsize _ hfactor _ _ _
    exact ⟨hfactor, hsize, rfl, rfl⟩
  rw [wp, h] at hwp
  exact hwp

/-- The delay in 32 bits. -/
lemma toNat_dts {produced : U32} {factor : U32} (hfactor : u.ext.factor = factor / u.ext.sampleSize)
    (hdvd : u.ext.sampleSize.toNat ∣ produced.toNat) :
    (u.ext.dts produced).toNat = produced.toNat / u.ext.sampleSize.toNat *
      (u.ext.sampleSize.toNat * (factor.toNat / u.ext.sampleSize.toNat)) % 2 ^ 32 := by
  rw [XaCodec.dts, hfactor, BitVec.toNat_mul, BitVec.toNat_udiv, ← Nat.mul_assoc,
    Nat.div_mul_cancel hdvd]

/-- The task of a codec is scheduled with the delay for what has been produced. -/
theorem postprocess_schedules (hidle : s.base.schedule = false)
    (h : xaCodecPostprocess env 0#32 s = .ok ⟨⟩ u) :
    u.core.sched = s.core.sched ∨ xfSchedPut s.core.sched s.task
      (xfSchedTimestamp s.core.sched + s.ext.dts (env.produced s.ext)) = some u.core.sched := by
  -- what the ports do before leaves the task and the factor alone
  let W (t : XaState XaCodec) : Prop := t.base.schedule = false ∧ t.core.sched = s.core.sched ∧
    t.task = s.task ∧
    t.ext.factor = s.ext.factor
  have hwp : wp (xaCodecPostprocess env 0#32)
      (fun _ u => u.core.sched = s.core.sched ∨ xfSchedPut s.core.sched s.task
      (xfSchedTimestamp s.core.sched + s.ext.dts (env.produced s.ext)) = some u.core.sched)
        (fun _ => True) s := by
    simp only [xaCodecPostprocess, wp_bind (x := Prog.get), wp_get,
      wp_bind (x := xaApi _ _ _), wp_xaApi]
    refine ⟨fun _ => ?_, fun _ => trivial⟩
    rw [wp_bind]
    refine wp_mono (Q := fun a t => W t ∧ a = env.produced s.ext) (E := fun _ => True) ?_
      (fun produced t ht => ?_)
      fun _ h => h
    · rw [wp_ite, wp_xaApi, wp_pure]
      exact ⟨fun hsize =>
        ⟨fun _ => ⟨⟨hidle, rfl, rfl, rfl⟩, by rw [XaEnv.produced, if_pos hsize]⟩, fun _ => trivial⟩,
        fun hsize => ⟨⟨hidle, rfl, rfl, rfl⟩, by rw [XaEnv.produced, if_neg hsize]⟩⟩
    obtain ⟨ht, rfl⟩ := ht
    rw [wp_bind]
    refine wp_mono (Q := fun _ => W) (E := fun _ => True) ?_ (fun _ t ht => ?_) fun _ h => h
    · simp only [wp_ite, wp_bind, wp_xaCodecInputConsume, wp_xaExtModify, wp_pure]
      exact ⟨fun _ _ _ _ => ⟨ht.1, by simpa using ht.2.1, ht.2.2⟩, fun _ => ht⟩
    rw [wp_bind]
    refine wp_mono (Q := fun _ => W) (E := fun _ => True) ?_ (fun _ t ht => ?_) fun _ h => h
    · simp only [wp_ite, wp_bind, wp_xaCodecOutputProduce, wp_xaExtModify, wp_pure]
      exact ⟨fun _ _ _ _ => ⟨ht.1, by simpa using ht.2.1, ht.2.2⟩, fun _ => ht⟩
    obtain ⟨hschedule, hsched, htask, hfactor⟩ := ht
    simp only [wp_ite, wp_bind, wp_get, wp_pure, ne_eq, not_true_eq_false, false_imp_iff, true_and,
      not_false_eq_true,
      forall_const]
    refine ⟨fun _ => ?_, fun _ => .inl hsched⟩
    rw [xaBaseSchedule, wp_update]
    intro v a hv
    rw [hschedule, if_pos (by decide), Option.map_eq_some_iff] at hv
    obtain ⟨sched, hput, heq⟩ := hv
    obtain ⟨rfl, rfl⟩ := Prod.mk.inj heq
    rw [hsched, htask, hfactor] at hput
    exact .inr hput
  rw [wp, h] at hwp
  exact hwp

end Codec

/-! ## The mixer -/

section Mixer

variable {env : XaEnv} {s u : XaState XaMixer}

/-- The sample rate of a mixer. -/
def XaEnv.mixerRate (env : XaEnv) : U32 := (env.api .getConfigParam 4#32).value

/-- The frame size of a mixer. -/
def XaEnv.mixerFrameSize (env : XaEnv) : U32 := (env.api .getConfigParam 5#32).value

/-- What `xa_mixer_prepare_runtime` stores. -/
lemma mixerPrepareRuntime_ok (h : xaMixerPrepareRuntime env s = .ok ⟨⟩ u) :
    xfTimebaseFactor env.mixerRate ≠ 0#32 ∧
      u.ext.frameDuration = env.mixerFrameSize * xfTimebaseFactor env.mixerRate := by
  have hwp : wp (xaMixerPrepareRuntime env) (fun _ u => xfTimebaseFactor env.mixerRate ≠ 0#32 ∧
      u.ext.frameDuration = env.mixerFrameSize * xfTimebaseFactor env.mixerRate)
        (fun _ => True) s := by
    simp only [xaMixerPrepareRuntime, wp_bind, wp_get]
    split
    · simp only [wp_update, reduceCtorEq, false_imp_iff, implies_true]
    · simp only [wp_bind, wp_xaApi, wp_check, wp_xaExtModify, wp_xfResponse]
      simp [XaEnv.mixerRate, XaEnv.mixerFrameSize]
  rw [wp, h] at hwp
  exact hwp

end Mixer

/-! ## Exact delays -/

/-- For every answer of a plugin with which a run-time is prepared, the delay for some bytes of a
codec and the frame duration of a mixer are exact and in range if and only if the duration fits; a
sample of the mixer counts as one byte. -/
theorem delays_exact_iff (env : XaEnv) (produced : U32) :
    (∀ s u, xaCodecPrepareRuntime env s = .ok ⟨⟩ u → u.ext.sampleSize.toNat ∣ produced.toNat →
      (DurationExact (u.ext.dts produced) (produced.toNat / u.ext.sampleSize.toNat)
      env.sampleRate.toNat ↔
        DurationFits (produced.toNat / env.sampleSize.toNat) env.sampleSize.toNat
          env.sampleRate.toNat)) ∧
    ∀ s u, xaMixerPrepareRuntime env s = .ok ⟨⟩ u →
      (DurationExact u.ext.frameDuration env.mixerFrameSize.toNat env.mixerRate.toNat ↔
        DurationFits env.mixerFrameSize.toNat 1 env.mixerRate.toNat) := by
  refine ⟨fun s u h hdvd => ?_, fun s u h => ?_⟩
  · obtain ⟨hrate, hsize, hsampleSize, hfactor⟩ := prepareRuntime_ok h
    have hpos : 0 < env.sampleSize.toNat := by
      refine Nat.pos_of_ne_zero fun hzero => hsize ?_
      exact BitVec.eq_of_toNat_eq hzero
    have hdts := toNat_dts (hsampleSize.symm ▸ hfactor) hdvd
    rw [hsampleSize] at hdts ⊢
    exact durationExact_iff (xfTimebaseFactor_ticks hrate) hpos hdts
  · obtain ⟨hrate, hduration⟩ := mixerPrepareRuntime_ok h
    refine durationExact_iff (xfTimebaseFactor_ticks hrate) Nat.one_pos ?_
    rw [hduration, BitVec.toNat_mul, Nat.div_one, Nat.one_mul]

/-- A plugin with two channels of 16 bits and 4096 bytes of output. -/
def XaEnv.stereoAt (rate : U32) : XaEnv :=
  { XaEnv.oneStep with
    api := fun cmd idx =>
      match cmd with
      | .getConfigParam =>
        ⟨false, if idx = 0x10001#32 then rate else if idx = 0x10002#32 then 16#32 else 2#32⟩
      | _ => ⟨false, 4096#32⟩ }

/-- A codec with a start message. -/
def xaCodecStarting : XaState XaCodec :=
  { xaAudioCodecSample with
    ext := { xaAudioCodecSample.ext with
      output := { xaAudioCodecSample.ext.output with queue :=
      [.host 1 .fillThisBuffer 1#16 20#32 128#32] } } }

/-- A full buffer at 48000 Hz. -/
theorem delays_exact_stereo :
    ∃ u, xaCodecPrepareRuntime (.stereoAt 48000#32) xaCodecStarting = .ok ⟨⟩ u ∧
    DurationExact (u.ext.dts 4096#32) ((4096#32).toNat / u.ext.sampleSize.toNat) 48000 :=
  ⟨_, rfl, ((delays_exact_iff (.stereoAt 48000#32) 4096#32).1 xaCodecStarting _ rfl (by decide)).mpr
    (.inr (by decide))⟩

/-- The delay for a sample at 12000 Hz is 5120 ticks; its duration is 4704 ticks. -/
theorem delay_fails : ∃ u, xaCodecPrepareRuntime (.stereoAt 12000#32) xaCodecStarting = .ok ⟨⟩ u ∧
    u.ext.sampleSize.toNat ∣ (4#32).toNat ∧
    ¬ DurationExact (u.ext.dts 4#32) ((4#32).toNat / u.ext.sampleSize.toNat)
      (XaEnv.stereoAt 12000#32).sampleRate.toNat := by
  refine ⟨_, rfl, by decide, fun h => ?_⟩
  have hexact := h.1
  revert hexact
  decide

end Hikey
