import Hikey.Component.Pcm

/-!
# The processing functions of the PCM codec (`plugins/cadence/pcm_proc/xa-pcm.c`)

The five functions with the bytes that they write to the output buffer, and the commands by which
the configuration is set.  Two of the functions copy the input, the other three go through the
samples and, in every sample, through the channels of the input.
-/

namespace Hikey

variable {mem : U32 → UInt8} {w v : ℕ}

/-! ## Samples in memory -/

/-- The 16-bit sample with index `i` behind the pointer `p`. -/
def xaPcmSample16 (mem : U32 → UInt8) (p : U32) (i : ℕ) : BitVec 16 :=
  readU16 mem (p + BitVec.ofNat 32 (2 * i))

/-- The 32-bit sample with index `i` behind the pointer `p`. -/
def xaPcmSample32 (mem : U32 → UInt8) (p : U32) (i : ℕ) : BitVec 32 :=
  readU32 mem (p + BitVec.ofNat 32 (4 * i))

/-- The bytes of a sample, the least significant one first. -/
def xaPcmSampleBytes (x : BitVec w) : List UInt8 :=
  (List.range (w / 8)).map fun j => UInt8.ofBitVec ((x >>> (8 * j)).setWidth 8)

/-! ## Processing -/

/-- The inner loop over `k` channels: an output channel is a converted input channel, or zero. -/
def xaPcmMapChannels (convert : BitVec w → BitVec v) (input : ℕ → BitVec w) :
    ℕ → U32 → List (BitVec v)
  | 0, _ => []
  | k + 1, map =>
    (if map &&& 0xF#32 < 8#32 then convert (input (map &&& 0xF#32).toNat) else 0#v) ::
      xaPcmMapChannels convert input k (map >>> 4)

/-- The outer loop over `n` samples; the input pointer advances by `k`. -/
def xaPcmMapSamples (convert : BitVec w → BitVec v) (k : ℕ) (chmap : U32) :
    ℕ → (ℕ → BitVec w) → List (BitVec v)
  | 0, _ => []
  | n + 1, input => xaPcmMapChannels convert input k chmap ++
      xaPcmMapSamples convert k chmap n fun i => input (k + i)

/-- The functions that copy the samples: the plugin and the bytes written. -/
def xaPcmDoCopy (mem : U32 → UInt8) (d : XaPcm) : XaPcm × List UInt8 :=
  let length := d.insize * d.config.inChannels * xaPcmWidthBytes d.config.inPcmWidth
  ({ d with consumed := length, produced := length, insize := 0#32 },
    readBytes mem d.input length.toNat)

/-- The functions that map the channels, with the pointers advanced by the loops. -/
def xaPcmDoMap (convert : BitVec w → BitVec v) (input : ℕ → BitVec w) (d : XaPcm) :
    XaPcm × List UInt8 :=
  let output := xaPcmMapSamples convert d.config.inChannels.toNat d.config.chanRouting
    d.insize.toNat input
  ({ d with
      consumed := BitVec.ofNat 32 (w / 8 * (d.config.inChannels.toNat * d.insize.toNat))
      produced := BitVec.ofNat 32 (v / 8 * output.length)
      insize := 0#32 },
    output.flatMap xaPcmSampleBytes)

/-- `xa_pcm_do_execute_copy`. -/
def xaPcmDoExecuteCopy (mem : U32 → UInt8) (d : XaPcm) : XaPcm × List UInt8 := xaPcmDoCopy mem d

/-- `xa_pcm_do_execute_pcm16_chmap`, in which the mapping is disabled. -/
def xaPcmDoExecutePcm16Chmap (mem : U32 → UInt8) (d : XaPcm) : XaPcm × List UInt8 :=
  xaPcmDoCopy mem d

/-- `xa_pcm_do_execute_pcm24_chmap`. -/
def xaPcmDoExecutePcm24Chmap (mem : U32 → UInt8) (d : XaPcm) : XaPcm × List UInt8 :=
  xaPcmDoMap (fun x : BitVec 32 => x) (xaPcmSample32 mem d.input) d

/-- `xa_pcm_do_execute_pcm24_to_pcm16`. -/
def xaPcmDoExecutePcm24ToPcm16 (mem : U32 → UInt8) (d : XaPcm) : XaPcm × List UInt8 :=
  xaPcmDoMap (fun x : BitVec 32 => (x.sshiftRight 16).setWidth 16) (xaPcmSample32 mem d.input) d

/-- `xa_pcm_do_execute_pcm16_to_pcm24`. -/
def xaPcmDoExecutePcm16ToPcm24 (mem : U32 → UInt8) (d : XaPcm) : XaPcm × List UInt8 :=
  xaPcmDoMap (fun x : BitVec 16 => x.signExtend 32 <<< 16) (xaPcmSample16 mem d.input) d

/-- The processing function that a hook stands for. -/
def XaPcmHook.run (mem : U32 → UInt8) (d : XaPcm) : XaPcmHook → XaPcm × List UInt8
  | copy => xaPcmDoExecuteCopy mem d
  | pcm16Chmap => xaPcmDoExecutePcm16Chmap mem d
  | pcm24Chmap => xaPcmDoExecutePcm24Chmap mem d
  | pcm24ToPcm16 => xaPcmDoExecutePcm24ToPcm16 mem d
  | pcm16ToPcm24 => xaPcmDoExecutePcm16ToPcm24 mem d

/-- `d->process(d)` with the bytes written; `none` is the fatal `XA_PCM_EXEC_FATAL_STATE`. -/
def xaPcmProcessBytes (mem : U32 → UInt8) (d : XaPcm) : Option (XaPcm × List UInt8) :=
  if d.input ≠ 0#32 ∧ d.insize ≠ 0#32 ∧ d.output ≠ 0#32 then some (d.config.hook.run mem d)
  else none

/-! ## Configuration -/

lemma xaPcm_width_eq : 16#32 = 16#32 ∨ 16#32 = 24#32 := .inl rfl

lemma xaPcm_stereo_range : 0 < (2#32).toNat ∧ (2#32).toNat ≤ 8 := by decide

/-- The configuration after `XA_CMD_TYPE_INIT_API_PRE_CONFIG_PARAMS`. -/
def xaPcmPreConfig : XaPcmConfig where
  sampleRate := 48000#32
  inPcmWidth := 16#32
  outPcmWidth := 16#32
  inChannels := 2#32
  outChannels := 2#32
  chanRouting := (0#32 <<< 0) ||| (1#32 <<< 1)
  inPcmWidth_eq := xaPcm_width_eq
  outPcmWidth_eq := xaPcm_width_eq
  inChannels_range := xaPcm_stereo_range
  outChannels_range := xaPcm_stereo_range

lemma xaPcm_channels_range {value : U32} (h : (0#32).slt value ∧ value.sle 8#32) :
    0 < value.toNat ∧ value.toNat ≤ 8 := by
  obtain ⟨hpos, hle⟩ := h
  rw [BitVec.slt_iff_toInt_lt, BitVec.toInt_zero, BitVec.toInt_eq_toNat_cond] at hpos
  rw [BitVec.sle_iff_toInt_le, BitVec.toInt_eq_toNat_cond] at hle
  have hbound := value.isLt
  split at hpos
  · next hlt =>
    rw [if_pos hlt] at hle
    simp only [BitVec.reduceToInt] at hle
    omega
  · omega

/-- `xa_pcm_set_config_param` in the pre-configuration state; `none` is a value out of range or an
unknown parameter. -/
def xaPcmSetConfigParam (c : XaPcmConfig) (idx value : U32) : Option XaPcmConfig :=
  if idx = 0x10001#32 ∨ idx = 0#32 then some { c with sampleRate := value }
  else if idx = 1#32 then
    if h : value = 16#32 ∨ value = 24#32 then
      some { c with inPcmWidth := value, inPcmWidth_eq := h }
    else none
  else if idx = 2#32 then
    if h : (0#32).slt value ∧ value.sle 8#32 then
      some { c with inChannels := value, inChannels_range := xaPcm_channels_range h }
    else none
  else if idx = 0x10002#32 ∨ idx = 3#32 then
    if h : value = 16#32 ∨ value = 24#32 then
      some { c with outPcmWidth := value, outPcmWidth_eq := h }
    else none
  else if idx = 0x10000#32 ∨ idx = 4#32 then
    if h : (0#32).slt value ∧ value.sle 8#32 then
      some { c with outChannels := value, outChannels_range := xaPcm_channels_range h }
    else none
  else if idx = 5#32 then some { c with chanRouting := value }
  else none

/-- The configuration after a list of accepted commands. -/
def xaPcmConfigure (c : XaPcmConfig) (commands : List (U32 × U32)) : Option XaPcmConfig :=
  commands.foldlM (fun c p => xaPcmSetConfigParam c p.1 p.2) c

/-! ## The number of bytes written -/

variable {d d' : XaPcm} {written : List UInt8}

lemma length_sampleBytes (x : BitVec w) : (xaPcmSampleBytes x).length = w / 8 := by
  simp [xaPcmSampleBytes]

lemma length_mapChannels (convert : BitVec w → BitVec v) (input : ℕ → BitVec w) (k : ℕ)
    (map : U32) : (xaPcmMapChannels convert input k map).length = k := by
  induction k generalizing map with
  | zero => rfl
  | succ k ih => rw [xaPcmMapChannels, List.length_cons, ih]

lemma length_mapSamples (convert : BitVec w → BitVec v) (k : ℕ) (chmap : U32) (n : ℕ)
    (input : ℕ → BitVec w) : (xaPcmMapSamples convert k chmap n input).length = k * n := by
  induction n generalizing input with
  | zero => rfl
  | succ n ih =>
    rw [xaPcmMapSamples, List.length_append, length_mapChannels, ih, Nat.mul_succ, Nat.add_comm]

lemma xaPcmWidthBytes_cases (width : U32) :
    width = 16#32 ∧ xaPcmWidthBytes width = 2#32 ∨ width ≠ 16#32 ∧
      xaPcmWidthBytes width = 4#32 := by
  by_cases h : width = 16#32
  · exact .inl ⟨h, if_pos h⟩
  · exact .inr ⟨h, if_neg h⟩

/-- A function that maps channels writes one converted sample for every channel of the input. -/
lemma xaPcmDoMap_spec (convert : BitVec w → BitVec v) (input : ℕ → BitVec w) (d : XaPcm) :
    (xaPcmDoMap convert input d).2.length = v / 8 * (d.config.inChannels.toNat * d.insize.toNat) ∧
      (xaPcmDoMap convert input d).1 = { d with
        consumed := BitVec.ofNat 32 (w / 8 * (d.config.inChannels.toNat * d.insize.toNat))
        produced := BitVec.ofNat 32 (v / 8 * (d.config.inChannels.toNat * d.insize.toNat))
        insize := 0#32 } := by
  constructor
  · simp only [xaPcmDoMap]
    rw [List.length_flatMap, List.map_congr_left (g := fun _ => v / 8)
      (fun x _ => length_sampleBytes x), List.map_const', List.sum_replicate, length_mapSamples,
      smul_eq_mul, Nat.mul_comm]
  · simp only [xaPcmDoMap, length_mapSamples]

/-- The pointer differences are the products modulo `2 ^ 32`. -/
lemma ofNat_mul_samples (a : ℕ) (k n : U32) :
    BitVec.ofNat 32 (a * (k.toNat * n.toNat)) = n * k * BitVec.ofNat 32 a := by
  rw [BitVec.ofNat_mul, BitVec.ofNat_mul, BitVec.ofNat_toNat, BitVec.ofNat_toNat,
    BitVec.setWidth_eq, BitVec.setWidth_eq, BitVec.mul_comm k n, BitVec.mul_comm]

/-- The plugin after a call, as the component sees it. -/
lemma xaPcmProcessBytes_fst (mem : U32 → UInt8) (d : XaPcm) :
    (xaPcmProcessBytes mem d).map Prod.fst = xaPcmProcess d := by
  unfold xaPcmProcessBytes xaPcmProcess
  by_cases h : d.input ≠ 0#32 ∧ d.insize ≠ 0#32 ∧ d.output ≠ 0#32
  · rw [if_pos h, if_pos h]
    cases d.config.hook with
    | copy | pcm16Chmap => rfl
    | pcm24Chmap | pcm24ToPcm16 | pcm16ToPcm24 =>
      exact congrArg some (by
        simp only [XaPcmHook.run, xaPcmDoExecutePcm24Chmap, xaPcmDoExecutePcm24ToPcm16,
          xaPcmDoExecutePcm16ToPcm24, xaPcmDoMap_spec, ofNat_mul_samples]
        rfl)
  · rw [if_neg h, if_neg h]
    rfl

/-- The bytes that a call writes, and the number that it reports: every channel of the input becomes
a sample of the output width. -/
lemma xaPcmProcessBytes_length (hn : d.insize.toNat ≤ 1024)
    (hres : xaPcmProcessBytes mem d = some (d', written)) :
    written.length = d.insize.toNat * d.config.inChannels.toNat *
        (xaPcmWidthBytes d.config.outPcmWidth).toNat ∧
      d'.produced.toNat = written.length := by
  obtain ⟨-, hk⟩ := d.config.inChannels_range
  have hsamples : d.insize.toNat * d.config.inChannels.toNat ≤ 1024 * 8 := Nat.mul_le_mul hn hk
  have hcopy (hwidth : d.config.inPcmWidth = d.config.outPcmWidth)
      (h : xaPcmDoCopy mem d = (d', written)) : written.length =
        d.insize.toNat * d.config.inChannels.toNat *
          (xaPcmWidthBytes d.config.outPcmWidth).toNat ∧ d'.produced.toNat = written.length := by
    obtain ⟨rfl, rfl⟩ := Prod.mk.inj h
    refine ⟨?_, by simp only [length_readBytes]⟩
    have hsum : (d.insize * d.config.inChannels).toNat =
        d.insize.toNat * d.config.inChannels.toNat := by
      rw [BitVec.toNat_mul, Nat.mod_eq_of_lt (by omega)]
    rw [length_readBytes, hwidth, BitVec.toNat_mul, hsum]
    refine Nat.mod_eq_of_lt ?_
    rcases xaPcmWidthBytes_cases d.config.outPcmWidth with ⟨-, hbytes⟩ | ⟨-, hbytes⟩
    · simp only [hbytes, BitVec.toNat_ofNat]
      omega
    · simp only [hbytes, BitVec.toNat_ofNat]
      omega
  have hmap {w v : ℕ} (convert : BitVec w → BitVec v) (input : ℕ → BitVec w)
      (hv : v / 8 = (xaPcmWidthBytes d.config.outPcmWidth).toNat) (hv4 : v / 8 ≤ 4)
      (h : xaPcmDoMap convert input d = (d', written)) : written.length =
        d.insize.toNat * d.config.inChannels.toNat *
          (xaPcmWidthBytes d.config.outPcmWidth).toNat ∧ d'.produced.toNat = written.length := by
    obtain ⟨hlen, hd⟩ := xaPcmDoMap_spec convert input d
    rw [h] at hlen hd
    have hlen' : written.length = v / 8 * (d.config.inChannels.toNat * d.insize.toNat) := hlen
    have hle : v / 8 * (d.config.inChannels.toNat * d.insize.toNat) ≤ 4 * (1024 * 8) :=
      Nat.mul_le_mul hv4 (by rwa [Nat.mul_comm])
    refine ⟨by rw [hlen', hv, Nat.mul_comm, Nat.mul_comm d.config.inChannels.toNat], ?_⟩
    rw [show d' = _ from hd, hlen', BitVec.toNat_ofNat, Nat.mod_eq_of_lt (by omega)]
  unfold xaPcmProcessBytes at hres
  split at hres
  · have hres := Option.some.inj hres
    unfold XaPcmConfig.hook at hres
    rcases xaPcmWidthBytes_cases d.config.outPcmWidth with ⟨hout, hbytes⟩ | ⟨hout, hbytes⟩
    · by_cases heq : d.config.inPcmWidth = d.config.outPcmWidth
      · rw [if_pos heq, heq, if_pos hout] at hres
        split at hres
        · exact hcopy heq hres
        · exact hcopy heq hres
      · rw [if_neg heq, if_neg (by rw [← hout]; exact heq)] at hres
        exact hmap _ _ (by rw [hbytes]; rfl) (by decide) hres
    · by_cases heq : d.config.inPcmWidth = d.config.outPcmWidth
      · rw [if_pos heq, heq, if_neg hout] at hres
        split at hres
        · exact hmap _ _ (by rw [hbytes]; rfl) (by decide) hres
        · exact hcopy heq hres
      · have hin : d.config.inPcmWidth = 16#32 := d.config.inPcmWidth_eq.resolve_right fun h24 =>
          heq (h24.trans (d.config.outPcmWidth_eq.resolve_left hout).symm)
        rw [if_neg heq, if_pos hin] at hres
        exact hmap _ _ (by rw [hbytes]; rfl) (by decide) hres
  · cases hres

/-- The size of the output buffer. -/
lemma toNat_outputSize (c : XaPcmConfig) : (1024#32 * c.outStride).toNat =
    1024 * (c.outChannels.toNat * (xaPcmWidthBytes c.outPcmWidth).toNat) := by
  obtain ⟨-, hk⟩ := c.outChannels_range
  rw [XaPcmConfig.outStride, BitVec.toNat_mul, BitVec.toNat_mul]
  rcases xaPcmWidthBytes_cases c.outPcmWidth with ⟨-, hbytes⟩ | ⟨-, hbytes⟩
  · simp only [hbytes, BitVec.toNat_ofNat]
    omega
  · simp only [hbytes, BitVec.toNat_ofNat]
    omega

/-- With an accepted number of input bytes, one execution writes and reports at most the size of the
output buffer exactly when the channels of the input samples do not exceed those of 1024 output
samples. -/
theorem xaPcmProcess_fits {d₀ : XaPcm} {bytes : U32}
    (hset : xaPcmSetInputBytes d₀ 0#32 bytes = some d)
    (hres : xaPcmProcessBytes mem d = some (d', written)) :
    (written.length ≤ (1024#32 * d₀.config.outStride).toNat ∧
        d'.produced.toNat ≤ (1024#32 * d₀.config.outStride).toNat) ↔
      min (bytes.toNat / d₀.config.inStride.toNat) 1024 * d₀.config.inChannels.toNat ≤
        1024 * d₀.config.outChannels.toNat := by
  simp only [xaPcmSetInputBytes] at hset
  split at hset
  · obtain rfl := Option.some.inj hset
    have hinsize : (if 1024#32 < bytes / d₀.config.inStride then 1024#32
        else bytes / d₀.config.inStride).toNat =
          min (bytes.toNat / d₀.config.inStride.toNat) 1024 := by
      split
      · next hlt =>
        rw [BitVec.lt_def, BitVec.toNat_udiv] at hlt
        simp only [BitVec.toNat_ofNat] at hlt ⊢
        omega
      · next hlt =>
        rw [BitVec.lt_def, BitVec.toNat_udiv] at hlt
        simp only [BitVec.toNat_ofNat] at hlt
        rw [BitVec.toNat_udiv]
        omega
    have hwidth : 0 < (xaPcmWidthBytes d₀.config.outPcmWidth).toNat := by
      rcases xaPcmWidthBytes_cases d₀.config.outPcmWidth with ⟨-, hbytes⟩ | ⟨-, hbytes⟩
      · simp [hbytes]
      · simp [hbytes]
    obtain ⟨hlen, hproduced⟩ := xaPcmProcessBytes_length (by simp only [hinsize]; omega) hres
    simp only [hinsize] at hlen
    rw [hproduced, and_self, hlen, toNat_outputSize, ← Nat.mul_assoc]
    exact Nat.mul_le_mul_right_iff hwidth
  · cases hset

/-- A codec after the set-up of its buffers. -/
def xaPcmSampleCodec (config : XaPcmConfig) : XaPcm where
  config := config
  running := true
  eos := false
  complete := false
  insize := 0#32
  input := 0x1000#32
  output := 0x8000#32
  consumed := 0#32
  produced := 0#32

/-- A stereo sample of 16 bits is copied. -/
theorem xaPcmProcess_fits_stereo : ∃ d d' written,
    xaPcmSetInputBytes (xaPcmSampleCodec xaPcmPreConfig) 0#32 4#32 = some d ∧
      xaPcmProcessBytes (fun _ => 0) d = some (d', written) ∧ written.length ≤ 4096 := by
  refine ⟨_, _, _, rfl, rfl, ?_⟩
  have hset : xaPcmSetInputBytes (xaPcmSampleCodec xaPcmPreConfig) 0#32 4#32 = some _ := rfl
  exact ((xaPcmProcess_fits hset (show xaPcmProcessBytes (fun _ => 0) _ = some _ from rfl)).2
    (by decide)).1

/-- A stereo sample of 16 bits becomes mono: the channels of 1024 samples are copied to a buffer for
half of them. -/
theorem xaPcmProcess_overflows : ∃ c d d' written,
    xaPcmConfigure xaPcmPreConfig [(4#32, 1#32)] = some c ∧
      xaPcmSetInputBytes (xaPcmSampleCodec c) 0#32 4096#32 = some d ∧
      xaPcmProcessBytes (fun _ => 0) d = some (d', written) ∧ (1024#32 * c.outStride).toNat = 2048 ∧
      written.length = 4096 := by
  let c : XaPcmConfig := { xaPcmPreConfig with outChannels := 1#32, outChannels_range := by decide }
  let d : XaPcm := { xaPcmSampleCodec c with insize := 1024#32 }
  obtain ⟨d', written, hres⟩ : ∃ d' written,
      xaPcmProcessBytes (fun _ => 0) d = some (d', written) := ⟨_, _, if_pos (by decide)⟩
  obtain ⟨hlen, -⟩ := xaPcmProcessBytes_length (by decide) hres
  have hset : xaPcmSetInputBytes (xaPcmSampleCodec c) 0#32 4096#32 = some d := by
    simp [xaPcmSetInputBytes, xaPcmSampleCodec, c, d, XaPcmConfig.inStride, xaPcmWidthBytes,
      xaPcmPreConfig]
  exact ⟨c, d, d', written, rfl, hset, hres, by decide, hlen.trans (by decide)⟩

end Hikey
