import Hikey.Codec.PcmExecute

/-!
# The channel mapping of the PCM codec (`plugins/cadence/pcm_proc/xa-pcm.c`)

A routing word has four bits for each channel of the output.  The loops of the codec run over the
channels of the input on both sides, and take the bits for a channel whenever they are below 8; with
16 bits on both sides the samples are copied.
-/

namespace Hikey

variable {mem mem' : U32 → UInt8} {w v k n out : ℕ}

/-! ## Frames -/

/-- The bits of a routing word for the output channel `j`. -/
def xaPcmRoute (chmap : U32) (j : ℕ) : ℕ := ((chmap >>> (4 * j)) &&& 0xF#32).toNat

/-- The bytes of `n` frames of `out` samples each. -/
def xaPcmFrames (n out : ℕ) (sample : ℕ → ℕ → BitVec v) : List UInt8 :=
  ((List.range n).flatMap fun i => (List.range out).map (sample i)).flatMap xaPcmSampleBytes

/-- Frames of `out` samples, of which sample `j` is the converted sample of the input at the channel
that is routed to `j` when that is below `bound`. -/
def xaPcmRouted (convert : BitVec w → BitVec v) (input : ℕ → BitVec w) (k bound out n : ℕ)
    (chmap : U32) : List UInt8 :=
  xaPcmFrames n out fun i j =>
    if xaPcmRoute chmap j < bound then convert (input (k * i + xaPcmRoute chmap j)) else 0#v

/-- The bytes that a configuration asks for, for `n` frames. -/
def XaPcmConfig.routed (c : XaPcmConfig) (mem : U32 → UInt8) (input : U32) (n : ℕ) : List UInt8 :=
  let k := c.inChannels.toNat
  let out := c.outChannels.toNat
  if c.inPcmWidth = 16#32 then
    if c.outPcmWidth = 16#32 then
      xaPcmRouted (fun x : BitVec 16 => x) (xaPcmSample16 mem input) k k out n c.chanRouting
    else
      xaPcmRouted (fun x : BitVec 16 => x.signExtend 32 <<< 16) (xaPcmSample16 mem input) k k out n
        c.chanRouting
  else if c.outPcmWidth = 16#32 then
    xaPcmRouted (fun x : BitVec 32 => (x.sshiftRight 16).setWidth 16) (xaPcmSample32 mem input) k k
      out n c.chanRouting
  else xaPcmRouted (fun x : BitVec 32 => x) (xaPcmSample32 mem input) k k out n c.chanRouting

/-- The mapping of a configuration is the identity. -/
def XaPcmConfig.RoutesIdentity (c : XaPcmConfig) : Prop :=
  c.inChannels = c.outChannels ∧ ∀ j < c.outChannels.toNat, xaPcmRoute c.chanRouting j = j

/-- What a call of the hook does: it writes the frames that are asked for, reports their number of
bytes, and depends on no byte of the memory but those of the frames of the input. -/
structure XaPcmRoutes (mem : U32 → UInt8) (d d' : XaPcm) (written : List UInt8) : Prop where
  output : written = d.config.routed mem d.input d.insize.toNat
  produced : d'.produced.toNat = written.length
  reads : ∀ mem', readBytes mem' d.input (d.insize.toNat * d.config.inStride.toNat) =
      readBytes mem d.input (d.insize.toNat * d.config.inStride.toNat) →
    xaPcmProcessBytes mem' d = some (d', written)

/-- A configuration is processed right: the copying function is for the identity, and every input
that is set is mapped. -/
def XaPcmConfig.Maps (c : XaPcmConfig) : Prop :=
  (c.hook = .copy → c.inPcmWidth = c.outPcmWidth ∧ c.RoutesIdentity) ∧
    ∀ mem d₀ bytes d d' written, d₀.config = c → xaPcmSetInputBytes d₀ 0#32 bytes = some d →
      xaPcmProcessBytes mem d = some (d', written) → XaPcmRoutes mem d d' written

/-- A configuration that the codec serves: there are as many channels on both sides, and each output
channel is routed from a channel of the input or from none of 8; with 16 bits on both sides, from
the channel of its own number. -/
def XaPcmConfig.Served (c : XaPcmConfig) : Prop :=
  c.inChannels = c.outChannels ∧ ∀ j < c.outChannels.toNat,
    if c.inPcmWidth = 16#32 ∧ c.outPcmWidth = 16#32 then xaPcmRoute c.chanRouting j = j
    else xaPcmRoute c.chanRouting j < c.inChannels.toNat ∨ 8 ≤ xaPcmRoute c.chanRouting j

section Frames

variable {sample sample' : ℕ → ℕ → BitVec v}

lemma xaPcmFrames_congr (h : ∀ i < n, ∀ j < out, sample i j = sample' i j) :
    xaPcmFrames n out sample = xaPcmFrames n out sample' := by
  unfold xaPcmFrames
  refine congrArg (List.flatMap xaPcmSampleBytes)
    (List.flatMap_congr fun i hi => List.map_congr_left fun j hj => ?_)
  exact h i (List.mem_range.mp hi) j (List.mem_range.mp hj)

lemma length_xaPcmFrames (n out : ℕ) (sample : ℕ → ℕ → BitVec v) :
    (xaPcmFrames n out sample).length = n * out * (v / 8) := by
  simp [xaPcmFrames, List.length_flatMap, length_sampleBytes]

/-- The bytes of a sample determine it. -/
lemma sampleBytes_injective (hw : 8 ∣ w) :
    Function.Injective (xaPcmSampleBytes : BitVec w → List UInt8) := by
  intro x y h
  have hbyte {j : ℕ} (hj : j < w / 8) : (x >>> (8 * j)).setWidth 8 = (y >>> (8 * j)).setWidth 8 :=
    congrArg UInt8.toBitVec (List.map_inj_left.mp h j (List.mem_range.mpr hj))
  refine BitVec.eq_of_getLsbD_eq fun i hi => ?_
  have hbit := congrArg (fun b => b.getLsbD (i % 8)) (hbyte (j := i / 8) (by omega))
  simpa [Nat.mod_lt, Nat.div_add_mod] using hbit

/-- The bytes of samples determine them. -/
lemma flatMap_sampleBytes_injective (hw : 8 ∣ w) (hpos : 0 < w) :
    Function.Injective (List.flatMap (xaPcmSampleBytes : BitVec w → List UInt8)) := by
  have hbytes : 0 < w / 8 := Nat.div_pos (Nat.le_of_dvd hpos hw) (by decide)
  intro l l' h
  induction l generalizing l' with
  | nil =>
    cases l' with
    | nil => rfl
    | cons y l' =>
      have hlen := congrArg List.length h
      simp only [List.flatMap_nil, List.flatMap_cons, List.length_nil, List.length_append,
        length_sampleBytes] at hlen
      omega
  | cons x l ih =>
    cases l' with
    | nil =>
      have hlen := congrArg List.length h
      simp only [List.flatMap_nil, List.flatMap_cons, List.length_nil, List.length_append,
        length_sampleBytes] at hlen
      omega
    | cons y l' =>
      rw [List.flatMap_cons, List.flatMap_cons] at h
      obtain ⟨hx, hl⟩ := List.append_inj h (by rw [length_sampleBytes, length_sampleBytes])
      rw [sampleBytes_injective hw hx, ih hl]

/-- A frame determines its samples. -/
lemma xaPcmFrames_one_inj (hw : 8 ∣ v) (hpos : 0 < v)
    (h : xaPcmFrames 1 out sample = xaPcmFrames 1 out sample') {j : ℕ}
    (hj : j < out) : sample 0 j = sample' 0 j := by
  have hsamples := flatMap_sampleBytes_injective hw hpos h
  simp only [List.range_one, List.flatMap_singleton] at hsamples
  exact List.map_inj_left.mp hsamples j (List.mem_range.mpr hj)

end Frames

/-! ## The loops -/

section Loops

variable {p : U32}

lemma xaPcmRoute_succ (chmap : U32) (j : ℕ) : xaPcmRoute (chmap >>> 4) j = xaPcmRoute chmap
    (j + 1) := by
  rw [xaPcmRoute, xaPcmRoute, ← BitVec.shiftRight_add, Nat.mul_add_one, Nat.add_comm]

/-- The inner loop looks at the bits of each channel in turn. -/
lemma xaPcmMapChannels_eq (convert : BitVec w → BitVec v) (input : ℕ → BitVec w) (k : ℕ)
    (chmap : U32) :
    xaPcmMapChannels convert input k chmap = (List.range k).map fun j =>
      if xaPcmRoute chmap j < 8 then convert (input (xaPcmRoute chmap j)) else 0#v := by
  induction k generalizing chmap with
  | zero => rfl
  | succ k ih =>
    rw [xaPcmMapChannels, ih, List.range_succ_eq_map, List.map_cons, List.map_map]
    congr 1
    refine List.map_congr_left fun j _ => ?_
    simp only [Function.comp_apply, Nat.succ_eq_add_one, xaPcmRoute_succ]

/-- The outer loop goes through the frames. -/
lemma xaPcmMapSamples_eq (convert : BitVec w → BitVec v) (k : ℕ) (chmap : U32) (n : ℕ)
    (input : ℕ → BitVec w) :
    xaPcmMapSamples convert k chmap n input = (List.range n).flatMap fun i =>
      (List.range k).map fun j =>
      if xaPcmRoute chmap j < 8 then convert (input (k * i + xaPcmRoute chmap j)) else 0#v := by
  induction n generalizing input with
  | zero => rfl
  | succ n ih =>
    rw [xaPcmMapSamples, ih, xaPcmMapChannels_eq, List.range_succ_eq_map, List.flatMap_cons,
      List.flatMap_map]
    simp only [Nat.mul_zero, Nat.zero_add, Nat.succ_eq_add_one, Nat.mul_add_one]
    simp only [Nat.add_assoc, Nat.add_left_comm]

/-- The functions that map: the bound is 8, and the output has the channels of the input. -/
lemma xaPcmDoMap_snd (convert : BitVec w → BitVec v) (input : ℕ → BitVec w) (d : XaPcm) :
    (xaPcmDoMap convert input d).2 = xaPcmRouted convert input d.config.inChannels.toNat 8
    d.config.inChannels.toNat
      d.insize.toNat d.config.chanRouting := by
  rw [xaPcmDoMap, xaPcmRouted, xaPcmFrames, xaPcmMapSamples_eq]

/-- The bytes of a word that is put together. -/
lemma sampleBytes_append (hi : BitVec w) (lo : BitVec v) (hv : 8 ∣ v) :
    xaPcmSampleBytes (hi ++ lo) = xaPcmSampleBytes lo ++ xaPcmSampleBytes hi := by
  have hlow : v / 8 * 8 = v := Nat.div_mul_cancel hv
  have hsplit : (w + v) / 8 = v / 8 + w / 8 := by omega
  rw [xaPcmSampleBytes, hsplit, List.range_add, List.map_append, List.map_map]
  congr 1
  · refine List.map_congr_left fun j hj =>
      congrArg UInt8.ofBitVec (BitVec.eq_of_getLsbD_eq fun i hi' => ?_)
    have hlt := List.mem_range.mp hj
    simp only [BitVec.getLsbD_setWidth, BitVec.getLsbD_ushiftRight, BitVec.getLsbD_append]
    rw [if_pos (by omega)]
  · refine List.map_congr_left fun j hj =>
      congrArg UInt8.ofBitVec (BitVec.eq_of_getLsbD_eq fun i hi' => ?_)
    simp only [BitVec.getLsbD_setWidth, BitVec.getLsbD_ushiftRight, BitVec.getLsbD_append]
    rw [if_neg (by omega), show 8 * (v / 8 + j) + i - v = 8 * j + i by omega]

/-- The bytes of words in memory. -/
lemma sampleBytes_readU16 (a : U32) : xaPcmSampleBytes (readU16 mem a) = readBytes mem a 2 := by
  rw [readU16, sampleBytes_append _ _ (dvd_refl 8)]
  simp [xaPcmSampleBytes, readBytes, List.range_succ]

lemma sampleBytes_readU32 (a : U32) : xaPcmSampleBytes (readU32 mem a) = readBytes mem a 4 := by
  rw [readU32, sampleBytes_append _ _ (by decide), sampleBytes_readU16, sampleBytes_readU16]
  exact readBytes_add.symm

/-- A block of words is the block of their bytes. -/
lemma flatMap_sampleBytes {sample : ℕ → BitVec w} {size : ℕ}
    (hsample : ∀ i, xaPcmSampleBytes (sample i) = readBytes mem (p + BitVec.ofNat 32 (size * i))
    size) (n : ℕ) :
    ((List.range n).map sample).flatMap xaPcmSampleBytes = readBytes mem p (size * n) := by
  induction n with
  | zero => rfl
  | succ n ih =>
    rw [List.range_succ, List.map_append, List.flatMap_append, ih, List.map_singleton,
      List.flatMap_singleton, hsample,
      Nat.mul_add_one, readBytes_add]

/-- Samples in a row are frames. -/
lemma xaPcmFrames_row (sample : ℕ → BitVec w) (n k : ℕ) :
    xaPcmFrames n k (fun i j => sample (k * i + j)) = ((List.range (k * n)).map sample).flatMap
      xaPcmSampleBytes := by
  rw [xaPcmFrames]
  congr 1
  induction n with
  | zero => rfl
  | succ n ih =>
    rw [List.range_succ, List.flatMap_append, ih, List.flatMap_singleton, Nat.mul_add_one,
      List.range_add,
      List.map_append, List.map_map]
    rfl

end Loops

/-! ## What the codec writes -/

section Process

variable {d d' : XaPcm} {written : List UInt8} {p : U32}

/-- The test of the codec looks at the bits of each channel. -/
lemma xaPcmIsIdentityMapping_iff (k : ℕ) (j chmap : U32) (hj : j.toNat + k < 2 ^ 32) :
    xaPcmIsIdentityMapping k j chmap = true ↔ ∀ i < k, xaPcmRoute chmap i = j.toNat + i := by
  induction k generalizing j chmap with
  | zero => simp [xaPcmIsIdentityMapping]
  | succ k ih =>
    have hnext : (j + 1#32).toNat = j.toNat + 1 := by
      rw [BitVec.toNat_add, BitVec.toNat_ofNat]
      omega
    have hfirst : chmap &&& 0xF#32 = j ↔ xaPcmRoute chmap 0 = j.toNat + 0 := by
      rw [xaPcmRoute, Nat.mul_zero, BitVec.ushiftRight_zero, Nat.add_zero, BitVec.toNat_eq]
    rw [xaPcmIsIdentityMapping, Bool.and_eq_true, decide_eq_true_eq, hfirst,
      ih _ _ (by omega), hnext,
      Nat.forall_lt_succ_left]
    simp only [xaPcmRoute_succ, Nat.add_assoc, Nat.add_comm 1]

/-- The frames that the codec writes: with 16 bits on both sides they are those of the input. -/
def XaPcmConfig.processed (c : XaPcmConfig) (mem : U32 → UInt8) (input : U32) (n : ℕ) :
    List UInt8 :=
  let k := c.inChannels.toNat
  if c.inPcmWidth = 16#32 then
    if c.outPcmWidth = 16#32 then xaPcmFrames n k fun i j => xaPcmSample16 mem input (k * i + j)
    else xaPcmRouted (fun x : BitVec 16 => x.signExtend 32 <<< 16) (xaPcmSample16 mem input) k 8 k n
      c.chanRouting
  else if c.outPcmWidth = 16#32 then
    xaPcmRouted (fun x : BitVec 32 => (x.sshiftRight 16).setWidth 16) (xaPcmSample32 mem input) k 8
      k n c.chanRouting
  else xaPcmRouted (fun x : BitVec 32 => x) (xaPcmSample32 mem input) k 8 k n c.chanRouting

/-- The number of bytes that are copied. -/
lemma toNat_copyLength (hn : d.insize.toNat ≤ 1024) :
    (d.insize * d.config.inChannels * xaPcmWidthBytes d.config.inPcmWidth).toNat =
      (xaPcmWidthBytes d.config.inPcmWidth).toNat *
      (d.config.inChannels.toNat * d.insize.toNat) := by
  obtain ⟨-, hk⟩ := d.config.inChannels_range
  have hsamples : d.config.inChannels.toNat * d.insize.toNat ≤ 8 * 1024 := Nat.mul_le_mul hk hn
  have hbytes : (xaPcmWidthBytes d.config.inPcmWidth).toNat ≤ 4 := by
    rcases xaPcmWidthBytes_cases d.config.inPcmWidth with ⟨-, hbytes⟩ | ⟨-, hbytes⟩ <;>
      rw [hbytes] <;> decide
  have hprod := Nat.mul_le_mul hbytes hsamples
  have hinner : d.config.inChannels.toNat * d.insize.toNat < 2 ^ 32 := by omega
  have houter : (xaPcmWidthBytes d.config.inPcmWidth).toNat *
      (d.config.inChannels.toNat * d.insize.toNat) < 2 ^ 32 := by omega
  rw [BitVec.toNat_mul, BitVec.toNat_mul, Nat.mul_comm d.insize.toNat, Nat.mod_eq_of_lt hinner,
    Nat.mul_comm,
    Nat.mod_eq_of_lt houter]

/-- The copying functions write the frames of the input. -/
lemma xaPcmDoCopy_snd {sample : ℕ → BitVec w} (hn : d.insize.toNat ≤ 1024)
    (hsample : ∀ i, xaPcmSampleBytes (sample i) = readBytes mem
      (d.input + BitVec.ofNat 32 ((xaPcmWidthBytes d.config.inPcmWidth).toNat * i))
        (xaPcmWidthBytes d.config.inPcmWidth).toNat) :
    (xaPcmDoCopy mem d).2 = xaPcmFrames d.insize.toNat d.config.inChannels.toNat fun i j =>
      sample (d.config.inChannels.toNat * i + j) := by
  rw [xaPcmFrames_row, flatMap_sampleBytes hsample, xaPcmDoCopy]
  simp only [toNat_copyLength hn]

/-- Without a change of 24 bits, the mapping of the identity copies the frames. -/
lemma xaPcmRouted_identity {input : ℕ → BitVec w} {bound : ℕ} {chmap : U32} (hk : k ≤ bound)
    (h : ∀ j < k, xaPcmRoute chmap j = j) :
    xaPcmRouted (fun x => x) input k bound k n chmap = xaPcmFrames n k fun i j => input
      (k * i + j) := by
  refine xaPcmFrames_congr fun i _ j hj => ?_
  rw [h j hj, if_pos (by omega)]

/-- The bytes that a call writes. -/
lemma written_eq (hn : d.insize.toNat ≤ 1024)
    (hres : xaPcmProcessBytes mem d = some (d', written)) :
    written = d.config.processed mem d.input d.insize.toNat := by
  unfold xaPcmProcessBytes at hres
  split at hres
  case isFalse => cases hres
  obtain rfl : (d.config.hook.run mem d).2 = written := congrArg Prod.snd (Option.some.inj hres)
  have hne : (24#32 : U32) ≠ 16#32 := by decide
  rw [XaPcmConfig.processed]
  rcases d.config.inPcmWidth_eq with hin | hin <;>
    rcases d.config.outPcmWidth_eq with hout | hout <;>
    simp only [hin, hout, hne, if_true, if_false]
  · have hcopy : (d.config.hook.run mem d).2 = (xaPcmDoCopy mem d).2 := by
      simp only [XaPcmConfig.hook, hin, hout, if_true]
      split <;> rfl
    rw [hcopy]
    exact xaPcmDoCopy_snd hn fun i => by
      rw [hin]
      exact sampleBytes_readU16 _
  · have hmap : d.config.hook = .pcm16ToPcm24 := by
      simp [XaPcmConfig.hook, hin, hout]
    rw [hmap]
    exact xaPcmDoMap_snd _ _ d
  · have hmap : d.config.hook = .pcm24ToPcm16 := by
      simp [XaPcmConfig.hook, hin, hout]
    rw [hmap]
    exact xaPcmDoMap_snd _ _ d
  · by_cases hidentity : d.config.inChannels ≠ d.config.outChannels ∨
      xaPcmIsIdentityMapping d.config.inChannels.toNat 0#32 d.config.chanRouting = false
    · have hmap : d.config.hook = .pcm24Chmap := by
        simp [XaPcmConfig.hook, hin, hout, if_pos hidentity]
      rw [hmap]
      exact xaPcmDoMap_snd _ _ d
    · have hcopy : d.config.hook = .copy := by
        simp [XaPcmConfig.hook, hin, hout, if_neg hidentity]
      obtain ⟨-, hk⟩ := d.config.inChannels_range
      have hfits : (0#32).toNat + d.config.inChannels.toNat < 2 ^ 32 := by
        rw [BitVec.toNat_ofNat]
        omega
      have hroute :=
        (xaPcmIsIdentityMapping_iff _ 0#32 _ hfits).mp (by simpa using (not_or.mp hidentity).2)
      rw [hcopy, xaPcmRouted_identity hk fun j hj => by simpa using hroute j hj]
      exact xaPcmDoCopy_snd hn fun i => by
        rw [hin]
        exact sampleBytes_readU32 _

end Process

/-! ## Served configurations -/

section Served

variable {c : XaPcmConfig} {d₀ d d' : XaPcm} {written : List UInt8} {bytes p : U32}

lemma xaPcmSetInputBytes_some (h : xaPcmSetInputBytes d₀ 0#32 bytes = some d) :
    d.config = d₀.config ∧ d.insize.toNat ≤ 1024 := by
  simp only [xaPcmSetInputBytes] at h
  split at h
  · obtain rfl := Option.some.inj h
    refine ⟨rfl, ?_⟩
    by_cases hlt : 1024#32 < bytes / d₀.config.inStride
    · simp [if_pos hlt]
    · rw [BitVec.lt_def] at hlt
      simp only [BitVec.lt_def, if_neg hlt]
      simpa using hlt
  · cases h

/-- A route to a channel of the input, or to none, is the same for both bounds. -/
lemma xaPcmRouted_bound {convert : BitVec w → BitVec v} {input : ℕ → BitVec w}
    {chmap : U32} (hk : k ≤ 8)
    (h : ∀ j < out, xaPcmRoute chmap j < k ∨ 8 ≤ xaPcmRoute chmap j) :
    xaPcmRouted convert input k 8 out n chmap = xaPcmRouted convert input k k out n chmap := by
  refine xaPcmFrames_congr fun i _ j hj => ?_
  rcases h j hj with hlt | hge
  · rw [if_pos (by omega), if_pos hlt]
  · rw [if_neg (by omega), if_neg (by omega)]

/-- Where a configuration is served, the right frames are written. -/
lemma XaPcmConfig.Served.processed_eq (h : c.Served) (mem : U32 → UInt8) (input : U32) (n : ℕ) :
    c.processed mem input n = c.routed mem input n := by
  obtain ⟨hchannels, hroute⟩ := h
  obtain ⟨-, hk⟩ := c.inChannels_range
  rw [XaPcmConfig.processed, XaPcmConfig.routed, ← hchannels]
  rw [← hchannels] at hroute
  split
  case isTrue hin =>
    split
    case isTrue hout =>
      refine (xaPcmRouted_identity le_rfl fun j hj => ?_).symm
      have hj := hroute j hj
      rwa [if_pos ⟨hin, hout⟩] at hj
    case isFalse hout =>
      refine xaPcmRouted_bound hk fun j hj => ?_
      have hj := hroute j hj
      rwa [if_neg fun h => hout h.2] at hj
  case isFalse hin =>
    have hbound : ∀ j < c.inChannels.toNat, xaPcmRoute c.chanRouting j < c.inChannels.toNat ∨
        8 ≤ xaPcmRoute c.chanRouting j := by
      intro j hj
      have hj := hroute j hj
      rwa [if_neg fun h => hin h.1] at hj
    split
    case isTrue => exact xaPcmRouted_bound hk hbound
    case isFalse => exact xaPcmRouted_bound hk hbound

/-- A sample of a block depends on the bytes of the block. -/
lemma sample_congr {sample sample' : ℕ → BitVec w} {size N : ℕ} (hw : 8 ∣ w)
    (hsample : ∀ i, xaPcmSampleBytes (sample i) = readBytes mem
    (p + BitVec.ofNat 32 (size * i)) size)
    (hsample' : ∀ i,
    xaPcmSampleBytes (sample' i) = readBytes mem' (p + BitVec.ofNat 32 (size * i)) size)
    (h : readBytes mem' p (size * N) = readBytes mem p (size * N)) {i : ℕ} (hi : i < N) :
    sample' i = sample i := by
  refine sampleBytes_injective hw ?_
  rw [hsample, hsample']
  have hsplit : size * N = size * i + (size + size * (N - (i + 1))) := by
    calc size * N = size * (i + 1 + (N - (i + 1))) := by rw [Nat.add_sub_cancel' hi]
      _ = size * i + (size + size * (N - (i + 1))) := by ring
  rw [hsplit] at h
  have hrest := readBytes_congr_drop h
  rw [readBytes_add, readBytes_add] at hrest
  exact (List.append_inj hrest (by simp)).1

/-- The samples of the frames that are read are in the block of the frames. -/
lemma xaPcmRouted_congr {convert : BitVec w → BitVec v} {input input' : ℕ → BitVec w} {chmap : U32}
    (h : ∀ i < k * n, input' i = input i) :
    xaPcmRouted convert input' k k out n chmap = xaPcmRouted convert input k k out n chmap := by
  refine xaPcmFrames_congr fun i hi j hj => ?_
  split
  case isTrue hlt =>
    have hframe : k * (i + 1) ≤ k * n := Nat.mul_le_mul_left k hi
    rw [Nat.mul_add_one] at hframe
    rw [h _ (by omega)]
  case isFalse => rfl

/-- The right frames depend on the bytes of the frames of the input alone. -/
lemma XaPcmConfig.routed_congr (c : XaPcmConfig)
    (h : readBytes mem' p (n * c.inStride.toNat) = readBytes mem p (n * c.inStride.toNat)) :
    c.routed mem' p n = c.routed mem p n := by
  obtain ⟨-, hk⟩ := c.inChannels_range
  have hstride : n * c.inStride.toNat = (xaPcmWidthBytes c.inPcmWidth).toNat *
      (c.inChannels.toNat * n) := by
    have hbytes : (xaPcmWidthBytes c.inPcmWidth).toNat ≤ 4 := by
      rcases xaPcmWidthBytes_cases c.inPcmWidth with ⟨-, hbytes⟩ | ⟨-, hbytes⟩ <;>
        rw [hbytes] <;> decide
    have hprod := Nat.mul_le_mul hk hbytes
    rw [XaPcmConfig.inStride, BitVec.toNat_mul, Nat.mod_eq_of_lt (by omega)]
    ring
  rw [hstride] at h
  rw [XaPcmConfig.routed, XaPcmConfig.routed]
  rcases xaPcmWidthBytes_cases c.inPcmWidth with ⟨hin, hbytes⟩ | ⟨hin, hbytes⟩
  · rw [hbytes] at h
    have hsamples : ∀ i < c.inChannels.toNat * n, xaPcmSample16 mem' p i = xaPcmSample16 mem p i :=
      fun i hi =>
      sample_congr (by decide) (fun _ => sampleBytes_readU16 _)
        (fun _ => sampleBytes_readU16 _) h hi
    simp only [if_pos hin, xaPcmRouted_congr hsamples]
  · rw [hbytes] at h
    have hsamples : ∀ i < c.inChannels.toNat * n, xaPcmSample32 mem' p i = xaPcmSample32 mem p i :=
      fun i hi =>
      sample_congr (by decide) (fun _ => sampleBytes_readU32 _)
        (fun _ => sampleBytes_readU32 _) h hi
    simp only [if_neg hin, xaPcmRouted_congr hsamples]

/-- A served configuration is processed right. -/
lemma XaPcmConfig.Served.routes (h : d.config.Served) (hn : d.insize.toNat ≤ 1024)
    (hres : xaPcmProcessBytes mem d = some (d', written)) : XaPcmRoutes mem d d' written := by
  have hwritten := written_eq hn hres
  rw [h.processed_eq] at hwritten
  refine ⟨hwritten, (xaPcmProcessBytes_length hn hres).2, fun mem' hmem => ?_⟩
  -- the state after the call does not depend on the memory
  have hfst := (xaPcmProcessBytes_fst mem' d).trans (xaPcmProcessBytes_fst mem d).symm
  rw [hres, Option.map_some, Option.map_eq_some_iff] at hfst
  obtain ⟨⟨_, written'⟩, hres', rfl⟩ := hfst
  have hwritten' := written_eq hn hres'
  rw [h.processed_eq, d.config.routed_congr hmem, ← hwritten] at hwritten'
  rw [hres', hwritten']

/-- The copying function is selected for the identity alone. -/
lemma XaPcmConfig.hook_copy (h : c.hook = .copy) :
    c.inPcmWidth = c.outPcmWidth ∧ c.RoutesIdentity := by
  rw [XaPcmConfig.hook] at h
  split at h
  case isTrue hwidth =>
    split at h
    case isTrue => split at h <;> cases h
    case isFalse hcopy =>
      obtain ⟨hchannels, hidentity⟩ := not_or.mp hcopy
      obtain ⟨-, hk⟩ := c.inChannels_range
      have hfits : (0#32).toNat + c.inChannels.toNat < 2 ^ 32 := by
        rw [BitVec.toNat_ofNat]
        omega
      have hroute := (xaPcmIsIdentityMapping_iff _ 0#32 _ hfits).mp (by simpa using hidentity)
      have heq : c.inChannels = c.outChannels := not_not.mp hchannels
      exact ⟨hwidth, heq, fun j hj => by simpa using hroute j (heq ▸ hj)⟩
  case isFalse => split at h <;> cases h

end Served

/-! ## Configurations that are not served -/

section Unserved

variable {c : XaPcmConfig}

/-- One frame is processed for every memory. -/
lemma XaPcmConfig.Maps.processed_eq (h : c.Maps) (mem : U32 → UInt8) :
    c.processed mem 0x1000#32 1 = c.routed mem 0x1000#32 1 := by
  have hstride : c.inStride.toNat ≠ 0 := by
    obtain ⟨hpos, hk⟩ := c.inChannels_range
    rw [XaPcmConfig.inStride, BitVec.toNat_mul]
    rcases xaPcmWidthBytes_cases c.inPcmWidth with ⟨-, hbytes⟩ | ⟨-, hbytes⟩ <;>
      rw [hbytes, BitVec.toNat_ofNat] <;> omega
  have hone : c.inStride / c.inStride = 1#32 := by
    refine BitVec.eq_of_toNat_eq ?_
    rw [BitVec.toNat_udiv, Nat.div_self (Nat.pos_of_ne_zero hstride)]
    rfl
  have hset : xaPcmSetInputBytes (xaPcmSampleCodec c) 0#32 c.inStride =
      some { xaPcmSampleCodec c with insize := 1#32 } := by
    simp [xaPcmSetInputBytes, xaPcmSampleCodec, hone]
  have hres : xaPcmProcessBytes mem { xaPcmSampleCodec c with insize := 1#32 } =
      some (c.hook.run mem _) :=
    if_pos ⟨(by decide : 0x1000#32 ≠ 0#32), (by decide : 1#32 ≠ 0#32),
      (by decide : 0x8000#32 ≠ 0#32)⟩
  have hroutes := h.2 mem _ _ _ _ _ rfl hset hres
  exact (written_eq (by decide : (1#32).toNat ≤ 1024) hres).symm.trans hroutes.output

/-- The numbers of bytes of the frames. -/
lemma XaPcmConfig.length_routed (c : XaPcmConfig) (mem : U32 → UInt8) (input : U32) (n : ℕ) :
    (c.routed mem input n).length =
    n * c.outChannels.toNat * (xaPcmWidthBytes c.outPcmWidth).toNat := by
  rw [XaPcmConfig.routed]
  rcases xaPcmWidthBytes_cases c.outPcmWidth with ⟨hout, hbytes⟩ | ⟨hout, hbytes⟩
  · simp only [hbytes, if_pos hout]
    split <;> exact length_xaPcmFrames ..
  · simp only [hbytes, if_neg hout]
    split <;> exact length_xaPcmFrames ..

lemma XaPcmConfig.length_processed (c : XaPcmConfig) (mem : U32 → UInt8) (input : U32) (n : ℕ) :
    (c.processed mem input n).length =
    n * c.inChannels.toNat * (xaPcmWidthBytes c.outPcmWidth).toNat := by
  rw [XaPcmConfig.processed]
  rcases xaPcmWidthBytes_cases c.outPcmWidth with ⟨hout, hbytes⟩ | ⟨hout, hbytes⟩
  · simp only [hbytes, if_pos hout]
    split <;> exact length_xaPcmFrames ..
  · simp only [hbytes, if_neg hout]
    split <;> exact length_xaPcmFrames ..

/-- A memory with one sample of 16 bits, of the first 8, that is not zero. -/
lemma exists_sample16 : ∀ m : Fin 8, ∃ mem, xaPcmSample16 mem 0x1000#32 m = 1#16 ∧
    ∀ m' : Fin 8, m' ≠ m → xaPcmSample16 mem 0x1000#32 m' = 0#16 := by
  intro m
  refine ⟨fun a => if a = 0x1000#32 + BitVec.ofNat 32 (2 * m) then 1 else 0, ?_⟩
  revert m
  decide

/-- A memory in which a sample of 32 bits, of the first 8, has a high half that is not zero. -/
lemma exists_sample32 : ∀ m : Fin 8, ∃ mem, xaPcmSample32 mem 0x1000#32 m = 0x10000#32 := by
  intro m
  refine ⟨fun a => if a = 0x1000#32 + BitVec.ofNat 32 (4 * m + 2) then 1 else 0, ?_⟩
  revert m
  decide

/-- Frames that are the same for both bounds have no route between them, if every sample can be
other than zero. -/
lemma route_of_routed_eq {convert : BitVec w → BitVec v} {input : (U32 → UInt8) → ℕ → BitVec w}
    {chmap : U32}
    (hv : 8 ∣ v) (hpos : 0 < v) (hinput : ∀ m : Fin 8, ∃ mem, convert (input mem m) ≠ 0#v)
    (h : ∀ mem, xaPcmRouted convert (input mem) k 8 k 1 chmap = xaPcmRouted convert (input mem) k k
    k 1 chmap) {j : ℕ}
    (hj : j < k) : xaPcmRoute chmap j < k ∨ 8 ≤ xaPcmRoute chmap j := by
  by_contra hnot
  obtain ⟨hge, hlt⟩ := not_or.mp hnot
  obtain ⟨mem, hmem⟩ := hinput ⟨xaPcmRoute chmap j, by omega⟩
  have hsample := xaPcmFrames_one_inj hv hpos (h mem) hj
  rw [if_pos (by omega), if_neg hge, Nat.mul_zero, Nat.zero_add] at hsample
  exact hmem hsample

/-- The lengths of the frames tell the numbers of channels. -/
lemma XaPcmConfig.Maps.channels_eq (h : c.Maps) : c.inChannels = c.outChannels := by
  have hlen := congrArg List.length (h.processed_eq fun _ => 0)
  rw [c.length_processed, c.length_routed] at hlen
  refine BitVec.eq_of_toNat_eq ?_
  rcases xaPcmWidthBytes_cases c.outPcmWidth with ⟨-, hbytes⟩ | ⟨-, hbytes⟩ <;>
    rw [hbytes, BitVec.toNat_ofNat] at hlen <;> omega

/-- Samples of 16 bits on both sides are copied: a sample that differs from all others shows where
it goes. -/
lemma XaPcmConfig.Maps.route_eq (h : c.Maps) (hin : c.inPcmWidth = 16#32)
    (hout : c.outPcmWidth = 16#32) {j : ℕ}
    (hj : j < c.inChannels.toNat) : xaPcmRoute c.chanRouting j = j := by
  obtain ⟨-, hk⟩ := c.inChannels_range
  by_contra hroute
  obtain ⟨mem, hone, hzero⟩ := exists_sample16 ⟨j, by omega⟩
  have hframe := h.processed_eq mem
  rw [XaPcmConfig.processed, XaPcmConfig.routed, ← h.channels_eq] at hframe
  simp only [if_pos hin, if_pos hout] at hframe
  have hsample := xaPcmFrames_one_inj (by decide) (by decide) hframe hj
  rw [Nat.mul_zero, Nat.zero_add, Nat.zero_add, hone] at hsample
  split at hsample
  case isTrue hlt =>
    have hother := hzero ⟨xaPcmRoute c.chanRouting j, by omega⟩ (by simpa using hroute)
    rw [hother] at hsample
    exact absurd hsample (by decide)
  case isFalse => exact absurd hsample (by decide)

/-- A configuration that is processed right is served. -/
lemma XaPcmConfig.Maps.served (h : c.Maps) : c.Served := by
  have heq := h.processed_eq
  have hchannels := h.channels_eq
  refine ⟨hchannels, fun j hj => ?_⟩
  rw [← hchannels] at hj
  by_cases hin : c.inPcmWidth = 16#32
  · by_cases hout : c.outPcmWidth = 16#32
    · rw [if_pos ⟨hin, hout⟩]
      exact h.route_eq hin hout hj
    · rw [if_neg fun h => hout h.2]
      have hframes (mem : U32 → UInt8) := heq mem
      simp only [XaPcmConfig.processed, XaPcmConfig.routed, ← hchannels, if_pos hin,
        if_neg hout] at hframes
      refine route_of_routed_eq (by decide) (by decide) (fun m => ?_) hframes hj
      obtain ⟨mem, hone, -⟩ := exists_sample16 m
      exact ⟨mem, by rw [hone]; decide⟩
  · rw [if_neg fun h => hin h.1]
    have hframes (mem : U32 → UInt8) := heq mem
    by_cases hout : c.outPcmWidth = 16#32
    · simp only [XaPcmConfig.processed, XaPcmConfig.routed, ← hchannels, if_neg hin,
        if_pos hout] at hframes
      refine route_of_routed_eq (by decide) (by decide) (fun m => ?_) hframes hj
      obtain ⟨mem, hone⟩ := exists_sample32 m
      exact ⟨mem, by rw [hone]; decide⟩
    · simp only [XaPcmConfig.processed, XaPcmConfig.routed, ← hchannels, if_neg hin,
        if_neg hout] at hframes
      refine route_of_routed_eq (by decide) (by decide) (fun m => ?_) hframes hj
      obtain ⟨mem, hone⟩ := exists_sample32 m
      exact ⟨mem, by rw [hone]; decide⟩

/-- A configuration is processed right, for every memory and every input, if and only if it has as
many channels on both sides and routes each output channel from one of them or from none of 8, for
16 bits on both sides from the one of its own number. -/
theorem xaPcm_maps_iff (c : XaPcmConfig) : c.Maps ↔ c.Served :=
  ⟨XaPcmConfig.Maps.served, fun h => ⟨XaPcmConfig.hook_copy, fun _ _ _ _ _ _ hconfig hset hres => by
    obtain ⟨hd, hn⟩ := xaPcmSetInputBytes_some hset
    have hserved := hd.trans hconfig ▸ h
    exact XaPcmConfig.Served.routes hserved hn hres⟩⟩

/-- The initial routing word takes the first channel from number 2, of two channels, and the second
one from number 0.  The samples are copied. -/
theorem xaPcm_maps_fails : ∃ mem d d' written,
    xaPcmSetInputBytes (xaPcmSampleCodec xaPcmPreConfig) 0#32 4#32 = some d ∧
      xaPcmProcessBytes mem d = some (d', written) ∧ written = [1, 0, 0, 0] ∧
      d.config.routed mem d.input d.insize.toNat = [0, 0, 1, 0] ∧
        ¬ XaPcmRoutes mem d d' written := by
  refine ⟨fun a => if a = 0x1000#32 then 1 else 0, _, _, _, rfl,
    rfl, by decide, by decide, fun h => ?_⟩
  have houtput := h.output
  revert houtput
  decide

end Unserved

end Hikey
