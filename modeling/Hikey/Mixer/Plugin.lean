import Mathlib.Algebra.BigOperators.Fin
import Hikey.Component.Mixer

/-!
# Mixing in the mixer plugin (`plugins/cadence/mixer/xa-mixer.c`)

The plugin with its volumes, and the samples that one execution computes.  The arithmetic of the
source is that of signed 32-bit numbers; an operation whose result is out of range is undefined, and
ends the execution with `overflow`.

The buffers are separate blocks of memory, kept by their contents.
-/

namespace Hikey

/-! ## The source -/

/-- `XAPcmMixer`; `none` is the null pointer of an input buffer.  The last volume is the master
volume. -/
structure XaMixerPlugin where
  preinitDone : Bool
  postinitDone : Bool
  running : Bool
  output : Bool
  frameSize : U32
  channels : U32
  pcmWidth : U32
  sampleRate : U32
  bufferSize : U32
  volume : Fin (xaMixerMaxTrackNumber + 1) → U32
  input : Fin xaMixerMaxTrackNumber → Option (List UInt8)
  inputLength : Fin xaMixerMaxTrackNumber → U32
  produced : U32
  scratch : List UInt8

/-- The plugin in memory that is set to zero. -/
def XaMixerPlugin.zero : XaMixerPlugin where
  preinitDone := false
  postinitDone := false
  running := false
  output := false
  frameSize := 0#32
  channels := 0#32
  pcmWidth := 0#32
  sampleRate := 0#32
  bufferSize := 0#32
  volume := fun _ => 0#32
  input := fun _ => none
  inputLength := fun _ => 0#32
  produced := 0#32
  scratch := []

/-- `xa_mixer_preinit`. -/
def xaMixerPreinit : XaMixerPlugin :=
  { XaMixerPlugin.zero with
    pcmWidth := 16#32
    channels := 2#32
    frameSize := 512#32
    volume := fun _ => ((1#32 <<< 12) <<< 16) ||| (1#32 <<< 12) }

/-- The configuration commands: the types of `xa_mixer_init`, and `xa_mixer_set_config_param`. -/
inductive XaMixerConfig
  | preConfigParams
  | postConfigParams
  | initProcess
  | setConfigParam (idx value : U32)
deriving DecidableEq, Repr

/-- `xa_mixer_init`; `none` is an error. -/
def xaMixerInit (d : XaMixerPlugin) : XaMixerConfig → Option XaMixerPlugin
  | .preConfigParams => some { xaMixerPreinit with preinitDone := true }
  | .postConfigParams =>
    if d.preinitDone then
      some { d with
        bufferSize := d.channels * d.frameSize * (if d.pcmWidth = 16#32 then 2#32 else 4#32)
        postinitDone := true }
    else none
  | .initProcess => if d.postinitDone then some { d with running := true } else none
  | .setConfigParam _ _ => none

/-- `xa_mixer_set_config_param`; `none` is an error. -/
def xaMixerSetConfigParam (d : XaMixerPlugin) (idx value : U32) : Option XaMixerPlugin :=
  if !d.preinitDone then none
  else if idx = 1#32 then if value = 16#32 then some { d with pcmWidth := value } else none
  else if idx = 2#32 then if value = 2#32 then some { d with channels := value } else none
  else if idx = 4#32 then some { d with sampleRate := value }
  else none

/-- A command changes nothing when it ends with an error. -/
def xaMixerConfigure (d : XaMixerPlugin) : XaMixerConfig → XaMixerPlugin
  | .setConfigParam idx value => (xaMixerSetConfigParam d idx value).getD d
  | command => (xaMixerInit d command).getD d

/-- What ends an execution: an error code, or an undefined operation. -/
inductive XaMixerFault
  | fatalInput
  | overflow
deriving DecidableEq, Repr

/-- The result of an operation on signed 32-bit numbers. -/
def s32 (x : ℤ) : Except XaMixerFault ℤ :=
  if -2 ^ 31 ≤ x ∧ x < 2 ^ 31 then .ok x else .error .overflow

/-- The signed 16-bit sample with index `pos` in a buffer. -/
def readS16 (b : List UInt8) (pos : ℕ) : ℤ :=
  ((b.getD (2 * pos + 1) 0).toBitVec ++ (b.getD (2 * pos) 0).toBitVec : BitVec 16).toInt

/-- `DSP_SATURATE_S16`. -/
def dspSaturateS16 (x : ℤ) : BitVec 16 :=
  BitVec.ofInt 16 (if 0x7fff < x then 0x7fff else if x < -0x8000 then -0x8000 else x)

/-- The volumes of the two channels in a word. -/
def xaMixerVolume (t : U32) : BitVec 16 × BitVec 16 :=
  ((t &&& 0xFFFF#32).setWidth 16, (t >>> 16).setWidth 16)

/-- A track as the mixing loop sees it: the buffer and the volumes. -/
structure XaMixerInput where
  b : List UInt8
  v : BitVec 16 × BitVec 16

/-- "Prepare individual tracks": the scratch buffer without volume, or the input buffer, padded. -/
def xaMixerPrepare (d : XaMixerPlugin) (j : Fin xaMixerMaxTrackNumber) :
    Except XaMixerFault XaMixerInput :=
  let n := d.inputLength j
  if n = 0#32 then .ok ⟨d.scratch, 0#16, 0#16⟩
  else
    match d.input j with
    | none => .error .fatalInput
    | some b =>
      let k := d.bufferSize - n
      .ok ⟨if (0#32).slt k then writeBytes b n.toNat (List.replicate k.toNat 0) else b,
        xaMixerVolume (d.volume j.castSucc)⟩

/-- One channel of a sample: the loop over the tracks; `channel` selects the volume. -/
def xaMixerAccumulate (channel : BitVec 16 × BitVec 16 → BitVec 16) (pos : ℕ) :
    List XaMixerInput → ℤ → Except XaMixerFault ℤ
  | [], x => .ok x
  | t :: ts, x => do
    let p ← s32 (readS16 t.b pos * (channel t.v).toNat)
    let x ← s32 (x + p)
    xaMixerAccumulate channel pos ts x

/-- One channel of a sample, normalized, with the master volume `w`, and saturated. -/
def xaMixerChannel (channel : BitVec 16 × BitVec 16 → BitVec 16) (w : BitVec 16 × BitVec 16)
    (ts : List XaMixerInput) (pos : ℕ) : Except XaMixerFault (BitVec 16) := do
  let x ← xaMixerAccumulate channel pos ts 0
  let x ← s32 ((x >>> (12 : ℕ)) * (channel w).toNat)
  pure (dspSaturateS16 (x >>> (12 : ℕ)))

/-- "Process all tracks": the samples from index `i` on, `k` of them. -/
def xaMixerSamples (w : BitVec 16 × BitVec 16) (ts : List XaMixerInput) :
    ℕ → ℕ → Except XaMixerFault (List (BitVec 16))
  | 0, _ => .ok []
  | k + 1, i => do
    let l ← xaMixerChannel Prod.fst w ts (2 * i)
    let r ← xaMixerChannel Prod.snd w ts (2 * i + 1)
    let output ← xaMixerSamples w ts k (i + 1)
    pure (l :: r :: output)

/-- `xa_mixer_do_execute_stereo_16bit`: the plugin and the samples written to the output buffer. -/
def xaMixerDoExecuteStereo16bit (d : XaMixerPlugin) :
    Except XaMixerFault (XaMixerPlugin × List (BitVec 16)) := do
  let w := xaMixerVolume (d.volume (Fin.last xaMixerMaxTrackNumber))
  let ts ← (List.finRange xaMixerMaxTrackNumber).mapM (xaMixerPrepare d)
  let output ← xaMixerSamples w ts d.frameSize.toNat 0
  pure ({ d with produced := BitVec.ofNat 32 (2 * output.length), output := true }, output)

/-! ## Configuration -/

/-- What the configuration commands leave fixed: from the pre-initialization on the volumes are
`1.0` and a frame has 512 stereo samples of 16 bits; a buffer holds one frame, or nothing yet. -/
structure XaMixerPluginOk (d : XaMixerPlugin) : Prop where
  volume : d.preinitDone = true → ∀ j, d.volume j = 0x10001000#32
  frame : d.preinitDone = true → d.frameSize = 512#32 ∧ d.channels = 2#32 ∧ d.pcmWidth = 16#32
  empty : d.preinitDone = false → d.frameSize = 0#32
  buffer : d.bufferSize = 0#32 ∨ d.bufferSize = 2048#32

variable {d : XaMixerPlugin}

lemma xaMixerPluginOk_zero : XaMixerPluginOk .zero := by
  constructor <;> simp [XaMixerPlugin.zero]

lemma XaMixerPluginOk.configure (h : XaMixerPluginOk d) (command : XaMixerConfig) :
    XaMixerPluginOk (xaMixerConfigure d command) := by
  cases command with
  | preConfigParams =>
    constructor <;> simp [xaMixerConfigure, xaMixerInit, xaMixerPreinit, XaMixerPlugin.zero]
  | postConfigParams =>
    simp only [xaMixerConfigure, xaMixerInit]
    split
    · next hpre =>
      obtain ⟨hframe, hchannels, hwidth⟩ := h.frame hpre
      refine ⟨h.volume, h.frame, h.empty, .inr ?_⟩
      simp [hframe, hchannels, hwidth]
    · exact h
  | initProcess =>
    simp only [xaMixerConfigure, xaMixerInit]
    split
    · exact ⟨h.volume, h.frame, h.empty, h.buffer⟩
    · exact h
  | setConfigParam idx value =>
    simp only [xaMixerConfigure, xaMixerSetConfigParam]
    split_ifs with hpre h1 hvalue h2 hvalue h4
    · exact h
    · exact ⟨h.volume, fun hp => ⟨(h.frame hp).1, (h.frame hp).2.1, hvalue⟩, h.empty, h.buffer⟩
    · exact h
    · exact ⟨h.volume, fun hp => ⟨(h.frame hp).1, hvalue, (h.frame hp).2.2⟩, h.empty, h.buffer⟩
    · exact h
    · exact ⟨h.volume, h.frame, h.empty, h.buffer⟩
    · exact h

/-- The state after a list of configuration commands. -/
lemma xaMixerPluginOk_foldl (commands : List XaMixerConfig) :
    XaMixerPluginOk (commands.foldl xaMixerConfigure .zero) := by
  induction commands using List.reverseRecOn with
  | nil => exact xaMixerPluginOk_zero
  | append_singleton commands command ih =>
    rw [List.foldl_concat]
    exact ih.configure command

/-! ## Mixing -/

lemma readS16_bound (b : List UInt8) (pos : ℕ) :
    -2 ^ 15 ≤ readS16 b pos ∧ readS16 b pos < 2 ^ 15 := by
  unfold readS16
  exact ⟨BitVec.le_toInt _, BitVec.toInt_lt⟩

lemma s32_of_bound {x : ℤ} (h : -2 ^ 31 ≤ x ∧ x < 2 ^ 31) : s32 x = .ok x := if_pos h

/-- The loop over the tracks is an exact sum as long as the volumes are at most `1.0` and there are
few tracks. -/
lemma xaMixerAccumulate_eq (channel : BitVec 16 × BitVec 16 → BitVec 16) (pos : ℕ)
    (ts : List XaMixerInput) (hv : ∀ t ∈ ts, (channel t.v).toNat ≤ 4096) (x : ℤ)
    (hx : -2 ^ 31 + 2 ^ 27 * ts.length ≤ x ∧ x < 2 ^ 31 - 2 ^ 27 * ts.length) :
    xaMixerAccumulate channel pos ts x =
      .ok (x + (ts.map fun t => readS16 t.b pos * (channel t.v).toNat).sum) := by
  induction ts generalizing x with
  | nil => simp [xaMixerAccumulate]
  | cons t ts ih =>
    obtain ⟨hlo, hhi⟩ := readS16_bound t.b pos
    have hvol := hv t List.mem_cons_self
    have hproduct : -2 ^ 27 ≤ readS16 t.b pos * (channel t.v).toNat ∧
        readS16 t.b pos * (channel t.v).toNat ≤ 2 ^ 27 := by
      have hvol' : ((channel t.v).toNat : ℤ) ≤ 4096 := by exact_mod_cast hvol
      have hpos : (0 : ℤ) ≤ (channel t.v).toNat := Int.natCast_nonneg _
      constructor <;> nlinarith
    simp only [List.length_cons, Nat.cast_add, Nat.cast_one] at hx
    have hlen : (0 : ℤ) ≤ ts.length := Int.natCast_nonneg _
    rw [xaMixerAccumulate, s32_of_bound (by omega)]
    simp only [bind, Except.bind]
    rw [s32_of_bound (by omega)]
    simp only
    rw [ih (fun t ht => hv t (List.mem_cons_of_mem _ ht)) _ (by omega), List.map_cons,
      List.sum_cons,
      add_assoc]

/-- One channel of a sample: the volumes are `1.0`, or `0` for a track that is not heard. -/
lemma xaMixerChannel_eq {ι : Type} (channel : BitVec 16 × BitVec 16 → BitVec 16)
    (w : BitVec 16 × BitVec 16) (hw : channel w = 4096#16) (js : List ι) (hjs : js.length ≤ 4)
    (t : ι → XaMixerInput) (sample : ι → ℤ) (pos : ℕ)
    (hv : ∀ j ∈ js, (channel (t j).v = 0#16 ∧ sample j = 0) ∨
      (channel (t j).v = 4096#16 ∧ sample j = readS16 (t j).b pos)) :
    xaMixerChannel channel w (js.map t) pos = .ok (dspSaturateS16 (js.map sample).sum) := by
  have hle : ∀ s ∈ js.map t, (channel s.v).toNat ≤ 4096 := by
    intro s hs
    obtain ⟨j, hj, rfl⟩ := List.mem_map.1 hs
    obtain ⟨h, -⟩ | ⟨h, -⟩ := hv j hj <;> simp [h]
  have hsum : ((js.map t).map fun s => readS16 s.b pos * (channel s.v).toNat).sum =
      (js.map sample).sum * 4096 := by
    rw [← List.sum_map_mul_right, List.map_map]
    congr 1
    apply List.map_congr_left
    intro j hj
    obtain ⟨h, hs⟩ | ⟨h, hs⟩ := hv j hj <;> simp [h, hs]
  have hbound : -2 ^ 15 * (js.length : ℤ) ≤ (js.map sample).sum ∧
      (js.map sample).sum ≤ 2 ^ 15 * js.length := by
    clear hjs hle hsum
    induction js with
    | nil => simp
    | cons j js ih =>
      have ih := ih fun j hj => hv j (List.mem_cons_of_mem _ hj)
      have hj : -2 ^ 15 ≤ sample j ∧ sample j ≤ 2 ^ 15 := by
        obtain ⟨hlo, hhi⟩ := readS16_bound (t j).b pos
        obtain ⟨-, hs⟩ | ⟨-, hs⟩ := hv j List.mem_cons_self <;> rw [hs] <;> omega
      rw [List.map_cons, List.sum_cons, List.length_cons]
      push_cast
      omega
  have hshift : ∀ S : ℤ, (S * 4096) >>> (12 : ℕ) = S := by
    intro S
    rw [Int.shiftRight_eq_div_pow]
    omega
  have hlen : ((js.map t).length : ℤ) ≤ 4 := by exact_mod_cast (by simpa using hjs)
  have hpos : (0 : ℤ) ≤ js.length := Int.natCast_nonneg _
  rw [xaMixerChannel, xaMixerAccumulate_eq channel pos _ hle 0 (by omega), hsum, zero_add]
  rw [List.length_map] at hlen
  simp only [bind, Except.bind]
  rw [hshift, hw, s32_of_bound (by simp; omega)]
  simp only [BitVec.toNat_ofNat]
  exact congrArg (fun x => Except.ok (dspSaturateS16 x)) (hshift _)

/-- The samples are those of the channels, in the order of their positions. -/
lemma xaMixerSamples_eq (w : BitVec 16 × BitVec 16) (ts : List XaMixerInput) (f : ℕ → BitVec 16)
    (hl : ∀ pos, xaMixerChannel Prod.fst w ts pos = .ok (f pos))
    (hr : ∀ pos, xaMixerChannel Prod.snd w ts pos = .ok (f pos)) (k i : ℕ) :
    xaMixerSamples w ts k i = .ok ((List.range' (2 * i) (2 * k)).map f) := by
  induction k generalizing i with
  | zero => rfl
  | succ k ih =>
    have hrange : List.range' (2 * i) (2 * (k + 1)) =
        2 * i :: (2 * i + 1) :: List.range' (2 * (i + 1)) (2 * k) := by
      rw [Nat.mul_succ, List.range'_succ, List.range'_succ, Nat.mul_succ]
    rw [xaMixerSamples, hl, hr, ih, hrange]
    rfl

lemma getD_append_replicate {α : Type} (l : List α) (k i : ℕ) (a : α) :
    (l ++ List.replicate k a).getD i a = l.getD i a := by
  simp only [List.getD_eq_getElem?_getD, List.getElem?_append]
  split
  · rfl
  · next h =>
    rw [List.getElem?_eq_none (Nat.le_of_not_lt h), List.getElem?_replicate]
    split <;> rfl

lemma readS16_append_replicate (b : List UInt8) (k pos : ℕ) :
    readS16 (b ++ List.replicate k 0) pos = readS16 b pos := by
  simp only [readS16, getD_append_replicate]

/-- Padding a buffer replaces all bytes behind the input. -/
lemma xaMixerPrepare_pad {b : List UInt8} {size n : U32} (hb : b.length = size.toNat)
    (hn : n ≤ size)
    (hsize : size.toNat < 2 ^ 31) :
    (if (0#32).slt (size - n) then writeBytes b n.toNat (List.replicate (size - n).toNat 0)
    else b) =
      b.take n.toNat ++ List.replicate (size.toNat - n.toNat) 0 := by
  have hsub : (size - n).toNat = size.toNat - n.toNat := BitVec.toNat_sub_of_le hn
  have hlt : (0#32).slt (size - n) = decide (0 < size.toNat - n.toNat) := by
    rw [BitVec.slt, BitVec.toInt_eq_toNat_of_lt (x := size - n) (by omega), hsub]
    simp
  rw [hlt, hsub, writeBytes]
  split
  · rw [List.length_replicate, List.drop_eq_nil_of_le (by omega), List.append_nil]
  · next h =>
    have h : size.toNat - n.toNat = 0 := Nat.eq_zero_of_not_pos fun hpos => h (decide_eq_true hpos)
    rw [h, List.replicate_zero, List.append_nil, List.take_of_length_le (by omega)]

lemma toInt_dspSaturateS16 (x : ℤ) :
    (dspSaturateS16 x).toInt = max (-2 ^ 15) (min x (2 ^ 15 - 1)) := by
  have hrange : ∀ y : ℤ, -2 ^ 15 ≤ y → y < 2 ^ 15 → (BitVec.ofInt 16 y).toInt = y := by
    intro y hlo hhi
    rw [BitVec.toInt_ofInt]
    exact Int.bmod_eq_of_le (by omega) (by omega)
  rw [dspSaturateS16, hrange _ (by split_ifs <;> omega) (by split_ifs <;> omega)]
  split_ifs <;> omega

/-- The plugin with the buffers and lengths of an execution. -/
def xaMixerLoad (d : XaMixerPlugin) (b : Fin xaMixerMaxTrackNumber → List UInt8)
    (n : Fin xaMixerMaxTrackNumber → U32) (scratch : List UInt8) : XaMixerPlugin :=
  { d with input := fun j => some (b j), inputLength := n, scratch := scratch }

/-- The sample of track `j` at a position: the bytes from offset `n` on are zero. -/
def xaMixerTrackSample (b : List UInt8) (n : U32) (pos : ℕ) : ℤ :=
  if 0 < n.toNat then readS16 (b.take n.toNat) pos else 0

variable {b : Fin xaMixerMaxTrackNumber → List UInt8} {n : Fin xaMixerMaxTrackNumber → U32}
  {scratch : List UInt8}

/-- The inputs of the mixing loop: a silent track has volume `0`, the others are padded. -/
lemma xaMixerPrepare_load (h : XaMixerPluginOk d) (hb : ∀ j, (b j).length = d.bufferSize.toNat)
    (hn : ∀ j, n j ≤ d.bufferSize) (j : Fin xaMixerMaxTrackNumber) :
    ∃ t, xaMixerPrepare (xaMixerLoad d b n scratch) j = .ok t ∧
      (t.v = (0#16, 0#16) ∧ n j = 0#32 ∨
        t.v = xaMixerVolume (d.volume j.castSucc) ∧ n j ≠ 0#32 ∧
          ∀ pos, readS16 t.b pos = readS16 ((b j).take (n j).toNat) pos) := by
  have hsize : d.bufferSize.toNat < 2 ^ 31 := by
    obtain hbuffer | hbuffer := h.buffer <;> rw [hbuffer] <;> decide
  by_cases hzero : n j = 0#32
  · exact ⟨⟨scratch, 0#16, 0#16⟩, if_pos hzero, .inl ⟨rfl, hzero⟩⟩
  · refine ⟨⟨(b j).take (n j).toNat ++ List.replicate (d.bufferSize.toNat - (n j).toNat) 0,
      xaMixerVolume (d.volume j.castSucc)⟩, ?_, .inr ⟨rfl, hzero, fun pos => ?_⟩⟩
    · rw [← xaMixerPrepare_pad (hb j) (hn j) hsize]
      exact if_neg hzero
    · exact readS16_append_replicate _ _ _

lemma XaMixerPluginOk.volume_eq (h : XaMixerPluginOk d) (hpre : d.preinitDone = true)
    (j : Fin (xaMixerMaxTrackNumber + 1)) : xaMixerVolume (d.volume j) = (4096#16, 4096#16) := by
  rw [h.volume hpre]
  rfl

/-- The samples of an execution are the saturated sums; without a pre-initialization there are none.
-/
lemma xaMixerSamples_load (h : XaMixerPluginOk d) (t : Fin xaMixerMaxTrackNumber → XaMixerInput)
    (ht : ∀ j, (t j).v = (0#16, 0#16) ∧ n j = 0#32 ∨
      (t j).v = xaMixerVolume (d.volume j.castSucc) ∧ n j ≠ 0#32 ∧
        ∀ pos, readS16 (t j).b pos = readS16 ((b j).take (n j).toNat) pos) :
    xaMixerSamples (xaMixerVolume (d.volume (Fin.last xaMixerMaxTrackNumber)))
        ((List.finRange xaMixerMaxTrackNumber).map t) d.frameSize.toNat 0 =
      .ok ((List.range' (2 * 0) (2 * d.frameSize.toNat)).map fun pos =>
        dspSaturateS16 (∑ j, xaMixerTrackSample (b j) (n j) pos)) := by
  by_cases hpre : d.preinitDone = true
  · have hchannel : ∀ channel : BitVec 16 × BitVec 16 → BitVec 16,
        channel (0#16, 0#16) = 0#16 → channel (4096#16, 4096#16) = 4096#16 → ∀ pos,
        xaMixerChannel channel (4096#16, 4096#16)
          ((List.finRange xaMixerMaxTrackNumber).map t) pos =
          .ok (dspSaturateS16 (∑ j, xaMixerTrackSample (b j) (n j) pos)) := by
      intro channel hsilent hfull pos
      rw [Fin.sum_univ_def]
      apply xaMixerChannel_eq channel _ hfull _ (by simp)
      intro j _
      obtain ⟨hv, hn⟩ | ⟨hv, hn, hread⟩ := ht j
      · exact .inl ⟨by rw [hv, hsilent], by simp [xaMixerTrackSample, hn]⟩
      · have hpos : 0 < (n j).toNat := Nat.pos_of_ne_zero fun h0 => hn (BitVec.eq_of_toNat_eq h0)
        refine .inr ⟨by rw [hv, h.volume_eq hpre, hfull], ?_⟩
        rw [xaMixerTrackSample, if_pos hpos, hread]
    rw [h.volume_eq hpre]
    exact xaMixerSamples_eq _ _ _ (hchannel Prod.fst rfl rfl) (hchannel Prod.snd rfl rfl) _ _
  · rw [h.empty (Bool.eq_false_iff.2 hpre)]
    rfl

/-- After any commands, a step of the mixer plugin writes one frame, of which each sample is the sum
of the samples of the tracks that have data there, scaled by their volumes and saturated. -/
theorem xaMixerDoExecuteStereo16bit_saturate (commands : List XaMixerConfig)
    (b : Fin xaMixerMaxTrackNumber → List UInt8) (n : Fin xaMixerMaxTrackNumber → U32)
    (scratch : List UInt8)
    (hb : ∀ j, (b j).length = (commands.foldl xaMixerConfigure .zero).bufferSize.toNat)
    (hn : ∀ j, n j ≤ (commands.foldl xaMixerConfigure .zero).bufferSize) :
    ∃ d output, xaMixerDoExecuteStereo16bit
        (xaMixerLoad (commands.foldl xaMixerConfigure .zero) b n scratch) = .ok (d, output) ∧
      output.length = 2 * (commands.foldl xaMixerConfigure .zero).frameSize.toNat ∧
      ∀ (pos : ℕ) (x : BitVec 16), output[pos]? = some x →
        x.toInt = max (-2 ^ 15) (min (∑ j, xaMixerTrackSample (b j) (n j) pos) (2 ^ 15 - 1)) := by
  have h := xaMixerPluginOk_foldl commands
  generalize commands.foldl xaMixerConfigure .zero = d at h hb hn ⊢
  have hload (j : Fin xaMixerMaxTrackNumber) :=
    (xaMixerPrepare_load h hb hn j : ∃ t, xaMixerPrepare (xaMixerLoad d b n scratch) j = .ok t ∧ _)
  choose t ht hcases using hload
  have hprepare : (List.finRange xaMixerMaxTrackNumber).mapM
      (xaMixerPrepare (xaMixerLoad d b n scratch)) =
        .ok ((List.finRange xaMixerMaxTrackNumber).map t) := by
    rw [funext ht]
    exact List.mapM_pure
  have hsamples := xaMixerSamples_load h t hcases
  have hexecute : ∃ d', xaMixerDoExecuteStereo16bit (xaMixerLoad d b n scratch) = .ok (d',
      (List.range' (2 * 0) (2 * d.frameSize.toNat)).map fun pos =>
        dspSaturateS16 (∑ j, xaMixerTrackSample (b j) (n j) pos)) := by
    rw [xaMixerDoExecuteStereo16bit, hprepare]
    simp only [bind, Except.bind]
    rw [show (xaMixerLoad d b n scratch).volume = d.volume from rfl,
      show (xaMixerLoad d b n scratch).frameSize = d.frameSize from rfl, hsamples]
    exact ⟨_, rfl⟩
  obtain ⟨d', hd'⟩ := hexecute
  refine ⟨d', _, hd', by rw [List.length_map, List.length_range'], ?_⟩
  intro pos x hx
  simp only [List.getElem?_map, Option.map_eq_some_iff] at hx
  obtain ⟨i, hi, rfl⟩ := hx
  obtain ⟨hpos, rfl⟩ := List.getElem?_eq_some_iff.1 hi
  rw [toInt_dspSaturateS16, List.getElem_range']
  simp

/-- One full buffer and three silent tracks. -/
theorem xaMixerDoExecuteStereo16bit_saturate_one :
    ∃ d output, xaMixerDoExecuteStereo16bit
        (xaMixerLoad ([XaMixerConfig.preConfigParams, .postConfigParams, .initProcess].foldl
          xaMixerConfigure .zero) (fun _ => List.replicate 2048 7)
          (fun j => if j = 0 then 2047#32 else 0#32) []) = .ok (d, output) ∧
      output.length = 2 * ([XaMixerConfig.preConfigParams, .postConfigParams, .initProcess].foldl
          xaMixerConfigure .zero).frameSize.toNat ∧
      ∀ (pos : ℕ) (x : BitVec 16), output[pos]? = some x →
        x.toInt = max (-2 ^ 15) (min (∑ j : Fin xaMixerMaxTrackNumber,
          xaMixerTrackSample (List.replicate 2048 7) (if j = 0 then 2047#32 else 0#32) pos)
            (2 ^ 15 - 1)) := by
  apply xaMixerDoExecuteStereo16bit_saturate
  · intro j
    rw [List.length_replicate]
    rfl
  · intro j
    split <;> decide

end Hikey
