import Hikey.Foundation.Bytes
import Hikey.Foundation.Run

/-!
# The presentation position of a playback stream (`audio_hw.c`)

A stream counts the frames that it has written; what the kernel still holds of them is the size of
its buffer less what it reports as available.  A step of a playback is a call of `out_write`, of
`out_get_presentation_position` or of `out_standby`, with the answers of the kernel.  `size_t` has
`w` bits.  The build is the one without `ENABLE_XAF_DSP_DEVICE`, in which the frames go to the
kernel only.
-/

namespace Hikey

/-! ## The source -/

/-- `PERIOD_SIZE` -/
def periodSize : U32 := 1024

/-- `PLAYBACK_PERIOD_COUNT` -/
def playbackPeriodCount : U32 := 4

/-- `out->pcm`: the null pointer, a device that is ready, or one that is closed. -/
inductive PcmHandle
  | null
  | ready
  | closed
deriving DecidableEq, Repr

/-- `struct alsa_stream_out`, as far as the position depends on it. -/
structure AlsaStreamOut where
  pcm : PcmHandle
  unavailable : Bool
  standby : Bool
  periodSize : U32
  periodCount : U32
  written : U32
deriving DecidableEq, Repr

/-- The stream of `adev_open_output_stream`. -/
def adevOpenOutputStream : AlsaStreamOut where
  pcm := .null
  unavailable := false
  standby := true
  periodSize := periodSize
  periodCount := playbackPeriodCount
  written := 0

/-- `start_output_stream`; `ready` says that `pcm_open` gave a device that is ready, `false` is
`-ENODEV`. -/
def startOutputStream (out : AlsaStreamOut) (ready : Bool) : AlsaStreamOut × Bool :=
  if out.unavailable then (out, false)
  else if !ready then ({ out with pcm := .closed, unavailable := true }, false)
  else ({ out with pcm := .ready }, true)

/-- `do_output_standby` -/
def doOutputStandby (out : AlsaStreamOut) : AlsaStreamOut :=
  if !out.standby then { out with pcm := .null, standby := true } else out

section SizeT

variable {w : ℕ}

/-- `out_write` without `ENABLE_XAF_DSP_DEVICE`; `mmapOk` says that `pcm_mmap_write` returned 0, and
so does the result. -/
def outWrite (frameSize : BitVec w) (out : AlsaStreamOut) (bytes : BitVec w) (ready mmapOk : Bool) :
    AlsaStreamOut × Bool :=
  let outFrames := bytes / frameSize
  let (out, started) :=
    if out.standby then
      let (out, started) := startOutputStream out ready
      (if started then { out with standby := false } else out, started)
    else (out, true)
  if !started then (out, false)
  else if mmapOk then ({ out with written := (out.written.setWidth w + outFrames).setWidth 32 },
    true)
  else (out, false)

/-- `out_get_presentation_position`; `report` is `avail` of a successful `pcm_get_htimestamp`, and
`none` of the result is an error. -/
def outGetPresentationPosition (w : ℕ) (out : AlsaStreamOut) (report : Option U32) : Option ℕ :=
  if out.pcm = .null then none
  else
    match report with
    | none => none
    | some avail =>
      let kernelBufferSize := (out.periodSize * out.periodCount).setWidth w
      let signedFrames :=
        ((out.written.setWidth w - kernelBufferSize + avail.setWidth w).setWidth 64).toInt
      if 0 ≤ signedFrames then some signedFrames.toNat else none

/-! ## Playback runs -/

/-- A stream, the number of frames written to it, the hardware position, and the positions returned,
the last one first. -/
structure Playback where
  out : AlsaStreamOut
  total : ℕ
  hardware : ℕ
  positions : List ℕ
deriving DecidableEq, Repr

/-- A stream that has just been opened. -/
def Playback.opened : Playback := ⟨adevOpenOutputStream, 0, 0, []⟩

/-- A call of a function of the stream, with the answers of the kernel; `hardware` is the hardware
position behind it. -/
inductive PlaybackEvent (w : ℕ)
  | write (bytes : BitVec w) (ready mmapOk : Bool)
  | position (hardware : ℕ) (report : Option U32)
  | standby
deriving DecidableEq, Repr

/-- The kernel reports what is free in its buffer: all that is not between the hardware position and
the frames written. -/
def Playback.Reports (s : Playback) (hardware : ℕ) (avail : U32) : Prop :=
  s.out.pcm = .ready ∧
    avail.toNat + (s.total - hardware) = s.out.periodSize.toNat * s.out.periodCount.toNat

/-- The event is one that the kernel can bring about: the hardware position does not go back or pass
the frames written. -/
def Playback.Allows (s : Playback) : PlaybackEvent w → Prop
  | .position hardware report =>
    s.hardware ≤ hardware ∧ hardware ≤ s.total ∧ ∀ avail ∈ report, s.Reports hardware avail
  | _ => True

/-- The playback behind an event. -/
def Playback.next (frameSize : BitVec w) (s : Playback) : PlaybackEvent w → Playback
  | .write bytes ready mmapOk =>
    let (out, wrote) := outWrite frameSize s.out bytes ready mmapOk
    { s with out := out, total := if wrote then s.total + (bytes / frameSize).toNat else s.total }
  | .position hardware report =>
    { s with
      hardware := hardware
      positions := (outGetPresentationPosition w s.out report).toList ++ s.positions }
  | .standby => { s with out := doOutputStandby s.out }

/-- The frames of a write that reaches `pcm_mmap_write` and succeeds keep the frames written below
`2 ^ 32`. -/
def Playback.Counts (frameSize : BitVec w) (s : Playback) : PlaybackEvent w → Prop
  | .write bytes ready mmapOk =>
    (s.out.standby = false ∨ s.out.unavailable = false ∧ ready = true) ∧ mmapOk = true →
      s.total + (bytes / frameSize).toNat < 2 ^ 32
  | _ => True

/-- What a stream is to keep: the positions do not fall and do not pass the frames written. -/
structure Playback.Ok (s : Playback) : Prop where
  monotone : s.positions.Pairwise (· ≥ ·)
  bounded : ∀ frames ∈ s.positions, frames ≤ s.total

/-! ## The proofs -/

/-- The counter counts, and the positions returned are behind the hardware. -/
structure Playback.Inv (s : Playback) : Prop where
  written : s.out.written.toNat = s.total
  hardware : s.hardware ≤ s.total
  size : s.out.periodSize = periodSize ∧ s.out.periodCount = playbackPeriodCount
  passed : ∀ frames ∈ s.positions, frames ≤ s.hardware
  monotone : s.positions.Pairwise (· ≥ ·)

lemma Playback.Inv.ok {s : Playback} (h : s.Inv) : s.Ok :=
  ⟨h.monotone, fun frames hframes => (h.passed frames hframes).trans h.hardware⟩

lemma Playback.opened_inv : Playback.opened.Inv :=
  ⟨rfl, le_rfl, ⟨rfl, rfl⟩, by simp [opened], List.Pairwise.nil⟩

/-- What `out_write` does to a stream: only a write that reaches the device and succeeds changes the
counter. -/
lemma outWrite_cases (frameSize : BitVec w) (out : AlsaStreamOut) (bytes : BitVec w)
    (ready mmapOk : Bool) :
    let out' := (outWrite frameSize out bytes ready mmapOk).1
    out'.periodSize = out.periodSize ∧ out'.periodCount = out.periodCount
      ∧ if (outWrite frameSize out bytes ready mmapOk).2 then
          ((out.standby = false ∨ out.unavailable = false ∧ ready = true) ∧ mmapOk = true)
            ∧ out'.written = (out.written.setWidth w + bytes / frameSize).setWidth 32
        else out'.written = out.written := by
  cases hstandby : out.standby <;> cases hunavailable : out.unavailable <;> cases ready <;>
    cases mmapOk <;>
    simp [outWrite, startOutputStream, hstandby, hunavailable]

/-- The position of a device that reports what is free: the hardware position. -/
lemma outGetPresentationPosition_eq (hw : 32 ≤ w) {s : Playback} (hinv : s.Inv) {hardware : ℕ}
    {avail : U32}
    (hle : hardware ≤ s.total) (hreports : s.Reports hardware avail) :
    outGetPresentationPosition w s.out (some avail) = some hardware := by
  obtain ⟨hready, havail⟩ := hreports
  have hpow : 2 ^ 32 ≤ 2 ^ w := Nat.pow_le_pow_right (by decide) hw
  have hwritten := s.out.written.isLt
  have hkernel : (s.out.periodSize * s.out.periodCount).setWidth w = BitVec.ofNat w 4096 := by
    rw [hinv.size.1, hinv.size.2]
    refine BitVec.eq_of_toNat_eq ?_
    rw [BitVec.toNat_setWidth, BitVec.toNat_ofNat]
    rfl
  have hsum : s.out.written.setWidth w + avail.setWidth w = BitVec.ofNat w
      hardware + BitVec.ofNat w 4096 := by
    have hsize : s.out.periodSize.toNat * s.out.periodCount.toNat = 4096 := by
      rw [hinv.size.1, hinv.size.2]
      rfl
    rw [← BitVec.ofNat_add]
    refine BitVec.eq_of_toNat_eq ?_
    rw [BitVec.toNat_add, BitVec.toNat_setWidth, BitVec.toNat_setWidth, BitVec.toNat_ofNat,
      Nat.add_mod_mod, Nat.mod_add_mod]
    congr 1
    have := hinv.written
    omega
  have hframes : s.out.written.setWidth w - BitVec.ofNat w 4096 + avail.setWidth w = BitVec.ofNat w
      hardware := by
    rw [BitVec.sub_eq_add_neg, BitVec.add_assoc, BitVec.add_comm (-_), ← BitVec.add_assoc,
      hsum, ← BitVec.sub_eq_add_neg,
      BitVec.add_sub_cancel]
  have hlt : hardware < 2 ^ 32 := by
    have := hinv.written
    omega
  have hsigned : ((BitVec.ofNat w hardware).setWidth 64).toInt = (hardware : ℤ) := by
    have hnat : ((BitVec.ofNat w hardware).setWidth 64).toNat = hardware := by
      rw [BitVec.toNat_setWidth, BitVec.toNat_ofNat, Nat.mod_eq_of_lt (hlt.trans_le hpow),
        Nat.mod_eq_of_lt (by omega)]
    rw [BitVec.toInt_eq_toNat_of_lt (by omega), hnat]
  rw [outGetPresentationPosition, if_neg (by rw [hready]; decide)]
  simp only [hkernel, hframes, hsigned]
  rw [if_pos (Int.natCast_nonneg _), Int.toNat_natCast]

lemma Playback.inv_next (hw : 32 ≤ w) (frameSize : BitVec w) {s : Playback} (hinv : s.Inv)
    {event : PlaybackEvent w}
    (hallows : s.Allows event) (hcounts : s.Counts frameSize event) :
    (s.next frameSize event).Inv := by
  cases event with
  | write bytes ready mmapOk =>
    obtain ⟨hsize, hcount, hwritten⟩ := outWrite_cases frameSize s.out bytes ready mmapOk
    have hperiods := hinv.size
    rw [← hsize, ← hcount] at hperiods
    cases hwrote : (outWrite frameSize s.out bytes ready mmapOk).2 with
    | false =>
      rw [hwrote, if_neg Bool.false_ne_true] at hwritten
      refine ⟨?_, ?_, hperiods, hinv.passed, hinv.monotone⟩
      · simpa [next, hwrote, hwritten] using hinv.written
      · simpa [next, hwrote] using hinv.hardware
    | true =>
      rw [hwrote, if_pos rfl] at hwritten
      obtain ⟨hreached, hwritten⟩ := hwritten
      have hlt := hcounts hreached
      have hpow : 2 ^ 32 ≤ 2 ^ w := Nat.pow_le_pow_right (by decide) hw
      refine ⟨?_, ?_, hperiods, hinv.passed, hinv.monotone⟩
      · simp only [next, hwrote, hwritten, if_true]
        rw [BitVec.toNat_setWidth, BitVec.toNat_add, BitVec.toNat_setWidth, hinv.written,
          Nat.mod_eq_of_lt (by omega : s.total < 2 ^ w), Nat.mod_eq_of_lt (hlt.trans_le hpow),
            Nat.mod_eq_of_lt hlt]
      · have := hinv.hardware
        simp only [next, hwrote, if_true]
        omega
  | position hardware report =>
    obtain ⟨hge, hle, hreports⟩ := hallows
    have hpassed : ∀ frames ∈ s.positions, frames ≤ hardware := fun frames hframes =>
        (hinv.passed frames hframes).trans hge
    have hframes : outGetPresentationPosition w s.out report = none
        ∨ outGetPresentationPosition w s.out report = some hardware := by
      cases report with
      | none => exact .inl (by simp [outGetPresentationPosition])
      | some avail => exact .inr (outGetPresentationPosition_eq hw hinv hle (hreports avail rfl))
    rcases hframes with hnone | hsome
    · refine ⟨hinv.written, hle, hinv.size, ?_, ?_⟩
      · simpa [next, hnone] using hpassed
      · simpa [next, hnone] using hinv.monotone
    · refine ⟨hinv.written, hle, hinv.size, ?_, ?_⟩
      · simpa [next, hsome] using hpassed
      · simpa [next, hsome] using ⟨hpassed, hinv.monotone⟩
  | standby =>
    rw [next, doOutputStandby]
    split_ifs
    · exact ⟨hinv.written, hinv.hardware, hinv.size, hinv.passed, hinv.monotone⟩
    · exact hinv

/-- In every run in which the frames written stay below `2 ^ 32`, the positions do not fall and do
not pass them. -/
theorem positions_ok (w : ℕ) (hw : 32 ≤ w) (frameSize : BitVec w) (events : List (PlaybackEvent w))
    (hallows : Guarded Playback.Allows (Playback.next frameSize) Playback.opened events)
    (hcounts : Guarded (Playback.Counts frameSize) (Playback.next frameSize)
    Playback.opened events) :
    (events.foldl (Playback.next frameSize) Playback.opened).Ok := by
  have hstep : ∀ s event, Playback.Inv s → s.Allows event → s.Counts frameSize event →
      (s.next frameSize event).Inv :=
    fun s event hinv hallowed hcounted => Playback.inv_next hw frameSize hinv hallowed hcounted
  exact (hallows.invariant Playback.Inv hstep Playback.opened_inv hcounts).ok

end SizeT

/-- Two buffers are written, and a position is returned in between. -/
theorem positions_ok_start :
    ([PlaybackEvent.write 4096 true true, .position 24 (some 3096), .write 4096 true true].foldl
    (Playback.next (4#64)) Playback.opened).Ok := by
  refine positions_ok 64 (by decide) 4 _ ?_ ?_
  · simp [Guarded, Playback.Allows, Playback.Reports, Playback.next, outWrite, startOutputStream,
      Playback.opened,
      adevOpenOutputStream, periodSize, playbackPeriodCount]
  · simp [Guarded, Playback.Counts, Playback.next, outWrite, startOutputStream, Playback.opened,
      adevOpenOutputStream]

/-- Four writes of `2 ^ 31` bytes, a position, four further writes and a position: the counter is
back at 0. -/
def fullCounter : List (PlaybackEvent 64) :=
  List.replicate 4 (.write 0x80000000 true true) ++ [.position 0x80000000 (some 4096)]
    ++ List.replicate 4 (.write 0x80000000 true true) ++ [.position 0x100000000 (some 4096)]

/-- The position falls to 0 when `2 ^ 32` frames have been written and played. -/
theorem positions_fall : Guarded Playback.Allows (Playback.next (4#64)) Playback.opened fullCounter
    ∧ (fullCounter.foldl (Playback.next (4#64)) Playback.opened).positions = [0, 2 ^ 31]
    ∧ ¬ (fullCounter.foldl (Playback.next (4#64)) Playback.opened).Ok := by
  have hpositions : (fullCounter.foldl (Playback.next (4#64)) Playback.opened).positions =
      [0, 2 ^ 31] := by
    simp [fullCounter, List.replicate, Playback.next, outWrite, startOutputStream, Playback.opened,
      adevOpenOutputStream,
      outGetPresentationPosition, periodSize, playbackPeriodCount]
  refine ⟨?_, hpositions, fun hok => ?_⟩
  · simp [fullCounter, List.replicate, Guarded, Playback.Allows, Playback.Reports, Playback.next,
      outWrite, startOutputStream,
      Playback.opened, adevOpenOutputStream, periodSize, playbackPeriodCount]
  · have hmonotone := hok.monotone
    rw [hpositions] at hmonotone
    exact absurd hmonotone (by decide)

end Hikey
