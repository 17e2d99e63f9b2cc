import Hikey.Host.FlowRun

/-!
# Playback through the DSP (`audio_hw.c`)

The audio device sends what it plays to a decoder of the DSP, always in the same input buffer, and
asks for the status until the decoder needs input.  It is one client of the component, so what holds
of every client holds of it.

While the component is initialised an answer more is owed than the device waits for, and so it is
ever after: the loops never ask without an answer to come, but the input buffer that is written is
still with the DSP.
-/

namespace Hikey

/-! ## The source -/

/-- Where the device is: `xa_device_init` configures and starts the decoder; `xa_device_run`, or
`xa_device_close` when `closing`, asks for the status, waits for it and acts on it. -/
inductive XaPc
  | configure
  | configuring
  | start
  | idle
  | ask (closing : Bool)
  | wait (closing : Bool)
  | act (closing : Bool) (status : XafCompStatus)
  | closed
deriving DecidableEq

/-- `struct xaf_dsp_device`, with the decoder and its answers. -/
structure XaDevice where
  link : XafLink
  /-- `dec_inbuf[0]`. -/
  inbuf : ℕ
  /-- `xafinitdone`. -/
  initDone : Bool
  /-- `comp_info`. -/
  compInfo : ℕ × U32
  pc : XaPc
  /-- An output buffer could not be given back. -/
  withheld : Bool

/-- The device after `xaf_comp_create`. -/
def XaDevice.create (c : XafFlow) (inbuf : ℕ) : XaDevice :=
  ⟨.create c, inbuf, false, (0, 0), .configure, false⟩

/-- Where `XF_CHK_API` returns to. -/
def XaPc.leave (closing : Bool) : XaPc := if closing then .closed else .idle

/-- The device after `xaf_comp_get_status`, or with the wait of it. -/
def XaDevice.asked (d : XaDevice) (closing : Bool) (link : XafLink) (out : XafOut) : XaDevice :=
  match out with
  | .waits _ => { d with link := link, pc := .wait closing }
  | .reports status info =>
    { d with link := link, pc := .act closing status, compInfo := info.getD d.compInfo }
  | .returns _ => { d with link := link, pc := .leave closing }

/-- What `xa_device_run` and `xa_device_close` do with a status: the arguments of
`xaf_comp_process`, if they call it, and where they go on. -/
def xaDeviceAct (closing initDone : Bool) (info : ℕ × U32) (status : XafCompStatus) :
    Option (ℕ × U32 × XafCompFlag) × XaPc :=
  if closing then
    match status with
    | .execDone => (none, .closed)
    | .needInput => (some (0, 0, .inputOver), .ask true)
    | .outputReady => (some (info.1, info.2, .needOutput), .ask true)
    | .starting | .initDone => (none, .ask true)
  else if initDone then
    match status with
    | .execDone | .needInput => (none, .idle)
    | .outputReady => (some (info.1, info.2, .needOutput), .ask false)
    | .starting | .initDone => (none, .ask false)
  else if status = .initDone then (some (0, 0, .exec), .idle)
  else (none, .idle)

/-- One step of the device or of the DSP. -/
inductive XaDeviceStep : XaDevice → XaDevice → Prop
  /-- The DSP answers a command. -/
  | answer {d : XaDevice} {m : XafMsg} (hm : m ∈ d.link.sent) (length : U32) :
      XaDeviceStep d { d with link := { d.link with
        sent := d.link.sent.erase m, pipe := d.link.pipe ++ [{ m with length := length }] } }
  /-- A command fails. -/
  | fail {d : XaDevice} {m : XafMsg} (hm : m ∈ d.link.sent) :
      XaDeviceStep d
        { d with link := { d.link with sent := d.link.sent.erase m, lost := m ::ₘ d.link.lost } }
  /-- `pcm_setup`: three parameters -/
  | configure {d : XaDevice} {call : XafCall} (send : ℕ → ℤ) (hpc : d.pc = .configure)
      (h : xafCompSetConfig send d.link.comp 3 = call) :
      XaDeviceStep d { d with
        link := d.link.after none call,
        pc := if call.out.wait = some .setConfig then .configuring else .idle }
  | configured {d : XaDevice} {r : XafMsg} {rest : List XafMsg} {result : XafFlow × XafOut}
      {pool : Except {r : ℤ // r < 0} (List ℕ)} (outputLength : U32) (hpc : d.pc = .configuring)
      (hpipe : d.link.pipe = r :: rest) (hpool : d.link.comp.PoolOk pool)
      (h : xafAfter pool outputLength d.link.comp r .setConfig = result) :
      XaDeviceStep d { d with
        link := d.link.read r rest result, pc := if result.2 = .returns 0 then .start else .idle }
  | start {d : XaDevice} {call : XafCall} (send : ℕ → ℤ) (hpc : d.pc = .start)
      (h : xafCompProcess true send d.link.comp 0 0 .start = some call) :
      XaDeviceStep d { d with link := d.link.after (some .start) call, pc := .idle }
  /-- `xa_device_run` copies what is played to the input buffer and sends it. -/
  | copy {d : XaDevice} {call : XafCall} (send : ℕ → ℤ) (readLength : U32) (hpc : d.pc = .idle)
      (h : xafCompProcess (!d.initDone) send d.link.comp d.inbuf readLength
        .inputReady = some call) :
      XaDeviceStep d { d with
        link := d.link.after (some .inputReady) call,
        pc := if call.out = .returns 0 then .ask false else .idle }
  /-- `xa_device_close` -/
  | close {d : XaDevice} (hpc : d.pc = .idle) : XaDeviceStep d { d with pc := .ask true }
  | ask {d : XaDevice} {closing : Bool} {call : XafCall} (hpc : d.pc = .ask closing)
      (h : xafCompGetStatus (!closing && !d.initDone) d.link.comp = call) :
      XaDeviceStep d (d.asked closing (d.link.after none call) call.out)
  | read {d : XaDevice} {closing : Bool} {r : XafMsg} {rest : List XafMsg}
      {result : XafFlow × XafOut}
      {pool : Except {r : ℤ // r < 0} (List ℕ)} (outputLength : U32) (hpc : d.pc = .wait closing)
      (hpipe : d.link.pipe = r :: rest) (hpool : d.link.comp.PoolOk pool)
      (h : xafAfter pool outputLength d.link.comp r .status = result) :
      XaDeviceStep d (d.asked closing (d.link.read r rest result) result.2)
  /-- The status needs no command. -/
  | act {d : XaDevice} {closing : Bool} {status : XafCompStatus} {pc : XaPc}
      (hpc : d.pc = .act closing status)
      (h : xaDeviceAct closing d.initDone d.compInfo status = (none, pc)) : XaDeviceStep d
        { d with pc := pc }
  | command {d : XaDevice} {closing : Bool} {status : XafCompStatus} {buf : ℕ} {length : U32}
      {flag : XafCompFlag}
      {pc : XaPc} {call : XafCall} (send : ℕ → ℤ) (hpc : d.pc = .act closing status)
      (hact : xaDeviceAct closing d.initDone d.compInfo status = (some (buf, length, flag), pc))
      (h : xafCompProcess false send d.link.comp buf length flag = some call) :
      XaDeviceStep d { d with
        link := d.link.after (some flag) call, initDone := d.initDone || flag = .exec,
        pc := if call.out = .returns 0 then pc else .leave closing,
        withheld := d.withheld || flag = .needOutput && call.out ≠ .returns 0 }

/-- The input buffers that are owed. -/
def XafLink.inputs (s : XafLink) : ℕ := s.owed.countP fun x => x.1 = .emptyThisBuffer

/-- What holds of the device in every run.  The decoder is accounted for; the loops wait when they
ask; the output buffers are back when they wait; and the input buffer is still owed when it is
written. -/
structure XaDeviceKept (d : XaDevice) : Prop where
  accounted : XafAccounted d.link
  waits : ∀ closing, d.pc = .ask closing → closing = false ∨ d.link.comp.initDone = true →
    d.link.owed.card < 2 ^ 32 →
    (xafCompGetStatus (!closing && !d.initDone) d.link.comp).out = .waits .status
  givenBack : ∀ closing, d.pc = .wait closing → d.withheld = false → d.link.held = 0
  overwrites : d.pc = .idle → d.initDone = true → (.emptyThisBuffer, d.inbuf) ∈ d.link.owed

/-! ## What the calls do -/

section Calls

variable {c : XafFlow} {s : XafLink} {buf : ℕ} {flag : XafCompFlag} {call : XafCall}

lemma XafProcessed.frame (h : XafProcessed c buf flag call) :
    call.comp.compType = c.compType ∧ call.comp.inpool = c.inpool ∧
      call.comp.compStatus = c.compStatus ∧
      call.comp.initDone = c.initDone ∧ (flag ≠ .exec → call.comp.execCmdIssued = c.execCmdIssued) ∧
      (flag ≠ .inputOver → call.comp.inputOver = c.inputOver) := by
  cases h <;> simp

/-- The calls of a decoder do not wait. -/
lemma XafProcessed.out_wait (h : XafProcessed c buf flag call) (hdec : c.compType = .decoder) :
    call.out.wait = none := by
  cases h with
  | start hstart => simp [hdec, XafOut.wait]
  | _ => rfl

lemma XafProcessed.fills (h : XafProcessed c buf flag call) (hover : flag ≠ .inputOver)
    (hready : flag ≠ .inputReady) :
    ∀ m ∈ call.sent, m.opcode = .fillThisBuffer := by
  cases h with
  | exec r pendingResp hinit hexec hpool hfill hle hpending hlen => exact hfill
  | inputOver => exact absurd rfl hover
  | inputReady => exact absurd rfl hready
  | _ => simp

/-- What is sent to be filled is no input buffer. -/
lemma XafLink.inputs_after (s : XafLink) (f : Option XafCompFlag)
    (hfills : ∀ m ∈ call.sent, m.opcode = .fillThisBuffer) :
    (s.after f call).inputs = s.inputs := by
  rw [XafLink.inputs, s.owed_after, Multiset.countP_add, Multiset.countP_eq_zero.mpr, zero_add]
  · rfl
  · intro x hx
    obtain ⟨m, hm, rfl⟩ := List.mem_map.mp (Multiset.mem_coe.mp hx)
    simp [XafMsg.command, hfills m hm]

lemma XafLink.mem_owed_after (s : XafLink) (f : Option XafCompFlag)
    (hfills : ∀ m ∈ call.sent, m.opcode = .fillThisBuffer) (b : ℕ) :
    (.emptyThisBuffer, b) ∈ (s.after f call).owed ↔ (.emptyThisBuffer, b) ∈ s.owed := by
  rw [s.owed_after, Multiset.mem_add]
  constructor
  · rintro (hx | hx)
    · obtain ⟨m, hm, heq⟩ := List.mem_map.mp (Multiset.mem_coe.mp hx)
      rw [XafMsg.command, hfills m hm] at heq
      cases heq
    · exact hx
  · exact Or.inr

/-- There is one output buffer. -/
lemma XafLinkInv.card_held (hs : XafLinkInv s) : s.held.card ≤ 1 := by
  have hle := congrArg Multiset.card hs.counts.outputs
  rw [Multiset.card_add, Multiset.card_add] at hle
  have hfew := hs.prepared.few
  have hone := hs.prepared.noutbuf
  omega

/-- Before the decoder executes, no output buffer is taken. -/
lemma XafLinkInv.held_eq_zero (hs : XafLinkInv s) (hexec : s.comp.execCmdIssued = false) :
    s.held = 0 := by
  have htaken := hs.prepared.unexecuted (.inl hexec)
  have houtputs := hs.counts.outputs
  rw [htaken] at houtputs
  exact (add_eq_zero.mp (add_eq_zero.mp houtputs).1).2

/-- What the component counts are the input buffers. -/
lemma XafLinkInv.pendingResp_inputs (hs : XafLinkInv s) (hin : s.comp.inpool = true) :
    s.comp.pendingResp = BitVec.ofNat 32 s.inputs := by
  rw [hs.counts.pending, hin]
  rfl

end Calls

end Hikey
