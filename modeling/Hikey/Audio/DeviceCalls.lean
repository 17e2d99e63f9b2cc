import Hikey.Audio.Device

/-!
# The input buffers that are owed to the device

How many input buffers are owed at least depends on where the device is: it waits for one, and once
`xafinitdone` is set one more is ahead of it.  The answers and the calls keep to that.
-/

namespace Hikey

/-! ## The invariant -/

/-- The call of the component that waits. -/
def XaPc.waiting : XaPc → Option XafWait
  | .configuring => some .setConfig
  | .wait _ => some .status
  | .configure | .start | .idle | .ask _ | .act _ _ | .closed => none

/-- The device is in `xa_device_close`. -/
def XaPc.closing : XaPc → Bool
  | .ask closing | .wait closing | .act closing _ => closing
  | .closed => true
  | .configure | .configuring | .start | .idle => false

/-- The input buffers that are owed besides the one that the device waits for. -/
def XaDevice.ahead (d : XaDevice) (closing : Bool) : ℕ := if !closing && d.initDone then 1 else 0

/-- The input buffers that are owed at least. -/
def XaDevice.due (d : XaDevice) : ℕ :=
  match d.pc with
  | .configure | .configuring | .start | .idle => d.ahead false
  | .ask closing => if closing && !d.link.comp.initDone then 0 else d.ahead closing + 1
  | .wait closing => d.ahead closing + 1
  | .act closing status =>
    if status = .needInput ∨ status = .execDone then d.ahead closing else d.ahead closing + 1
  | .closed => 0

/-- The input buffers. -/
structure XaDeviceInputs (d : XaDevice) : Prop where
  due : d.due ≤ d.link.inputs
  same : d.pc.closing = false → d.link.comp.inputOver = false ∧
    ∀ b, (.emptyThisBuffer, b) ∈ d.link.owed → b = d.inbuf
  ended : d.link.comp.inputOver = true →
    d.pc = .closed ∨ d.pc = .act true .execDone ∨ (.emptyThisBuffer, 0) ∈ d.link.owed

/-- The status and the output buffers. -/
structure XaDeviceOutputs (d : XaDevice) : Prop where
  early : d.initDone = false → d.link.comp.execCmdIssued = false ∧
    (d.pc.closing = false → d.link.comp.initDone = true → d.pc = .act false .initDone)
  late : d.initDone = true ∨ d.link.comp.compStatus = .initDone → d.link.comp.initDone = true
  status : ∀ closing status, d.pc = .act closing status → status = d.link.comp.compStatus
  current : d.link.comp.compStatus = .outputReady → d.link.held = 0 ∨ d.compInfo.1 ∈ d.link.held
  given : d.withheld = false → d.link.held = 0 ∨ ∃ closing, d.pc = .act closing .outputReady

/-- The invariant of all runs. -/
structure XaDeviceInv (d : XaDevice) : Prop where
  link : XafLinkInv d.link
  decoder : d.link.comp.compType = .decoder ∧ d.link.comp.inpool = true
  wait : d.link.wait = d.pc.waiting
  quiet : d.pc = .configure → d.link.Quiet
  inputs : XaDeviceInputs d
  outputs : XaDeviceOutputs d

variable {d : XaDevice}

/-- An input buffer that is owed is the input buffer. -/
lemma XaDeviceInputs.owed (hs : XaDeviceInputs d) (hopen : d.pc.closing = false)
    (hpos : 0 < d.link.inputs) :
    (.emptyThisBuffer, d.inbuf) ∈ d.link.owed := by
  obtain ⟨⟨op, b⟩, hx, hop⟩ := Multiset.countP_pos.mp hpos
  obtain rfl : op = .emptyThisBuffer := hop
  rwa [← (hs.same hopen).2 b hx]

/-- The device is left while something goes on. -/
@[simp] lemma XaPc.waiting_leave (closing : Bool) : (XaPc.leave closing).waiting = none := by
  cases closing <;> rfl

lemma XaPc.leave_ne_act (closing closing' : Bool) (status : XafCompStatus) :
    XaPc.leave closing ≠ .act closing' status := by
  cases closing <;> simp [XaPc.leave]

lemma XaPc.leave_ne_configure (closing : Bool) : XaPc.leave closing ≠ .configure := by
  cases closing <;> simp [XaPc.leave]

lemma XaPc.closing_leave (closing : Bool) : (XaPc.leave closing).closing = closing := by
  cases closing <;> rfl

lemma XaDevice.due_of_leave {closing : Bool} (hpc : d.pc = .leave closing) :
    d.due ≤ d.ahead closing := by
  cases closing with
  | false => rw [XaDevice.due, show d.pc = .idle from hpc]
  | true => rw [XaDevice.due, show d.pc = .closed from hpc]; exact Nat.zero_le _

lemma XaDevice.due_of_ask {closing : Bool} (hpc : d.pc = .ask closing) :
    d.due ≤ d.ahead closing + 1 := by
  rw [XaDevice.due, hpc]
  dsimp only
  split_ifs
  · exact Nat.zero_le _
  · exact le_rfl

lemma XaDevice.due_of_act {closing : Bool} {status : XafCompStatus}
    (hpc : d.pc = .act closing status) :
    d.due ≤ d.ahead closing + 1 := by
  rw [XaDevice.due, hpc]
  dsimp only
  split_ifs
  · exact Nat.le_succ _
  · exact le_rfl

/-! ## The DSP -/

lemma XaDeviceInv.dsp (hs : XaDeviceInv d) {link : XafLink} (hlink : XafLinkStep d.link link)
    (hcomp : link.comp = d.link.comp) (howed : link.owed = d.link.owed)
    (hheld : link.held = d.link.held)
    (hwait : link.wait = d.link.wait) (hbusy : ¬d.link.Quiet) :
    XaDeviceInv { d with link := link } where
  link := hs.link.step hlink
  decoder := by
    rw [hcomp]
    exact hs.decoder
  wait := hwait.trans hs.wait
  quiet := by
    intro hpc
    exact absurd (hs.quiet hpc) hbusy
  inputs := by
    obtain ⟨hdue, hsame, hended⟩ := hs.inputs
    constructor
    · simp only [XaDevice.due, XaDevice.ahead, XafLink.inputs, hcomp, howed]
      exact hdue
    · simp only [hcomp, howed]
      exact hsame
    · simp only [hcomp, howed]
      exact hended
  outputs := by
    obtain ⟨hearly, hlate, hstatus, hcurrent, hgiven⟩ := hs.outputs
    constructor
    · simp only [hcomp]
      exact hearly
    · simp only [hcomp]
      exact hlate
    · simp only [hcomp]
      exact hstatus
    · simp only [hcomp, hheld]
      exact hcurrent
    · simp only [hheld]
      exact hgiven

section Read

variable {r : XafMsg} {rest : List XafMsg} {comp : XafFlow} {out : XafOut} {closing : Bool}

/-- The answer that is read, if it is an input buffer, is one less. -/
lemma XafLink.inputs_read (s : XafLink) (hpipe : s.pipe = r :: rest) (result : XafFlow × XafOut) :
    s.inputs = (s.read r rest result).inputs + if r.opcode = .emptyThisBuffer then 1 else 0 := by
  rw [XafLink.inputs, s.owed_read hpipe result, Multiset.countP_cons]
  rfl

lemma XaDeviceInputs.read (hs : XaDeviceInputs d) (hpc : d.pc = .wait closing)
    (hpipe : d.link.pipe = r :: rest)
    (hread : XafStatusRead d.link r comp out) (hover : comp.inputOver = d.link.comp.inputOver) :
    XaDeviceInputs (d.asked closing (d.link.read r rest (comp, out)) out) := by
  obtain ⟨hdue, hsame, hended⟩ := hs
  have howed := d.link.owed_read hpipe (comp, out)
  rw [d.link.inputs_read hpipe (comp, out), XaDevice.due, hpc] at hdue
  dsimp only at hdue
  rw [hpc] at hsame hended
  -- what is read is not owed any more, and this may be the last input buffer
  have hsame' : closing = false → comp.inputOver = false ∧
      ∀ b, (.emptyThisBuffer, b) ∈ (d.link.read r rest (comp, out)).owed → b = d.inbuf := by
    intro hopen
    obtain ⟨hno, hall⟩ := hsame hopen
    refine ⟨hover.trans hno, fun b hb => hall b ?_⟩
    rw [howed]
    exact Multiset.mem_cons_of_mem hb
  have hended' : comp.inputOver = true →
      (.emptyThisBuffer, 0) = r.command ∨
        (.emptyThisBuffer, 0) ∈ (d.link.read r rest (comp, out)).owed := by
    intro hyes
    rcases hended (hover ▸ hyes) with h | h | h
    · cases h
    · cases h
    · rwa [howed, Multiset.mem_cons] at h
  cases hread with
  | fails e he hr hinit hstatus =>
    have hop : r.opcode ≠ .emptyThisBuffer := by
      intro h
      simp [XafMsg.command, h] at hr
    rw [if_neg hop] at hdue
    constructor
    · exact (XaDevice.due_of_leave rfl).trans (le_of_add_le_add_right (hdue.trans (Nat.le_succ _)))
    · exact fun hopen => hsame' ((XaPc.closing_leave closing).symm.trans hopen)
    · intro hyes
      rcases hended' hyes with h | h
      · cases h.trans hr
      · exact .inr (.inr h)
  | init hr hinit hstatus =>
    have hop : r.opcode ≠ .emptyThisBuffer := by
      intro h
      simp [XafMsg.command, h] at hr
    rw [if_neg hop] at hdue
    constructor
    · exact hdue
    · exact hsame'
    · intro hyes
      rcases hended' hyes with h | h
      · cases h.trans hr
      · exact .inr (.inr h)
  | output hop haux hinit hstatus =>
    rw [if_neg (by simp [hop])] at hdue
    constructor
    · exact (XaDevice.due_of_act rfl).trans hdue
    · exact hsame'
    · intro hyes
      rcases hended' hyes with h | h
      · simp [XafMsg.command, hop] at h
      · exact .inr (.inr h)
  | input hop hinit hstatus =>
    rw [if_pos hop] at hdue
    constructor
    · simp only [XaDevice.due, XaDevice.asked, hstatus]
      rw [if_pos (by split_ifs <;> simp)]
      exact Nat.le_of_succ_le_succ hdue
    · exact hsame'
    · intro hyes
      rcases hended' hyes with h | h
      · have hbuf : r.buffer = 0 := (Prod.mk.inj h).2.symm
        have hclosing : closing = true := by
          by_contra hopen
          cases (hsame' (Bool.eq_false_iff.mpr hopen)).1.symm.trans hyes
        have hyes' : d.link.comp.inputOver = true := hover.symm.trans hyes
        refine .inr (.inl ?_)
        simp only [XaDevice.asked, hstatus, hclosing, hyes', hbuf, decide_true,
          Bool.and_true, if_true]
      · exact .inr (.inr h)

lemma XaDeviceOutputs.read (hs : XaDeviceOutputs d) (rest : List XafMsg)
    (hpc : d.pc = .wait closing)
    (hread : XafStatusRead d.link r comp out)
    (hexec : comp.execCmdIssued = d.link.comp.execCmdIssued) :
    XaDeviceOutputs (d.asked closing (d.link.read r rest (comp, out)) out) := by
  obtain ⟨hearly, hlate, hstatus, hcurrent, hgiven⟩ := hs
  have hheld : d.withheld = false → d.link.held = 0 := by
    intro h
    rcases hgiven h with h | ⟨closing', h⟩
    · exact h
    · cases hpc.symm.trans h
  have hno : d.initDone = false → comp.execCmdIssued = false ∧
      (closing = false → d.link.comp.initDone = false) := by
    intro h
    obtain ⟨hexec', hinit⟩ := hearly h
    refine ⟨hexec.trans hexec', fun hopen => ?_⟩
    rw [hpc] at hinit
    by_contra hyes
    cases hinit hopen (Bool.eq_true_of_not_eq_false hyes)
  -- only a new output buffer changes what is held
  have hkeep (hnot : r.isOutput d.link.comp = false) : (d.link.read r rest (comp, out)).held =
      d.link.held := by
    simp [XafLink.read, hnot]
  cases hread with
  | fails e he hr hinit hst =>
    have hnot : r.isOutput d.link.comp = false := by
      obtain ⟨hop, hbuf⟩ := Prod.mk.inj hr
      simp [XafMsg.isOutput, hbuf]
    constructor
    · intro h
      refine ⟨(hno h).1, fun hopen hyes => ?_⟩
      have hfalse := (hno h).2 ((XaPc.closing_leave closing).symm.trans hopen)
      cases (hinit.trans hfalse).symm.trans hyes
    · rintro (h | h)
      · exact hinit.trans (hlate (.inl h))
      · exact hinit.trans (hlate (.inr (hst.symm.trans h)))
    · intro closing' status h
      exact absurd h (XaPc.leave_ne_act _ _ _)
    · intro h
      change (d.link.read r rest (comp, .returns e)).held = 0 ∨
        _ ∈ (d.link.read r rest (comp, .returns e)).held
      rw [hkeep hnot]
      exact hcurrent (hst.symm.trans h)
    · intro h
      exact .inl ((hkeep hnot).trans (hheld h))
  | init hr hinit hst =>
    have hnot : r.isOutput d.link.comp = false := by
      obtain ⟨hop, hbuf⟩ := Prod.mk.inj hr
      simp [XafMsg.isOutput, hbuf]
    constructor
    · intro h
      refine ⟨(hno h).1, fun hopen _ => ?_⟩
      obtain rfl : closing = false := hopen
      rfl
    · exact fun _ => hinit
    · intro closing' status h
      cases h
      exact hst.symm
    · intro h
      cases hst.symm.trans h
    · intro h
      exact .inl ((hkeep hnot).trans (hheld h))
  | output hop haux hinit hst =>
    have hyes : r.isOutput d.link.comp = true := by simp [XafMsg.isOutput, hop, haux]
    constructor
    · intro h
      refine ⟨(hno h).1, fun hopen hinit' => ?_⟩
      cases (hinit.trans ((hno h).2 hopen)).symm.trans hinit'
    · rintro (h | h)
      · exact hinit.trans (hlate (.inl h))
      · have hst' : comp.compStatus = .initDone := h
        rw [hst] at hst'
        split_ifs at hst'
    · intro closing' status h
      cases h
      rfl
    · intro h
      have hst' : comp.compStatus = .outputReady := h
      rw [hst] at hst'
      split_ifs at hst' with hlen
      refine .inr ?_
      change r.buffer ∈ (d.link.read r rest (comp, .reports comp.compStatus _)).held
      rw [XafLink.read, if_pos (by simpa [hyes] using hlen)]
      exact Multiset.mem_cons_self _ _
    · intro h
      by_cases hlen : r.length = 0
      · refine .inl ?_
        change (d.link.read r rest (comp, .reports comp.compStatus _)).held = 0
        rw [XafLink.read, if_neg (by simp [hlen])]
        exact hheld h
      · refine .inr ⟨closing, ?_⟩
        simp only [XaDevice.asked, hst, if_neg hlen]
  | input hop hinit hst =>
    have hnot : r.isOutput d.link.comp = false := by simp [XafMsg.isOutput, hop]
    constructor
    · intro h
      refine ⟨(hno h).1, fun hopen hinit' => ?_⟩
      cases (hinit.trans ((hno h).2 hopen)).symm.trans hinit'
    · rintro (h | h)
      · exact hinit.trans (hlate (.inl h))
      · have hst' : comp.compStatus = .initDone := h
        rw [hst] at hst'
        split_ifs at hst'
    · intro closing' status h
      cases h
      rfl
    · intro h
      have hst' : comp.compStatus = .outputReady := h
      rw [hst] at hst'
      split_ifs at hst'
    · intro h
      exact .inl ((hkeep hnot).trans (hheld h))

end Read

lemma XaDeviceInv.read (hs : XaDeviceInv d) {closing : Bool} {r : XafMsg} {rest : List XafMsg}
    {pool : Except {r : ℤ // r < 0} (List ℕ)} (outputLength : U32) (hpc : d.pc = .wait closing)
    (hpipe : d.link.pipe = r :: rest) (hpool : d.link.comp.PoolOk pool) :
    XaDeviceInv (d.asked closing
      (d.link.read r rest (xafAfter pool outputLength d.link.comp r .status))
      (xafAfter pool outputLength d.link.comp r .status).2) := by
  have hwait : d.link.wait = some .status := by rw [hs.wait, hpc]; rfl
  have hread := hs.link.statusRead hwait hpipe pool outputLength
  have hframe := xafAfter_frame pool outputLength d.link.comp r .status
  have hlink := hs.link.step (.read outputLength hwait hpipe hpool)
  simp only [xafAfter] at hframe hlink ⊢
  generalize xafStatusAfter pool outputLength d.link.comp r = result at hread hframe hlink ⊢
  obtain ⟨comp, out⟩ := result
  obtain ⟨htype, hin, hover, hexec⟩ := hframe
  have hinputs := hs.inputs.read hpc hpipe hread hover
  have houtputs := hs.outputs.read rest hpc hread hexec
  have hdecoder := hs.decoder
  rw [← htype, ← hin] at hdecoder
  dsimp only at hread
  cases hread with
  | fails e he hr hinit hst =>
    exact ⟨hlink, hdecoder, (XaPc.waiting_leave closing).symm,
      fun h => absurd h (XaPc.leave_ne_configure closing), hinputs,
      houtputs⟩
  | init hr hinit hst => exact ⟨hlink, hdecoder, rfl, by simp [XaDevice.asked], hinputs, houtputs⟩
  | output hop haux hinit hst =>
    exact ⟨hlink, hdecoder, rfl, by simp [XaDevice.asked], hinputs, houtputs⟩
  | input hop hinit hst => exact ⟨hlink, hdecoder, rfl, by simp [XaDevice.asked], hinputs, houtputs⟩

/-! ## The calls -/

section Process

variable {buf : ℕ} {flag : XafCompFlag} {call : XafCall} {initDone : Bool} {pc : XaPc}
  {withheld : Bool}

lemma XaDeviceInputs.fills (hs : XaDeviceInputs d)
    (hfills : ∀ m ∈ call.sent, m.opcode = .fillThisBuffer)
    (hover : call.comp.inputOver = d.link.comp.inputOver)
    (hopen : pc.closing = false → d.pc.closing = false)
    (hended : d.link.comp.inputOver = true → pc = .closed ∨ (.emptyThisBuffer, 0) ∈ d.link.owed)
    (hdue : { d with link := d.link.after (some flag) call, initDone := initDone, pc :=
  pc : XaDevice }.due ≤
      d.link.inputs) :
    XaDeviceInputs { d with
      link := d.link.after (some flag) call, initDone := initDone, pc := pc,
      withheld := withheld } where
  due := by
    rw [d.link.inputs_after _ hfills]
    exact hdue
  same := by
    intro h
    obtain ⟨hno, hall⟩ := hs.same (hopen h)
    exact ⟨hover.trans hno, fun b hb => hall b ((d.link.mem_owed_after _ hfills b).mp hb)⟩
  ended := by
    intro h
    rcases hended (hover.symm.trans h) with h | h
    · exact .inl h
    · exact .inr (.inr ((d.link.mem_owed_after _ hfills 0).mpr h))

lemma XaDeviceOutputs.after (hs : XaDeviceOutputs d)
    (hcall : XafProcessed d.link.comp buf flag call)
    (hact : ∀ closing status, pc ≠ .act closing status)
    (hearly : initDone = false → d.initDone = false ∧ flag ≠ .exec ∧
    (pc.closing = false → d.link.comp.initDone = false))
    (hlate : initDone = true → d.link.comp.initDone = true)
    (hheld : (d.link.after (some flag) call).held = 0 ∨
      (d.link.after (some flag) call).held = d.link.held ∧ (withheld = false → d.link.held = 0)) :
    XaDeviceOutputs { d with
      link := d.link.after (some flag) call, initDone := initDone, pc := pc,
      withheld := withheld } where
  early := by
    intro h
    obtain ⟨hd, hflag, hinit⟩ := hearly h
    refine ⟨(hcall.frame.2.2.2.2.1 hflag).trans (hs.early hd).1, fun hopen hyes => ?_⟩
    cases (hcall.frame.2.2.2.1.trans (hinit hopen)).symm.trans hyes
  late := by
    rintro (h | h)
    · exact hcall.frame.2.2.2.1.trans (hlate h)
    · exact hcall.frame.2.2.2.1.trans (hs.late (.inr (hcall.frame.2.2.1.symm.trans h)))
  status := by
    intro closing status h
    exact absurd h (hact closing status)
  current := by
    intro h
    rcases hheld with hzero | ⟨heq, -⟩
    · exact .inl hzero
    · change (d.link.after (some flag) call).held = 0 ∨
        d.compInfo.1 ∈ (d.link.after (some flag) call).held
      rw [heq]
      exact hs.current (hcall.frame.2.2.1.symm.trans h)
  given := by
    intro h
    rcases hheld with hzero | ⟨heq, hzero⟩
    · exact .inl hzero
    · exact .inl (heq.trans (hzero h))

/-- Before `xafinitdone` the decoder is not initialised, unless the device acts on it. -/
lemma XaDeviceOutputs.uninitialised (hs : XaDeviceOutputs d) (hopen : d.pc.closing = false)
    (hact : d.pc ≠ .act false .initDone) (hinit : d.initDone = false) :
    d.link.comp.initDone = false := by
  by_contra hyes
  exact hact ((hs.early hinit).2 hopen (Bool.eq_true_of_not_eq_false hyes))

/-- Where the device does not act, nothing is held. -/
lemma XaDeviceOutputs.held (hs : XaDeviceOutputs d)
    (hact : ∀ closing, d.pc ≠ .act closing .outputReady)
    (hwithheld : d.withheld = false) : d.link.held = 0 := by
  rcases hs.given hwithheld with h | ⟨closing, h⟩
  · exact h
  · exact absurd h (hact closing)

end Process

/-- A call that leaves off or asks again is done with its step. -/
lemma XaDeviceInv.process (hs : XaDeviceInv d) {buf : ℕ} {flag : XafCompFlag} {call : XafCall}
    {initDone : Bool} {pc : XaPc}
    {withheld : Bool} (hstep : XafLinkStep d.link (d.link.after (some flag) call))
    (hcall : XafProcessed d.link.comp buf flag call) (hwait : pc.waiting = none)
    (hconf : pc ≠ .configure)
    (hinputs : XaDeviceInputs { d with
      link := d.link.after (some flag) call, initDone := initDone, pc := pc, withheld := withheld })
    (houtputs : XaDeviceOutputs { d with
      link := d.link.after (some flag) call, initDone := initDone, pc := pc,
      withheld := withheld }) :
    XaDeviceInv { d with
      link := d.link.after (some flag) call, initDone := initDone, pc := pc,
      withheld := withheld } where
  link := hs.link.step hstep
  decoder := ⟨hcall.frame.1.trans hs.decoder.1, hcall.frame.2.1.trans hs.decoder.2⟩
  wait := (hcall.out_wait hs.decoder.1).trans hwait.symm
  quiet := fun h => absurd h hconf
  inputs := hinputs
  outputs := houtputs

lemma XaDeviceInv.start (hs : XaDeviceInv d) {send : ℕ → ℤ} {call : XafCall} (hpc : d.pc = .start)
    (h : xafCompProcess true send d.link.comp 0 0 .start = some call) :
    XaDeviceInv { d with link := d.link.after (some .start) call, pc := .idle } := by
  have hcall := xafCompProcess_cases h
  have hidle : d.pc.waiting = none := by rw [hpc]; rfl
  have hstep := XafLinkStep.process true send 0 0 .start (hs.wait.trans hidle) (.inl hs.decoder.1) h
  refine hs.process hstep hcall rfl (by simp) ?_ ?_
  · have hdue := hs.inputs.due
    rw [XaDevice.due, hpc] at hdue
    refine hs.inputs.fills (hcall.fills (by simp) (by simp))
      (hcall.frame.2.2.2.2.2 (by simp)) ?_ ?_ hdue
    · intro _
      rw [hpc]
      rfl
    · intro hover
      cases (hs.inputs.same (by rw [hpc]; rfl)).1.symm.trans hover
  · refine hs.outputs.after hcall (by simp) ?_ ?_ (.inr ⟨rfl, fun h => hs.outputs.held ?_ h⟩)
    · intro hinit
      refine ⟨hinit, by simp, fun _ => hs.outputs.uninitialised ?_ ?_ hinit⟩
      · rw [hpc]
        rfl
      · rw [hpc]
        simp
    · exact fun hinit => hs.outputs.late (.inl hinit)
    · intro closing hact
      cases hpc.symm.trans hact

/-- An input buffer that is sent is owed. -/
lemma XafLink.inputs_after_input (s : XafLink) (f : Option XafCompFlag) (comp : XafFlow) (b : ℕ)
    (length : U32) (out : XafOut) :
    (s.after f ⟨comp, [⟨.emptyThisBuffer, b, length⟩], out⟩).inputs = s.inputs + 1 := by
  rw [XafLink.inputs, s.owed_after_one]
  exact Multiset.countP_cons_of_pos _ rfl

lemma XaDeviceInv.copy (hs : XaDeviceInv d) {send : ℕ → ℤ} {readLength : U32} {call : XafCall}
    (hpc : d.pc = .idle)
    (h : xafCompProcess (!d.initDone) send d.link.comp d.inbuf readLength .inputReady = some call) :
    XaDeviceInv { d with
      link := d.link.after (some .inputReady) call,
      pc := if call.out = .returns 0 then .ask false else .idle } := by
  have hcall := xafCompProcess_cases h
  have hidle : d.pc.waiting = none := by rw [hpc]; rfl
  have hopen : d.pc.closing = false := by rw [hpc]; rfl
  have hstep := XafLinkStep.process (!d.initDone) send d.inbuf readLength .inputReady
      (hs.wait.trans hidle) hs.decoder.2 h
  have hdue := hs.inputs.due
  rw [XaDevice.due, hpc] at hdue
  have hout : (if call.out = .returns 0 then XaPc.ask false else .idle).closing = false := by
    split_ifs <;> rfl
  refine hs.process hstep hcall ?_ ?_ ?_ ?_
  · split_ifs <;> rfl
  · split_ifs <;> simp
  · generalize hflag : XafCompFlag.inputReady = flag at hcall
    cases hcall with
    | same _ r hr =>
      subst hflag
      have hr' : r ≠ 0 := by
        intro hzero
        cases (hs.inputs.same hopen).1.symm.trans (hr hzero)
      rw [if_neg (by simpa using hr')]
      refine hs.inputs.fills (by simp) rfl (fun _ => hopen) ?_ hdue
      intro hover
      cases (hs.inputs.same hopen).1.symm.trans hover
    | inputReady length hover =>
      rw [if_pos rfl]
      constructor
      · rw [d.link.inputs_after_input]
        exact Nat.succ_le_succ hdue
      · intro _
        refine ⟨hover, fun b hb => ?_⟩
        rw [d.link.owed_after_one] at hb
        rcases Multiset.mem_cons.mp hb with hb | hb
        · exact (Prod.mk.inj hb).2
        · exact (hs.inputs.same hopen).2 b hb
      · intro h
        cases hover.symm.trans h
    | _ => cases hflag
  · refine hs.outputs.after hcall ?_ ?_ ?_ (.inr ⟨rfl, fun h => hs.outputs.held ?_ h⟩)
    · intro closing status
      split_ifs <;> simp
    · intro hinit
      refine ⟨hinit, by simp, fun _ => hs.outputs.uninitialised hopen ?_ hinit⟩
      rw [hpc]
      simp
    · exact fun hinit => hs.outputs.late (.inl hinit)
    · intro closing hact
      cases hpc.symm.trans hact

lemma XaDeviceInv.close (hs : XaDeviceInv d) (hpc : d.pc = .idle) :
    XaDeviceInv { d with pc := .ask true } where
  link := hs.link
  decoder := hs.decoder
  wait := by
    rw [hs.wait, hpc]
    rfl
  quiet := by simp
  inputs := by
    obtain ⟨hdue, hsame, hended⟩ := hs.inputs
    rw [XaDevice.due, hpc] at hdue
    constructor
    · change (if true && !d.link.comp.initDone then 0 else 0 + 1) ≤ d.link.inputs
      split_ifs with hinit
      · exact Nat.zero_le _
      · -- an initialised decoder has an input buffer that it owes
        have hyes : d.initDone = true := by
          by_contra hno
          rw [Bool.not_eq_true] at hno
          apply hinit
          rw [hs.outputs.uninitialised (by rw [hpc]; rfl) (by simp [hpc]) hno]
          rfl
        exact hdue.trans' (by simp [XaDevice.ahead, hyes])
    · simp [XaPc.closing]
    · intro hover
      cases (hsame (by rw [hpc]; rfl)).1.symm.trans hover
  outputs := by
    have hheld := hs.outputs.held (by simp [hpc])
    obtain ⟨hearly, hlate, hstatus, hcurrent, hgiven⟩ := hs.outputs
    constructor
    · intro h
      exact ⟨(hearly h).1, by simp [XaPc.closing]⟩
    · exact hlate
    · simp
    · exact hcurrent
    · exact fun h => .inl (hheld h)

/-- Everything that `xaf_comp_get_status` can do before an answer. -/
inductive XafAsked (adev : Bool) (c : XafFlow) : XafCall → Prop
  | fails : XafAsked adev c ⟨c, [], .returns xafPtrError⟩
  | waits (hinit : adev = false → c.initDone = true) : XafAsked adev c ⟨c, [], .waits .status⟩
  | reports (status : XafCompStatus) (hinit : adev = false → c.initDone = true)
      (hstatus : status = c.compStatus ∨ status = .needInput) :
      XafAsked adev c ⟨{ c with compStatus := status }, [], .reports status none⟩

lemma xafCompGetStatus_cases (adev : Bool) (c : XafFlow) :
    XafAsked adev c (xafCompGetStatus adev c) := by
  unfold xafCompGetStatus
  split_ifs with hadev hpending
  · exact .fails
  · exact .waits fun h => by simpa [h] using hadev
  · dsimp only
    split_ifs
    · exact .reports .needInput (fun h => by simpa [h] using hadev) (.inr rfl)
    · exact .reports c.compStatus (fun h => by simpa [h] using hadev) (.inl rfl)

lemma XaDeviceInv.ask (hs : XaDeviceInv d) {closing : Bool} (hpc : d.pc = .ask closing) :
    XaDeviceInv (d.asked closing
      (d.link.after none (xafCompGetStatus (!closing && !d.initDone) d.link.comp))
      (xafCompGetStatus (!closing && !d.initDone) d.link.comp).out) := by
  have hidle : d.link.wait = none := by rw [hs.wait, hpc]; rfl
  have hlink := hs.link.step (.status (!closing && !d.initDone) hidle)
  have hcall := xafCompGetStatus_cases (!closing && !d.initDone) d.link.comp
  generalize xafCompGetStatus (!closing && !d.initDone) d.link.comp = call at hcall hlink ⊢
  have hheld := hs.outputs.held (by simp [hpc])
  obtain ⟨hdue, hsame, hended⟩ := hs.inputs
  obtain ⟨hearly, hlate, hstatus, hcurrent, hgiven⟩ := hs.outputs
  rw [XaDevice.due, hpc] at hdue
  dsimp only at hdue
  rw [hpc] at hsame hended hearly
  have hfull (hinit : (!closing && !d.initDone) = false → d.link.comp.initDone = true) :
      d.ahead closing + 1 ≤ d.link.inputs := by
    rwa [if_neg] at hdue
    intro hboth
    obtain ⟨hclosing, hno⟩ := Bool.and_eq_true_iff.mp hboth
    rw [hinit (by rw [hclosing]; rfl)] at hno
    cases hno
  have hended' (hover : d.link.comp.inputOver = true) : (.emptyThisBuffer, 0) ∈ d.link.owed := by
    rcases hended hover with h | h | h
    · cases h
    · cases h
    · exact h
  have hearly' (hopen : closing = false) (h : d.initDone = false) :
      d.link.comp.initDone ≠ true := by
    intro hyes
    cases (hearly h).2 hopen hyes
  cases hcall with
  | fails =>
    rw [d.link.after_nothing hidle _ _ _ rfl] at hlink ⊢
    refine ⟨hlink, hs.decoder, hidle.trans (XaPc.waiting_leave closing).symm,
      fun h => absurd h (XaPc.leave_ne_configure closing), ⟨?_, ?_, ?_⟩, ⟨?_, ?_, ?_, ?_, ?_⟩⟩
    · refine (XaDevice.due_of_leave rfl).trans ?_
      cases closing with
      | false => exact (Nat.le_succ _).trans hdue
      | true => exact Nat.zero_le _
    · exact fun h => hsame ((XaPc.closing_leave closing).symm.trans h)
    · exact fun hover => .inr (.inr (hended' hover))
    · intro h
      refine ⟨(hearly h).1, fun hopen hyes => ?_⟩
      exact absurd hyes (hearly' ((XaPc.closing_leave closing).symm.trans hopen) h)
    · exact hlate
    · exact fun closing' status h => absurd h (XaPc.leave_ne_act _ _ _)
    · exact hcurrent
    · exact fun h => .inl (hheld h)
  | waits hinit =>
    have howed : (d.link.after none ⟨d.link.comp, [], .waits .status⟩).owed = d.link.owed := by
      rw [d.link.owed_after]
      exact zero_add _
    refine ⟨hlink, hs.decoder, rfl, by simp [XaDevice.asked], ⟨?_, ?_, ?_⟩, ⟨?_, ?_, ?_, ?_, ?_⟩⟩
    · simp only [XaDevice.asked, XafLink.inputs, howed]
      exact hfull hinit
    · simp only [XaDevice.asked, howed]
      exact hsame
    · simp only [XaDevice.asked, howed]
      exact fun hover => .inr (.inr (hended' hover))
    · exact fun h => ⟨(hearly h).1, fun hopen hyes => absurd hyes (hearly' hopen h)⟩
    · exact hlate
    · simp [XaDevice.asked]
    · exact hcurrent
    · exact fun h => .inl (hheld h)
  | reports status hinit hst =>
    rw [d.link.after_nothing hidle _ _ _ rfl] at hlink ⊢
    refine ⟨hlink, hs.decoder, hidle, by simp [XaDevice.asked], ⟨?_, ?_, ?_⟩, ⟨?_, ?_, ?_, ?_, ?_⟩⟩
    · exact (XaDevice.due_of_act rfl).trans (hfull hinit)
    · exact hsame
    · exact fun hover => .inr (.inr (hended' hover))
    · exact fun h => ⟨(hearly h).1, fun hopen hyes => absurd hyes (hearly' hopen h)⟩
    · rintro (h | h)
      · exact hlate (.inl h)
      · have hst' : status = .initDone := h
        rcases hst with hst | hst
        · exact hlate (.inr (hst.symm.trans hst'))
        · cases hst.symm.trans hst'
    · intro closing' status' h
      cases h
      rfl
    · intro h
      have hst' : status = .outputReady := h
      rcases hst with hst | hst
      · exact hcurrent (hst.symm.trans hst')
      · cases hst.symm.trans hst'
    · exact fun h => .inl (hheld h)

end Hikey
