import Hikey.Audio.DeviceCalls

/-!
# The runs of the device

What the device does with a status needs the most care: the only output buffer is given back if it
is held at all, and the input is ended once.
-/

namespace Hikey

variable {d : XaDevice}

/-! ## The configuration -/

/-- A step of `xa_device_init` sends or reads no buffer. -/
lemma XaDeviceInv.setup (hs : XaDeviceInv d) {link : XafLink} {pc : XaPc}
    (hold : d.pc = .configure ∨ d.pc = .configuring)
    (hnew : pc = .configuring ∨ pc = .start ∨ pc = .idle) (hlink : XafLinkInv link)
    (hcomp : link.comp = d.link.comp)
    (hinputs : link.inputs = d.link.inputs)
    (howed : ∀ b, (.emptyThisBuffer, b) ∈ link.owed → (.emptyThisBuffer, b) ∈ d.link.owed)
    (hheld : link.held = d.link.held) (hwait : link.wait = pc.waiting) :
    XaDeviceInv { d with link := link, pc := pc } where
  link := hlink
  decoder := by
    rw [hcomp]
    exact hs.decoder
  wait := hwait
  quiet := by
    intro h
    rcases hnew with rfl | rfl | rfl <;> cases h
  inputs := by
    have hopen : d.pc.closing = false := by rcases hold with h | h <;> rw [h] <;> rfl
    obtain ⟨hdue, hsame, hended⟩ := hs.inputs
    have hdue' : d.ahead false ≤ link.inputs := by
      rw [hinputs]
      rcases hold with h | h <;> rw [XaDevice.due, h] at hdue <;> exact hdue
    constructor
    · rcases hnew with rfl | rfl | rfl <;> exact hdue'
    · intro _
      rw [hcomp]
      exact ⟨(hsame hopen).1, fun b hb => (hsame hopen).2 b (howed b hb)⟩
    · intro hover
      rw [hcomp, (hsame hopen).1] at hover
      cases hover
  outputs := by
    have hact : ∀ closing status, d.pc ≠ .act closing status := by
      rcases hold with h | h <;> rw [h] <;> simp
    have hopen : d.pc.closing = false := by rcases hold with h | h <;> rw [h] <;> rfl
    have hno := hs.outputs.uninitialised hopen (hact _ _)
    have hzero := hs.outputs.held fun closing => hact closing _
    obtain ⟨hearly, hlate, hstatus, hcurrent, hgiven⟩ := hs.outputs
    constructor
    · intro h
      rw [hcomp]
      refine ⟨(hearly h).1, fun _ hyes => ?_⟩
      cases (hno h).symm.trans hyes
    · rw [hcomp]
      exact hlate
    · intro closing status h
      rcases hnew with rfl | rfl | rfl <;> cases h
    · rw [hcomp, hheld]
      exact hcurrent
    · intro h
      rw [hheld]
      exact .inl (hzero h)

lemma xafCompSetConfig_cases (send : ℕ → ℤ) (c : XafFlow) (numParam : U32) :
    (∃ r, xafCompSetConfig send c numParam = ⟨c, [], .returns r⟩) ∨
      xafCompSetConfig send c numParam =
        ⟨c, [⟨.setParam, c.aux, 8 * numParam⟩], .waits .setConfig⟩ := by
  unfold xafCompSetConfig xafCompConfig
  split_ifs
  · exact .inl ⟨_, rfl⟩
  · exact .inl ⟨_, rfl⟩
  · exact .inr rfl

lemma XaDeviceInv.configure (hs : XaDeviceInv d) (send : ℕ → ℤ) (hpc : d.pc = .configure) :
    XaDeviceInv { d with
      link := d.link.after none (xafCompSetConfig send d.link.comp 3),
      pc := if (xafCompSetConfig send d.link.comp 3).out.wait = some .setConfig then .configuring
      else .idle } := by
  have hidle : d.link.wait = none := by rw [hs.wait, hpc]; rfl
  have hlink := hs.link.step (.setConfig send 3 hidle (hs.quiet hpc))
  rcases xafCompSetConfig_cases send d.link.comp 3 with ⟨r, hcall⟩ | hcall
  · rw [hcall] at hlink ⊢
    rw [if_neg (by simp [XafOut.wait])]
    rw [d.link.after_nothing hidle _ _ _ rfl] at hlink ⊢
    exact hs.setup (.inl hpc) (.inr (.inr rfl)) hlink rfl rfl (fun _ => id) rfl hidle
  · rw [hcall] at hlink ⊢
    change XaDeviceInv { d with link := _, pc := .configuring }
    apply hs.setup (.inl hpc) (.inl rfl) hlink rfl
    · rw [XafLink.inputs, d.link.owed_after_one]
      exact Multiset.countP_cons_of_neg _ (by simp [XafMsg.command])
    · intro b hb
      rw [d.link.owed_after_one] at hb
      rcases Multiset.mem_cons.mp hb with hb | hb
      · cases hb
      · exact hb
    · rfl
    · rfl

lemma XaDeviceInv.configured (hs : XaDeviceInv d) {r : XafMsg} {rest : List XafMsg}
    {pool : Except {r : ℤ // r < 0} (List ℕ)} (outputLength : U32) (hpc : d.pc = .configuring)
    (hpipe : d.link.pipe = r :: rest) (hpool : d.link.comp.PoolOk pool) :
    XaDeviceInv { d with
      link := d.link.read r rest (xafAfter pool outputLength d.link.comp r .setConfig),
      pc := if (xafAfter pool outputLength d.link.comp r .setConfig).2 = .returns 0 then .start
      else .idle } := by
  have hwait : d.link.wait = some .setConfig := by rw [hs.wait, hpc]; rfl
  have hlink := hs.link.step (.read outputLength hwait hpipe hpool)
  have hlive : r.command ∈ d.link.live := by
    rw [d.link.live_read hpipe (d.link.comp, .returns 0)]
    exact Multiset.mem_cons_self _ _
  have hr : r.command = (.setParam, d.link.comp.aux) := hs.link.waiting.expects hwait hlive
  have hop : r.opcode = .setParam := (Prod.mk.inj hr).1
  obtain ⟨e, he⟩ : ∃ e, xafAfter pool outputLength d.link.comp r .setConfig =
    (d.link.comp, .returns e) := ⟨_, rfl⟩
  rw [he] at hlink ⊢
  apply hs.setup (.inr hpc) _ hlink rfl
  · rw [d.link.inputs_read hpipe (d.link.comp, .returns e), if_neg (by simp [hop])]
    rfl
  · intro b hb
    rw [d.link.owed_read hpipe]
    exact Multiset.mem_cons_of_mem hb
  · simp [XafLink.read, XafMsg.isOutput, hop]
  · split_ifs <;> rfl
  · split_ifs
    · exact .inr (.inl rfl)
    · exact .inr (.inr rfl)

/-! ## What is done with a status -/

/-- The commands of `xa_device_run` and `xa_device_close`, and where they go on. -/
inductive XaActed (closing initDone : Bool) (info : ℕ × U32) (status : XafCompStatus) :
    Option (ℕ × U32 × XafCompFlag) × XaPc → Prop
  | leave (h : closing = false → initDone = true → status = .needInput ∨ status = .execDone)
      (hclosing : closing = true → status = .execDone)
        (hinit : closing = false → initDone = false → status ≠ .initDone) :
      XaActed closing initDone info status (none, .leave closing)
  | again (hrun : closing = false → initDone = true)
      (hstatus : status = .starting ∨ status = .initDone) :
      XaActed closing initDone info status (none, .ask closing)
  | exec (hclosing : closing = false) (hinit : initDone = false) (hstatus : status = .initDone) :
      XaActed closing initDone info status (some (0, 0, .exec), .idle)
  | inputOver (hclosing : closing = true) (hstatus : status = .needInput) :
      XaActed closing initDone info status (some (0, 0, .inputOver), .ask true)
  | giveBack (hrun : closing = false → initDone = true) (hstatus : status = .outputReady) :
      XaActed closing initDone info status (some (info.1, info.2, .needOutput), .ask closing)

lemma xaDeviceAct_cases (closing initDone : Bool) (info : ℕ × U32) (status : XafCompStatus) :
    XaActed closing initDone info status (xaDeviceAct closing initDone info status) := by
  cases closing with
  | true =>
    cases status with
    | starting => exact .again (by simp) (.inl rfl)
    | initDone => exact .again (by simp) (.inr rfl)
    | needInput => exact .inputOver rfl rfl
    | outputReady => exact .giveBack (by simp) rfl
    | execDone => exact .leave (by simp) (fun _ => rfl) (by simp)
  | false =>
    cases initDone with
    | true =>
      cases status with
      | starting => exact .again (fun _ => rfl) (.inl rfl)
      | initDone => exact .again (fun _ => rfl) (.inr rfl)
      | needInput => exact .leave (fun _ _ => .inl rfl) (by simp) (by simp)
      | outputReady => exact .giveBack (fun _ => rfl) rfl
      | execDone => exact .leave (fun _ _ => .inr rfl) (by simp) (by simp)
    | false =>
      by_cases hstatus : status = .initDone
      · subst hstatus
        exact .exec rfl rfl rfl
      · unfold xaDeviceAct
        rw [if_neg (by simp), if_neg (by simp), if_neg hstatus]
        exact .leave (by simp) (by simp) fun _ _ => hstatus

section Act

variable {closing : Bool} {status : XafCompStatus} {pc : XaPc}

/-- While `xa_device_close` goes on, the end of the input is owed. -/
lemma XaDeviceInputs.ended_of_act (hs : XaDeviceInputs d) (hpc : d.pc = .act closing status)
    (hstatus : status ≠ .execDone)
    (hover : d.link.comp.inputOver = true) : (.emptyThisBuffer, 0) ∈ d.link.owed := by
  rcases hs.ended hover with h | h | h
  · cases hpc.symm.trans h
  · cases hpc.symm.trans h
    exact absurd rfl hstatus
  · exact h

/-- An output buffer is held only while it is acted on. -/
lemma XaDeviceOutputs.held_of_act (hs : XaDeviceOutputs d) (hpc : d.pc = .act closing status)
    (hstatus : status ≠ .outputReady)
    (hwithheld : d.withheld = false) : d.link.held = 0 := by
  apply hs.held _ hwithheld
  intro closing' h
  cases hpc.symm.trans h
  exact hstatus rfl

lemma XaDeviceInv.act (hs : XaDeviceInv d) (hpc : d.pc = .act closing status)
    (h : XaActed closing d.initDone d.compInfo status (none, pc)) :
    XaDeviceInv { d with pc := pc } := by
  have hwait : d.link.wait = none := by rw [hs.wait, hpc]; rfl
  have hdue := hs.inputs.due
  rw [XaDevice.due, hpc] at hdue
  dsimp only at hdue
  have hsame := hs.inputs.same
  rw [hpc] at hsame
  cases h with
  | leave hrun hclosing hinit =>
    refine ⟨hs.link, hs.decoder, hwait.trans (XaPc.waiting_leave closing).symm,
      fun h => absurd h (XaPc.leave_ne_configure closing), ⟨?_, ?_, ?_⟩, ⟨?_, ?_, ?_, ?_, ?_⟩⟩
    · refine (XaDevice.due_of_leave rfl).trans (le_trans ?_ hdue)
      split_ifs
      · exact le_rfl
      · exact Nat.le_succ _
    · exact fun hopen => hsame ((XaPc.closing_leave closing).symm.trans hopen)
    · intro hover
      cases closing with
      | false => cases (hsame rfl).1.symm.trans hover
      | true => exact .inl rfl
    · intro hno
      obtain ⟨hexec, hearly⟩ := hs.outputs.early hno
      refine ⟨hexec, fun hopen hyes => ?_⟩
      have hopen' : closing = false := (XaPc.closing_leave closing).symm.trans hopen
      have hact := hearly (by rw [hpc]; exact hopen') hyes
      cases hpc.symm.trans hact
      exact absurd rfl (hinit rfl hno)
    · exact hs.outputs.late
    · exact fun closing' status' h => absurd h (XaPc.leave_ne_act _ _ _)
    · exact hs.outputs.current
    · intro hwithheld
      refine .inl ?_
      by_cases hstatus : status = .outputReady
      · -- before the decoder is initialised there is no output
        apply hs.link.held_eq_zero
        apply (hs.outputs.early _).1
        by_contra hyes
        rw [Bool.not_eq_false] at hyes
        subst hstatus
        cases closing with
        | false => rcases hrun rfl hyes with h | h <;> cases h
        | true => cases hclosing rfl
      · exact hs.outputs.held_of_act hpc hstatus hwithheld
  | again hrun hstatus =>
    refine ⟨hs.link, hs.decoder, hwait, by simp, ⟨?_, ?_, ?_⟩, ⟨?_, ?_, ?_, ?_, ?_⟩⟩
    · rw [if_neg (by rcases hstatus with rfl | rfl <;> simp)] at hdue
      exact (XaDevice.due_of_ask rfl).trans hdue
    · exact hsame
    · intro hover
      refine .inr (.inr (hs.inputs.ended_of_act hpc ?_ hover))
      rcases hstatus with rfl | rfl <;> simp
    · intro hno
      refine ⟨(hs.outputs.early hno).1, fun hopen _ => ?_⟩
      cases (hrun hopen).symm.trans hno
    · exact hs.outputs.late
    · simp
    · exact hs.outputs.current
    · intro hwithheld
      refine .inl (hs.outputs.held_of_act hpc ?_ hwithheld)
      rcases hstatus with rfl | rfl <;> simp

variable {send : ℕ → ℤ} {call : XafCall}

lemma XaDeviceInv.exec (hs : XaDeviceInv d) (hpc : d.pc = .act false .initDone)
    (h : xafCompProcess false send d.link.comp 0 0 .exec = some call) :
    XaDeviceInv { d with link := d.link.after (some .exec) call, initDone := true, pc := .idle
      } := by
  have hcall := xafCompProcess_cases h
  have hidle : d.pc.waiting = none := by rw [hpc]; rfl
  have hstep := XafLinkStep.process false send 0 0 .exec (hs.wait.trans hidle) trivial h
  have hopen : d.pc.closing = false := by rw [hpc]; rfl
  refine hs.process hstep hcall rfl (by simp) ?_ ?_
  · refine hs.inputs.fills (hcall.fills (by simp) (by simp)) (hcall.frame.2.2.2.2.2 (by simp))
      (fun _ => hopen) ?_ ?_
    · intro hover
      cases (hs.inputs.same hopen).1.symm.trans hover
    · have hdue := hs.inputs.due
      rw [XaDevice.due, hpc] at hdue
      change 1 ≤ d.link.inputs
      exact (Nat.le_add_left 1 _).trans hdue
  · refine hs.outputs.after hcall (by simp) (by simp) ?_
      (.inr ⟨rfl, hs.outputs.held_of_act hpc (by simp)⟩)
    exact fun _ => hs.outputs.late (.inr (hs.outputs.status _ _ hpc).symm)

lemma XaDeviceInv.inputOver (hs : XaDeviceInv d) (hpc : d.pc = .act true .needInput)
    (h : xafCompProcess false send d.link.comp 0 0 .inputOver = some call) :
    XaDeviceInv { d with
      link := d.link.after (some .inputOver) call,
      pc := if call.out = .returns 0 then .ask true else .closed } := by
  have hcall := xafCompProcess_cases h
  have hidle : d.pc.waiting = none := by rw [hpc]; rfl
  have hstep := XafLinkStep.process false send 0 0 .inputOver (hs.wait.trans hidle) hs.decoder.2 h
  have hclosing : (if call.out = .returns 0 then XaPc.ask true else .closed).closing = true := by
    split_ifs <;> rfl
  refine hs.process hstep hcall ?_ ?_ ?_ ?_
  · split_ifs <;> rfl
  · split_ifs <;> simp
  · generalize hflag : XafCompFlag.inputOver = flag at hcall
    cases hcall with
    | same _ r hr =>
      subst hflag
      refine hs.inputs.fills (by simp) rfl (fun hopen => ?_) (fun hover => .inr ?_) ?_
      · cases hclosing.symm.trans hopen
      · exact hs.inputs.ended_of_act hpc (by simp) hover
      · by_cases hzero : r = 0
        · -- the end of the input was sent before, and is not answered yet
          have howed := hs.inputs.ended_of_act hpc (by simp) (hr hzero)
          have hpos : 0 < d.link.inputs := Multiset.countP_pos.mpr ⟨_, howed, rfl⟩
          rw [if_pos (by rw [hzero])]
          refine (XaDevice.due_of_ask rfl).trans ?_
          exact hpos
        · rw [if_neg (by simpa using hzero)]
          exact Nat.zero_le _
    | inputOver hover =>
      rw [if_pos rfl]
      constructor
      · rw [d.link.inputs_after_input]
        exact (XaDevice.due_of_ask rfl).trans (Nat.le_add_left _ _)
      · simp [XaPc.closing]
      · intro _
        refine .inr (.inr ?_)
        rw [d.link.owed_after_one]
        exact Multiset.mem_cons_self _ _
    | _ => cases hflag
  · refine hs.outputs.after hcall ?_ ?_ ?_ (.inr ⟨rfl, hs.outputs.held_of_act hpc (by simp)⟩)
    · intro closing status
      split_ifs <;> simp
    · intro hinit
      refine ⟨hinit, by simp, fun hopen => ?_⟩
      cases hclosing.symm.trans hopen
    · exact fun hinit => hs.outputs.late (.inl hinit)

lemma XaDeviceInv.giveBack (hs : XaDeviceInv d) (hpc : d.pc = .act closing .outputReady)
    (hrun : closing = false → d.initDone = true)
    (h : xafCompProcess false send d.link.comp d.compInfo.1 d.compInfo.2 .needOutput = some call) :
    XaDeviceInv { d with
      link := d.link.after (some .needOutput) call, pc :=
  if call.out = .returns 0 then .ask closing else .leave closing,
      withheld := d.withheld || call.out ≠ .returns 0 } := by
  have hcall := xafCompProcess_cases h
  have hidle : d.pc.waiting = none := by rw [hpc]; rfl
  have hone := hs.link.card_held
  have hheld : d.link.held = 0 ∨ d.compInfo.1 ∈ d.link.held :=
    hs.outputs.current (hs.outputs.status _ _ hpc).symm
  have hallows : d.link.Allows d.compInfo.1 .needOutput := by
    intro hexpect
    rcases hheld with hzero | hmem
    · rw [hs.link.counts.expect, hzero] at hexpect
      exact absurd rfl hexpect
    · exact hmem
  have hstep := XafLinkStep.process false send d.compInfo.1 d.compInfo.2 .needOutput
      (hs.wait.trans hidle) hallows h
  have hclosing : (if call.out = .returns 0 then XaPc.ask closing else .leave closing).closing =
      closing := by
    split_ifs
    · rfl
    · exact XaPc.closing_leave closing
  have hdue := hs.inputs.due
  rw [XaDevice.due, hpc] at hdue
  change d.ahead closing + 1 ≤ d.link.inputs at hdue
  refine hs.process hstep hcall ?_ ?_ ?_ ?_
  · split_ifs
    · rfl
    · exact XaPc.waiting_leave closing
  · split_ifs
    · simp
    · exact XaPc.leave_ne_configure closing
  · refine hs.inputs.fills (hcall.fills (by simp) (by simp)) (hcall.frame.2.2.2.2.2 (by simp)) ?_
      (fun hover => .inr ?_) ?_
    · intro hopen
      rw [hpc]
      exact hclosing.symm.trans hopen
    · exact hs.inputs.ended_of_act hpc (by simp) hover
    · split_ifs
      · exact (XaDevice.due_of_ask rfl).trans hdue
      · exact (XaDevice.due_of_leave rfl).trans ((Nat.le_succ _).trans hdue)
  · refine hs.outputs.after hcall ?_ ?_ (fun hinit => hs.outputs.late (.inl hinit)) ?_
    · intro closing' status
      split_ifs
      · simp
      · exact XaPc.leave_ne_act _ _ _
    · intro hinit
      refine ⟨hinit, by simp, fun hopen => ?_⟩
      cases (hrun (hclosing.symm.trans hopen)).symm.trans hinit
    · generalize hflag : XafCompFlag.needOutput = flag at hcall
      cases hcall with
      | same _ r hr =>
        subst hflag
        by_cases hzero : r = 0
        · -- nothing is expected, so nothing is held
          refine .inl ?_
          have hexpect : d.link.comp.expectOutCmd = 0 := hr hzero
          rw [hs.link.counts.expect] at hexpect
          have hcard : d.link.held.card = 0 := by
            have := congrArg BitVec.toNat hexpect
            rw [BitVec.toNat_ofNat, Nat.mod_eq_of_lt (by omega)] at this
            exact this
          simp [XafLink.after, Multiset.card_eq_zero.mp hcard]
        · refine .inr ⟨by simp [XafLink.after], fun hwithheld => ?_⟩
          simp [hzero] at hwithheld
      | output length pendingResp hexpect hpending =>
        refine .inl ?_
        have hmem := hallows hexpect
        have hheld' : d.link.held = {d.compInfo.1} := by
          refine (Multiset.eq_of_le_of_card_le (Multiset.singleton_le.mpr hmem) ?_).symm
          rwa [Multiset.card_singleton]
        simp [XafLink.after, hheld']
      | _ => cases hflag

end Act

/-! ## Every run -/

lemma XaDeviceInv.step (hs : XaDeviceInv d) {d' : XaDevice} (hstep : XaDeviceStep d d') :
    XaDeviceInv d' := by
  cases hstep with
  | @answer m hm length =>
    apply hs.dsp (.answer hm length) rfl (d.link.owed_answer hm length) rfl rfl
    intro hquiet
    rw [hquiet.1] at hm
    simp at hm
  | @fail m hm =>
    apply hs.dsp (.fail hm) rfl (d.link.owed_fail hm) rfl rfl
    intro hquiet
    rw [hquiet.1] at hm
    simp at hm
  | configure send hpc h =>
    subst h
    exact hs.configure send hpc
  | configured outputLength hpc hpipe hpool h =>
    subst h
    exact hs.configured outputLength hpc hpipe hpool
  | start send hpc h => exact hs.start hpc h
  | copy send readLength hpc h => exact hs.copy hpc h
  | close hpc => exact hs.close hpc
  | ask hpc h =>
    subst h
    exact hs.ask hpc
  | read outputLength hpc hpipe hpool h =>
    subst h
    exact hs.read outputLength hpc hpipe hpool
  | @act closing status pc hpc h =>
    have hact := xaDeviceAct_cases closing d.initDone d.compInfo status
    rw [h] at hact
    exact hs.act hpc hact
  | @command closing status buf length flag pc call send hpc hact h =>
    have hacted := xaDeviceAct_cases closing d.initDone d.compInfo status
    rw [hact] at hacted
    cases hacted with
    | exec hclosing hinit hstatus =>
      subst hclosing hstatus
      have hpc' : (if call.out = .returns 0 then XaPc.idle else .leave false) = .idle := by
        split_ifs <;> rfl
      have hexec := hs.exec hpc h
      simpa [hpc', hinit] using hexec
    | inputOver hclosing hstatus =>
      subst hclosing hstatus
      have hover := hs.inputOver hpc h
      simpa [XaPc.leave] using hover
    | giveBack hrun hstatus =>
      subst hstatus
      have hback := hs.giveBack hpc hrun h
      simpa using hback

lemma XaDeviceInv.create {aux inbuf : ℕ} {c : XafFlow}
    (h : xafFlowCreate .decoder 1 1 aux = .ok c) :
    XaDeviceInv (.create c inbuf) := by
  have hlink := XafLinkInv.create h
  obtain rfl : _ = c := Except.ok.inj h
  refine ⟨hlink, ⟨rfl, rfl⟩, rfl, fun _ => ⟨rfl, rfl⟩, ⟨Nat.zero_le _, fun _ => ⟨rfl, ?_⟩, ?_⟩,
    ⟨?_, ?_, ?_, ?_, ?_⟩⟩
  · intro b hb
    simp [XaDevice.create, XafLink.create, XafLink.owed, XafLink.live] at hb
  · intro hover
    cases hover
  · exact fun _ => ⟨rfl, fun _ => by simp [XaDevice.create, XafLink.create]⟩
  · rintro (h | h) <;> cases h
  · intro closing status hpc
    cases hpc
  · intro hstatus
    cases hstatus
  · exact fun _ => .inl rfl

/-- A status is waited for when an input buffer is owed. -/
lemma XaDeviceInv.waits (hs : XaDeviceInv d) {closing : Bool} (hpc : d.pc = .ask closing)
    (hinit : closing = false ∨ d.link.comp.initDone = true) (hfew : d.link.owed.card < 2 ^ 32) :
    (xafCompGetStatus (!closing && !d.initDone) d.link.comp).out = .waits .status := by
  have hdue := hs.inputs.due
  have hpos : 0 < d.link.inputs := by
    rw [XaDevice.due, hpc] at hdue
    dsimp only at hdue
    rw [if_neg] at hdue
    · exact Nat.lt_of_succ_le ((Nat.le_add_left 1 _).trans hdue)
    · rcases hinit with h | h <;> simp [h]
  have hpending : d.link.comp.pendingResp ≠ 0 := by
    intro hzero
    rw [hs.link.pendingResp_inputs hs.decoder.2] at hzero
    have hcard : d.link.inputs ≤ d.link.owed.card := Multiset.countP_le_card _ _
    have := congrArg BitVec.toNat hzero
    rw [BitVec.toNat_ofNat, Nat.mod_eq_of_lt (hcard.trans_lt hfew)] at this
    exact hpos.ne' this
  unfold xafCompGetStatus
  rw [if_neg, if_pos hpending]
  -- only a decoder that is initialised is asked without `p_adev`
  cases hno : d.link.comp.initDone with
  | true => simp
  | false =>
    have hopen : closing = false := by simpa [hno] using hinit
    have hd : d.initDone = false := by
      by_contra hyes
      cases (hs.outputs.late (.inl (Bool.eq_true_of_not_eq_false hyes))).symm.trans hno
    simp [hopen, hd]

lemma XaDeviceInv.kept (hs : XaDeviceInv d) : XaDeviceKept d where
  accounted := hs.link.accounted
  waits := fun _ hpc hinit hfew => hs.waits hpc hinit hfew
  givenBack := by
    intro closing hpc hwithheld
    apply hs.outputs.held _ hwithheld
    rw [hpc]
    simp
  overwrites := by
    intro hpc hinit
    apply hs.inputs.owed
    · rw [hpc]
      rfl
    · have hdue := hs.inputs.due
      rw [XaDevice.due, hpc] at hdue
      exact hdue.trans' (by simp [XaDevice.ahead, hinit])

/-- In every run of the device its decoder is accounted for, its loops wait for what is owed to
them, and it writes the input buffer while that is still owed. -/
theorem xaDevice_kept {aux inbuf : ℕ} {c : XafFlow} (h : xafFlowCreate .decoder 1 1 aux = .ok c)
    (hrun : Relation.ReflTransGen XaDeviceStep (.create c inbuf) d) : XaDeviceKept d := by
  have hinv : XaDeviceInv d :=
    run_invariant XaDeviceInv (fun _ _ hs hstep => hs.step hstep) (.create h) hrun
  exact hinv.kept

/-- The device after its first call of `xa_device_run`, ready to write the input buffer that is
owed. -/
theorem xaDevice_kept_first : ∃ d : XaDevice, d.pc = .idle ∧ d.initDone = true ∧
    XaDeviceKept d := by
  have hcreate : xafFlowCreate .decoder 1 1 0x1000 =
      .ok ((xafFlowCreate .decoder 1 1 0x1000).toOption.get rfl) := rfl
  have h₀ := Relation.ReflTransGen.refl (r := XaDeviceStep)
    (a := .create ((xafFlowCreate .decoder 1 1 0x1000).toOption.get rfl) 0x2000)
  have h₁ := h₀.tail (.configure (fun _ => 0) rfl rfl)
  have h₂ := h₁.tail (.answer (m := ⟨.setParam, 0x1000, 24⟩) (by decide) 24)
  have h₃ := h₂.tail
      (@XaDeviceStep.configured _ _ _ _ (.error ⟨-1, by decide⟩) 0 rfl rfl
      (by intro free h; cases h) rfl)
  have h₄ := h₃.tail (.start (fun _ => 0) rfl rfl)
  have h₅ := h₄.tail (.copy (fun _ => 0) 4096 rfl rfl)
  have h₆ := h₅.tail (.ask rfl rfl)
  have h₇ := h₆.tail (.answer (m := ⟨.fillThisBuffer, 0x1000, 0⟩) (by decide) 20)
  have h₈ := h₇.tail
      (@XaDeviceStep.read _ _ _ _ _ (.ok [0x3000]) 4096 rfl rfl
      (by intro free h; cases h; decide) rfl)
  have h₉ := h₈.tail (.command (fun _ => 0) rfl rfl rfl)
  exact ⟨_, rfl, rfl, xaDevice_kept hcreate h₉⟩

end Hikey
