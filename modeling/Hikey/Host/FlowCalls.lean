import Hikey.Host.Flow

/-!
# The calls keep the counters

What is owed to the client changes with each command by one, and the counters of the component with
it.  The pool is not touched before the start is answered, and is emptied once.
-/

namespace Hikey

variable {s : XafLink}

/-! ## The invariant -/

/-- The counters. -/
structure XafCounts (s : XafLink) : Prop where
  pending : s.comp.pendingResp = BitVec.ofNat 32
    (s.owed.countP (XafCounted s.comp.inpool s.comp.aux))
  expect : s.comp.expectOutCmd = BitVec.ofNat 32 s.held.card
  outputs : (s.owed.filter (XafIsOutput s.comp.aux)).map Prod.snd + s.held + s.ended = s.taken
  started : s.started + s.owed.count (.fillThisBuffer, s.comp.aux) =
    if s.comp.startCmdIssued then 1 else 0

/-- How far the component has come, and the buffers of its pool. -/
structure XafPrepared (s : XafLink) : Prop where
  noutbuf : s.comp.noutbuf.toNat ≤ 1
  few : s.taken.card ≤ s.comp.noutbuf.toNat
  startBuf : s.comp.startCmdIssued = true → s.comp.startBuf = s.comp.aux
  unstarted : s.started = 0 → s.comp.outpool = none ∧ s.comp.initDone = false
  unexecuted : s.comp.execCmdIssued = false ∨ s.comp.outpool = none → s.taken = 0
  apart : ((s.comp.outpool.getD [] : List ℕ) + s.taken).Nodup ∧
    s.comp.aux ∉ (s.comp.outpool.getD [] : List ℕ) + s.taken

/-- The call that waits has its answer to come, and no other answer comes before it. -/
structure XafWaiting (s : XafLink) : Prop where
  noInput : s.comp.inpool = false → ∀ b, (.emptyThisBuffer, b) ∉ s.owed
  kinds : ∀ x ∈ s.live, XafWait.status.Expects s.comp.aux x ∨ ∃ w, s.wait = some w ∧
    w.Expects s.comp.aux x
  alone : ∀ w, s.wait = some w → w ≠ .status → ∃ x, w.Expects s.comp.aux x ∧ s.live ≤ {x}
  waits : ∀ w, s.wait = some w → ∃ x ∈ s.owed, w.Expects s.comp.aux x

/-- The invariant of all runs. -/
structure XafLinkInv (s : XafLink) : Prop where
  counts : XafCounts s
  prepared : XafPrepared s
  waiting : XafWaiting s

section Owed

lemma XafLink.owed_after (s : XafLink) (flag : Option XafCompFlag) (call : XafCall) :
    (s.after flag call).owed = (call.sent.map XafMsg.command : List _) + s.owed := by
  simp only [XafLink.owed, XafLink.live, XafLink.after, Multiset.map_add, Multiset.map_coe]
  abel

lemma XafLink.live_after (s : XafLink) (flag : Option XafCompFlag) (call : XafCall) :
    (s.after flag call).live = (call.sent.map XafMsg.command : List _) + s.live := by
  simp only [XafLink.live, XafLink.after, Multiset.map_add, Multiset.map_coe]
  abel

lemma XafLink.owed_after_one (s : XafLink) (flag : Option XafCompFlag) (comp : XafFlow) (m : XafMsg)
    (out : XafOut) :
    (s.after flag ⟨comp, [m], out⟩).owed = m.command ::ₘ s.owed := s.owed_after flag _

lemma XafLink.live_after_one (s : XafLink) (flag : Option XafCompFlag) (comp : XafFlow) (m : XafMsg)
    (out : XafOut) :
    (s.after flag ⟨comp, [m], out⟩).live = m.command ::ₘ s.live := s.live_after flag _

lemma XafLink.live_read {r : XafMsg} {rest : List XafMsg} (hpipe : s.pipe = r :: rest)
    (result : XafFlow × XafOut) :
    s.live = r.command ::ₘ (s.read r rest result).live := by
  simp only [XafLink.live, XafLink.read, hpipe, ← Multiset.cons_coe, Multiset.add_cons,
    Multiset.map_cons]

lemma XafLink.owed_read {r : XafMsg} {rest : List XafMsg} (hpipe : s.pipe = r :: rest)
    (result : XafFlow × XafOut) :
    s.owed = r.command ::ₘ (s.read r rest result).owed := by
  rw [XafLink.owed, s.live_read hpipe result, Multiset.cons_add]
  rfl

lemma XafLink.Quiet.live (h : s.Quiet) : s.live = 0 := by
  simp [XafLink.live, h.1, h.2]

lemma XafLink.live_le_owed (s : XafLink) : s.live ≤ s.owed := Multiset.le_add_right _ _

@[simp] lemma XafIsOutput_fill {aux b : ℕ} : XafIsOutput aux (.fillThisBuffer, b) ↔ b ≠ aux := by
  simp [XafIsOutput]

@[simp] lemma XafIsOutput_empty {aux b : ℕ} : ¬XafIsOutput aux (.emptyThisBuffer, b) := by
  simp [XafIsOutput]

@[simp] lemma XafCounted_fill {inpool : Bool} {aux b : ℕ} :
    XafCounted inpool aux (.fillThisBuffer, b) ↔ inpool = false ∧ b ≠ aux := by
  cases inpool <;> simp [XafCounted]

@[simp] lemma XafCounted_empty {inpool : Bool} {aux b : ℕ} :
    XafCounted inpool aux (.emptyThisBuffer, b) ↔ inpool = true := by
  cases inpool <;> simp [XafCounted]

lemma XafCounted.expects {inpool : Bool} {aux : ℕ} {x : XafOpcode × ℕ}
    (h : XafCounted inpool aux x) :
    XafWait.status.Expects aux x := by
  cases inpool with
  | true => exact .inl h
  | false => exact .inr h.1

end Owed

/-! ## Calls -/

/-- A call that sends nothing and does not wait changes nothing that is counted. -/
lemma XafLinkInv.of_comp (hs : XafLinkInv s) (comp : XafFlow)
    (hpending : comp.pendingResp = s.comp.pendingResp)
    (hexpect : comp.expectOutCmd = s.comp.expectOutCmd) (hin : comp.inpool = s.comp.inpool)
    (haux : comp.aux = s.comp.aux)
    (hissued : comp.startCmdIssued = s.comp.startCmdIssued)
    (hnoutbuf : comp.noutbuf = s.comp.noutbuf)
    (hbuf : comp.startCmdIssued = true → comp.startBuf = s.comp.startBuf)
    (hpool : comp.outpool = s.comp.outpool) (hinit : comp.initDone = s.comp.initDone)
    (hexec : comp.execCmdIssued = s.comp.execCmdIssued ∨ comp.outpool = none) :
    XafLinkInv { s with comp := comp } where
  counts := by
    obtain ⟨h₁, h₂, h₃, h₄⟩ := hs.counts
    constructor
    · rw [hpending, hin, haux]
      exact h₁
    · rw [hexpect]
      exact h₂
    · rw [haux]
      exact h₃
    · rw [haux, hissued]
      exact h₄
  prepared := by
    obtain ⟨h₁, h₂, h₃, h₄, h₅, h₆⟩ := hs.prepared
    constructor
    · rw [hnoutbuf]
      exact h₁
    · rw [hnoutbuf]
      exact h₂
    · intro h
      rw [hbuf h, haux]
      exact h₃ (hissued ▸ h)
    · rw [hpool, hinit]
      exact h₄
    · intro h
      apply h₅
      rcases h with h | h
      · rcases hexec with hexec | hexec
        · exact .inl (hexec ▸ h)
        · exact .inr (hpool ▸ hexec)
      · exact .inr (hpool ▸ h)
    · rw [hpool, haux]
      exact h₆
  waiting := by
    obtain ⟨h₁, h₂, h₃, h₄⟩ := hs.waiting
    constructor
    · rw [hin]
      exact h₁
    · rw [haux]
      exact h₂
    · rw [haux]
      exact h₃
    · rw [haux]
      exact h₄

/-- What `XafPrepared` is about. -/
def XafLink.progress (s : XafLink) :
    U32 × ℕ × Bool × ℕ × Option (List ℕ) × Bool × Bool × Multiset ℕ × ℕ :=
  (s.comp.noutbuf, s.comp.aux, s.comp.startCmdIssued, s.comp.startBuf, s.comp.outpool,
    s.comp.initDone,
    s.comp.execCmdIssued, s.taken, s.started)

lemma XafPrepared.congr (hs : XafPrepared s) {s' : XafLink} (h : s'.progress = s.progress) :
    XafPrepared s' := by
  simp only [XafLink.progress, Prod.mk.injEq] at h
  obtain ⟨hnoutbuf, haux, hissued, hbuf, hpool, hinit, hexec, htaken, hstarted⟩ := h
  obtain ⟨h₁, h₂, h₃, h₄, h₅, h₆⟩ := hs
  constructor
  · rw [hnoutbuf]
    exact h₁
  · rw [hnoutbuf, htaken]
    exact h₂
  · rw [hissued, hbuf, haux]
    exact h₃
  · rw [hstarted, hpool, hinit]
    exact h₄
  · rw [hexec, hpool, htaken]
    exact h₅
  · rw [hpool, htaken, haux]
    exact h₆

lemma XafLink.after_nothing (hidle : s.wait = none) (flag : Option XafCompFlag) (comp : XafFlow)
    (out : XafOut)
    (hout : out.wait = none) : s.after flag ⟨comp, [], out⟩ = { s with comp := comp } := by
  simp [XafLink.after, hout, hidle]

lemma XafLinkInv.start (hs : XafLinkInv s) (hidle : s.wait = none)
    (hstart : s.comp.startCmdIssued = false)
    (hquiet : s.comp.compType ≠ .decoder → s.Quiet) :
    XafLinkInv (s.after (some .start)
      ⟨{ s.comp with startBuf := s.comp.aux, startCmdIssued := true },
      [⟨.fillThisBuffer, s.comp.aux, 0⟩], if s.comp.compType ≠ .decoder then .waits .start
      else .returns 0⟩) where
  counts := by
    obtain ⟨hpending, hexpect, houtputs, hstarted⟩ := hs.counts
    rw [hstart] at hstarted
    constructor
    · rw [XafLink.owed_after_one]
      simpa [XafLink.after, XafMsg.command] using hpending
    · simpa [XafLink.after] using hexpect
    · rw [XafLink.owed_after_one]
      simpa [XafLink.after, XafMsg.command, Multiset.filter_cons] using houtputs
    · rw [XafLink.owed_after_one]
      have hnone : s.started = 0 ∧ s.owed.count (.fillThisBuffer, s.comp.aux) = 0 := by
        simpa using hstarted
      simp [XafLink.after, XafMsg.command, hnone.1, hnone.2, -Multiset.count_eq_zero]
  prepared := by
    obtain ⟨h₁, h₂, -, h₄, h₅, h₆⟩ := hs.prepared
    exact ⟨h₁, h₂, fun _ => rfl, h₄, h₅, h₆⟩
  waiting := by
    obtain ⟨hnoInput, hkinds, -, -⟩ := hs.waiting
    have hwait : ∀ w,
        (XafOut.wait (if s.comp.compType ≠ .decoder then .waits .start else .returns 0)) = some w →
        s.comp.compType ≠ .decoder ∧ w = .start := by
      intro w hw
      split_ifs at hw with hdec
      · exact ⟨hdec, (Option.some.inj hw).symm⟩
      · cases hw
    constructor
    · rw [XafLink.owed_after_one]
      simpa [XafLink.after, XafMsg.command] using hnoInput
    · rw [XafLink.live_after_one]
      intro x hx
      rcases Multiset.mem_cons.mp hx with rfl | hx
      · exact .inl (.inr rfl)
      · rcases hkinds x hx with h | ⟨w, hw, -⟩
        · exact .inl h
        · rw [hidle] at hw
          cases hw
    · -- only a component other than a decoder waits, and then nothing else is under way
      rw [XafLink.live_after_one]
      intro w hw _
      obtain ⟨hdec, rfl⟩ := hwait w hw
      refine ⟨(.fillThisBuffer, s.comp.aux), rfl, ?_⟩
      rw [(hquiet hdec).live]
      exact le_rfl
    · rw [XafLink.owed_after_one]
      intro w hw
      obtain ⟨-, rfl⟩ := hwait w hw
      exact ⟨_, Multiset.mem_cons_self _ _, rfl⟩

/-- Data commands may be sent at any time. -/
lemma XafWaiting.send (hs : XafWaiting s) (hidle : s.wait = none) (flag : Option XafCompFlag)
    {call : XafCall}
    (hout : call.out.wait = none) (hin : call.comp.inpool = s.comp.inpool)
    (hsent : ∀ m ∈ call.sent, m.opcode = .emptyThisBuffer ∧ s.comp.inpool = true ∨
    m.opcode = .fillThisBuffer) :
    XafWaiting (s.after flag call) where
  noInput := by
    rw [XafLink.owed_after]
    intro hno b hb
    replace hno : s.comp.inpool = false := hin ▸ hno
    rcases Multiset.mem_add.mp hb with hb | hb
    · obtain ⟨m, hm, heq⟩ := List.mem_map.mp (Multiset.mem_coe.mp hb)
      obtain ⟨hop, -⟩ := Prod.mk.inj heq
      rcases hsent m hm with ⟨-, h⟩ | h
      · rw [hno] at h
        cases h
      · rw [hop] at h
        cases h
    · exact hs.noInput hno b hb
  kinds := by
    rw [XafLink.live_after]
    intro x hx
    rcases Multiset.mem_add.mp hx with hx | hx
    · obtain ⟨m, hm, rfl⟩ := List.mem_map.mp (Multiset.mem_coe.mp hx)
      exact .inl ((hsent m hm).imp_left And.left)
    · rcases hs.kinds x hx with h | ⟨w, hw, -⟩
      · exact .inl h
      · rw [hidle] at hw
        cases hw
  alone := by
    intro w hw
    cases hout.symm.trans hw
  waits := by
    intro w hw
    cases hout.symm.trans hw

/-- The output buffers that are owed were taken from the pool. -/
lemma XafCounts.taken_of_owed (hs : XafCounts s) {b : ℕ} (hb : (.fillThisBuffer, b) ∈ s.owed)
    (haux : b ≠ s.comp.aux) :
    b ∈ s.taken := by
  rw [← hs.outputs]
  apply Multiset.mem_add.mpr
  apply Or.inl
  apply Multiset.mem_add.mpr
  apply Or.inl
  apply Multiset.mem_map.mpr
  exact ⟨_, Multiset.mem_filter.mpr ⟨hb, XafIsOutput_fill.mpr haux⟩, rfl⟩

lemma XafCounts.taken_of_held (hs : XafCounts s) {b : ℕ} (hb : b ∈ s.held) : b ∈ s.taken := by
  rw [← hs.outputs]
  exact Multiset.mem_add.mpr (.inl (Multiset.mem_add.mpr (.inr hb)))

lemma XafPrepared.aux_notMem (hs : XafPrepared s) : s.comp.aux ∉ s.taken := by
  intro h
  exact hs.apart.2 (Multiset.mem_add.mpr (.inr h))

lemma XafLinkInv.input (hs : XafLinkInv s) (hidle : s.wait = none) (hin : s.comp.inpool = true)
    (flag : XafCompFlag)
    (hflag : flag = .inputOver ∨ flag = .inputReady) (isOver : Bool) (b : ℕ) (length : U32) :
    XafLinkInv (s.after (some flag)
      ⟨{ s.comp with inputOver := isOver, pendingResp := s.comp.pendingResp + 1 },
      [⟨.emptyThisBuffer, b, length⟩], .returns 0⟩) where
  counts := by
    obtain ⟨hpending, hexpect, houtputs, hstarted⟩ := hs.counts
    have hne : some flag ≠ some .needOutput ∧ some flag ≠ some .exec := by
      rcases hflag with rfl | rfl <;> decide
    constructor
    · rw [XafLink.owed_after_one]
      simp [XafLink.after, XafMsg.command, hin, hpending, BitVec.ofNat_add]
    · simpa [XafLink.after, hne.1] using hexpect
    · rw [XafLink.owed_after_one]
      simpa [XafLink.after, XafMsg.command, hne.1, hne.2, Multiset.filter_cons] using houtputs
    · rw [XafLink.owed_after_one]
      simpa [XafLink.after, XafMsg.command, Multiset.count_cons] using hstarted
  prepared := by
    apply hs.prepared.congr
    rcases hflag with rfl | rfl <;> rfl
  waiting := by
    apply hs.waiting.send hidle
    · rfl
    · rfl
    · intro m hm
      rw [List.mem_singleton.mp hm]
      exact .inl ⟨rfl, hin⟩

lemma XafLinkInv.output (hs : XafLinkInv s) (hidle : s.wait = none) {buf : ℕ} (hbuf : buf ∈ s.held)
    (length pendingResp : U32)
    (hpending : pendingResp = if s.comp.countsOutputs then s.comp.pendingResp + 1
    else s.comp.pendingResp) :
    XafLinkInv (s.after (some .needOutput)
      ⟨{ s.comp with expectOutCmd := s.comp.expectOutCmd - 1, pendingResp := pendingResp },
        [⟨.fillThisBuffer, buf, length⟩], .returns 0⟩) := by
  have htaken : buf ∈ s.taken := hs.counts.taken_of_held hbuf
  have haux : buf ≠ s.comp.aux := fun h => hs.prepared.aux_notMem (h ▸ htaken)
  have hpool : s.comp.outpool.isSome = true := by
    by_contra hnone
    rw [hs.prepared.unexecuted (.inr (by simpa using hnone))] at htaken
    simp at htaken
  obtain ⟨held, hheld⟩ := Multiset.exists_cons_of_mem hbuf
  constructor
  · obtain ⟨hpending', hexpect, houtputs, hstarted⟩ := hs.counts
    constructor
    · rw [XafLink.owed_after_one]
      cases hin : s.comp.inpool with
      | true => simpa [XafLink.after, XafMsg.command, hpending, XafFlow.countsOutputs, hin]
          using hpending'
      | false =>
        rw [hin] at hpending'
        simp [XafLink.after, XafMsg.command, hpending, XafFlow.countsOutputs, hin, hpool,
          hpending', haux,
          BitVec.ofNat_add]
    · simp [XafLink.after, hexpect, hheld, BitVec.ofNat_add]
    · rw [XafLink.owed_after_one]
      simp only [hheld] at houtputs
      simp [XafLink.after, XafMsg.command, hheld, haux, Multiset.filter_cons, ← houtputs]
    · rw [XafLink.owed_after_one]
      simpa [XafLink.after, XafMsg.command, Multiset.count_cons, haux.symm] using hstarted
  · exact hs.prepared.congr rfl
  · apply hs.waiting.send hidle
    · rfl
    · rfl
    · intro m hm
      rw [List.mem_singleton.mp hm]
      exact .inr rfl

lemma XafLinkInv.exec (hs : XafLinkInv s) (hidle : s.wait = none) {free free' : List ℕ}
    {sent : List XafMsg} (r : ℤ)
    {pendingResp : U32} (hexec : s.comp.execCmdIssued = false) (hpool : s.comp.outpool = some free)
    (hfill : ∀ m ∈ sent, m.opcode = .fillThisBuffer)
    (hle : (free' : Multiset ℕ) + (sent.map XafMsg.buffer : List ℕ) ≤ free)
    (hpending : pendingResp = if !s.comp.inpool && 0 ≤ r then s.comp.noutbuf
    else s.comp.pendingResp)
    (hlen : if r < 0 then sent.length < s.comp.noutbuf.toNat else r = 0 ∧
    sent.length = s.comp.noutbuf.toNat) :
    XafLinkInv (s.after (some .exec)
      ⟨{ s.comp with execCmdIssued := true, outpool := some free', pendingResp := pendingResp },
        sent, .returns r⟩) := by
  have hnone : s.taken = 0 := hs.prepared.unexecuted (.inl hexec)
  obtain ⟨hnodup, hfree⟩ : (free : Multiset ℕ).Nodup ∧ s.comp.aux ∉ (free : Multiset ℕ) := by
    simpa [hpool, hnone] using hs.prepared.apart
  have haux : ∀ m ∈ sent, m.buffer ≠ s.comp.aux := by
    rintro m hm heq
    apply hfree
    apply Multiset.mem_of_le hle
    exact Multiset.mem_add.mpr (.inr (Multiset.mem_coe.mpr (List.mem_map.mpr ⟨m, hm, heq⟩)))
  -- every command carries an output buffer
  have hout : ∀ x ∈ ((sent.map XafMsg.command : List _) : Multiset (XafOpcode × ℕ)), XafIsOutput
      s.comp.aux x := by
    intro x hx
    obtain ⟨m, hm, rfl⟩ := List.mem_map.mp (Multiset.mem_coe.mp hx)
    exact ⟨hfill m hm, haux m hm⟩
  constructor
  · obtain ⟨hpending', hexpect, houtputs, hstarted⟩ := hs.counts
    rw [hnone] at houtputs
    obtain ⟨⟨howed, hheld⟩, hended⟩ : ((∀ x ∈ s.owed, ¬XafIsOutput s.comp.aux x) ∧ s.held = 0) ∧
      s.ended = 0 := by
      simpa only [add_eq_zero, Multiset.map_eq_zero, Multiset.filter_eq_nil] using houtputs
    constructor
    · rw [XafLink.owed_after, Multiset.countP_add]
      cases hin : s.comp.inpool with
      | true =>
        have hzero :
            Multiset.countP (XafCounted true s.comp.aux)
            (sent.map XafMsg.command : List _) = 0 := by
          rw [Multiset.countP_eq_zero]
          intro x hx hcounted
          exact absurd ((hout x hx).1.symm.trans hcounted) (by decide)
        simp only [XafLink.after, hin, hzero, zero_add, hpending, Bool.not_true, Bool.false_and,
          Bool.false_eq_true, if_false]
        rw [hpending', hin]
      | false =>
        have hold : Multiset.countP (XafCounted false s.comp.aux) s.owed = 0 :=
          Multiset.countP_eq_zero.mpr howed
        have hnew : Multiset.countP (XafCounted false s.comp.aux)
            (sent.map XafMsg.command : List _) = sent.length := by
          have hall := (Multiset.countP_eq_card (p := XafCounted false s.comp.aux)).mpr hout
          rw [hall, Multiset.coe_card, List.length_map]
        simp only [XafLink.after, hin, hold, hnew, add_zero, hpending, Bool.not_false,
          Bool.true_and, decide_eq_true_eq]
        by_cases hr : r < 0
        · rw [if_pos hr] at hlen
          have hempty : sent.length = 0 := by
            have := hs.prepared.noutbuf
            omega
          rw [if_neg (not_le.mpr hr), hempty, hpending', hin, hold]
        · rw [if_neg hr] at hlen
          rw [if_pos (not_lt.mp hr), hlen.2, BitVec.ofNat_toNat, BitVec.setWidth_eq]
    · simpa [XafLink.after] using hexpect
    · rw [XafLink.owed_after, Multiset.filter_add, Multiset.map_add]
      have hnew : Multiset.filter (XafIsOutput s.comp.aux) (sent.map XafMsg.command : List _) =
          sent.map XafMsg.command :=
        Multiset.filter_eq_self.mpr hout
      have hold : Multiset.filter (XafIsOutput s.comp.aux) s.owed = 0 :=
        Multiset.filter_eq_nil.mpr howed
      simp only [XafLink.after, hnew, hold, hnone, hheld, hended, Multiset.map_zero, add_zero,
        zero_add, Option.some.injEq,
        reduceCtorEq, if_false, if_true, Multiset.map_coe, List.map_map]
      rfl
    · rw [XafLink.owed_after, Multiset.count_add]
      have hzero : Multiset.count (XafOpcode.fillThisBuffer, s.comp.aux)
          (sent.map XafMsg.command) = 0 := by
        rw [Multiset.count_eq_zero]
        intro hmem
        exact (hout _ hmem).2 rfl
      simpa only [XafLink.after, hzero, zero_add] using hstarted
  · obtain ⟨h₁, -, h₃, h₄, -, -⟩ := hs.prepared
    refine ⟨h₁, ?_, h₃, ?_, ?_, ?_⟩
    · simp only [XafLink.after, if_true, hnone, zero_add, Multiset.coe_card, List.length_map]
      split_ifs at hlen
      · exact hlen.le
      · exact hlen.2.le
    · intro h
      rw [(h₄ h).1] at hpool
      cases hpool
    · rintro (h | h)
      · cases h
      · cases h
    · simp only [XafLink.after, Option.getD_some, if_true, hnone, zero_add]
      constructor
      · exact Multiset.nodup_of_le hle hnodup
      · intro hmem
        exact hfree (Multiset.mem_of_le hle hmem)
  · apply hs.waiting.send hidle
    · rfl
    · rfl
    · intro m hm
      exact .inr (hfill m hm)

lemma XafLinkInv.config (hs : XafLinkInv s) (hquiet : s.Quiet) {w : XafWait} {opcode : XafOpcode}
    (hw : w = .setConfig ∧ opcode = .setParam ∨ w = .getConfig ∧ opcode = .getParam)
    (length : U32) :
    XafLinkInv (s.after none ⟨s.comp, [⟨opcode, s.comp.aux, length⟩], .waits w⟩) := by
  have hop : opcode ≠ .fillThisBuffer ∧ opcode ≠ .emptyThisBuffer := by
    rcases hw with ⟨-, rfl⟩ | ⟨-, rfl⟩ <;> decide
  have hexpects : w.Expects s.comp.aux (opcode, s.comp.aux) := by
    rcases hw with ⟨rfl, rfl⟩ | ⟨rfl, rfl⟩ <;> rfl
  constructor
  · obtain ⟨hpending, hexpect, houtputs, hstarted⟩ := hs.counts
    constructor
    · rw [XafLink.owed_after_one, Multiset.countP_cons_of_neg]
      · exact hpending
      · simp [XafCounted, XafIsOutput, XafMsg.command, hop.1, hop.2]
    · exact hexpect
    · rw [XafLink.owed_after_one, Multiset.filter_cons_of_neg]
      · exact houtputs
      · simp [XafIsOutput, XafMsg.command, hop.1]
    · rw [XafLink.owed_after_one, Multiset.count_cons_of_ne]
      · exact hstarted
      · simp [XafLink.after, XafMsg.command, hop.1.symm]
  · exact hs.prepared.congr rfl
  · have halone : ∀ x ∈ (opcode, s.comp.aux) ::ₘ s.live, x = (opcode, s.comp.aux) := by
      intro x hx
      rw [hquiet.live] at hx
      simpa using hx
    constructor
    · rw [XafLink.owed_after_one]
      intro hno b hb
      rcases Multiset.mem_cons.mp hb with hb | hb
      · exact hop.2 (Prod.mk.inj hb).1.symm
      · exact hs.waiting.noInput hno b hb
    · rw [XafLink.live_after_one]
      intro x hx
      rw [halone x hx]
      exact .inr ⟨w, rfl, hexpects⟩
    · rw [XafLink.live_after_one]
      rintro w' hw' -
      obtain rfl : w = w' := Option.some.inj hw'
      refine ⟨_, hexpects, ?_⟩
      rw [hquiet.live]
      exact le_rfl
    · rw [XafLink.owed_after_one]
      intro w' hw'
      obtain rfl : w = w' := Option.some.inj hw'
      exact ⟨_, Multiset.mem_cons_self _ _, hexpects⟩

end Hikey
