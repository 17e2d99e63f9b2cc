import Hikey.Host.FlowCalls

/-!
# The answers keep the counters

A call that waits takes the first answer of the pipe, which is of the kind that it expects.  The
answer to the start fills the pool, that to an output buffer gives it to the client, and that to an
input buffer counts.
-/

namespace Hikey

variable {s : XafLink}

/-! ## Answers -/

/-- An answer in the pipe that is a response to `XF_FILL_THIS_BUFFER` is told apart by the address
of the auxiliary buffer. -/
lemma XafLinkInv.startBuf (hs : XafLinkInv s) {b : ℕ} (hb : (.fillThisBuffer, b) ∈ s.owed) :
    s.comp.startBuf = s.comp.aux := by
  apply hs.prepared.startBuf
  by_contra hissued
  have hzero := hs.counts.started
  rw [if_neg hissued] at hzero
  by_cases haux : b = s.comp.aux
  · have hpos : 0 < s.owed.count (.fillThisBuffer, s.comp.aux) := Multiset.count_pos.mpr (haux ▸ hb)
    omega
  · have htaken := hs.counts.taken_of_owed hb haux
    have hnone := (hs.prepared.unstarted (by omega)).1
    rw [hs.prepared.unexecuted (.inr hnone)] at htaken
    simp at htaken

/-- What `xaf_comp_post_init_config` does. -/
inductive XafPostInit (c : XafFlow) (pool : Except {r : ℤ // r < 0} (List ℕ)) (outputLength : U32) :
    XafFlow × ℤ → Prop
  | fails (r : ℤ) (hr : r < 0) :
      XafPostInit c pool outputLength ({ c with outputLength := outputLength }, r)
  | done (outpool : Option (List ℕ))
      (hpool : outpool = c.outpool ∨ ∃ free, pool = .ok free ∧ outpool = some free) :
      XafPostInit c pool outputLength
        ({ c with outputLength := outputLength, outpool :=
          outpool, initDone := true, compStatus := .initDone }, 0)

lemma xafCompPostInitConfig_cases (pool : Except {r : ℤ // r < 0} (List ℕ)) (outputLength : U32)
    (c : XafFlow) :
    XafPostInit c pool outputLength (xafCompPostInitConfig pool outputLength c) := by
  unfold xafCompPostInitConfig
  dsimp only
  split_ifs
  · cases pool with
    | error r => exact .fails r r.2
    | ok free => exact .done _ (.inr ⟨free, rfl, rfl⟩)
  · exact .done _ (.inl rfl)

/-- What is under way for a call that waits is what it expects. -/
lemma XafWaiting.expects (hs : XafWaiting s) {w : XafWait} (hwait : s.wait = some w)
    {x : XafOpcode × ℕ} (hx : x ∈ s.live) :
    w.Expects s.comp.aux x := by
  by_cases hstatus : w = .status
  · rcases hs.kinds x hx with h | ⟨w', hw', h⟩
    · rwa [hstatus]
    · rwa [← Option.some.inj (hwait.symm.trans hw')] at h
  · obtain ⟨y, hy, hle⟩ := hs.alone w hwait hstatus
    rwa [Multiset.mem_singleton.mp (Multiset.mem_of_le hle hx)]

/-- After an answer nothing waits. -/
lemma XafWaiting.read (hs : XafWaiting s) {w : XafWait} {r : XafMsg} {rest : List XafMsg}
    {result : XafFlow × XafOut}
    (hwait : s.wait = some w) (hpipe : s.pipe = r :: rest) (hout : result.2.wait = none)
    (hin : result.1.inpool = s.comp.inpool) : XafWaiting (s.read r rest result) where
  noInput := by
    intro hno b hb
    apply hs.noInput (hin ▸ hno) b
    rw [s.owed_read hpipe result]
    exact Multiset.mem_cons_of_mem hb
  kinds := by
    intro x hx
    have hlive := s.live_read hpipe result
    by_cases hstatus : w = .status
    · rcases hs.kinds x (hlive ▸ Multiset.mem_cons_of_mem hx) with h | ⟨w', hw', h⟩
      · exact .inl h
      · rw [hwait, hstatus] at hw'
        obtain rfl := Option.some.inj hw'
        exact .inl h
    · -- the answer was the only one under way
      obtain ⟨y, -, hle⟩ := hs.alone w hwait hstatus
      rw [hlive] at hle
      have hcard := Multiset.card_le_card hle
      rw [Multiset.card_cons, Multiset.card_singleton] at hcard
      rw [Multiset.card_eq_zero.mp (by omega : (s.read r rest result).live.card = 0)] at hx
      simp at hx
  alone := by
    intro w' hw'
    cases hout.symm.trans hw'
  waits := by
    intro w' hw'
    cases hout.symm.trans hw'

/-- The answer to the start. -/
lemma XafLinkInv.readStart (hs : XafLinkInv s) {w : XafWait} {r : XafMsg} {rest : List XafMsg}
    {pool : Except {r : ℤ // r < 0} (List ℕ)} (hpool : s.comp.PoolOk pool) {outputLength : U32}
    {result : XafFlow × ℤ}
    (hwait : s.wait = some w) (hpipe : s.pipe = r :: rest)
    (hr : r.command = (.fillThisBuffer, s.comp.aux))
    (hresult : XafPostInit s.comp pool outputLength result) {out : XafOut}
    (hout : out.wait = none) :
    XafLinkInv (s.read r rest (result.1, out)) := by
  have howed := s.owed_read hpipe (result.1, out)
  rw [hr] at howed
  have hnot : r.isOutput s.comp = false := by
    obtain ⟨hop, hbuf⟩ := Prod.mk.inj hr
    simp [XafMsg.isOutput, hbuf]
  obtain ⟨hpending, hexpect, houtputs, hstarted⟩ := hs.counts
  rw [howed] at hpending houtputs hstarted
  rw [Multiset.count_cons_self] at hstarted
  have hissued : s.comp.startCmdIssued = true := by
    by_contra h
    rw [if_neg h] at hstarted
    omega
  rw [if_pos hissued] at hstarted
  obtain ⟨hnone, hinit⟩ := hs.prepared.unstarted (by omega)
  have htaken := hs.prepared.unexecuted (.inr hnone)
  obtain ⟨h₁, h₂, h₃, -, -, -⟩ := hs.prepared
  have hstarted' : (s.read r rest (result.1, out)).started = 1 := by
    simp only [XafLink.read, if_pos hr]
    omega
  have hcount : (s.read r rest (result.1, out)).owed.count (.fillThisBuffer, s.comp.aux) = 0 := by
    omega
  rw [Multiset.countP_cons_of_neg _ (by simp)] at hpending
  rw [Multiset.filter_cons_of_neg _ (by simp)] at houtputs
  -- the counters do not change, and a new pool is apart from the auxiliary buffer
  cases hresult with
  | fails e he =>
    constructor
    · constructor
      · exact hpending
      · simpa [XafLink.read, hnot] using hexpect
      · simpa only [XafLink.read, hnot, Bool.false_and, Bool.false_eq_true, if_false] using houtputs
      · exact (congrArg₂ (· + ·) hstarted' hcount).trans (if_pos hissued).symm
    · constructor
      · exact h₁
      · exact h₂
      · exact h₃
      · intro h
        cases h.symm.trans hstarted'
      · exact fun _ => htaken
      · simp [XafLink.read, htaken, hnone]
    · exact hs.waiting.read hwait hpipe hout rfl
  | done outpool houtpool =>
    constructor
    · constructor
      · exact hpending
      · simpa [XafLink.read, hnot] using hexpect
      · simpa only [XafLink.read, hnot, Bool.false_and, Bool.false_eq_true, if_false] using houtputs
      · exact (congrArg₂ (· + ·) hstarted' hcount).trans (if_pos hissued).symm
    · constructor
      · exact h₁
      · exact h₂
      · exact h₃
      · intro h
        cases h.symm.trans hstarted'
      · exact fun _ => htaken
      · rcases houtpool with rfl | ⟨free, hfree, rfl⟩
        · simp [XafLink.read, htaken, hnone]
        · obtain ⟨-, hnodup, haux⟩ := hpool free hfree
          simpa [XafLink.read, htaken] using ⟨hnodup, haux⟩
    · exact hs.waiting.read hwait hpipe hout rfl

/-- The answer to an output buffer. -/
lemma XafLinkInv.readOutput (hs : XafLinkInv s) {w : XafWait} {r : XafMsg} {rest : List XafMsg}
    {comp : XafFlow}
    (hwait : s.wait = some w) (hpipe : s.pipe = r :: rest) {b : ℕ}
    (hr : r.command = (.fillThisBuffer, b))
    (haux : b ≠ s.comp.aux) (pendingResp expectOutCmd : U32) (status : XafCompStatus)
    (hpending : pendingResp = if s.comp.countsOutputs then s.comp.pendingResp - 1
    else s.comp.pendingResp)
    (hexpect : expectOutCmd = if r.length = 0 then s.comp.expectOutCmd else s.comp.expectOutCmd + 1)
    (hcomp : comp = {
    s.comp with pendingResp := pendingResp, expectOutCmd := expectOutCmd, compStatus := status })
    {out : XafOut} (hout : out.wait = none) : XafLinkInv (s.read r rest (comp, out)) := by
  have howed := s.owed_read hpipe (comp, out)
  rw [hr] at howed
  obtain ⟨hop, rfl⟩ := Prod.mk.inj hr
  have hne : r.command ≠ (.fillThisBuffer, s.comp.aux) := by
    intro h
    exact haux (Prod.mk.inj h).2
  have hnot : r.isOutput s.comp = true := by simp [XafMsg.isOutput, hop, haux]
  have hheld : (s.read r rest (comp, out)).held = if r.length = 0 then s.held
      else r.buffer ::ₘ s.held := by
    simp only [XafLink.read, hnot, Bool.true_and, decide_eq_true_eq, ne_eq, ite_not]
  have hended : (s.read r rest (comp, out)).ended = if r.length = 0 then r.buffer ::ₘ s.ended
      else s.ended := by
    simp only [XafLink.read, hnot, Bool.true_and, decide_eq_true_eq]
  have htaken : r.buffer ∈ s.taken :=
    hs.counts.taken_of_owed (howed ▸ Multiset.mem_cons_self _ _) haux
  have hpool : s.comp.outpool.isSome = true := by
    by_contra hnone
    rw [hs.prepared.unexecuted (.inr (by simpa using hnone))] at htaken
    simp at htaken
  subst hcomp
  constructor
  · obtain ⟨hpending', hexpect', houtputs, hstarted⟩ := hs.counts
    rw [howed] at hpending' houtputs hstarted
    rw [Multiset.filter_cons_of_pos _ (XafIsOutput_fill.mpr haux), Multiset.map_cons] at houtputs
    rw [Multiset.count_cons_of_ne (by simp [haux.symm])] at hstarted
    constructor
    · refine hpending.trans ?_
      change _ = BitVec.ofNat 32 (Multiset.countP (XafCounted s.comp.inpool s.comp.aux) _)
      cases hin : s.comp.inpool with
      | true =>
        rw [hin, Multiset.countP_cons_of_neg _ (by simp)] at hpending'
        rw [if_neg (by simp [XafFlow.countsOutputs, hin])]
        exact hpending'
      | false =>
        rw [hin, Multiset.countP_cons_of_pos _ (by simp [haux]), BitVec.ofNat_add] at hpending'
        rw [if_pos (by simp [XafFlow.countsOutputs, hin, hpool]), hpending']
        exact BitVec.add_sub_cancel _ _
    · refine hexpect.trans ?_
      rw [hheld]
      split_ifs
      · exact hexpect'
      · rw [hexpect', Multiset.card_cons, BitVec.ofNat_add]
        rfl
    · rw [hheld, hended]
      refine Eq.trans ?_ houtputs
      split_ifs
      · rw [Multiset.add_cons, Multiset.cons_add, Multiset.cons_add]
        rfl
      · rw [Multiset.add_cons, Multiset.cons_add, Multiset.cons_add, Multiset.cons_add]
        rfl
    · simpa only [XafLink.read, if_neg hne] using hstarted
  · exact hs.prepared.congr (by simp only [XafLink.progress, XafLink.read, if_neg hne])
  · exact hs.waiting.read hwait hpipe hout rfl

/-- The answer to an input buffer. -/
lemma XafLinkInv.readInput (hs : XafLinkInv s) {w : XafWait} {r : XafMsg} {rest : List XafMsg}
    {comp : XafFlow}
    (hwait : s.wait = some w) (hpipe : s.pipe = r :: rest) (hop : r.opcode = .emptyThisBuffer)
    (status : XafCompStatus)
    (hcomp : comp = { s.comp with pendingResp := s.comp.pendingResp - 1, compStatus := status })
    {out : XafOut} (hout : out.wait = none) : XafLinkInv (s.read r rest (comp, out)) := by
  have howed := s.owed_read hpipe (comp, out)
  have hr : r.command = (.emptyThisBuffer, r.buffer) := by rw [XafMsg.command, hop]
  have hnot : r.isOutput s.comp = false := by simp [XafMsg.isOutput, hop]
  have hne : r.command ≠ (.fillThisBuffer, s.comp.aux) := by simp [hr]
  rw [hr] at howed
  have hin : s.comp.inpool = true := by
    by_contra hno
    apply hs.waiting.noInput (Bool.eq_false_iff.mpr hno) r.buffer
    rw [howed]
    exact Multiset.mem_cons_self _ _
  subst hcomp
  constructor
  · obtain ⟨hpending, hexpect, houtputs, hstarted⟩ := hs.counts
    rw [howed] at hpending houtputs hstarted
    rw [Multiset.filter_cons_of_neg _ XafIsOutput_empty] at houtputs
    rw [Multiset.count_cons_of_ne (by simp)] at hstarted
    rw [Multiset.countP_cons_of_pos _ (XafCounted_empty.mpr hin), BitVec.ofNat_add] at hpending
    constructor
    · exact (congrArg (· - 1#32) hpending).trans (BitVec.add_sub_cancel _ _)
    · simpa [XafLink.read, hnot] using hexpect
    · simpa only [XafLink.read, hnot, Bool.false_and, Bool.false_eq_true, if_false] using houtputs
    · simpa only [XafLink.read, if_neg hne] using hstarted
  · exact hs.prepared.congr (by simp only [XafLink.progress, XafLink.read, if_neg hne])
  · exact hs.waiting.read hwait hpipe hout rfl

/-- The answer to a call for parameters. -/
lemma XafLinkInv.readConfig (hs : XafLinkInv s) {w : XafWait} {r : XafMsg} {rest : List XafMsg}
    (hwait : s.wait = some w) (hpipe : s.pipe = r :: rest)
    (hop : r.opcode ≠ .emptyThisBuffer ∧ r.opcode ≠ .fillThisBuffer) {out : XafOut}
    (hout : out.wait = none) :
    XafLinkInv (s.read r rest (s.comp, out)) := by
  have howed := s.owed_read hpipe (s.comp, out)
  have hnot : r.isOutput s.comp = false := by simp [XafMsg.isOutput, hop.2]
  have hne : r.command ≠ (.fillThisBuffer, s.comp.aux) := by
    intro h
    exact hop.2 (Prod.mk.inj h).1
  constructor
  · obtain ⟨hpending, hexpect, houtputs, hstarted⟩ := hs.counts
    rw [howed] at hpending houtputs hstarted
    rw [Multiset.filter_cons_of_neg _ (by simp [XafIsOutput, XafMsg.command, hop.2])] at houtputs
    rw [Multiset.count_cons_of_ne hne.symm] at hstarted
    rw [Multiset.countP_cons_of_neg _
      (by simp [XafCounted, XafIsOutput, XafMsg.command, hop.1, hop.2])] at hpending
    constructor
    · exact hpending
    · simpa [XafLink.read, hnot] using hexpect
    · simpa only [XafLink.read, hnot, Bool.false_and, Bool.false_eq_true, if_false] using houtputs
    · simpa only [XafLink.read, if_neg hne] using hstarted
  · exact hs.prepared.congr (by simp only [XafLink.progress, XafLink.read, if_neg hne])
  · exact hs.waiting.read hwait hpipe hout rfl

lemma XafLinkInv.read (hs : XafLinkInv s) {w : XafWait} {r : XafMsg} {rest : List XafMsg}
    {pool : Except {r : ℤ // r < 0} (List ℕ)} (outputLength : U32) (hwait : s.wait = some w)
    (hpipe : s.pipe = r :: rest)
    (hpool : s.comp.PoolOk pool) :
    XafLinkInv (s.read r rest (xafAfter pool outputLength s.comp r w)) := by
  have hlive : r.command ∈ s.live := by
    rw [s.live_read hpipe (s.comp, .returns 0)]
    exact Multiset.mem_cons_self _ _
  have hinit := xafCompPostInitConfig_cases pool outputLength s.comp
  have hexpects := hs.waiting.expects hwait hlive
  cases w with
  | start =>
    obtain ⟨hop, hbuf⟩ := Prod.mk.inj hexpects
    have hstart := hs.startBuf (hexpects ▸ Multiset.mem_of_le s.live_le_owed hlive)
    have hcond : (r.opcode = .fillThisBuffer && r.buffer = s.comp.startBuf : Bool) = true := by
      simp [hop, hbuf, hstart]
    rw [xafAfter, if_pos hcond]
    exact hs.readStart hpool hwait hpipe hexpects hinit rfl
  | status =>
    rcases hexpects with hop | hop
    · replace hop : r.opcode = .emptyThisBuffer := hop
      simp only [xafAfter, xafStatusAfter, hop]
      exact hs.readInput hwait hpipe hop _ rfl (by rfl)
    · replace hop : r.opcode = .fillThisBuffer := hop
      have hr : r.command = (.fillThisBuffer, r.buffer) := by rw [XafMsg.command, hop]
      have hstart := hs.startBuf (hr ▸ Multiset.mem_of_le s.live_le_owed hlive)
      simp only [xafAfter, xafStatusAfter, hop]
      by_cases haux : r.buffer = s.comp.aux
      · rw [if_pos (haux.trans hstart.symm)]
        apply hs.readStart hpool hwait hpipe (haux ▸ hr) hinit
        split_ifs <;> rfl
      · rw [if_neg (hstart ▸ haux)]
        apply hs.readOutput hwait hpipe hr haux _ _
          (if r.length = 0 then .execDone else .outputReady) rfl rfl
        · split_ifs <;> rfl
        · rfl
  | setConfig =>
    apply hs.readConfig hwait hpipe
    · rw [(Prod.mk.inj hexpects).1]
      decide
    · rfl
  | getConfig =>
    apply hs.readConfig hwait hpipe
    · rw [(Prod.mk.inj hexpects).1]
      decide
    · rfl

/-! ## Every run -/

/-- What the answer to `xaf_comp_get_status` tells of the component `c` after it. -/
inductive XafStatusRead (s : XafLink) (r : XafMsg) (c : XafFlow) : XafOut → Prop
  | fails (e : ℤ) (he : e < 0) (hr : r.command = (.fillThisBuffer, s.comp.aux))
      (hinit : c.initDone = s.comp.initDone)
      (hstatus : c.compStatus = s.comp.compStatus) : XafStatusRead s r c (.returns e)
  | init (hr : r.command = (.fillThisBuffer, s.comp.aux)) (hinit : c.initDone = true)
      (hstatus : c.compStatus = .initDone) :
      XafStatusRead s r c (.reports .initDone none)
  | output (hop : r.opcode = .fillThisBuffer) (haux : r.buffer ≠ s.comp.aux)
      (hinit : c.initDone = s.comp.initDone)
      (hstatus : c.compStatus = if r.length = 0 then .execDone else .outputReady) :
      XafStatusRead s r c (.reports c.compStatus (some (r.buffer, r.length)))
  | input (hop : r.opcode = .emptyThisBuffer) (hinit : c.initDone = s.comp.initDone)
      (hstatus : c.compStatus = if s.comp.inputOver && r.buffer = 0 then .execDone
        else .needInput) :
      XafStatusRead s r c (.reports c.compStatus (some (r.buffer, r.length)))

lemma XafLinkInv.statusRead (hs : XafLinkInv s) {r : XafMsg} {rest : List XafMsg}
    (hwait : s.wait = some .status)
    (hpipe : s.pipe = r :: rest) (pool : Except {r : ℤ // r < 0} (List ℕ)) (outputLength : U32) :
    XafStatusRead s r (xafStatusAfter pool outputLength s.comp r).1
      (xafStatusAfter pool outputLength s.comp r).2 := by
  have hlive : r.command ∈ s.live := by
    rw [s.live_read hpipe (s.comp, .returns 0)]
    exact Multiset.mem_cons_self _ _
  unfold xafStatusAfter
  rcases hs.waiting.expects hwait hlive with hop | hop
  · simp only [XafMsg.command] at hop
    simp only [hop]
    exact .input hop rfl rfl
  · simp only [XafMsg.command] at hop
    have hstart : s.comp.startBuf = s.comp.aux := by
      apply hs.startBuf (b := r.buffer)
      rw [← hop]
      exact Multiset.mem_of_le s.live_le_owed hlive
    simp only [hop, hstart]
    by_cases haux : r.buffer = s.comp.aux
    · have hr : r.command = (.fillThisBuffer, s.comp.aux) := by rw [XafMsg.command, hop, haux]
      simp only [if_pos haux]
      have hcases := xafCompPostInitConfig_cases pool outputLength s.comp
      generalize xafCompPostInitConfig pool outputLength s.comp = result at hcases ⊢
      cases hcases with
      | fails e he =>
        simp only [if_pos he]
        exact .fails e he hr rfl rfl
      | done outpool => exact .init hr rfl rfl
    · simp only [if_neg haux]
      refine .output hop haux ?_ ?_
      · split_ifs <;> rfl
      · split_ifs <;> rfl

/-- An answer leaves the rest of the component alone. -/
lemma xafAfter_frame (pool : Except {r : ℤ // r < 0} (List ℕ)) (outputLength : U32) (c : XafFlow)
    (r : XafMsg) (w : XafWait) :
    (xafAfter pool outputLength c r w).1.compType = c.compType ∧
    (xafAfter pool outputLength c r w).1.inpool = c.inpool ∧
      (xafAfter pool outputLength c r w).1.inputOver = c.inputOver ∧
      (xafAfter pool outputLength c r w).1.execCmdIssued = c.execCmdIssued := by
  have hinit : ∀ result, XafPostInit c pool outputLength result → result.1.compType = c.compType ∧
      result.1.inpool = c.inpool ∧ result.1.inputOver = c.inputOver ∧
        result.1.execCmdIssued = c.execCmdIssued := by
    intro result hresult
    cases hresult <;> exact ⟨rfl, rfl, rfl, rfl⟩
  have hpost := hinit _ (xafCompPostInitConfig_cases pool outputLength c)
  cases w with
  | start =>
    simp only [xafAfter]
    split_ifs
    · exact hpost
    · exact ⟨rfl, rfl, rfl, rfl⟩
  | status =>
    simp only [xafAfter, xafStatusAfter]
    cases r.opcode with
    | fillThisBuffer =>
      dsimp only
      split_ifs <;> first | exact hpost | exact ⟨rfl, rfl, rfl, rfl⟩
    | emptyThisBuffer => exact ⟨rfl, rfl, rfl, rfl⟩
    | setParam => exact ⟨rfl, rfl, rfl, rfl⟩
    | getParam => exact ⟨rfl, rfl, rfl, rfl⟩
  | setConfig => exact ⟨rfl, rfl, rfl, rfl⟩
  | getConfig => exact ⟨rfl, rfl, rfl, rfl⟩

/-- What the DSP does changes nothing that is owed. -/
lemma XafLinkInv.of_owed (hs : XafLinkInv s) {sent : Multiset XafMsg} {pipe : List XafMsg}
    {lost : Multiset XafMsg}
    (howed : { s with sent := sent, pipe := pipe, lost := lost : XafLink }.owed = s.owed)
    (hlive : { s with sent := sent, pipe := pipe, lost := lost : XafLink }.live ≤ s.live) :
    XafLinkInv { s with sent := sent, pipe := pipe, lost := lost } where
  counts := by
    obtain ⟨h₁, h₂, h₃, h₄⟩ := hs.counts
    exact ⟨by rw [howed]; exact h₁, h₂, by rw [howed]; exact h₃, by rw [howed]; exact h₄⟩
  prepared := hs.prepared.congr rfl
  waiting := by
    obtain ⟨h₁, h₂, h₃, h₄⟩ := hs.waiting
    constructor
    · rw [howed]
      exact h₁
    · intro x hx
      exact h₂ x (Multiset.mem_of_le hlive hx)
    · intro w hw hstatus
      obtain ⟨x, hx, hle⟩ := h₃ w hw hstatus
      exact ⟨x, hx, hlive.trans hle⟩
    · rw [howed]
      exact h₄

lemma XafLink.live_answer {m : XafMsg} (hm : m ∈ s.sent) (length : U32) :
    { s with sent := s.sent.erase m, pipe := s.pipe ++ [{ m with length := length }] : XafLink
    }.live = s.live := by
  simp only [XafLink.live]
  rw [← Multiset.cons_erase hm, ← Multiset.coe_add, Multiset.coe_singleton]
  simp only [Multiset.erase_cons_head, Multiset.map_add, Multiset.map_cons, Multiset.map_singleton,
    Multiset.cons_add]
  rw [← add_assoc, ← Multiset.singleton_add, add_comm]
  rfl

lemma XafLink.owed_answer {m : XafMsg} (hm : m ∈ s.sent) (length : U32) :
    { s with sent := s.sent.erase m, pipe := s.pipe ++ [{ m with length := length }] : XafLink
    }.owed = s.owed :=
  congrArg (· + s.lost.map XafMsg.command) (s.live_answer hm length)

lemma XafLink.live_fail {m : XafMsg} (hm : m ∈ s.sent) :
    s.live = m.command ::ₘ
      { s with sent := s.sent.erase m, lost := m ::ₘ s.lost : XafLink }.live := by
  simp only [XafLink.live]
  rw [← Multiset.map_cons, ← Multiset.cons_add, Multiset.cons_erase hm]

lemma XafLink.owed_fail {m : XafMsg} (hm : m ∈ s.sent) :
    { s with sent := s.sent.erase m, lost := m ::ₘ s.lost : XafLink }.owed = s.owed := by
  rw [XafLink.owed, XafLink.owed, s.live_fail hm, Multiset.map_cons, Multiset.add_cons,
    Multiset.cons_add]

lemma XafLinkInv.answer (hs : XafLinkInv s) {m : XafMsg} (hm : m ∈ s.sent) (length : U32) :
    XafLinkInv { s with sent := s.sent.erase m, pipe := s.pipe ++ [{ m with length := length }] } :=
  hs.of_owed (s.owed_answer hm length) (s.live_answer hm length).le

lemma XafLinkInv.fail (hs : XafLinkInv s) {m : XafMsg} (hm : m ∈ s.sent) :
    XafLinkInv { s with sent := s.sent.erase m, lost := m ::ₘ s.lost } := by
  apply hs.of_owed
  · exact s.owed_fail hm
  · rw [s.live_fail hm]
    exact Multiset.le_cons_self _ _

/-- `xaf_comp_get_status` waits when an answer is owed that `pending_resp` counts. -/
lemma XafLinkInv.status (hs : XafLinkInv s) (hidle : s.wait = none) (adev : Bool) :
    XafLinkInv (s.after none (xafCompGetStatus adev s.comp)) := by
  unfold xafCompGetStatus
  split_ifs with hadev hpending
  · rw [s.after_nothing hidle _ _ _ rfl]
    exact hs
  · have hafter : s.after none ⟨s.comp, [], .waits .status⟩ = { s with wait := some .status } := by
      simp [XafLink.after, XafOut.wait]
    rw [hafter]
    obtain ⟨hnoInput, hkinds, -, -⟩ := hs.waiting
    obtain ⟨h₁, h₂, h₃, h₄⟩ := hs.counts
    refine ⟨⟨h₁, h₂, h₃, h₄⟩, hs.prepared.congr rfl, ?_⟩
    constructor
    · exact hnoInput
    · intro x hx
      rcases hkinds x hx with h | ⟨w, hw, -⟩
      · exact .inl h
      · cases hidle.symm.trans hw
    · intro w hw hstatus
      exact absurd (Option.some.inj hw).symm hstatus
    · intro w hw
      obtain rfl := Option.some.inj hw
      have hpos : 0 < s.owed.countP (XafCounted s.comp.inpool s.comp.aux) := by
        by_contra hzero
        rw [Nat.eq_zero_of_not_pos hzero] at h₁
        exact hpending h₁
      obtain ⟨x, hx, hcounted⟩ := Multiset.countP_pos.mp hpos
      exact ⟨x, hx, hcounted.expects⟩
  · rw [s.after_nothing hidle _ _ _ rfl]
    apply hs.of_comp
    all_goals split_ifs <;> first | rfl | exact fun _ => rfl | exact .inl rfl

lemma XafLinkInv.step (hs : XafLinkInv s) {s' : XafLink} (hstep : XafLinkStep s s') :
    XafLinkInv s' := by
  cases hstep with
  | process adev send buf length flag hidle hallows h =>
    cases xafCompProcess_cases h with
    | same r hr =>
      rw [s.after_nothing hidle _ _ _ rfl]
      exact hs
    | startFails r hstart hr =>
      rw [s.after_nothing hidle _ _ _ rfl]
      apply hs.of_comp <;> try rfl
      · intro h
        cases hstart.symm.trans h
      · exact .inl rfl
    | start hstart =>
      apply hs.start hidle hstart
      intro hdec
      rcases hallows with h | h | h
      · exact absurd h hdec
      · cases hstart.symm.trans h
      · exact h
    | execNone hinit hpool =>
      rw [s.after_nothing hidle _ _ _ rfl]
      apply hs.of_comp <;> try rfl
      · exact fun _ => rfl
      · exact .inr hpool
    | exec r pendingResp hinit hexec hpool hfill hle hpending hlen =>
      exact hs.exec hidle r hexec hpool hfill hle hpending hlen
    | inputOver hover => exact hs.input hidle hallows .inputOver (.inl rfl) true 0 0
    | inputReady length hover =>
      exact hs.input hidle hallows .inputReady (.inr rfl) s.comp.inputOver buf length
    | output length pendingResp hexpect hpending =>
      exact hs.output hidle (hallows hexpect) length pendingResp hpending
  | status adev hidle => exact hs.status hidle adev
  | setConfig send numParam hidle hquiet =>
    unfold xafCompSetConfig xafCompConfig
    split_ifs
    · rw [s.after_nothing hidle _ _ _ rfl]
      exact hs
    · rw [s.after_nothing hidle _ _ _ rfl]
      exact hs
    · exact hs.config hquiet (.inl ⟨rfl, rfl⟩) _
  | getConfig send numParam hidle hquiet =>
    unfold xafCompGetConfig xafCompConfig
    split_ifs
    · rw [s.after_nothing hidle _ _ _ rfl]
      exact hs
    · rw [s.after_nothing hidle _ _ _ rfl]
      exact hs
    · exact hs.config hquiet (.inr ⟨rfl, rfl⟩) _
  | answer hm length => exact hs.answer hm length
  | fail hm => exact hs.fail hm
  | read outputLength hwait hpipe hpool => exact hs.read outputLength hwait hpipe hpool

lemma XafLinkInv.create {type : XafCompType} {ninbuf noutbuf : U32} {aux : ℕ} {c : XafFlow}
    (h : xafFlowCreate type ninbuf noutbuf aux = .ok c) : XafLinkInv (.create c) := by
  unfold xafFlowCreate at h
  split_ifs at h with hrange
  cases h
  simp only [Bool.or_eq_true, Bool.not_eq_true', not_or, Bool.not_eq_false, xafChkRange,
    Bool.and_eq_true,
    decide_eq_true_eq] at hrange
  constructor
  · constructor <;> simp [XafLink.create, XafLink.owed, XafLink.live]
  · constructor
    · have hone : noutbuf.toInt ≤ 1 := hrange.2.2
      have hzero : 0 ≤ noutbuf.toInt := hrange.2.1
      have hint := BitVec.toInt_eq_toNat_cond noutbuf
      simp only [XafLink.create]
      split_ifs at hint <;> omega
    all_goals simp [XafLink.create]
  · constructor <;> simp [XafLink.create, XafLink.owed, XafLink.live]

/-- The invariant says what a maintainer wants to know. -/
lemma XafLinkInv.accounted (hs : XafLinkInv s) : XafAccounted s where
  pending := hs.counts.pending
  expect := hs.counts.expect
  outputs := hs.counts.outputs
  apart := (Multiset.nodup_of_le (Multiset.le_add_left _ _) hs.prepared.apart.1)
  started := hs.counts.started
  initDone := by
    intro hinit
    have hle := hs.counts.started
    by_contra hne
    have hzero : s.started = 0 := by split_ifs at hle <;> omega
    exact absurd hinit (by simp [(hs.prepared.unstarted hzero).2])
  waits := hs.waiting.waits
  answered := by
    intro w hw hlost
    obtain ⟨x, hx, -⟩ := hs.waiting.waits w hw
    by_contra hnone
    push Not at hnone
    simp [XafLink.owed, XafLink.live, hlost, hnone.1, hnone.2] at hx
  reads := by
    intro w r rest hw hpipe
    have hlive : r.command ∈ s.live := by
      rw [s.live_read hpipe (s.comp, .returns 0)]
      exact Multiset.mem_cons_self _ _
    exact hs.waiting.expects hw hlive

/-- The data of a component is accounted for in every order of the calls of its client and the
answers of the DSP. -/
theorem xafLink_accounted {type : XafCompType} {ninbuf noutbuf : U32} {aux : ℕ} {c : XafFlow}
    (h : xafFlowCreate type ninbuf noutbuf aux = .ok c) {s : XafLink}
    (hrun : Relation.ReflTransGen XafLinkStep (.create c) s) : XafAccounted s := by
  have hinv : XafLinkInv s :=
    run_invariant XafLinkInv (fun _ _ hs hstep => hs.step hstep) (.create h) hrun
  exact hinv.accounted

/-- A decoder is initialised, decodes 32 bytes, and hands their buffer to the client. -/
theorem xafLink_accounted_decoder :
    ∃ s : XafLink, s.comp.compStatus = .outputReady ∧ s.held = {0x3000} ∧ XafAccounted s := by
  have hcreate : xafFlowCreate .decoder 1 1 0x1000 =
      .ok ((xafFlowCreate .decoder 1 1 0x1000).toOption.get rfl) := rfl
  have h₀ := Relation.ReflTransGen.refl (r := XafLinkStep)
    (a := .create ((xafFlowCreate .decoder 1 1 0x1000).toOption.get rfl))
  have h₁ := h₀.tail (.process true (fun _ => 0) 0 0 .start rfl (.inl rfl) rfl)
  have h₂ := h₁.tail (.process true (fun _ => 0) 0x2000 100 .inputReady rfl rfl rfl)
  have h₃ := h₂.tail (.answer (m := ⟨.fillThisBuffer, 0x1000, 0⟩) (by decide) 0)
  have h₄ := h₃.tail (.status true rfl)
  have h₅ := h₄.tail
      (@XafLinkStep.read _ _ _ _ (.ok [0x3000]) 64 rfl rfl (by intro free h; cases h; decide))
  have h₆ := h₅.tail (.process true (fun _ => 0) 0 0 .exec rfl trivial rfl)
  have h₇ := h₆.tail (.answer (m := ⟨.fillThisBuffer, 0x3000, 64⟩) (by decide) 32)
  have h₈ := h₇.tail (.status true rfl)
  have h₉ := h₈.tail
      (@XafLinkStep.read _ _ _ _ (.error ⟨-1, by decide⟩) 0 rfl rfl (by intro free h; cases h))
  exact ⟨_, rfl, rfl, xafLink_accounted hcreate h₉⟩

end Hikey
