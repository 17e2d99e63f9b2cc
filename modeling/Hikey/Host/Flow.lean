import Mathlib.Data.Multiset.Count
import Mathlib.Data.Multiset.AddSub
import Hikey.Foundation.Run
import Hikey.Host.Routing

/-!
# The data of a component (`proxy/xaf-api.c`)

A client sends input and output buffers to a component of the DSP, which answers in an order of its
own, and the answers come back through a pipe.  A call that waits takes the next answer, whatever it
is.  The host keeps nothing but two counters: how many answers it may wait for, and how many output
buffers the client has to give back.

The counters are exact under every order of calls and answers, as long as the client calls for
parameters when nothing else is under way.  So no call waits for an answer that is not owed, and an
output buffer has one owner at a time.
-/

namespace Hikey

/-! ## The source -/

/-- `XAF_PTR_ERROR`. -/
def xafPtrError : ℤ := -1

/-- `XAF_API_ERR`. -/
def xafApiErr : ℤ := -5

/-- The opcodes of the messages of a component. -/
inductive XafOpcode
  | emptyThisBuffer
  | fillThisBuffer
  | setParam
  | getParam
deriving DecidableEq, Repr

/-- `xf_user_msg_t`, a command or its response; the buffer is an address, and 0 is `NULL`. -/
structure XafMsg where
  opcode : XafOpcode
  buffer : ℕ
  length : U32
deriving DecidableEq

/-- `xaf_comp_status`. -/
inductive XafCompStatus
  | starting
  | initDone
  | needInput
  | outputReady
  | execDone
deriving DecidableEq, Repr

/-- `xaf_comp_flag`. -/
inductive XafCompFlag
  | start
  | exec
  | inputOver
  | inputReady
  | needOutput
deriving DecidableEq, Repr

/-- `xaf_comp_t`: what the data of a component uses of it. -/
structure XafFlow where
  compType : XafCompType
  /-- `xf_buffer_data(handle.aux)`. -/
  aux : ℕ
  inpool : Bool
  noutbuf : U32
  initDone : Bool
  startCmdIssued : Bool
  execCmdIssued : Bool
  inputOver : Bool
  pendingResp : U32
  expectOutCmd : U32
  compStatus : XafCompStatus
  startBuf : ℕ
  /-- `out_format.output_length`. -/
  outputLength : U32
  /-- The buffers that are left in the pool. -/
  outpool : Option (List ℕ)

/-- `XAF_CHK_PTR`: the pointer is converted to `int`. -/
def xafChkPtr (p : ℕ) : Bool := p % 2 ^ 32 ≠ 0

/-- `XAF_CHK_RANGE`. -/
def xafChkRange (val : U32) (min max : ℤ) : Bool := min ≤ val.toInt && val.toInt ≤ max

/-- `XAF_MAX_INBUFS`. -/
def xafMaxInbufs : ℤ := 2

/-- `XAF_INBUF_SIZE`. -/
def xafInbufSize : ℤ := 8192

/-- `XAF_MAX_CONFIG_PARAMS`. -/
def xafMaxConfigParams : ℤ := 16

/-- `xaf_comp_create`, the part about buffers. -/
def xafFlowCreate (type : XafCompType) (ninbuf noutbuf : U32) (aux : ℕ) : Except ℤ XafFlow :=
  if !xafChkRange ninbuf 0 xafMaxInbufs || !xafChkRange noutbuf 0 1 then .error xafInvalidValue
  else .ok
    { compType := type, aux := aux, inpool := ninbuf ≠ 0, noutbuf := noutbuf, initDone := false,
      startCmdIssued := false,
      execCmdIssued := false, inputOver := false, pendingResp := 0, expectOutCmd :=
        0, compStatus := .starting,
      startBuf := 0, outputLength := 0, outpool := none }

/-- The calls that take an answer from the pipe. -/
inductive XafWait
  | start
  | status
  | setConfig
  | getConfig
deriving DecidableEq, Repr

/-- How far a call comes: it returns a code, or reports a status with `p_info`, or waits for an
answer. -/
inductive XafOut
  | returns (r : ℤ)
  | reports (status : XafCompStatus) (info : Option (ℕ × U32))
  | waits (w : XafWait)
deriving DecidableEq

/-- A call up to its end or its wait: the component, the commands that were sent, and how far it
came. -/
structure XafCall where
  comp : XafFlow
  sent : List XafMsg
  out : XafOut

/-- `xaf_comp_post_init_config`; `pool` is the result of `xf_pool_alloc`. -/
def xafCompPostInitConfig (pool : Except {r : ℤ // r < 0} (List ℕ)) (outputLength : U32)
    (c : XafFlow) : XafFlow × ℤ :=
  let c := { c with outputLength := outputLength }
  if c.noutbuf ≠ 0 then
    match pool with
    | .error r => (c, r)
    | .ok free => ({ c with outpool := some free, initDone := true, compStatus := .initDone }, 0)
  else ({ c with initDone := true, compStatus := .initDone }, 0)

/-- The loop of `XAF_EXEC_FLAG` from the buffer `i` on: the buffers that are left, the commands and
the result; `none` is an empty pool. -/
def xafExecFills (send : ℕ → ℤ) (length : U32) :
    (n i : ℕ) → List ℕ → Option (List ℕ × List XafMsg × ℤ)
  | 0, _, free => some (free, [], 0)
  | _ + 1, _, [] => none
  | n + 1, i, b :: free =>
    if send i < 0 then some (free, [], send i)
    else (xafExecFills send length n (i + 1) free).map fun (free, sent, r) =>
      (free, ⟨.fillThisBuffer, b, length⟩ :: sent, r)

/-- The outputs of a component without an input pool are counted. -/
def XafFlow.countsOutputs (c : XafFlow) : Bool := !c.inpool && c.outpool.isSome

/-- `xaf_comp_process`; `adev` says that `p_adev` is given, and `send` has the results of
`xf_command`. -/
def xafCompProcess (adev : Bool) (send : ℕ → ℤ) (c : XafFlow) (buf : ℕ) (length : U32)
    (flag : XafCompFlag) :
    Option XafCall :=
  if !c.initDone && !adev then some ⟨c, [], .returns xafPtrError⟩
  else if flag = .inputReady && !xafChkRange length 0 xafInbufSize then some
    ⟨c, [], .returns xafInvalidValue⟩
  else
    match flag with
    | .start =>
      if c.startCmdIssued then some ⟨c, [], .returns 0⟩
      else
        let c := { c with startBuf := c.aux }
        if send 0 < 0 then some ⟨c, [], .returns (send 0)⟩
        else some ⟨{ c with startCmdIssued := true }, [⟨.fillThisBuffer, c.startBuf, 0⟩],
          if c.compType ≠ .decoder then .waits .start else .returns 0⟩
    | .exec =>
      if !c.initDone || c.execCmdIssued then some ⟨c, [], .returns 0⟩
      else
        let c := { c with execCmdIssued := true }
        match c.outpool with
        | none => some ⟨c, [], .returns 0⟩
        | some free =>
          (xafExecFills send c.outputLength c.noutbuf.toNat 0 free).map fun (free, sent, r) =>
            let c := { c with outpool := some free }
            if r < 0 then ⟨c, sent, .returns r⟩
            else ⟨if c.inpool then c else { c with pendingResp := c.noutbuf }, sent, .returns 0⟩
    | .inputOver =>
      if c.inputOver then some ⟨c, [], .returns 0⟩
      else if send 0 < 0 then some ⟨c, [], .returns (send 0)⟩
      else some ⟨{ c with inputOver := true, pendingResp := c.pendingResp + 1 },
        [⟨.emptyThisBuffer, 0, 0⟩], .returns 0⟩
    | .inputReady =>
      if c.inputOver then some ⟨c, [], .returns 0⟩
      else if !xafChkPtr buf then some ⟨c, [], .returns xafPtrError⟩
      else if send 0 < 0 then some ⟨c, [], .returns (send 0)⟩
      else some ⟨{ c with pendingResp := c.pendingResp + 1 },
        [⟨.emptyThisBuffer, buf, length⟩], .returns 0⟩
    | .needOutput =>
      if c.expectOutCmd = 0 then some ⟨c, [], .returns 0⟩
      else if !xafChkPtr buf then some ⟨c, [], .returns xafPtrError⟩
      else if send 0 < 0 then some ⟨c, [], .returns (send 0)⟩
      else some ⟨{ c with expectOutCmd := c.expectOutCmd - 1,
                          pendingResp := if c.countsOutputs then c.pendingResp + 1
                          else c.pendingResp },
        [⟨.fillThisBuffer, buf, length⟩], .returns 0⟩

/-- `xaf_comp_get_status` up to `xf_response_get`. -/
def xafCompGetStatus (adev : Bool) (c : XafFlow) : XafCall :=
  if !c.initDone && !adev then ⟨c, [], .returns xafPtrError⟩
  else if c.pendingResp ≠ 0 then ⟨c, [], .waits .status⟩
  else
    let issued := c.compStatus = .starting && c.startCmdIssued || c.compStatus =
      .initDone && c.execCmdIssued
    let c := if issued && c.inpool then { c with compStatus := .needInput } else c
    ⟨c, [], .reports c.compStatus none⟩

/-- `xaf_comp_set_config` and `xaf_comp_get_config` up to `xf_response_get`; the number of
parameters is checked first. -/
def xafCompConfig (w : XafWait) (opcode : XafOpcode) (send : ℕ → ℤ) (c : XafFlow)
    (numParam length : U32) : XafCall :=
  if !xafChkRange numParam 1 xafMaxConfigParams then ⟨c, [], .returns xafInvalidValue⟩
  else if send 0 < 0 then ⟨c, [], .returns (send 0)⟩
  else ⟨c, [⟨opcode, c.aux, length⟩], .waits w⟩

/-- `xaf_comp_set_config`: the message is made of pairs of words. -/
def xafCompSetConfig (send : ℕ → ℤ) (c : XafFlow) (numParam : U32) : XafCall :=
  xafCompConfig .setConfig .setParam send c numParam (8 * numParam)

/-- `xaf_comp_get_config`: the message is made of words. -/
def xafCompGetConfig (send : ℕ → ℤ) (c : XafFlow) (numParam : U32) : XafCall :=
  xafCompConfig .getConfig .getParam send c numParam (4 * numParam)

/-- The rest of `xaf_comp_get_status` after the response `r`. -/
def xafStatusAfter (pool : Except {r : ℤ // r < 0} (List ℕ)) (outputLength : U32) (c : XafFlow)
    (r : XafMsg) :
    XafFlow × XafOut :=
  match r.opcode with
  | .fillThisBuffer =>
    if r.buffer = c.startBuf then
      let (c, e) := xafCompPostInitConfig pool outputLength c
      (c, if e < 0 then .returns e else .reports c.compStatus none)
    else
      let c := if c.countsOutputs then { c with pendingResp := c.pendingResp - 1 } else c
      let c := if r.length = 0 then { c with compStatus := .execDone }
        else { c with compStatus := .outputReady, expectOutCmd := c.expectOutCmd + 1 }
      (c, .reports c.compStatus (some (r.buffer, r.length)))
  | .emptyThisBuffer =>
    let c := { c with pendingResp := c.pendingResp - 1,
                      compStatus := if c.inputOver && r.buffer = 0 then .execDone else .needInput }
    (c, .reports c.compStatus (some (r.buffer, r.length)))
  | .setParam | .getParam => (c, .returns xafApiErr)

/-- The rest of a call after the response `r`. -/
def xafAfter (pool : Except {r : ℤ // r < 0} (List ℕ)) (outputLength : U32) (c : XafFlow)
    (r : XafMsg) :
    XafWait → XafFlow × XafOut
  | .start =>
    if r.opcode = .fillThisBuffer && r.buffer = c.startBuf then
      let (c, e) := xafCompPostInitConfig pool outputLength c
      (c, .returns e)
    else (c, .returns xafApiErr)
  | .status => xafStatusAfter pool outputLength c r
  | .setConfig => (c, .returns (if r.opcode = .setParam && r.buffer = c.aux then 0 else xafApiErr))
  | .getConfig => (c, .returns (if r.opcode = .getParam && r.buffer = c.aux then 0 else xafApiErr))

/-! ## The client and the DSP -/

/-- A component between its client and the DSP: the commands that are not answered, the answers that
are not read, the commands that failed (`xaf_comp_response` drops their answers), and the call that
waits.  The client holds output buffers; what was taken from the pool, what was answered with no
bytes and the answers to the start are counted only. -/
structure XafLink where
  comp : XafFlow
  sent : Multiset XafMsg
  pipe : List XafMsg
  lost : Multiset XafMsg
  wait : Option XafWait
  held : Multiset ℕ
  ended : Multiset ℕ
  taken : Multiset ℕ
  started : ℕ

/-- A new component. -/
def XafLink.create (c : XafFlow) : XafLink := ⟨c, 0, [], 0, none, 0, 0, 0, 0⟩

/-- The call that waits. -/
def XafOut.wait : XafOut → Option XafWait
  | .waits w => some w
  | .returns _ | .reports _ _ => none

/-- The state after a call; `flag` is that of `xaf_comp_process`. -/
def XafLink.after (s : XafLink) (flag : Option XafCompFlag) (call : XafCall) : XafLink where
  comp := call.comp
  sent := s.sent + call.sent
  pipe := s.pipe
  lost := s.lost
  wait := call.out.wait
  held := if flag = some .needOutput then s.held - call.sent.map XafMsg.buffer else s.held
  ended := s.ended
  taken := if flag = some .exec then s.taken + call.sent.map XafMsg.buffer else s.taken
  started := s.started

/-- The opcode and the buffer, which an answer has from its command. -/
def XafMsg.command (m : XafMsg) : XafOpcode × ℕ := (m.opcode, m.buffer)

/-- An output buffer comes back. -/
def XafMsg.isOutput (c : XafFlow) (m : XafMsg) : Bool :=
  m.opcode = .fillThisBuffer && m.buffer ≠ c.aux

/-- The state after the response `r` of a call that waited. -/
def XafLink.read (s : XafLink) (r : XafMsg) (rest : List XafMsg) (result : XafFlow × XafOut) :
    XafLink where
  comp := result.1
  sent := s.sent
  pipe := rest
  lost := s.lost
  wait := result.2.wait
  held := if r.isOutput s.comp && r.length ≠ 0 then r.buffer ::ₘ s.held else s.held
  ended := if r.isOutput s.comp && r.length = 0 then r.buffer ::ₘ s.ended else s.ended
  taken := s.taken
  started := if r.command = (.fillThisBuffer, s.comp.aux) then s.started + 1 else s.started

/-- Nothing is under way. -/
def XafLink.Quiet (s : XafLink) : Prop := s.sent = 0 ∧ s.pipe = []

/-- What the client may do: it has input buffers or sends none, gives back an output buffer that it
holds, and starts a component other than a decoder when nothing is under way, for that call waits.
-/
def XafLink.Allows (s : XafLink) (buf : ℕ) : XafCompFlag → Prop
  | .start => s.comp.compType = .decoder ∨ s.comp.startCmdIssued = true ∨ s.Quiet
  | .exec => True
  | .inputOver | .inputReady => s.comp.inpool = true
  | .needOutput => s.comp.expectOutCmd ≠ 0 → buf ∈ s.held

/-- The buffers of a new pool: they are apart from each other and from the auxiliary buffer. -/
def XafFlow.PoolOk (c : XafFlow) (pool : Except {r : ℤ // r < 0} (List ℕ)) : Prop :=
  ∀ free, pool = .ok free → free.length = c.noutbuf.toNat ∧ free.Nodup ∧ c.aux ∉ free

/-- One step of the client or of the DSP. -/
inductive XafLinkStep : XafLink → XafLink → Prop
  /-- `xaf_comp_process` -/
  | process {s : XafLink} {call : XafCall} (adev : Bool) (send : ℕ → ℤ) (buf : ℕ) (length : U32)
      (flag : XafCompFlag)
      (hidle : s.wait = none) (hallows : s.Allows buf flag)
      (h : xafCompProcess adev send s.comp buf length flag = some call) : XafLinkStep s
        (s.after (some flag) call)
  /-- `xaf_comp_get_status` -/
  | status {s : XafLink} (adev : Bool) (hidle : s.wait = none) :
      XafLinkStep s (s.after none (xafCompGetStatus adev s.comp))
  /-- `xaf_comp_set_config` -/
  | setConfig {s : XafLink} (send : ℕ → ℤ) (numParam : U32) (hidle : s.wait = none)
      (hquiet : s.Quiet) :
      XafLinkStep s (s.after none (xafCompSetConfig send s.comp numParam))
  /-- `xaf_comp_get_config` -/
  | getConfig {s : XafLink} (send : ℕ → ℤ) (numParam : U32) (hidle : s.wait = none)
      (hquiet : s.Quiet) :
      XafLinkStep s (s.after none (xafCompGetConfig send s.comp numParam))
  /-- The DSP answers a command. -/
  | answer {s : XafLink} {m : XafMsg} (hm : m ∈ s.sent) (length : U32) :
      XafLinkStep s { s with sent := s.sent.erase m, pipe := s.pipe ++
        [{ m with length := length }] }
  /-- A command fails. -/
  | fail {s : XafLink} {m : XafMsg} (hm : m ∈ s.sent) :
      XafLinkStep s { s with sent := s.sent.erase m, lost := m ::ₘ s.lost }
  /-- A call that waits takes the next answer. -/
  | read {s : XafLink} {w : XafWait} {r : XafMsg} {rest : List XafMsg}
      {pool : Except {r : ℤ // r < 0} (List ℕ)}
      (outputLength : U32) (hwait : s.wait = some w) (hpipe : s.pipe = r :: rest)
        (hpool : s.comp.PoolOk pool) :
      XafLinkStep s (s.read r rest (xafAfter pool outputLength s.comp r w))

/-- The commands that wait for their answers to be read. -/
def XafLink.live (s : XafLink) : Multiset (XafOpcode × ℕ) := (s.sent + s.pipe).map XafMsg.command

/-- The commands that are owed to the client. -/
def XafLink.owed (s : XafLink) : Multiset (XafOpcode × ℕ) := s.live + s.lost.map XafMsg.command

/-- The command carries an output buffer. -/
def XafIsOutput (aux : ℕ) (x : XafOpcode × ℕ) : Prop := x.1 = .fillThisBuffer ∧ x.2 ≠ aux

instance (aux : ℕ) : DecidablePred (XafIsOutput aux) :=
  fun x => inferInstanceAs (Decidable (x.1 = _ ∧ x.2 ≠ aux))

/-- The answers that `pending_resp` counts. -/
def XafCounted (inpool : Bool) (aux : ℕ) (x : XafOpcode × ℕ) : Prop :=
  if inpool then x.1 = .emptyThisBuffer else XafIsOutput aux x

instance (inpool : Bool) (aux : ℕ) : DecidablePred (XafCounted inpool aux) := fun x =>
  inferInstanceAs (Decidable (if inpool then x.1 = .emptyThisBuffer else XafIsOutput aux x))

/-- The answers that a call expects. -/
def XafWait.Expects (aux : ℕ) (x : XafOpcode × ℕ) : XafWait → Prop
  | .start => x = (.fillThisBuffer, aux)
  | .status => x.1 = .emptyThisBuffer ∨ x.1 = .fillThisBuffer
  | .setConfig => x = (.setParam, aux)
  | .getConfig => x = (.getParam, aux)

/-- The counters are exact, every output buffer is at one place, the component is initialised by one
answer, and a call that waits is owed an answer and never takes that of another. -/
structure XafAccounted (s : XafLink) : Prop where
  pending : s.comp.pendingResp = BitVec.ofNat 32
    (s.owed.countP (XafCounted s.comp.inpool s.comp.aux))
  expect : s.comp.expectOutCmd = BitVec.ofNat 32 s.held.card
  outputs : (s.owed.filter (XafIsOutput s.comp.aux)).map Prod.snd + s.held + s.ended = s.taken
  apart : s.taken.Nodup
  started : s.started + s.owed.count (.fillThisBuffer, s.comp.aux) =
    if s.comp.startCmdIssued then 1 else 0
  initDone : s.comp.initDone = true → s.started = 1
  waits : ∀ w, s.wait = some w → ∃ x ∈ s.owed, w.Expects s.comp.aux x
  answered : ∀ w, s.wait = some w → s.lost = 0 → s.sent ≠ 0 ∨ s.pipe ≠ []
  reads : ∀ w r rest, s.wait = some w → s.pipe = r :: rest → w.Expects s.comp.aux r.command

/-! ## What a call does -/

variable {c : XafFlow}

/-- The loop sends buffers from the front of the pool, all of them if it does not fail. -/
lemma xafExecFills_spec {send : ℕ → ℤ} {length : U32} {n i : ℕ} {free free' : List ℕ}
    {sent : List XafMsg} {r : ℤ}
    (h : xafExecFills send length n i free = some (free', sent, r)) :
    (∀ m ∈ sent, m.opcode = .fillThisBuffer) ∧
    (free' : Multiset ℕ) + (sent.map XafMsg.buffer : List ℕ) ≤ free ∧
      (if r < 0 then sent.length < n else r = 0 ∧ sent.length = n) := by
  induction n generalizing i free sent with
  | zero =>
    obtain ⟨rfl, rfl, rfl⟩ : free = free' ∧ [] = sent ∧ 0 = r := by simpa [xafExecFills] using h
    simp
  | succ n ih =>
    cases free with
    | nil => simp [xafExecFills] at h
    | cons b free =>
      rw [xafExecFills] at h
      split_ifs at h with hsend
      · obtain ⟨rfl, rfl, rfl⟩ : free = free' ∧ [] = sent ∧ send i = r := by simpa using h
        simp only [List.not_mem_nil, false_imp_iff, implies_true, List.map_nil, Multiset.coe_nil,
          add_zero, true_and,
          List.length_nil, if_pos hsend, Nat.zero_lt_succ, and_true, ← Multiset.cons_coe]
        exact Multiset.le_cons_self _ _
      · obtain ⟨⟨free₀, sent₀, r₀⟩, h₀, heq⟩ := Option.map_eq_some_iff.mp h
        obtain ⟨rfl, rfl, rfl⟩ : free₀ = free' ∧ _ = sent ∧ r₀ = r := by simpa using heq
        obtain ⟨hfill, hle, hlen⟩ := ih h₀
        refine ⟨?_, ?_, ?_⟩
        · intro m hm
          rcases List.mem_cons.mp hm with rfl | hm
          · rfl
          · exact hfill m hm
        · rw [List.map_cons, ← Multiset.cons_coe, ← Multiset.cons_coe, Multiset.add_cons]
          exact Multiset.cons_le_cons b hle
        · split_ifs at hlen ⊢ with hr
          · exact Nat.succ_lt_succ hlen
          · exact ⟨hlen.1, by rw [List.length_cons, hlen.2]⟩

/-- The call has nothing to do. -/
def XafFlow.Ignores (c : XafFlow) : XafCompFlag → Prop
  | .start => c.startCmdIssued = true
  | .exec => c.initDone = false ∨ c.execCmdIssued = true
  | .inputOver | .inputReady => c.inputOver = true
  | .needOutput => c.expectOutCmd = 0

/-- Everything that a call of `xaf_comp_process` can do. -/
inductive XafProcessed (c : XafFlow) (buf : ℕ) : XafCompFlag → XafCall → Prop
  | same (flag : XafCompFlag) (r : ℤ) (hr : r = 0 → c.Ignores flag) :
      XafProcessed c buf flag ⟨c, [], .returns r⟩
  | startFails (r : ℤ) (hstart : c.startCmdIssued = false) (hr : r < 0) :
      XafProcessed c buf .start ⟨{ c with startBuf := c.aux }, [], .returns r⟩
  | start (hstart : c.startCmdIssued = false) :
      XafProcessed c buf .start
        ⟨{ c with startBuf := c.aux, startCmdIssued := true }, [⟨.fillThisBuffer, c.aux, 0⟩],
        if c.compType ≠ .decoder then .waits .start else .returns 0⟩
  | execNone (hinit : c.initDone = true) (hpool : c.outpool = none) :
      XafProcessed c buf .exec ⟨{ c with execCmdIssued := true }, [], .returns 0⟩
  | exec {free free' : List ℕ} {sent : List XafMsg} (r : ℤ) (pendingResp : U32)
      (hinit : c.initDone = true)
      (hexec : c.execCmdIssued = false) (hpool : c.outpool = some free)
        (hfill : ∀ m ∈ sent, m.opcode = .fillThisBuffer)
      (hle : (free' : Multiset ℕ) + (sent.map XafMsg.buffer : List ℕ) ≤ free)
      (hpending : pendingResp = if !c.inpool && 0 ≤ r then c.noutbuf else c.pendingResp)
      (hlen : if r < 0 then sent.length < c.noutbuf.toNat else r = 0 ∧
        sent.length = c.noutbuf.toNat) :
      XafProcessed c buf .exec
        ⟨{ c with execCmdIssued := true, outpool := some free', pendingResp := pendingResp },
          sent, .returns r⟩
  | inputOver (hover : c.inputOver = false) :
      XafProcessed c buf .inputOver ⟨{ c with inputOver := true, pendingResp := c.pendingResp + 1 },
        [⟨.emptyThisBuffer, 0, 0⟩], .returns 0⟩
  | inputReady (length : U32) (hover : c.inputOver = false) :
      XafProcessed c buf .inputReady
        ⟨{ c with pendingResp := c.pendingResp + 1 }, [⟨.emptyThisBuffer, buf, length⟩],
        .returns 0⟩
  | output (length pendingResp : U32) (hexpect : c.expectOutCmd ≠ 0)
      (hpending : pendingResp = if c.countsOutputs then c.pendingResp + 1 else c.pendingResp) :
      XafProcessed c buf .needOutput
        ⟨{ c with expectOutCmd := c.expectOutCmd - 1, pendingResp := pendingResp },
          [⟨.fillThisBuffer, buf, length⟩],
          .returns 0⟩

lemma xafCompProcess_cases {adev : Bool} {send : ℕ → ℤ} {buf : ℕ} {length : U32}
    {flag : XafCompFlag} {call : XafCall}
    (h : xafCompProcess adev send c buf length flag = some call) :
    XafProcessed c buf flag call := by
  unfold xafCompProcess at h
  split at h
  · cases h
    exact .same flag _ (by simp [xafPtrError])
  split at h
  · cases h
    exact .same flag _ (by simp [xafInvalidValue])
  have hfails (flag : XafCompFlag) (hsend : send 0 < 0) :
      XafProcessed c buf flag ⟨c, [], .returns (send 0)⟩ :=
    .same flag _ fun h => absurd h hsend.ne
  cases flag with
  | start =>
    dsimp only at h
    split_ifs at h with hstart hsend hdec
    · cases h
      exact .same _ _ fun _ => hstart
    · cases h
      exact .startFails _ (Bool.eq_false_iff.mpr hstart) hsend
    · cases h
      have : XafProcessed c buf .start _ := .start (Bool.eq_false_iff.mpr hstart)
      rwa [if_pos hdec] at this
    · cases h
      have : XafProcessed c buf .start _ := .start (Bool.eq_false_iff.mpr hstart)
      rwa [if_neg hdec] at this
  | exec =>
    dsimp only at h
    split at h
    · rename_i hignores
      cases h
      exact .same _ _ fun _ => by simpa [XafFlow.Ignores] using hignores
    · rename_i hrun
      obtain ⟨hinit, hexec⟩ : c.initDone = true ∧ c.execCmdIssued = false := by simpa using hrun
      split at h
      · rename_i hpool
        cases h
        exact .execNone hinit hpool
      · rename_i free hpool
        obtain ⟨⟨free', sent, r⟩, hfills, heq⟩ := Option.map_eq_some_iff.mp h
        obtain ⟨hfill, hle, hlen⟩ := xafExecFills_spec hfills
        dsimp only at heq
        split_ifs at heq with hr hin
        · cases heq
          refine .exec r c.pendingResp hinit hexec hpool hfill hle ?_ hlen
          rw [if_neg (by simp [not_le.mpr hr])]
        · obtain rfl : r = 0 := by simpa [hr] using And.left (by simpa [hr] using hlen)
          cases heq
          exact .exec 0 c.pendingResp hinit hexec hpool hfill hle (by simp [hin]) hlen
        · obtain rfl : r = 0 := by simpa [hr] using And.left (by simpa [hr] using hlen)
          cases heq
          exact .exec 0 c.noutbuf hinit hexec hpool hfill hle (by simp [hin]) hlen
  | inputOver =>
    dsimp only at h
    split_ifs at h with hover hsend
    · cases h
      exact .same _ _ fun _ => hover
    · cases h
      exact hfails _ hsend
    · cases h
      exact .inputOver (Bool.eq_false_iff.mpr hover)
  | inputReady =>
    dsimp only at h
    split_ifs at h with hover hptr hsend
    · cases h
      exact .same _ _ fun _ => hover
    · cases h
      exact .same _ _ (by simp [xafPtrError])
    · cases h
      exact hfails _ hsend
    · cases h
      exact .inputReady length (Bool.eq_false_iff.mpr hover)
  | needOutput =>
    dsimp only at h
    split_ifs at h with hexpect hptr hsend
    all_goals cases h
    · exact .same _ _ fun _ => hexpect
    · exact .same _ _ (by simp [xafPtrError])
    · exact hfails _ hsend
    · rename_i hcounts
      exact .output length _ hexpect (if_pos hcounts).symm
    · rename_i hcounts
      exact .output length _ hexpect (if_neg hcounts).symm

end Hikey
