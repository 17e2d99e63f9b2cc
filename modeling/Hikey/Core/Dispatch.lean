import Hikey.Core.Client

/-!
# The dispatch of host commands (`core/xf-core.c`)

A command of the host goes from `xf_msg_submit` through the dispatch queue of a core to
`xf_core_dispatch`.  `XfDispatch` records where that ends, and which entries of the per-core arrays
and of the client map are accessed on the way, responses of the framework included.
-/

namespace Hikey

namespace Core

/-- `XF_CFG_CORES_NUM`. -/
def xfCfgCoresNum : ℕ := 1

/-- A message from the host. -/
structure XfCommand where
  id : U32
  opcode : U32
  length : U32
  buffer : U32
deriving DecidableEq, Repr

/-- The handlers of the proxy. -/
inductive XfProxyHandler
  | register
  | alloc
  | free
  | output
  | flush
deriving DecidableEq, Repr

/-- `XF_PROXY_CMD_NUM`: the table ends with the entry of `XF_FLUSH`. -/
def xfProxyCmdNum : U32 := 11#32

/-- `xf_proxy_cmd`; the entries that the table does not name are null. -/
def xfProxyCmd (type : U32) : Option XfProxyHandler :=
  if type = 1#32 then some .register
  else if type = 4#32 then some .alloc
  else if type = 5#32 then some .free
  else if type = 9#32 then some .output
  else if type = 10#32 then some .flush
  else none

/-- How the dispatch of a command ends: in a handler of the proxy, in the entry point of the
component at an address, in an error response to the host or to a component, in a call of a null
entry of the command table, or on the queue of a core that does not exist. -/
inductive XfDispatchEnd
  | handler (h : XfProxyHandler)
  | entry (component : U32)
  | error
  | errorLocal
  | null
  | lost
deriving DecidableEq, Repr

/-- The end of a dispatch, the core numbers that index per-core arrays, and the client numbers that
index the client map. -/
structure XfDispatch where
  ending : XfDispatchEnd
  cores : List U32
  clients : List U32
deriving DecidableEq, Repr

/-- The core numbers that `xf_msg_submit` uses: that of the dispatch queue. -/
def xfMsgSubmitCores (id : U32) : List U32 :=
  let src := xfMsgSrcCore id
  let dst := xfMsgDstCore id
  if src ^^^ dst ≠ 0#32 then [dst] else [src]

/-- The core numbers that `xf_msg_complete` uses: that of the response queue for a message that came
from a proxy, else those of `xf_msg_submit`. -/
def xfMsgCompleteCores (id : U32) : List U32 :=
  let id := xfMsgSwap id
  if xfMsgDstProxy id then [xfMsgDstCore id] else xfMsgSubmitCores id

/-- `xf_response_err`. -/
def xfResponseErr (id : U32) (clients : List U32) : XfDispatch where
  ending := if xfMsgSrcProxy id then .error else .errorLocal
  cores := xfMsgCompleteCores id
  clients := clients

/-- The session id of the response of a handler.  A successful registration has put the new
component into it; a handler that fails leaves it to the error response of `xf_proxy_command`. -/
def xfProxyResponseId (cd : XfCoreData) (component : U32) (m : XfCommand) : XfProxyHandler → U32
  | .register => match (xfProxyRegister 0#32 cd m.id component).1 with
    | .ok session => session
    | .error _ => m.id
  | .alloc | .free | .output | .flush => m.id

/-- `xf_proxy_command` with the response of the handler or of the command itself. -/
def xfProxyCommand (factory : U32 → U32 → U32) (cd : XfCoreData) (m : XfCommand) : XfDispatch :=
  let opcode := m.opcode
  if xfOpcodeType opcode < xfProxyCmdNum then
    match xfProxyCmd (xfOpcodeType opcode) with
    | some h => {
        ending := .handler h
        cores := xfMsgCompleteCores (xfProxyResponseId cd (factory m.buffer m.length) m h)
        clients := [] }
    | none => { ending := .null, cores := [], clients := [] }
  else xfResponseErr m.id []

/-- `xf_core_dispatch`. -/
def xfCoreDispatch (factory : U32 → U32 → U32) (cd : XfCoreData) (m : XfCommand) : XfDispatch :=
  if xfMsgDstProxy m.id then xfProxyCommand factory cd m
  else
    let client := xfMsgDstClient m.id
    let component := xfClientLookup cd client
    if component ≠ 0#32 then { ending := .entry component, cores := [], clients := [client] }
    else xfResponseErr m.id [client]

/-- `xf_msg_submit`, and `xf_core_dispatch` on the core of the queue if there is one. -/
def xfCommandDispatch (factory : U32 → U32 → U32) (cd : XfCoreData) (m : XfCommand) : XfDispatch :=
  let cores := xfMsgSubmitCores m.id
  if ∀ c ∈ cores, c.toNat < xfCfgCoresNum then
    let d := xfCoreDispatch factory cd m
    { d with cores := cores ++ d.cores }
  else { ending := .lost, cores := cores, clients := [] }

/-- A dispatch is in order: it ends in a handler, in the live component of the destination or in an
error response to the host, and all accesses are inside the arrays. -/
def XfDispatch.Ok (s : XfClients) (m : XfCommand) (d : XfDispatch) : Prop :=
  ((∃ h, d.ending = .handler h) ∨
    (∃ c ∈ s.live, c.client = xfMsgDstClient m.id ∧ d.ending = .entry c.component) ∨
    d.ending = .error) ∧
  (∀ c ∈ d.cores, c.toNat < xfCfgCoresNum) ∧ ∀ c ∈ d.clients, c < xfCfgMaxClients

/-- The commands that are dispatched in order: the destination is on core 0, and either it is the
proxy and the opcode has a handler or is beyond the table, or it is a component that is live; what
is answered with an error comes from the proxy on core 0, and what a handler answers comes from core
0. -/
def XfCommand.Dispatched (s : XfClients) (m : XfCommand) : Prop :=
  xfMsgDstCore m.id = 0#32 ∧
    if xfMsgDstProxy m.id then
      xfMsgSrcCore m.id = 0#32 ∧ ((xfProxyCmd (xfOpcodeType m.opcode)).isSome ∨
        xfProxyCmdNum ≤ xfOpcodeType m.opcode ∧ xfMsgSrcProxy m.id)
    else (∃ c ∈ s.live, c.client = xfMsgDstClient m.id) ∨
      xfMsgSrcCore m.id = 0#32 ∧ xfMsgSrcProxy m.id

section Cores

variable {id : U32}

lemma toNat_lt_xfCfgCoresNum {c : U32} : c.toNat < xfCfgCoresNum ↔ c = 0#32 := by
  rw [xfCfgCoresNum, Nat.lt_one_iff, ← BitVec.toNat_inj]
  rfl

variable (id) in
/-- The dispatch queue is that of core 0 exactly when the destination is on core 0. -/
lemma xfMsgSubmitCores_lt :
    (∀ c ∈ xfMsgSubmitCores id, c.toNat < xfCfgCoresNum) ↔ xfMsgDstCore id = 0#32 := by
  unfold xfMsgSubmitCores
  simp only [toNat_lt_xfCfgCoresNum]
  by_cases h : xfMsgSrcCore id ^^^ xfMsgDstCore id = 0#32
  · have heq : xfMsgSrcCore id = xfMsgDstCore id := BitVec.xor_eq_zero_iff.1 h
    simp [heq]
  · simp [h]

/-- A message to core 0 is answered through core 0 exactly when it comes from there. -/
lemma xfMsgCompleteCores_lt :
    (∀ c ∈ xfMsgCompleteCores id, c.toNat < xfCfgCoresNum) ↔ xfMsgSrcCore id = 0#32 := by
  unfold xfMsgCompleteCores
  by_cases hproxy : xfMsgSrcProxy id = true
  · simp [hproxy, toNat_lt_xfCfgCoresNum]
  · simp only [xfMsgDstProxy_swap, hproxy]
    simpa using xfMsgSubmitCores_lt (xfMsgSwap id)

/-- A successful registration leaves the source of the session id. -/
lemma xfMsgSrc_xfProxyRegister {core component session : U32} {cd : XfCoreData}
    (h : (xfProxyRegister core cd id component).1 = .ok session) :
    xfMsgSrc session = xfMsgSrc id := by
  simp only [xfProxyRegister] at h
  split_ifs at h
  rw [← Except.ok.inj h, xfMsgSrc_msgId, xfMsgSrc, BitVec.and_assoc]
  rfl

/-- A handler answers the source of its command. -/
lemma xfMsgSrcCore_response (cd : XfCoreData) (component : U32) (m : XfCommand)
    (h : XfProxyHandler) :
    xfMsgSrcCore (xfProxyResponseId cd component m h) = xfMsgSrcCore m.id := by
  cases h with
  | register =>
    simp only [xfProxyResponseId]
    split
    · rename_i session hsession
      rw [xfMsgSrcCore_eq, xfMsgSrc_xfProxyRegister hsession, ← xfMsgSrcCore_eq]
    · rfl
  | alloc | free | output | flush => rfl

end Cores

section Dispatch

variable {s : XfClients} {m : XfCommand}

/-- An error response is in order exactly when it goes to the host through core 0. -/
lemma xfResponseErr_ok {clients : List U32} (hclients : ∀ c ∈ clients, c < xfCfgMaxClients) :
    (xfResponseErr m.id clients).Ok s m ↔ xfMsgSrcCore m.id = 0#32 ∧ xfMsgSrcProxy m.id = true := by
  simp only [XfDispatch.Ok, xfResponseErr, xfMsgCompleteCores_lt]
  by_cases hproxy : xfMsgSrcProxy m.id = true
  · simp only [hproxy, if_true, or_true, true_and, and_true]
    exact and_iff_left hclients
  · simp [hproxy]

/-- The table has no handler behind its end. -/
lemma xfProxyCmd_lt {type : U32} (h : (xfProxyCmd type).isSome = true) : type < xfProxyCmdNum := by
  unfold xfProxyCmd at h
  split_ifs at h with h1 h2 h3 h4 h5
  · subst h1; decide
  · subst h2; decide
  · subst h3; decide
  · subst h4; decide
  · subst h5; decide
  · simp at h

/-- A command to the proxy is in order exactly when its opcode has a handler, or is beyond the table
and the error goes to the host, and the answer goes through core 0. -/
lemma xfProxyCommand_ok (factory : U32 → U32 → U32) (cd : XfCoreData) :
    (xfProxyCommand factory cd m).Ok s m ↔ xfMsgSrcCore m.id = 0#32 ∧
      ((xfProxyCmd (xfOpcodeType m.opcode)).isSome = true ∨
        xfProxyCmdNum ≤ xfOpcodeType m.opcode ∧ xfMsgSrcProxy m.id = true) := by
  by_cases hlt : xfOpcodeType m.opcode < xfProxyCmdNum
  · have hle : ¬ xfProxyCmdNum ≤ xfOpcodeType m.opcode := BitVec.not_le.2 hlt
    cases hcmd : xfProxyCmd (xfOpcodeType m.opcode) with
    | some h =>
      simp only [xfProxyCommand, hlt, if_true, hcmd, XfDispatch.Ok, xfMsgCompleteCores_lt,
        xfMsgSrcCore_response]
      simp
    | none =>
      simp only [xfProxyCommand, hlt, if_true, hcmd, XfDispatch.Ok]
      simp [hle]
  · have hle : xfProxyCmdNum ≤ xfOpcodeType m.opcode := BitVec.not_lt.1 hlt
    have hnone : ¬ (xfProxyCmd (xfOpcodeType m.opcode)).isSome = true := mt xfProxyCmd_lt hlt
    simp only [xfProxyCommand, hlt, if_false]
    rw [xfResponseErr_ok (by simp)]
    simp [hle, hnone]

/-- A command to a component is in order exactly when the component is live or the error goes to the
host through core 0. -/
lemma xfCoreDispatch_ok (hs : XfClientsOk s) (factory : U32 → U32 → U32)
    (hproxy : xfMsgDstProxy m.id = false) :
    (xfCoreDispatch factory s.cd m).Ok s m ↔ (∃ c ∈ s.live, c.client = xfMsgDstClient m.id) ∨
      xfMsgSrcCore m.id = 0#32 ∧ xfMsgSrcProxy m.id = true := by
  have hclient := xfMsgDstClient_lt_max m.id
  have hclients : ∀ c ∈ [xfMsgDstClient m.id], c < xfCfgMaxClients := by simpa using hclient
  by_cases hlive : ∃ c ∈ s.live, c.client = xfMsgDstClient m.id
  · obtain ⟨c, hc, he⟩ := hlive
    have hlookup : xfClientLookup s.cd (xfMsgDstClient m.id) = c.component := by
      rw [← he, hs.lookup_live c hc]
    have hne : c.component ≠ 0#32 := hs.component_ne c hc
    refine iff_of_true ?_ (.inl ⟨c, hc, he⟩)
    simp only [xfCoreDispatch, hproxy, hlookup, ne_eq, hne, not_false_eq_true, if_true]
    exact ⟨.inr (.inl ⟨c, hc, he, rfl⟩), by simp, hclients⟩
  · have hlookup : xfClientLookup s.cd (xfMsgDstClient m.id) = 0#32 := by
      refine hs.lookup_none _ hclient fun c hc he => hlive ⟨c, hc, he⟩
    simp only [xfCoreDispatch, hproxy, hlookup]
    simp only [ne_eq, not_true_eq_false, if_false, Bool.false_eq_true]
    rw [xfResponseErr_ok hclients]
    exact ⟨.inr, fun h => h.resolve_left hlive⟩

/-- What the submission accesses comes on top of what the dispatch accesses. -/
lemma XfDispatch.Ok.submit {d : XfDispatch} {cores : List U32}
    (hcores : ∀ c ∈ cores, c.toNat < xfCfgCoresNum) :
    ({ d with cores := cores ++ d.cores } : XfDispatch).Ok s m ↔ d.Ok s m := by
  have happend : (∀ c ∈ cores ++ d.cores, c.toNat < xfCfgCoresNum) ↔
      ∀ c ∈ d.cores, c.toNat < xfCfgCoresNum :=
    ⟨fun h c hc => h c (List.mem_append_right _ hc),
      fun h c hc => (List.mem_append.1 hc).elim (hcores c) (h c)⟩
  simp only [XfDispatch.Ok, happend]

end Dispatch

/-- In every reachable state of the core, a host command is dispatched in order exactly when it is
one of `XfCommand.Dispatched`. -/
theorem xfCommandDispatch_ok_iff (factory : U32 → U32 → U32) (s : XfClients)
    (hrun : Relation.ReflTransGen XfClientsStep .init s) (m : XfCommand) :
    (xfCommandDispatch factory s.cd m).Ok s m ↔ m.Dispatched s := by
  have hs := xfClients_ok hrun
  by_cases hdst : xfMsgDstCore m.id = 0#32
  · have hcores := (xfMsgSubmitCores_lt _).2 hdst
    rw [xfCommandDispatch, if_pos hcores, XfDispatch.Ok.submit hcores]
    cases hproxy : xfMsgDstProxy m.id with
    | true =>
      simp only [xfCoreDispatch, hproxy, if_true, XfCommand.Dispatched, hdst, true_and]
      exact xfProxyCommand_ok factory s.cd
    | false =>
      rw [xfCoreDispatch_ok hs factory hproxy]
      simp only [XfCommand.Dispatched, hdst, hproxy, true_and, Bool.false_eq_true, if_false]
  · have hcores := mt (xfMsgSubmitCores_lt _).1 hdst
    rw [xfCommandDispatch, if_neg hcores]
    refine iff_of_false (fun h => ?_) fun h => hdst h.1
    simp [XfDispatch.Ok] at h

/-- A message to a component that is not there, before any registration. -/
theorem xfCommandDispatch_ok_iff_init :
    (xfCommandDispatch (fun _ _ => 0#32) XfClients.init.cd ⟨0x00008000#32, 0#32, 0#32, 0#32⟩).Ok
      .init ⟨0x00008000#32, 0#32, 0#32, 0#32⟩ :=
  (xfCommandDispatch_ok_iff _ .init .refl _).2 ⟨by decide, by simp; decide⟩

/-- A command with the opcode of `XF_ROUTE` to the proxy calls a null entry of the command table. -/
theorem xfCommandDispatch_route :
    xfCommandDispatch (fun _ _ => 0#32) XfClients.init.cd
      ⟨0x80008000#32, 0x80000002#32, 0#32, 0#32⟩ = ⟨.null, [0#32], []⟩ ∧
    ¬ (xfCommandDispatch (fun _ _ => 0#32) XfClients.init.cd
      ⟨0x80008000#32, 0x80000002#32, 0#32, 0#32⟩).Ok .init
        ⟨0x80008000#32, 0x80000002#32, 0#32, 0#32⟩ := by
  have h : xfCommandDispatch (fun _ _ => 0#32) XfClients.init.cd
      ⟨0x80008000#32, 0x80000002#32, 0#32, 0#32⟩ = ⟨.null, [0#32], []⟩ := by
    simp [xfCommandDispatch, xfMsgSubmitCores, xfMsgSrcCore, xfMsgDstCore, xfCfgCoresNum,
      xfCoreDispatch, xfMsgDstProxy, xfProxyCommand, xfOpcodeType, xfProxyCmdNum, xfProxyCmd]
  refine ⟨h, ?_⟩
  rw [h]
  simp [XfDispatch.Ok]

end Core

end Hikey
