import Hikey.Core.SessionId
import Hikey.Foundation.Ring
import Hikey.Msg

/-!
# The shared-memory layer (`core/xf-shmem.c`, `include/xf-proxy.h`, `core/xf-msg.c`)

Commands come from the host and responses go back to it over two rings in shared memory.  Inside the
DSP a message is one object of a pool that is moved between lists which all use its field `next`:
the free list of the pool, the dispatch queues and the response queue.  A step of the layer is one
step of the host on a ring, one half of an iteration of `xf_shmem_process_input` or
`xf_shmem_process_output` (the host sees a slot between its access and the publication of the
index), the dispatch of a message, or its completion by whoever holds it.
-/

namespace Hikey

namespace Shmem

/-- `xf_proxy_message_t`: what is in a slot of a ring. -/
structure XfProxyMessage where
  sessionId : U32
  opcode : U32
  length : U32
  address : BitVec 64
deriving DecidableEq, Repr

/-- `XF_PROXY_MESSAGE_QUEUE_LENGTH`. -/
def xfProxyMessageQueueLength : U32 := 1#32 <<< 8

/-- `XF_PROXY_MESSAGE_QUEUE_MASK`. -/
def xfProxyMessageQueueMask : U32 := 0xFF#32

/-- `XF_QUEUE_IDX`. -/
def xfQueueIdx (idx : U32) : U32 := idx &&& xfProxyMessageQueueMask

/-- `XF_QUEUE_ADVANCE_IDX`. -/
def xfQueueAdvanceIdx (idx : U32) : U32 :=
  (idx + 0x10001#32) &&& (0xFFFF0000#32 ||| xfProxyMessageQueueMask)

/-- `XF_QUEUE_EMPTY`. -/
def xfQueueEmpty (read write : U32) : Bool := read == write

/-- `XF_QUEUE_FULL`. -/
def xfQueueFull (read write : U32) : Bool :=
  write == read + (xfProxyMessageQueueLength <<< 16)

/-- The ring macros; the indices start from zero. -/
def xfQueue : RingIndex U32 where
  start := 0#32
  advance := xfQueueAdvanceIdx
  slot := fun idx => (xfQueueIdx idx).toNat
  isEmpty := xfQueueEmpty
  isFull := xfQueueFull

/-- `XF_CFG_MESSAGE_POOL_SIZE`. -/
def xfCfgMessagePoolSize : ℕ := 256

/-- `XF_CFG_REMOTE_IPC_POOL_SIZE`. -/
def xfCfgRemoteIpcPoolSize : U32 := 256#32 <<< 10

/-- `XF_PROXY_NULL`. -/
def xfProxyNull : U32 := 0xFFFFFFFF#32

/-- `xf_ipc_a2b` with the shared buffer at `start`. -/
def xfIpcA2b (start address : U32) : U32 :=
  if address < xfCfgRemoteIpcPoolSize then start + address
  else if address = xfProxyNull then 0#32
  else 0xFFFFFFFF#32

/-- `xf_ipc_b2a` with the shared buffer at `start`. -/
def xfIpcB2a (start b : U32) : U32 :=
  if b = 0#32 then xfProxyNull
  else if (b - start).slt xfCfgRemoteIpcPoolSize then b - start
  else xfCfgRemoteIpcPoolSize

/-- The lists a message can be on: the free list of the pool, and for every core number the dispatch
queue of `xf_core_data`, and the dispatch and the response queue of `xf_core_rw_data`.  The arrays
have `XF_CFG_CORES_NUM = 1` entries; the queues of another core number stand for the memory behind
them. -/
inductive XfMsgList
  | pool
  | queue (core : U32)
  | localIpc (core : U32)
  | remote (core : U32)
deriving DecidableEq, Repr

/-- The fields of `xf_message_t` other than the link. -/
structure XfMsgBody where
  id : U32
  opcode : U32
  length : U32
  buffer : U32
deriving DecidableEq, Repr

/-- The message objects and the lists they are linked on.  The pool has a head only. -/
structure XfMsgData where
  next : XfMessagePtr → Option XfMessagePtr
  body : XfMessagePtr → XfMsgBody
  head : XfMsgList → Option XfMessagePtr
  tail : XfMsgList → Option XfMessagePtr

/-- `xf_msg_enqueue`. -/
def xfMsgEnqueue (d : XfMsgData) (q : XfMsgList) (m : XfMessagePtr) : XfMsgData :=
  let next := Function.update d.next m none
  match d.head q with
  | none => { d with
      next := next
      head := Function.update d.head q (some m)
      tail := Function.update d.tail q (some m) }
  | some _ => { d with
      next := match d.tail q with
        | some t => Function.update next t (some m)
        | none => next
      tail := Function.update d.tail q (some m) }

/-- `xf_msg_dequeue`. -/
def xfMsgDequeue (d : XfMsgData) (q : XfMsgList) : Option (XfMessagePtr × XfMsgData) :=
  match d.head q with
  | none => none
  | some m => some (m, { d with
      next := Function.update d.next m none
      head := Function.update d.head q (d.next m)
      tail := Function.update d.tail q (if d.next m = none then none else d.tail q) })

/-- `xf_msg_pool_get` on the global pool. -/
def xfMsgPoolGet (d : XfMsgData) : Option (XfMessagePtr × XfMsgData) :=
  match d.head .pool with
  | none => none
  | some m => some (m, { d with
      next := Function.update d.next m none
      head := Function.update d.head .pool (d.next m) })

/-- `xf_msg_pool_put` on the global pool. -/
def xfMsgPoolPut (d : XfMsgData) (m : XfMessagePtr) : XfMsgData :=
  { d with
    next := Function.update d.next m (d.head .pool)
    head := Function.update d.head .pool (some m) }

/-- `xf_msg_pool_init` on the global pool: link the messages in the order of the array. -/
def xfMsgPoolInit (d : XfMsgData) (n : ℕ) : XfMsgData :=
  let next := (List.range (n - 1)).foldl
    (fun (next : XfMessagePtr → Option XfMessagePtr) i =>
      Function.update next (.proxy i) (some (.proxy (i + 1)))) d.next
  { d with
    next := Function.update next (.proxy (n - 1)) none
    head := Function.update d.head .pool (some (.proxy 0)) }

/-- `xf_msg_submit`: messages between two cores go through the dispatch queue that the cores share.
-/
def xfMsgSubmit (d : XfMsgData) (m : XfMessagePtr) : XfMsgData :=
  let src := xfMsgSrcCore (d.body m).id
  let dst := xfMsgDstCore (d.body m).id
  if src ^^^ dst ≠ 0#32 then xfMsgEnqueue d (.localIpc dst) m else xfMsgEnqueue d (.queue src) m

/-- `xf_msg_proxy_put`. -/
def xfMsgProxyPut (d : XfMsgData) (m : XfMessagePtr) : XfMsgData :=
  xfMsgEnqueue d (.remote (xfMsgDstCore (d.body m).id)) m

/-- `xf_msg_proxy_get`. -/
def xfMsgProxyGet (d : XfMsgData) (core : U32) : Option (XfMessagePtr × XfMsgData) :=
  xfMsgDequeue d (.remote core)

/-- A message with its fields written. -/
def XfMsgData.write (d : XfMsgData) (m : XfMessagePtr) (b : XfMsgBody) : XfMsgData :=
  { d with body := Function.update d.body m b }

/-- The opcode that a completed message has inside the DSP. -/
def xfTurnOpcode (opcode : U32) : U32 :=
  if opcode = xfEmptyThisBuffer then xfFillThisBuffer
  else if opcode = xfFillThisBuffer then xfEmptyThisBuffer
  else opcode

/-- `xf_msg_complete`. -/
def xfMsgComplete (d : XfMsgData) (m : XfMessagePtr) : XfMsgData :=
  let b := { d.body m with id := xfMsgSwap (d.body m).id }
  if xfMsgDstProxy b.id then xfMsgProxyPut (d.write m b) m
  else xfMsgSubmit (d.write m { b with opcode := xfTurnOpcode b.opcode }) m

/-- The state of the layer on core 0.  `held m` says that a component, or the proxy in the course of
a command, has the message `m`; `input` and `output` are the messages of the iterations under way in
`xf_shmem_process_input` and `xf_shmem_process_output`.  As history, `serial` numbers the command
that a message carries, and `answered` lists the numbers of the commands responded to. -/
structure XfShmem where
  cmd : RingState U32 XfProxyMessage
  rsp : RingState U32 XfProxyMessage
  data : XfMsgData
  held : XfMessagePtr → Bool
  input : Option XfMessagePtr
  output : Option XfMessagePtr
  serial : XfMessagePtr → ℕ
  answered : List ℕ

/-- The commands that `xf_shmem_process_input` has taken: those whose slot has been given back to
the host, and the one of an iteration under way. -/
def XfShmem.commands (s : XfShmem) : List XfProxyMessage :=
  match s.cmd.consumer with
  | .access _ _ c => s.cmd.taken ++ [c]
  | _ => s.cmd.taken

/-- One step of the shared-memory layer, with the shared buffer at `start`. -/
inductive XfShmemStep (start : U32) : XfShmem → XfShmem → Prop
  /-- The host posts commands. -/
  | hostPost (s : XfShmem) (cmd : RingState U32 XfProxyMessage)
      (h : RingProduce xfQueue s.cmd cmd) : XfShmemStep start s { s with cmd := cmd }
  /-- The host takes responses. -/
  | hostTake (s : XfShmem) (rsp : RingState U32 XfProxyMessage)
      (h : RingConsume xfQueue s.rsp rsp) : XfShmemStep start s { s with rsp := rsp }
  /-- `xf_shmem_process_input` reads both indices. -/
  | inputEnter (s : XfShmem) (h : s.cmd.consumer = .idle) :
      XfShmemStep start s { s with
        cmd := { s.cmd with consumer := .loop s.cmd.read s.cmd.write } }
  /-- `xf_shmem_process_input` leaves its loop: no command, or no message in the pool. -/
  | inputLeave (s : XfShmem) (readIdx writeIdx : U32) (h : s.cmd.consumer = .loop readIdx writeIdx)
      (hleave : xfQueueEmpty readIdx writeIdx = true ∨ xfMsgPoolGet s.data = none) :
      XfShmemStep start s { s with cmd := { s.cmd with consumer := .idle } }
  /-- `xf_shmem_process_input` gets a message and copies the oldest command. -/
  | inputGet (s : XfShmem) (readIdx writeIdx : U32) (m : XfMessagePtr) (data : XfMsgData)
      (h : s.cmd.consumer = .loop readIdx writeIdx)
      (hempty : xfQueueEmpty readIdx writeIdx = false) (hget : xfMsgPoolGet s.data = some (m, data))
      (command : XfProxyMessage) (hcommand : command = s.cmd.slots (xfQueueIdx readIdx).toNat) :
      XfShmemStep start s { s with
        cmd := { s.cmd with consumer := .access (xfQueueAdvanceIdx readIdx) writeIdx command }
        data := data.write m {
          id := command.sessionId
          opcode := command.opcode
          length := command.length
          buffer := xfIpcA2b start (command.address.setWidth 32) }
        input := some m
        serial := Function.update s.serial m s.cmd.taken.length }
  /-- `xf_shmem_process_input` publishes the reading index and submits the message. -/
  | inputSubmit (s : XfShmem) (readIdx writeIdx : U32) (command : XfProxyMessage) (m : XfMessagePtr)
      (h : s.cmd.consumer = .access readIdx writeIdx command) (hm : s.input = some m) :
      XfShmemStep start s { s with
        cmd := { s.cmd with
          read := readIdx
          consumer := .loop readIdx writeIdx
          taken := s.cmd.taken ++ [command] }
        data := xfMsgSubmit s.data m
        input := none }
  /-- `xf_shmem_process_output` reads both indices. -/
  | outputEnter (s : XfShmem) (h : s.rsp.producer = .idle) :
      XfShmemStep start s { s with
        rsp := { s.rsp with producer := .loop s.rsp.read s.rsp.write } }
  /-- `xf_shmem_process_output` leaves its loop: no space, or no response. -/
  | outputLeave (s : XfShmem) (readIdx writeIdx : U32)
      (h : s.rsp.producer = .loop readIdx writeIdx)
      (hleave : xfQueueFull readIdx writeIdx = true ∨ xfMsgProxyGet s.data 0#32 = none) :
      XfShmemStep start s { s with rsp := { s.rsp with producer := .idle } }
  /-- `xf_shmem_process_output` gets a response and writes it to its slot. -/
  | outputGet (s : XfShmem) (readIdx writeIdx : U32) (m : XfMessagePtr) (data : XfMsgData)
      (h : s.rsp.producer = .loop readIdx writeIdx)
      (hfull : xfQueueFull readIdx writeIdx = false)
      (hget : xfMsgProxyGet s.data 0#32 = some (m, data)) (response : XfProxyMessage)
      (hresponse : response = {
        sessionId := (data.body m).id
        opcode := (data.body m).opcode
        length := (data.body m).length
        address := (xfIpcB2a start (data.body m).buffer).setWidth 64 }) :
      XfShmemStep start s { s with
        rsp := { s.rsp with
          slots := Function.update s.rsp.slots (xfQueueIdx writeIdx).toNat response
          producer := .access readIdx (xfQueueAdvanceIdx writeIdx) response }
        data := data
        output := some m }
  /-- `xf_shmem_process_output` returns the message to the pool and publishes the writing index. -/
  | outputPut (s : XfShmem) (readIdx writeIdx : U32) (response : XfProxyMessage) (m : XfMessagePtr)
      (h : s.rsp.producer = .access readIdx writeIdx response) (hm : s.output = some m) :
      XfShmemStep start s { s with
        rsp := { s.rsp with
          write := writeIdx
          producer := .loop readIdx writeIdx
          posted := s.rsp.posted ++ [response] }
        data := xfMsgPoolPut s.data m
        output := none
        answered := s.answered ++ [s.serial m] }
  /-- `xf_core_service` takes a message off a dispatch queue of core 0 and hands it over. -/
  | dispatch (s : XfShmem) (q : XfMsgList) (m : XfMessagePtr) (data : XfMsgData)
      (hq : q = .localIpc 0#32 ∨ q = .queue 0#32) (hget : xfMsgDequeue s.data q = some (m, data)) :
      XfShmemStep start s { s with data := data, held := Function.update s.held m true }
  /-- The holder of a message completes it.  Before, it may have written the fields of the message
  except for the source, and given it another destination on core 0.  Only messages of the pool go
  to the proxy. -/
  | complete (s : XfShmem) (m : XfMessagePtr) (b : XfMsgBody) (hm : s.held m = true)
      (hsrc : xfMsgSrc b.id = xfMsgSrc (s.data.body m).id)
      (hdst : xfMsgDstCore b.id = xfMsgDstCore (s.data.body m).id ∨ xfMsgDstCore b.id = 0#32)
      (hpool : xfMsgSrcProxy b.id = true → ∃ i < xfCfgMessagePoolSize, m = .proxy i) :
      XfShmemStep start s { s with
        data := xfMsgComplete (s.data.write m b) m
        held := Function.update s.held m false }

/-- The layer before its initialisation: nothing is linked, and the components hold the messages of
their own pools. -/
def XfMsgData.blank (body : XfMessagePtr → XfMsgBody) : XfMsgData where
  next := fun _ => none
  body := body
  head := fun _ => none
  tail := fun _ => none

/-- The state after `xf_shmem_init`. -/
def XfShmem.init (command response : ℕ → XfProxyMessage) (body : XfMessagePtr → XfMsgBody) :
    XfShmem where
  cmd := RingState.init xfQueue command
  rsp := RingState.init xfQueue response
  data := xfMsgPoolInit (XfMsgData.blank body) xfCfgMessagePoolSize
  held := fun
    | .proxy _ => false
    | .item _ _ => true
  input := none
  output := none
  serial := fun _ => 0
  answered := []

end Shmem

end Hikey
