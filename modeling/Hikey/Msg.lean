import Hikey.Foundation.Bytes

/-!
# Messages and message queues (`core/xf-msg.c`, `include/xf-msg.h`, `include/xf-opcode.h`)

A message is a record that is handed from one party to the next: while it sits in the queue of a
port or is under way, nobody else touches it, so the queues hold the records themselves.  Two
messages are the same when their pointers are.
-/

namespace Hikey

/-- A pointer to a message: a message of the proxy or of another component, or the item with index
`i` of the pool at the address `p`.  The item of the null pool is the null pointer. -/
inductive XfMessagePtr
  | proxy (k : ℕ)
  | item (p i : U32)
deriving DecidableEq, Repr

/-- The port specification of a source or destination, 16 bits of the session id. -/
abbrev XfPortSpec := BitVec 16

/-- `XF_PORT_ID`. -/
def XfPortSpec.portId (spec : XfPortSpec) : XfPortSpec := (spec >>> 8) &&& 0xF#16

/-- `__XF_MSG_ID`: the session id, its lower half the source and its upper half the destination. -/
structure XfMsgId where
  src : XfPortSpec
  dst : XfPortSpec
deriving DecidableEq, Repr

/-- The opcodes that a component tells apart, and any other one. -/
inductive XfOpcode
  | unregister
  | route
  | unroute
  | setParam
  | getParam
  | emptyThisBuffer
  | fillThisBuffer
  | flush
  | pause
  | resume
  | setParamExt
  | getParamExt
  | other
deriving DecidableEq, Repr

/-- `xf_message_t`. -/
structure XfMessage where
  ptr : XfMessagePtr
  id : XfMsgId
  opcode : XfOpcode
  length : U32
  buffer : U32
deriving DecidableEq, Repr

/-- `XF_MSG_DST_PORT`. -/
def XfMessage.dstPort (m : XfMessage) : XfPortSpec := m.id.dst.portId

/-- `xf_msg_enqueue`: the queue and whether it was empty. -/
def xfMsgEnqueue (queue : List XfMessage) (m : XfMessage) : List XfMessage × Bool :=
  (queue ++ [m], queue.isEmpty)

/-- `xf_msg_complete` swaps the source and the destination of a message. -/
def XfMessage.swap (m : XfMessage) : XfMessage := { m with id := ⟨m.id.dst, m.id.src⟩ }

/-- `xf_msg_complete` inside the DSP: an emptied buffer goes back as a buffer to fill, and a filled
one as a buffer to empty. -/
def XfMessage.turn (m : XfMessage) : XfMessage :=
  { m.swap with
    opcode := match m.opcode with
      | .emptyThisBuffer => .fillThisBuffer
      | .fillThisBuffer => .emptyThisBuffer
      | o => o }

/-- `xf_response_data` before the message is completed. -/
def XfMessage.withLength (m : XfMessage) (length : U32) : XfMessage := { m with length := length }

/-- `xf_response_ok` before the message is completed. -/
def XfMessage.ok (m : XfMessage) : XfMessage := m.withLength 0#32

/-- `xf_response_err` before the message is completed. -/
def XfMessage.err (m : XfMessage) : XfMessage := { m with opcode := .unregister, length := 0#32 }

@[simp] lemma XfMessage.ptr_swap (m : XfMessage) : m.swap.ptr = m.ptr := rfl

@[simp] lemma XfMessage.ptr_turn (m : XfMessage) : m.turn.ptr = m.ptr := rfl

@[simp] lemma XfMessage.ptr_withLength (m : XfMessage) (n : U32) :
    (m.withLength n).ptr = m.ptr := rfl

@[simp] lemma XfMessage.ptr_ok (m : XfMessage) : m.ok.ptr = m.ptr := rfl

@[simp] lemma XfMessage.ptr_err (m : XfMessage) : m.err.ptr = m.ptr := rfl

@[simp] lemma XfMessage.turn_turn (m : XfMessage) : m.turn.turn = m := by
  obtain ⟨p, i, o, l, b⟩ := m
  cases o <;> rfl

end Hikey
