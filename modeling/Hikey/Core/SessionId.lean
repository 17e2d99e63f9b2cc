import Hikey.Foundation.Bytes

/-!
# Session ids and opcodes as words (`include/xf-opcode.h`)

A session id packs a source and a destination of 16 bits each: two bits of the core, six of the
client, four of the port, and the top bit for the proxy.
-/

namespace Hikey

/-- `__XF_PORT_SPEC`. -/
def xfPortSpec (core id port : U32) : U32 := core ||| (id <<< 2) ||| (port <<< 8)

/-- `__XF_MSG_ID`. -/
def xfMsgId (src dst : U32) : U32 := (src &&& 0xFFFF#32) ||| ((dst &&& 0xFFFF#32) <<< 16)

/-- `XF_MSG_SRC`. -/
def xfMsgSrc (id : U32) : U32 := id &&& 0xFFFF#32

/-- `XF_MSG_SRC_CORE`. -/
def xfMsgSrcCore (id : U32) : U32 := id &&& 0x3#32

/-- `XF_MSG_SRC_PROXY`. -/
def xfMsgSrcProxy (id : U32) : Bool := (id >>> 15) &&& 0x1#32 != 0#32

/-- `XF_MSG_DST`. -/
def xfMsgDst (id : U32) : U32 := (id >>> 16) &&& 0xFFFF#32

/-- `XF_MSG_DST_CORE`. -/
def xfMsgDstCore (id : U32) : U32 := (id >>> 16) &&& 0x3#32

/-- `XF_MSG_DST_CLIENT`. -/
def xfMsgDstClient (id : U32) : U32 := (id >>> 18) &&& 0x3F#32

/-- `XF_MSG_DST_PROXY`. -/
def xfMsgDstProxy (id : U32) : Bool := (id >>> 31) &&& 0x1#32 != 0#32

/-- `XF_OPCODE_TYPE`. -/
def xfOpcodeType (opcode : U32) : U32 := opcode &&& 0x3F#32

/-- `XF_EMPTY_THIS_BUFFER`. -/
def xfEmptyThisBuffer : U32 := 0x80000008#32

/-- `XF_FILL_THIS_BUFFER`. -/
def xfFillThisBuffer : U32 := 0x40000009#32

/-- `xf_msg_complete` swaps the two halves of the session id. -/
def xfMsgSwap (id : U32) : U32 := xfMsgId (xfMsgDst id) (xfMsgSrc id)

lemma xfMsgDst_msgId (src dst : U32) : xfMsgDst (xfMsgId src dst) = dst &&& 0xFFFF#32 := by
  rw [xfMsgDst, xfMsgId]
  ext i hi
  interval_cases i <;> simp

lemma xfMsgSrc_msgId (src dst : U32) : xfMsgSrc (xfMsgId src dst) = src &&& 0xFFFF#32 := by
  rw [xfMsgSrc, xfMsgId]
  ext i hi
  interval_cases i <;> simp

/-- The core of the source is part of the source. -/
lemma xfMsgSrcCore_eq (id : U32) : xfMsgSrcCore id = xfMsgSrc id &&& 0x3#32 := by
  rw [xfMsgSrcCore, xfMsgSrc, BitVec.and_assoc]
  rfl

@[simp] lemma xfMsgSrcCore_swap (id : U32) : xfMsgSrcCore (xfMsgSwap id) = xfMsgDstCore id := by
  simp only [xfMsgSrcCore, xfMsgSwap, xfMsgId, xfMsgDst, xfMsgSrc, xfMsgDstCore]
  ext i hi
  interval_cases i <;> simp

@[simp] lemma xfMsgDstCore_swap (id : U32) : xfMsgDstCore (xfMsgSwap id) = xfMsgSrcCore id := by
  simp only [xfMsgSrcCore, xfMsgSwap, xfMsgId, xfMsgDst, xfMsgSrc, xfMsgDstCore]
  ext i hi
  interval_cases i <;> simp

@[simp] lemma xfMsgDstProxy_swap (id : U32) : xfMsgDstProxy (xfMsgSwap id) = xfMsgSrcProxy id := by
  simp only [xfMsgDstProxy, xfMsgSwap, xfMsgId, xfMsgDst, xfMsgSrc, xfMsgSrcProxy]
  have h : (((id >>> 16 &&& 0xFFFF#32) &&& 0xFFFF#32) ||| ((id &&& 0xFFFF#32) &&& 0xFFFF#32) <<< 16)
      >>> 31 &&& 0x1#32 = (id >>> 15) &&& 0x1#32 := by
    ext i hi
    interval_cases i <;> simp
  rw [h]

/-- A client number has six bits. -/
lemma xfMsgDstClient_lt (id : U32) : (xfMsgDstClient id).toNat < 64 := by
  rw [xfMsgDstClient, BitVec.toNat_and]
  exact lt_of_le_of_lt Nat.and_le_right (by decide)

end Hikey
