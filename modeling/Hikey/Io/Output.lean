import Hikey.Msg

/-!
# Output ports (`core/xf-io.c`, `include/xf-io.h`, `core/xf-msg.c`)

A routed port owns a pool of messages.  Item `0` of the pool is the flow-control message, the others
carry data buffers.  `mem` events record what a port allocates and frees; the memory allocator
answers the `i`-th allocation of a call with `alloc i`, the null pointer being `0`.  The operations
return the messages that they complete.
-/

namespace Hikey

/-- A block of memory of an output port: a pool of `n` messages, or a data buffer. -/
inductive XfBlock
  | pool (p n : U32)
  | buffer (a length : U32)
deriving DecidableEq, Repr

/-- What an output port asks of the memory allocator. -/
inductive XfMemEvent
  | alloc (b : XfBlock)
  | free (b : XfBlock)
deriving DecidableEq, Repr

/-- `xf_msg_pool_t`: the items by their contents.  The list of free items is not used by ports. -/
structure XfMsgPool where
  p : U32
  n : U32
  item : U32 → XfMessage

/-- `xf_msg_pool_item`. -/
def xfMsgPoolItem (pool : XfMsgPool) (i : U32) : XfMessage :=
  { pool.item i with ptr := .item pool.p i }

/-- `xf_output_port_t`. -/
structure XfOutputPort where
  queue : List XfMessage
  pool : XfMsgPool
  unroute : Option XfMessage
  length : U32
  created : Bool
  routed : Bool
  flushing : Bool
  idle : Bool
  unrouting : Bool

/-- An output port in zero-initialized memory; `item` is what the null pool points to. -/
def XfOutputPort.zero (item : U32 → XfMessage) : XfOutputPort where
  queue := []
  pool := ⟨0#32, 0#32, item⟩
  unroute := none
  length := 0#32
  created := false
  routed := false
  flushing := false
  idle := false
  unrouting := false

/-- `xf_output_port_ready`. -/
def XfOutputPort.ready (port : XfOutputPort) : Bool := !port.queue.isEmpty && !port.unrouting

/-- `xf_output_port_control_msg`. -/
def xfOutputPortControlMsg (port : XfOutputPort) : XfMessage := xfMsgPoolItem port.pool 0#32

/-- The comparison `m == xf_output_port_control_msg(port)` of pointers. -/
def XfOutputPort.isControl (port : XfOutputPort) (m : XfMessage) : Bool :=
  m.ptr = (xfOutputPortControlMsg port).ptr

/-- `xf_output_port_init`. -/
def xfOutputPortInit (port : XfOutputPort) (size : U32) : XfOutputPort :=
  { port with
    queue := []
    length := size
    created := true
    routed := false
    flushing := false
    idle := false
    unrouting := false }

/-- The data message with index `i` of a routed port. -/
def xfOutputPortItem (id : XfMsgId) (length buffer p i : U32) : XfMessage where
  ptr := .item p i
  id := id
  opcode := .fillThisBuffer
  length := length
  buffer := buffer

/-- The loop of `xf_output_port_route` that allocates the buffers from index `i` on, `k` of them;
`some i` says that the allocation with index `i` failed. -/
def xfOutputPortRouteLoop (id : XfMsgId) (length : U32) (alloc : U32 → U32) :
    ℕ → U32 → XfOutputPort → List XfMemEvent → XfOutputPort × List XfMemEvent × Option U32
  | 0, _, port, mem => (port, mem, none)
  | k + 1, i, port, mem =>
    let m := xfOutputPortItem id length (alloc i) port.pool.p i
    let pool := { port.pool with item := Function.update port.pool.item i m }
    if alloc i = 0#32 then ({ port with pool := pool }, mem, some i)
    else
      xfOutputPortRouteLoop id length alloc k (i + 1#32)
        { port with pool := pool, queue := (xfMsgEnqueue port.queue m).1 }
        (mem ++ [.alloc (.buffer (alloc i) length)])

/-- The buffers with the indices from `1` to `k`, in the order of a loop counting up. -/
def XfMsgPool.buffers (pool : XfMsgPool) (length : U32) (k : ℕ) : List XfBlock :=
  (List.range k).map fun j => .buffer (pool.item (BitVec.ofNat 32 (j + 1))).buffer length

/-- `xf_output_port_route`: `false` is `-ENOMEM`.  For `n + 1 = 0` the list of free items would be
linked through all of memory (`xf_msg_pool_init`). -/
def xfOutputPortRoute (port : XfOutputPort) (id : XfMsgId) (n length : U32) (alloc : U32 → U32) :
    Option (XfOutputPort × List XfMemEvent × Bool) :=
  if alloc 0#32 = 0#32 then
    some ({ port with pool := { port.pool with p := 0#32 } }, [], false)
  else if n + 1#32 = 0#32 then none
  else
    let p := alloc 0#32
    let port := { port with pool := { port.pool with p := p, n := n + 1#32 } }
    match xfOutputPortRouteLoop id length alloc n.toNat 1#32 port [.alloc (.pool p (n + 1#32))] with
    | (port, mem, none) =>
      let m : XfMessage := { port.pool.item 0#32 with id := id, length := 0#32, buffer := 0#32 }
      some ({ port with
        pool := { port.pool with item := Function.update port.pool.item 0#32 m }
        length := length
        routed := true
        idle := true }, mem, true)
    | (port, mem, some i) =>
      some (port,
        mem ++ (port.pool.buffers length (i - 1#32).toNat).reverse.map XfMemEvent.free ++
          [.free (.pool p (n + 1#32))], false)

/-- `xf_output_port_unroute_start`. -/
def xfOutputPortUnrouteStart (port : XfOutputPort) (m : XfMessage) : XfOutputPort :=
  { port with unroute := some m, unrouting := true }

/-- `xf_output_port_unroute`.  For an empty pool the loop over the items never ends. -/
def xfOutputPortUnroute (port : XfOutputPort) : Option (XfOutputPort × List XfMemEvent) :=
  if port.pool.n = 0#32 then none
  else
    some ({ port with
        queue := []
        created := true
        routed := false
        flushing := false
        idle := false
        unrouting := false },
      ((port.pool.buffers port.length (port.pool.n - 1#32).toNat).map XfMemEvent.free) ++
        [.free (.pool port.pool.p port.pool.n)])

/-- `xf_output_port_unroute_done`: `none` inside the saved message is the null pointer. -/
def xfOutputPortUnrouteDone (port : XfOutputPort) :
    Option (XfOutputPort × List XfMemEvent × XfMessage) :=
  match port.unroute with
  | none => none
  | some m =>
    match xfOutputPortUnroute { port with unroute := none } with
    | none => none
    | some (port, mem) => some (port, mem, m.ok)

/-- `xf_output_port_put`: `true` says that the queue was empty. -/
def xfOutputPortPut (port : XfOutputPort) (m : XfMessage) : XfOutputPort × Bool :=
  ({ port with queue := (xfMsgEnqueue port.queue m).1 }, (xfMsgEnqueue port.queue m).2)

/-- `xf_output_port_data`: the null pointer when nothing is enqueued. -/
def xfOutputPortData (port : XfOutputPort) : U32 :=
  match port.queue with
  | [] => 0#32
  | m :: _ => m.buffer

/-- `xf_output_port_produce`. -/
def xfOutputPortProduce (port : XfOutputPort) (n : U32) : Option (XfOutputPort × XfMessage) :=
  match port.queue with
  | [] => none
  | m :: queue => some ({ port with queue := queue, idle := false }, m.withLength n)

/-- `xf_output_port_flush`: `true` says that the flushing is done.  The opcode of the flow-control
message is set anew each time it is sent, so it is not kept in the pool. -/
def xfOutputPortFlush (port : XfOutputPort) (opcode : XfOpcode) :
    XfOutputPort × List XfMessage × Bool :=
  if port.routed then
    if port.idle then (port, [], true)
    else if !port.flushing then
      ({ port with flushing := !port.flushing },
        [{ xfOutputPortControlMsg port with opcode := opcode }], false)
    else (port, [], false)
  else ({ port with queue := [] }, port.queue.map XfMessage.ok, true)

/-- `xf_output_port_flush_done`. -/
def xfOutputPortFlushDone (port : XfOutputPort) : XfOutputPort :=
  { port with idle := !port.idle, flushing := !port.flushing }

/-- `xf_output_port_destroy`. -/
def xfOutputPortDestroy (port : XfOutputPort) : Option (XfOutputPort × List XfMemEvent) :=
  let flags (port : XfOutputPort) := { port with
    created := false
    routed := false
    flushing := false
    idle := false
    unrouting := false }
  if port.routed then
    match xfOutputPortUnroute port with
    | none => none
    | some (port, mem) => some (flags port, mem)
  else some (flags port, [])

end Hikey
