import Hikey.Msg

/-!
# Input ports (`core/xf-io.c`, `include/xf-io.h`)

The five base flags of a port are separate fields; toggling a flag bit with `^=` negates its field.
Pointers into message buffers are addresses (the null pointer is `0`); the internal buffer belongs
to the port and is kept by its contents, `none` being the null pointer of the bypass mode.

The operations return, next to the port, the messages that they complete, in the order of
completion.  `none` is the response to a null message.
-/

namespace Hikey

/-- `xf_input_port_t`. -/
structure XfInputPort where
  queue : List XfMessage
  buffer : Option (List UInt8)
  length : U32
  filled : U32
  access : U32
  remaining : U32
  created : Bool
  enabled : Bool
  eos : Bool
  done : Bool
  purging : Bool
deriving DecidableEq, Repr

/-- An input port in zero-initialized memory. -/
def XfInputPort.zero : XfInputPort where
  queue := []
  buffer := none
  length := 0#32
  filled := 0#32
  access := 0#32
  remaining := 0#32
  created := false
  enabled := false
  eos := false
  done := false
  purging := false

/-- `xf_input_port_ready`. -/
def XfInputPort.ready (port : XfInputPort) : Bool := !port.queue.isEmpty

/-- `xf_input_port_bypass`. -/
def XfInputPort.bypass (port : XfInputPort) : Bool := port.buffer.isNone

/-- The end-of-stream condition turns into the completion of the stream. -/
def XfInputPort.toggleDone (port : XfInputPort) : XfInputPort :=
  { port with eos := !port.eos, done := !port.done }

/-- `xf_input_port_init`, with the answer of the allocator; `false` is `-ENOMEM`. -/
def xfInputPortInit (port : XfInputPort) (size : U32) (block : Option (List UInt8)) :
    XfInputPort × Bool :=
  if size ≠ 0#32 ∧ block = none then ({ port with buffer := none }, false)
  else
    ({ port with
        queue := []
        buffer := if size = 0#32 then none else block
        length := size
        filled := 0#32
        access := 0#32
        created := true
        enabled := true
        eos := false
        done := false
        purging := false }, true)

/-- `xf_input_port_put`: `true` says that the queue was empty. -/
def xfInputPortPut (port : XfInputPort) (m : XfMessage) : XfInputPort × List XfMessage × Bool :=
  if !port.enabled then (port, [m.ok], false)
  else
    let port := if m.length = 0#32 then { port with enabled := !port.enabled, eos := !port.eos }
      else port
    let (queue, first) := xfMsgEnqueue port.queue m
    let port := { port with queue := queue }
    if first then
      let port := { port with access := m.buffer, remaining := m.length }
      (if port.access = 0#32 then port.toggleDone else port, [], true)
    else (port, [], false)

/-- `xf_input_port_complete`: the completed message, and whether another one is pending. -/
def xfInputPortComplete (port : XfInputPort) : Option (XfInputPort × XfMessage × Bool) :=
  match port.queue with
  | [] => none
  | [m] => some ({ port with queue := [], access := 0#32 }, m, false)
  | m :: m' :: queue =>
    some ({ port with queue := m' :: queue, access := m'.buffer, remaining := m'.length }, m, true)

/-- The loop of `xf_input_port_fill` on the local variables `filled`, `remaining` and `n`; `out`
collects the completed messages. -/
def xfInputPortFillLoop (mem : U32 → UInt8) :
    ℕ → XfInputPort → U32 → U32 → U32 → List XfMessage →
      Option (XfInputPort × U32 × U32 × U32 × List XfMessage)
  | 0, _, _, _, _, _ => none
  | fuel + 1, port, filled, remaining, n, out =>
    if (0#32).slt n then
      let k := if n < remaining then n else remaining
      if k = 0#32 then some (port.toggleDone, filled, remaining, 0#32, out)
      else
        let port := { port with
          buffer := port.buffer.map fun buf =>
            writeBytes buf filled.toNat (readBytes mem port.access k.toNat)
          access := port.access + k }
        if remaining - k = 0#32 then
          match xfInputPortComplete port with
          | none => none
          | some (port, m, true) =>
            xfInputPortFillLoop mem fuel port (filled + k) port.remaining (n - k) (out ++ [m])
          | some (port, m, false) => some (port, filled + k, remaining - k, n - k, out ++ [m])
        else xfInputPortFillLoop mem fuel port (filled + k) (remaining - k) (n - k) out
    else some (port, filled, remaining, n, out)

/-- `xf_input_port_fill`: `true` says that the buffer is prefilled.  Every pass of the loop but the
last two completes a message. -/
def xfInputPortFill (mem : U32 → UInt8) (port : XfInputPort) :
    Option (XfInputPort × List XfMessage × Bool) :=
  if port.queue = [] then some (port, [], false)
  else
    match xfInputPortFillLoop mem (port.queue.length + 1) port port.filled port.remaining
      (port.length - port.filled) [] with
    | none => none
    | some (port, filled, remaining, n, out) =>
      some ({ port with filled := filled, remaining := remaining }, out, n = 0#32)

/-- `xf_input_port_consume`. -/
def xfInputPortConsume (port : XfInputPort) (n : U32) : Option (XfInputPort × List XfMessage) :=
  match port.buffer with
  | none =>
    let port := { port with remaining := port.remaining - n }
    if port.remaining = 0#32 then
      match xfInputPortComplete port with
      | none => none
      | some (port, m, _) =>
        some (if port.ready ∧ port.access = 0#32 then port.toggleDone else port, [m])
    else some ({ port with access := port.access + n }, [])
  | some buf =>
    if n < port.filled then
      let k := port.filled - n
      some ({ port with
        buffer := some (writeBytes buf 0 ((buf.drop n.toNat).take k.toNat))
        filled := k }, [])
    else some ({ port with filled := 0#32 }, [])

/-- `xf_input_port_purge`. -/
def xfInputPortPurge (port : XfInputPort) : XfInputPort × List XfMessage :=
  if !port.created then (port, [])
  else
    ({ port with
        queue := []
        filled := 0#32
        access := 0#32
        created := true
        enabled := true
        eos := false
        done := false
        purging := false }, port.queue.map XfMessage.ok)

/-- `xf_input_port_control_save`. -/
def xfInputPortControlSave (port : XfInputPort) (m : XfMessage) : XfInputPort :=
  { port with queue := (xfMsgEnqueue port.queue m).1, purging := !port.purging }

/-- `xf_input_port_purge_done`. -/
def xfInputPortPurgeDone (port : XfInputPort) : Option (XfInputPort × XfMessage) :=
  match port.queue with
  | [] => none
  | m :: queue => some ({ port with queue := queue, purging := !port.purging }, m.ok)

/-- `xf_input_port_destroy`. -/
def xfInputPortDestroy (port : XfInputPort) : XfInputPort :=
  if !port.created then port
  else
    { port with
      buffer := none
      created := false
      enabled := false
      eos := false
      done := false
      purging := false }

end Hikey
