import Hikey.Core.Client

/-!
# Component handles of the host (`proxy/xf-proxy.c`)

A handle takes an auxiliary buffer of the proxy and a client number while it is open, and a route or
an unroute takes a buffer while its command is executed.  Both are kept on lists of free ones, that
are linked through the memory of the free ones.  Every function has several exits, and those of the
macros `XF_CHK_API` and `XF_CHK_ERR` return at once.
-/

namespace Hikey

/-! ## The source -/

/-- `-EINVAL`. -/
def xfEInval : ℤ := -22

/-- `-EFAULT`. -/
def xfEFault : ℤ := -14

/-- `-EBADFD`. -/
def xfEBadFd : ℤ := -77

/-- `XF_REGISTER`. -/
def xfRegister : U32 := 0x80000001

/-- `XF_UNREGISTER`. -/
def xfUnregister : U32 := 0

/-- `XF_ROUTE`. -/
def xfRouteOpcode : U32 := 0x80000002

/-- `XF_UNROUTE`. -/
def xfUnrouteOpcode : U32 := 0x80000003

/-- `xf_buffer_link_t`. -/
inductive XfBufferLink
  | next (b : Option ℕ)
  | pool
deriving DecidableEq

/-- The member `next`, which is there as long as the buffer is free. -/
def XfBufferLink.nextFree : XfBufferLink → Option ℕ
  | .next b => b
  | .pool => none

@[simp] lemma XfBufferLink.nextFree_next (b : Option ℕ) : (XfBufferLink.next b).nextFree = b := rfl

/-- `xf_pool_t`: its buffers are numbers. -/
structure XfPool where
  number : ℕ
  free : Option ℕ
  link : ℕ → XfBufferLink

/-- `xf_pool_alloc`, the part that links the buffers. -/
def xfPoolAlloc (number : ℕ) : XfPool where
  number := number
  free := some 0
  link := fun b => .next (if b + 1 < number then some (b + 1) else none)

/-- `xf_buffer_get`. -/
def xfBufferGet (p : XfPool) : Option ℕ × XfPool :=
  match p.free with
  | some b => (some b,
      { p with free := (p.link b).nextFree, link := Function.update p.link b .pool })
  | none => (none, p)

/-- `xf_buffer_put`. -/
def xfBufferPut (p : XfPool) (b : ℕ) : XfPool :=
  { p with link := Function.update p.link b (.next p.free), free := some b }

/-- `xf_proxy_cmap_link_t`: handles are numbers. -/
inductive XfProxyCmapLink
  | next (client : ℕ)
  | handle (h : ℕ)
deriving DecidableEq

/-- The member `next`, which is there as long as the client number is free. -/
def XfProxyCmapLink.nextFree : XfProxyCmapLink → ℕ
  | .next client => client
  | .handle _ => 0

@[simp] lemma XfProxyCmapLink.nextFree_next (client : ℕ) :
    (XfProxyCmapLink.next client).nextFree = client := rfl

/-- `XF_CFG_PROXY_MAX_CLIENTS`. -/
def xfCfgProxyMaxClients : ℕ := 256

/-- `xf_proxy_t`. -/
structure XfProxy where
  aux : XfPool
  cmap : ℕ → XfProxyCmapLink

/-- `xf_proxy_init`, with the pool that is allocated behind it. -/
def xfProxyInit (number : ℕ) : XfProxy where
  aux := xfPoolAlloc number
  cmap := fun i => .next (if i < xfCfgProxyMaxClients - 1 then i + 1 else 0)

/-- `xf_handle_t`. -/
structure XfHandle where
  /-- The reference to the proxy is set. -/
  proxy : Bool
  aux : Option ℕ
  id : U32
  client : ℕ

/-- What happens to a command: whether its buffer is shared memory, the results of sending it and of
waiting, and the response. -/
structure XfCmdEnv where
  b2a : Bool
  send : ℤ
  responseGet : ℤ
  id : U32
  opcode : U32
  a2b : Bool

/-- `xf_proxy_cmd_exec`. -/
def xfProxyCmdExec (env : XfCmdEnv) : ℤ :=
  if !env.b2a then xfEInval
  else if env.send < 0 then env.send
  else if env.responseGet < 0 then env.responseGet
  else if !env.a2b then xfEBadFd
  else 0

/-- `xf_client_alloc` of the host. -/
def xfProxyClientAlloc (x : XfProxy) (h : ℕ) (handle : XfHandle) : ℕ × XfProxy × XfHandle :=
  let client := (x.cmap 0).nextFree
  if client ≠ 0 then
    let cmap := Function.update x.cmap 0 (.next (x.cmap client).nextFree)
    (client, { x with cmap := Function.update cmap client (.handle h) },
      { handle with client := client })
  else (client, x, handle)

/-- `xf_client_free` of the host. -/
def xfProxyClientFree (x : XfProxy) (handle : XfHandle) : XfProxy :=
  let cmap := Function.update x.cmap handle.client (.next (x.cmap 0).nextFree)
  { x with cmap := Function.update cmap 0 (.next handle.client) }

/-- `xf_client_register`. -/
def xfProxyClientRegister (env : XfCmdEnv) (handle : XfHandle) : ℤ × XfHandle :=
  let r := xfProxyCmdExec env
  if r < 0 then (r, handle)
  else if env.opcode = xfRegister then (0, { handle with id := xfMsgSrc env.id })
  else (xfEFault, handle)

/-- `xf_client_unregister`; `none` is the end of the process, of a debug build. -/
def xfProxyClientUnregister (debug : Bool) (env : XfCmdEnv) (x : XfProxy) (h : ℕ)
    (handle : XfHandle) :
    Option ℤ :=
  if debug ∧ x.cmap handle.client ≠ .handle h then none
  else
    let r := xfProxyCmdExec env
    if r < 0 then some r
    else if debug ∧ env.opcode ≠ xfUnregister then none
    else some 0

/-- `xf_open`; `pipe` is the error of making the pipe, if there is one. -/
def xfOpen (pipe : Option {e : ℤ // 0 < e}) (env : XfCmdEnv) (x : XfProxy) (h : ℕ)
    (handle : XfHandle) :
    XfProxy × XfHandle × ℤ :=
  let (b, aux) := xfBufferGet x.aux
  let x := { x with aux := aux }
  let handle := { handle with aux := b }
  match b with
  | none => (x, handle, xfEBusy)
  | some b =>
    match pipe with
    | some errno => (x, handle, -errno)
    | none =>
      let (client, x, handle) := xfProxyClientAlloc x h handle
      let (x, handle, r) :=
        if client = 0 then (x, handle, xfEBusy)
        else
          let (r, handle) := xfProxyClientRegister env handle
          if r < 0 then (xfProxyClientFree x handle, handle, r) else (x, handle, r)
      if r < 0 then ({ x with aux := xfBufferPut x.aux b }, { handle with aux := none }, r)
      else (x, { handle with proxy := true }, r)

/-- `xf_close`. -/
def xfClose (debug : Bool) (env : XfCmdEnv) (x : XfProxy) (h : ℕ) (handle : XfHandle) :
    Option (XfProxy × XfHandle) := do
  let _ ← xfProxyClientUnregister debug env x h handle
  let x := xfProxyClientFree x handle
  let b ← handle.aux
  return ({ x with aux := xfBufferPut x.aux b }, { handle with aux := none, proxy := false })

/-- `xf_is_power_of_two`. -/
def xfIsPowerOfTwo (v : U32) : Bool := v &&& (v - 1) = 0

/-- `xf_route`. -/
def xfRoute (env : XfCmdEnv) (x : XfProxy) (src dst : XfHandle) (num size align : U32) :
    XfProxy × ℤ :=
  if src.proxy ≠ dst.proxy then (x, xfEInval)
  else if ¬(num ≠ 0 ∧ size ≠ 0 ∧ xfIsPowerOfTwo align) then (x, xfEInval)
  else
    let (b, aux) := xfBufferGet x.aux
    let x := { x with aux := aux }
    match b with
    | none => (x, xfEBusy)
    | some b =>
      let r := xfProxyCmdExec env
      if r < 0 then (x, r)
      else
        let x := { x with aux := xfBufferPut x.aux b }
        if env.opcode = xfRouteOpcode then (x, 0) else (x, xfENoMem)

/-- `xf_unroute`. -/
def xfUnroute (env : XfCmdEnv) (x : XfProxy) : XfProxy × ℤ :=
  let (b, aux) := xfBufferGet x.aux
  let x := { x with aux := aux }
  match b with
  | none => (x, xfEBusy)
  | some b =>
    let r := xfProxyCmdExec env
    let x := { x with aux := xfBufferPut x.aux b }
    if r ≠ 0 then (x, r)
    else if env.opcode ≠ xfUnrouteOpcode then (x, xfEBadFd)
    else (x, r)

/-! ## Runs -/

/-- The calls of the users of the proxy. -/
inductive XfHostOp
  | xfOpen (pipe : Option {e : ℤ // 0 < e}) (env : XfCmdEnv) (h : ℕ)
  | xfClose (env : XfCmdEnv) (h : ℕ)
  | xfRoute (env : XfCmdEnv) (src dst : ℕ) (num size align : U32)
  | xfUnroute (env : XfCmdEnv) (src : ℕ)

/-- The proxy and the handles, and which handles are open. -/
structure XfHost where
  proxy : XfProxy
  handles : ℕ → XfHandle
  opened : List ℕ

/-- After a call, with its return value. -/
def XfHost.next (debug : Bool) (s : XfHost) : XfHostOp → Option (XfHost × ℤ)
  | .xfOpen pipe env h =>
    let (x, handle, r) := Hikey.xfOpen pipe env s.proxy h (s.handles h)
    some (⟨x, Function.update s.handles h handle, if r < 0 then s.opened else s.opened ++ [h]⟩, r)
  | .xfClose env h =>
    (Hikey.xfClose debug env s.proxy h (s.handles h)).map fun (x, handle) =>
      (⟨x, Function.update s.handles h handle, s.opened.erase h⟩, 0)
  | .xfRoute env src dst num size align =>
    let (x, r) := Hikey.xfRoute env s.proxy (s.handles src) (s.handles dst) num size align
    some ({ s with proxy := x }, r)
  | .xfUnroute env _ =>
    let (x, r) := Hikey.xfUnroute env s.proxy
    some ({ s with proxy := x }, r)

/-- Only handles that are not open are opened, and only open ones are used. -/
def XfHostOp.Legal (s : XfHost) : XfHostOp → Prop
  | .xfOpen _ _ h => h ∉ s.opened
  | .xfClose _ h | .xfUnroute _ h => h ∈ s.opened
  | .xfRoute _ src dst _ _ _ => src ∈ s.opened ∧ dst ∈ s.opened

/-- `pipe` succeeds when a handle has got its buffer, and the command of a route that has got one is
executed. -/
def XfHostOp.Clean (s : XfHost) : XfHostOp → Prop
  | .xfOpen pipe _ _ => s.proxy.aux.free = none ∨ pipe = none
  | .xfRoute env src dst num size align => s.proxy.aux.free = none ∨ 0 ≤ xfProxyCmdExec env ∨
      (s.handles src).proxy ≠ (s.handles dst).proxy ∨ ¬(num ≠ 0 ∧ size ≠ 0 ∧ xfIsPowerOfTwo align)
  | .xfClose _ _ | .xfUnroute _ _ => True

/-- The next free buffer. -/
def XfPool.nextFree (p : XfPool) (b : ℕ) : Option ℕ := (p.link b).nextFree

/-- The free buffers are those on the list `l`. -/
def XfPool.FreeList (p : XfPool) (l : List ℕ) : Prop := Chain p.nextFree p.free l

/-- The next free client number; 0 is the end. -/
def XfProxy.nextFree (x : XfProxy) (client : ℕ) : Option ℕ :=
  if (x.cmap client).nextFree = 0 then none else some (x.cmap client).nextFree

/-- The free client numbers are those on the list `l`. -/
def XfProxy.FreeList (x : XfProxy) (l : List ℕ) : Prop := Chain x.nextFree (x.nextFree 0) l

/-- Every buffer is either free or one of an open handle, and so is every client number. -/
structure XfAccounted (s : XfHost) : Prop where
  buffers : ∃ l, s.proxy.aux.FreeList l ∧
    (l.map some ++ s.opened.map fun h => (s.handles h).aux).Perm
      ((List.range s.proxy.aux.number).map some)
  clients : ∃ l, s.proxy.FreeList l ∧
    (l ++ s.opened.map fun h => (s.handles h).client).Perm
      (List.range' 1 (xfCfgProxyMaxClients - 1))

/-- The same buffers and client numbers are free. -/
structure XfSameFree (x x' : XfProxy) : Prop where
  buffers : ∀ l l', x.aux.FreeList l → x'.aux.FreeList l' → l'.Perm l
  clients : ∀ l l', x.FreeList l → x'.FreeList l' → l'.Perm l

/-- A step that the users can make. -/
def XfHostStep (debug : Bool) (s s' : XfHost) : Prop :=
  ∃ op : XfHostOp, op.Legal s ∧ ∃ r, s.next debug op = some (s', r)

/-- A step in which no exit keeps the buffer. -/
def XfHostCleanStep (debug : Bool) (s s' : XfHost) : Prop :=
  ∃ op : XfHostOp, op.Legal s ∧ op.Clean s ∧ ∃ r, s.next debug op = some (s', r)

/-- No handle is open. -/
def XfHost.start (number : ℕ) (handles : ℕ → XfHandle) : XfHost := ⟨xfProxyInit number, handles, []⟩

end Hikey
