import Hikey.Shmem.Run

/-!
# What the rings deliver

`xf_shmem_process_input` copies a command to a message of the pool before it gives the slot back,
and submits the message afterwards; `xf_shmem_process_output` copies the first message of the
response queue to a slot, and returns it to the pool when it publishes the slot.  In between other
parties step, but nobody writes a message in an iteration of the loops (`XfShmemStep.body_eq`), so
what is submitted or published is what has been copied (`XfCarries`).
-/

namespace Hikey

namespace Shmem

section Lists

variable {d d' : XfMsgData} {place : XfMessagePtr → XfPlace} {q : XfMsgList} {m : XfMessagePtr}

/-- The messages on a list, in their order. -/
def XfMsgData.Holds (d : XfMsgData) (q : XfMsgList) (l : List XfMessagePtr) : Prop :=
  Chain d.next (d.head q) l

/-- `xf_msg_enqueue` puts a message behind those on the queue. -/
lemma XfMsgData.Linked.holds_enqueue (h : d.Linked place) (hm : (place m).list? = none)
    (hq : q ≠ .pool) : ∃ l, d.Holds q l ∧ (xfMsgEnqueue d q m).Holds q (l ++ [m]) := by
  obtain ⟨l, hl, hnodup, hmem, htail⟩ := h q
  have hml : m ∉ l := fun hp => by simpa [hm] using (hmem m).1 hp
  refine ⟨l, hl, ?_⟩
  cases hh : d.head q with
  | none =>
    obtain rfl : l = [] := List.head?_eq_none_iff.1 (hl.head_eq.symm.trans hh)
    simp [XfMsgData.Holds, xfMsgEnqueue, hh, Chain]
  | some p =>
    obtain ⟨t, ht⟩ := h.tail_ne_none hq (by rw [hh]; simp)
    simp only [XfMsgData.Holds, xfMsgEnqueue, hh, ht]
    rw [← hh]
    exact (hl.update hml none).concat hnodup hml ((htail hq).symm.trans ht) (by simp)

/-- What is on a list behind the first message. -/
lemma XfMsgData.Linked.holds_tail (h : d.Linked place) (hh : d.head q = some m) :
    ∃ l, d.Holds q (m :: l) ∧ Chain (Function.update d.next m none) (d.next m) l := by
  obtain ⟨l, hl, hnodup, -, -⟩ := h q
  cases l with
  | nil => exact absurd (hh.symm.trans hl) (by simp)
  | cons p l =>
    obtain ⟨hp, hl⟩ := hl
    obtain rfl : m = p := Option.some.inj (hh.symm.trans hp)
    exact ⟨l, ⟨hh, hl⟩, hl.update (List.nodup_cons.1 hnodup).1 none⟩

/-- `xf_msg_dequeue` takes the first message of the queue. -/
lemma XfMsgData.Linked.holds_dequeue (h : d.Linked place) (hget : xfMsgDequeue d q = some (m, d')) :
    ∃ l, d.Holds q (m :: l) ∧ d'.Holds q l := by
  cases hh : d.head q with
  | none => simp [xfMsgDequeue, hh] at hget
  | some p =>
    simp only [xfMsgDequeue, hh, Option.some.injEq, Prod.mk.injEq] at hget
    obtain ⟨rfl, rfl⟩ := hget
    obtain ⟨l, hl, htail⟩ := h.holds_tail hh
    exact ⟨l, hl, by simpa [XfMsgData.Holds] using htail⟩

/-- `xf_msg_pool_get` takes the first message of the free list. -/
lemma XfMsgData.Linked.holds_poolGet (h : d.Linked place) (hget : xfMsgPoolGet d = some (m, d')) :
    ∃ l, d.Holds .pool (m :: l) ∧ d'.Holds .pool l := by
  cases hh : d.head .pool with
  | none => simp [xfMsgPoolGet, hh] at hget
  | some p =>
    simp only [xfMsgPoolGet, hh, Option.some.injEq, Prod.mk.injEq] at hget
    obtain ⟨rfl, rfl⟩ := hget
    obtain ⟨l, hl, htail⟩ := h.holds_tail hh
    exact ⟨l, hl, by simpa [XfMsgData.Holds] using htail⟩

/-- `xf_msg_pool_put` puts a message before those on the free list. -/
lemma XfMsgData.Linked.holds_poolPut (h : d.Linked place) (hm : (place m).list? = none) :
    ∃ l, d.Holds .pool l ∧ (xfMsgPoolPut d m).Holds .pool (m :: l) := by
  obtain ⟨l, hl, -, hmem, -⟩ := h .pool
  have hml : m ∉ l := fun hp => by simpa [hm] using (hmem m).1 hp
  refine ⟨l, hl, by simp [xfMsgPoolPut], ?_⟩
  simpa [xfMsgPoolPut] using hl.update hml (d.head .pool)

end Lists

/-! ## The contents -/

/-- The contents of a command as they are in a message. -/
def XfProxyMessage.contents (start : U32) (c : XfProxyMessage) : XfMsgBody where
  id := c.sessionId
  opcode := c.opcode
  length := c.length
  buffer := xfIpcA2b start (c.address.setWidth 32)

/-- The dispatch queue for a session id: that of the core of the source, or the one between two
cores. -/
def xfDispatchQueue (id : U32) : XfMsgList :=
  if xfMsgSrcCore id = xfMsgDstCore id then .queue (xfMsgSrcCore id)
    else .localIpc (xfMsgDstCore id)

/-- The contents of a message as they are in a response. -/
def XfMsgBody.response (start : U32) (b : XfMsgBody) : XfProxyMessage where
  sessionId := b.id
  opcode := b.opcode
  length := b.length
  address := (xfIpcB2a start b.buffer).setWidth 64

/-- What a step does with the contents of commands and responses: a command is copied to the first
message of the pool, and when it counts as taken, a message with these contents comes to the end of
its dispatch queue; a response has the contents of the first message of the response queue, and when
it counts as posted, this message comes back to the pool. -/
structure XfDelivered (start : U32) (s s' : XfShmem) : Prop where
  copied : ∀ r w r' w' c, s.cmd.consumer = .loop r w → s'.cmd.consumer = .access r' w' c →
    ∃ m l, s.data.Holds .pool (m :: l) ∧ s'.data.Holds .pool l ∧ s'.input = some m ∧
      s'.data.body m = c.contents start
  received : ∀ c, s'.cmd.taken = s.cmd.taken ++ [c] →
    ∃ m l, s.input = some m ∧ s'.data.body m = c.contents start ∧
      s.data.Holds (xfDispatchQueue c.sessionId) l ∧
      s'.data.Holds (xfDispatchQueue c.sessionId) (l ++ [m])
  response : ∀ r w r' w' c, s.rsp.producer = .loop r w → s'.rsp.producer = .access r' w' c →
    ∃ m l, s.data.Holds (.remote 0#32) (m :: l) ∧ s'.data.Holds (.remote 0#32) l ∧
      s'.output = some m ∧ c = (s.data.body m).response start
  posted : ∀ c, s'.rsp.posted = s.rsp.posted ++ [c] →
    ∃ m l, s.output = some m ∧ c = (s.data.body m).response start ∧
      s.data.Holds .pool l ∧ s'.data.Holds .pool (m :: l)

/-- The messages in the iterations of the loops have the contents of the slots they belong to. -/
structure XfCarries (start : U32) (s : XfShmem) : Prop where
  input : ∀ r w c m, s.cmd.consumer = .access r w c → s.input = some m →
    s.data.body m = c.contents start
  output : ∀ r w c m, s.rsp.producer = .access r w c → s.output = some m →
    c = (s.data.body m).response start

section Step

variable {start : U32} {s s' : XfShmem} {place : XfMessagePtr → XfPlace} {m : XfMessagePtr}

@[simp] lemma body_xfMsgSubmit (d : XfMsgData) (m : XfMessagePtr) :
    (xfMsgSubmit d m).body = d.body := by
  obtain ⟨q, -, -, he, -⟩ := xfMsgSubmit_eq d m
  rw [he, body_xfMsgEnqueue]

lemma xfDispatchQueue_ne_pool (id : U32) : xfDispatchQueue id ≠ .pool := by
  unfold xfDispatchQueue
  split <;> simp

lemma xfMsgSubmit_eq_enqueue (d : XfMsgData) (m : XfMessagePtr) :
    xfMsgSubmit d m = xfMsgEnqueue d (xfDispatchQueue (d.body m).id) m := by
  by_cases h : xfMsgSrcCore (d.body m).id = xfMsgDstCore (d.body m).id
  · simp [xfMsgSubmit, xfDispatchQueue, h]
  · simp [xfMsgSubmit, xfDispatchQueue, h]

/-- Nobody writes a message in an iteration of the loops. -/
lemma XfShmemStep.body_eq (hstep : XfShmemStep start s s') (h : XfStored s place)
    (hm : place m = .input ∨ place m = .output) : s'.data.body m = s.data.body m := by
  cases hstep with
  | inputGet r w m' data hloop hempty hget c hc =>
    obtain ⟨hm', hlinked, hbody⟩ := h.linked.poolGet hget (rfl : XfPlace.list? .input = none)
    have hne : m ≠ m' := by
      rintro rfl
      simp [hm'] at hm
    simp [XfMsgData.write, Function.update_of_ne hne, hbody]
  | inputSubmit r w c m' haccess hm' => simp
  | outputGet r w m' data hloop hfull hget c hc =>
    obtain ⟨-, -, hbody⟩ := h.linked.dequeue hget (rfl : XfPlace.list? .output = none)
    rw [hbody]
  | dispatch q m' data hq hget =>
    obtain ⟨-, -, hbody⟩ := h.linked.dequeue hget (rfl : XfPlace.list? .held = none)
    rw [hbody]
  | complete m' b hheld hsrc hdst hpool =>
    have hm' : place m' = .held := (h.held m').1 hheld
    have hne : m ≠ m' := by
      rintro rfl
      simp [hm'] at hm
    obtain ⟨q, b', -, he, -⟩ := xfMsgComplete_eq (s.data.write m' b) m'
    simp only [he, body_xfMsgEnqueue]
    simp [XfMsgData.write, Function.update_of_ne hne]
  | hostPost | hostTake | inputEnter | inputLeave | outputEnter | outputLeave | outputPut => rfl

lemma XfCarries.step (h : XfCarries start s) (hs : XfStored s place)
    (hstep : XfShmemStep start s s') : XfCarries start s' := by
  have hinput (m : XfMessagePtr) (hm : s.input = some m) : s'.data.body m = s.data.body m :=
    hstep.body_eq hs (.inl ((hs.input m).1 hm))
  have houtput (m : XfMessagePtr) (hm : s.output = some m) : s'.data.body m = s.data.body m :=
    hstep.body_eq hs (.inr ((hs.output m).1 hm))
  -- a step that leaves a loop where it is
  have hkeepInput (hcmd : s'.cmd.consumer = s.cmd.consumer) (he : s'.input = s.input) :
      ∀ r w c m, s'.cmd.consumer = .access r w c → s'.input = some m →
        s'.data.body m = c.contents start := by
    intro r w c m hc hm
    rw [he] at hm
    rw [hinput m hm]
    exact h.input r w c m (hcmd ▸ hc) hm
  have hkeepOutput (hrsp : s'.rsp.producer = s.rsp.producer) (he : s'.output = s.output) :
      ∀ r w c m, s'.rsp.producer = .access r w c → s'.output = some m →
        c = (s'.data.body m).response start := by
    intro r w c m hc hm
    rw [he] at hm
    rw [houtput m hm]
    exact h.output r w c m (hrsp ▸ hc) hm
  cases hstep with
  | hostPost c hc => exact ⟨hkeepInput hc.consumer_eq.1 rfl, hkeepOutput rfl rfl⟩
  | hostTake r hr => exact ⟨hkeepInput rfl rfl, hkeepOutput hr.producer_eq.1 rfl⟩
  | inputEnter | inputLeave | inputSubmit => exact ⟨by simp, hkeepOutput rfl rfl⟩
  | outputEnter | outputLeave | outputPut => exact ⟨hkeepInput rfl rfl, by simp⟩
  | inputGet r w m data hloop hempty hget c hc =>
    refine ⟨fun r' w' c' m' hc' hm' => ?_, hkeepOutput rfl rfl⟩
    obtain ⟨-, -, rfl⟩ := RingParty.access.inj hc'
    obtain rfl := Option.some_inj.1 hm'
    simp [XfMsgData.write, XfProxyMessage.contents]
  | outputGet r w m data hloop hfull hget c hc =>
    refine ⟨hkeepInput rfl rfl, fun r' w' c' m' hc' hm' => ?_⟩
    obtain ⟨-, -, rfl⟩ := RingParty.access.inj hc'
    obtain rfl := Option.some_inj.1 hm'
    exact hc
  | dispatch | complete => exact ⟨hkeepInput rfl rfl, hkeepOutput rfl rfl⟩

/-- A command is copied to the first message of the pool. -/
lemma XfShmemStep.copied (hstep : XfShmemStep start s s') (hs : XfStored s place) {r w r' w' : U32}
    {c : XfProxyMessage} (hloop : s.cmd.consumer = .loop r w)
    (haccess : s'.cmd.consumer = .access r' w' c) :
    ∃ m l, s.data.Holds .pool (m :: l) ∧ s'.data.Holds .pool l ∧ s'.input = some m ∧
      s'.data.body m = c.contents start := by
  cases hstep with
  | inputGet r₁ w₁ m data _ hempty hget c₁ hc =>
    obtain ⟨-, -, rfl⟩ := RingParty.access.inj haccess
    obtain ⟨l, hl, hl'⟩ := hs.linked.holds_poolGet hget
    exact ⟨m, l, hl, hl', rfl, by simp [XfMsgData.write, XfProxyMessage.contents]⟩
  | hostPost cmd hc =>
    rw [hc.consumer_eq.1, hloop] at haccess
    cases haccess
  | inputEnter | inputLeave | inputSubmit => cases haccess
  | hostTake | outputEnter | outputLeave | outputGet | outputPut | dispatch | complete =>
    cases hloop.symm.trans haccess

/-- The message with the command is put at the end of the dispatch queue when the command counts as
taken. -/
lemma XfShmemStep.received (hstep : XfShmemStep start s s') (h : XfCarries start s)
    (hs : XfStored s place) {c : XfProxyMessage} (htaken : s'.cmd.taken = s.cmd.taken ++ [c]) :
    ∃ m l, s.input = some m ∧ s'.data.body m = c.contents start ∧
      s.data.Holds (xfDispatchQueue c.sessionId) l ∧
      s'.data.Holds (xfDispatchQueue c.sessionId) (l ++ [m]) := by
  cases hstep with
  | inputSubmit r w c₁ m haccess hm =>
    obtain rfl : c₁ = c := by simpa using htaken
    have hbody : s.data.body m = c₁.contents start := h.input r w c₁ m haccess hm
    have hmi : place m = .input := (hs.input m).1 hm
    obtain ⟨l, hl, hl'⟩ := hs.linked.holds_enqueue (m := m)
      (q := xfDispatchQueue c₁.sessionId) (by simp [hmi, XfPlace.list?]) (xfDispatchQueue_ne_pool _)
    refine ⟨m, l, hm, by simp [hbody], hl, ?_⟩
    rw [xfMsgSubmit_eq_enqueue, hbody]
    exact hl'
  | hostPost cmd hc => simp [hc.consumer_eq.2.1] at htaken
  | hostTake | inputEnter | inputLeave | inputGet | outputEnter | outputLeave | outputGet
  | outputPut | dispatch | complete => simp at htaken

/-- The first message of the response queue is copied to a slot. -/
lemma XfShmemStep.response (hstep : XfShmemStep start s s') (hs : XfStored s place)
    {r w r' w' : U32} {c : XfProxyMessage} (hloop : s.rsp.producer = .loop r w)
    (haccess : s'.rsp.producer = .access r' w' c) :
    ∃ m l, s.data.Holds (.remote 0#32) (m :: l) ∧ s'.data.Holds (.remote 0#32) l ∧
      s'.output = some m ∧ c = (s.data.body m).response start := by
  cases hstep with
  | outputGet r₁ w₁ m data _ hfull hget c₁ hc =>
    obtain ⟨-, -, rfl⟩ := RingParty.access.inj haccess
    obtain ⟨l, hl, hl'⟩ := hs.linked.holds_dequeue hget
    obtain ⟨-, -, hbody⟩ := hs.linked.dequeue hget (rfl : XfPlace.list? .output = none)
    exact ⟨m, l, hl, hl', rfl, by rw [hc, hbody]; rfl⟩
  | hostTake rsp hr =>
    rw [hr.producer_eq.1, hloop] at haccess
    cases haccess
  | outputEnter | outputLeave | outputPut => cases haccess
  | hostPost | inputEnter | inputLeave | inputGet | inputSubmit | dispatch | complete =>
    cases hloop.symm.trans haccess

/-- The message with the response is put on the free list when the response counts as posted. -/
lemma XfShmemStep.posted (hstep : XfShmemStep start s s') (h : XfCarries start s)
    (hs : XfStored s place) {c : XfProxyMessage} (hposted : s'.rsp.posted = s.rsp.posted ++ [c]) :
    ∃ m l, s.output = some m ∧ c = (s.data.body m).response start ∧
      s.data.Holds .pool l ∧ s'.data.Holds .pool (m :: l) := by
  cases hstep with
  | outputPut r w c₁ m haccess hm =>
    obtain rfl : c₁ = c := by simpa using hposted
    have hmo : place m = .output := (hs.output m).1 hm
    obtain ⟨l, hl, hl'⟩ := hs.linked.holds_poolPut (m := m) (by simp [hmo, XfPlace.list?])
    exact ⟨m, l, hm, h.output r w c₁ m haccess hm, hl, hl'⟩
  | hostTake rsp hr => simp [hr.producer_eq.2] at hposted
  | hostPost | inputEnter | inputLeave | inputGet | inputSubmit | outputEnter | outputLeave
  | outputGet | dispatch | complete => simp at hposted

/-- A step delivers the contents that it has found. -/
lemma XfDelivered.of_step (h : XfCarries start s) (hs : XfStored s place)
    (hstep : XfShmemStep start s s') : XfDelivered start s s' where
  copied := fun _ _ _ _ _ hloop haccess => hstep.copied hs hloop haccess
  received := fun _ htaken => hstep.received h hs htaken
  response := fun _ _ _ _ _ hloop haccess => hstep.response hs hloop haccess
  posted := fun _ hposted => hstep.posted h hs hposted

end Step

/-! ## Runs -/

/-- In every run of the host and the DSP, in any interleaving, the command ring and the response
ring deliver what was posted, in order, each item once, and with its contents: every further step
that takes a command submits a message with its contents, and every one that posts a response posts
the contents of the first message that waits for it. -/
theorem xfShmem_rings (start : U32) (command response : ℕ → XfProxyMessage)
    (body : XfMessagePtr → XfMsgBody) (s : XfShmem)
    (hrun : Relation.ReflTransGen (XfShmemStep start) (XfShmem.init command response body) s) :
    XfRingOk s.cmd ∧ XfRingOk s.rsp ∧ ∀ s', XfShmemStep start s s' → XfDelivered start s s' := by
  have hrings : XfRings s := run_invariant XfRings (fun _ _ h hstep => h.step hstep)
    ⟨RingInv.init _ _ _, RingInv.init _ _ _⟩ hrun
  have hcarries : XfCarries start s ∧ ∃ place, XfStored s place := by
    refine run_invariant (fun s => XfCarries start s ∧ ∃ place, XfStored s place) ?_ ⟨⟨?_, ?_⟩, _,
      .init command response body⟩ hrun
    · rintro s s' ⟨h, place, hs⟩ hstep
      exact ⟨h.step hs hstep, hs.step hstep⟩
    · simp [XfShmem.init, RingState.init]
    · simp [XfShmem.init, RingState.init]
  obtain ⟨h, place, hs⟩ := hcarries
  exact ⟨.of_inv hrings.1, .of_inv hrings.2, fun _ hstep => .of_step h hs hstep⟩

/-- The only message of a queue is taken off it, and the other lists stay as they are. -/
lemma xfMsgDequeue_enqueue {d : XfMsgData} {q : XfMsgList} (m : XfMessagePtr)
    (h : d.head q = none) :
    ∃ d', xfMsgDequeue (xfMsgEnqueue d q m) q = some (m, d') ∧ d'.body = d.body ∧
      ∀ q' ≠ q, d'.head q' = d.head q' := by
  refine ⟨{ d with
    next := Function.update d.next m none
    head := Function.update d.head q none
    tail := Function.update d.tail q none }, ?_, rfl, fun q' hq' => Function.update_of_ne hq' _ _⟩
  simp [xfMsgDequeue, xfMsgEnqueue, h]

/-- The host posts a command, which is received, dispatched and completed, and the last step posts
its response. -/
theorem xfShmem_rings_answered : ∃ s s' : XfShmem,
    s.cmd.taken = [⟨0x80008000#32, 0x80000001#32, 16#32, 64#64⟩] ∧
    s'.rsp.posted = [⟨0x80008000#32, 0x80000001#32, 16#32, 64#64⟩] ∧
    XfRingOk s.cmd ∧ XfRingOk s.rsp ∧ XfDelivered 0x1000#32 s s' := by
  let c : XfProxyMessage := ⟨0x80008000#32, 0x80000001#32, 16#32, 64#64⟩
  let b : XfMsgBody := ⟨0x80008000#32, 0x80000001#32, 16#32, 0x1040#32⟩
  have hanswered {v v' : XfShmem}
      (hrun : Relation.ReflTransGen (XfShmemStep 0x1000#32) XfShmem.blank v)
      (hstep : XfShmemStep 0x1000#32 v v') (htaken : v.cmd.taken = [c])
      (hposted : v'.rsp.posted = [c]) : ∃ s s' : XfShmem, s.cmd.taken = [c] ∧
      s'.rsp.posted = [c] ∧ XfRingOk s.cmd ∧ XfRingOk s.rsp ∧ XfDelivered 0x1000#32 s s' := by
    obtain ⟨hcmd, hrsp, hdelivered⟩ := xfShmem_rings 0x1000#32 (fun _ => .blank) (fun _ => .blank)
      (fun _ => .blank) v hrun
    exact ⟨v, v', htaken, hposted, hcmd, hrsp, hdelivered v' hstep⟩
  obtain ⟨s, data, hrun, -, hget, hdata, -, -, houtput, htaken, hrsp⟩ :=
    xfShmem_one_command 0x1000#32 c
  -- the message is dispatched
  have hqueue : s.data = xfMsgEnqueue (data.write (.proxy 0) b) (.queue 0#32) (.proxy 0) := by
    rw [hdata, xfMsgSubmit_eq_enqueue]
    simp [XfMsgData.write, xfDispatchQueue, xfMsgSrcCore, xfMsgDstCore, xfIpcA2b,
      xfCfgRemoteIpcPoolSize, c, b]
  have hhead (q : XfMsgList) (hq : q ≠ .pool) : data.head q = none := by
    obtain rfl := (Prod.mk.inj (Option.some_inj.1 hget)).2
    simp [XfShmem.blank, XfShmem.init, xfMsgPoolInit, XfMsgData.blank, Function.update_of_ne hq]
  obtain ⟨data₁, hdequeue, hbody, hrest⟩ := xfMsgDequeue_enqueue (d := data.write (.proxy 0) b)
    (.proxy 0) (hhead (.queue 0#32) (by simp))
  rw [← hqueue] at hdequeue
  have hdispatch := hrun.tail (.dispatch s (.queue 0#32) (.proxy 0) data₁ (.inr rfl) hdequeue)
  -- it is completed
  have hbody₁ : data₁.body (.proxy 0) = b := by simp [hbody, XfMsgData.write]
  have hremote : xfMsgComplete (data₁.write (.proxy 0) b) (.proxy 0) =
      xfMsgEnqueue (data₁.write (.proxy 0) b) (.remote 0#32) (.proxy 0) := by
    have hswap : ({ b with id := xfMsgSwap b.id } : XfMsgBody) = b := by decide
    simp only [xfMsgComplete, XfMsgData.write, Function.update_self, Function.update_idem, hswap]
    rw [if_pos (by decide), xfMsgProxyPut]
    simp [xfMsgDstCore, b]
  obtain ⟨u, hu, hudata, hursp, hutaken⟩ : ∃ u, Relation.ReflTransGen (XfShmemStep 0x1000#32)
      XfShmem.blank u ∧ u.data = xfMsgEnqueue (data₁.write (.proxy 0) b) (.remote 0#32) (.proxy 0) ∧
      u.rsp = XfShmem.blank.rsp ∧ u.cmd.taken = [c] :=
    ⟨_, hdispatch.tail (.complete _ (.proxy 0) b (by simp) (by simp [hbody₁])
      (.inl (by simp [hbody₁])) fun _ => ⟨0, by decide, rfl⟩), hremote, hrsp, htaken⟩
  -- it is copied to the response ring
  obtain ⟨data₂, hdequeue, hbody₂, -⟩ := xfMsgDequeue_enqueue (d := data₁.write (.proxy 0) b)
    (q := .remote 0#32) (.proxy 0) (by
      change data₁.head _ = none
      rw [hrest _ (by simp)]
      exact hhead _ (by simp))
  rw [← hudata] at hdequeue
  have henter := hu.tail (.outputEnter u (by rw [hursp]; rfl))
  have hcopied := henter.tail (.outputGet _ _ _ (.proxy 0) data₂ rfl (by rw [hursp]; rfl)
    (by exact hdequeue) _ rfl)
  refine hanswered hcopied (.outputPut _ _ _ _ _ (by rfl) (by rfl)) hutaken ?_
  simp [hursp, XfShmem.blank, XfShmem.init, RingState.init, hbody₂, XfMsgData.write, b, c, xfIpcB2a,
    xfCfgRemoteIpcPoolSize]

end Shmem

end Hikey
