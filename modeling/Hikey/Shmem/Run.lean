import Hikey.Shmem.Pool
import Mathlib.Data.Set.Card

/-!
# Runs of the shared-memory layer

One step of the layer moves at most one message, and the placement and the serial numbers follow it
(`XfShmemInv.step`).  A run from the initial state in which the host only names core 0 therefore
keeps every message of the pool in one place and answers every command once (`xfShmem_pool`).
-/

namespace Hikey

namespace Shmem

section Effects

variable (d : XfMsgData) (m : XfMessagePtr)

/-- `xf_msg_submit` puts the message on a dispatch queue. -/
lemma xfMsgSubmit_eq : ∃ q : XfMsgList, q ≠ .pool ∧ (∀ c, q ≠ .remote c) ∧
    xfMsgSubmit d m = xfMsgEnqueue d q m ∧
    (XfCoreZero (d.body m).id → q = .queue 0#32) := by
  by_cases hcross : xfMsgSrcCore (d.body m).id ^^^ xfMsgDstCore (d.body m).id ≠ 0#32
  · refine ⟨.localIpc (xfMsgDstCore (d.body m).id), by simp, by simp, ?_, fun hzero => ?_⟩
    · simp only [xfMsgSubmit]
      rw [if_pos hcross]
    · rw [hzero.1, hzero.2] at hcross
      exact absurd rfl hcross
  · refine ⟨.queue (xfMsgSrcCore (d.body m).id), by simp, by simp, ?_, fun hzero => by rw [hzero.1]⟩
    simp only [xfMsgSubmit]
    rw [if_neg hcross]

/-- `xf_msg_complete` swaps the session id and puts the message on the response queue, if it came
from the proxy, or on a dispatch queue. -/
lemma xfMsgComplete_eq : ∃ (q : XfMsgList) (b : XfMsgBody), q ≠ .pool ∧
    xfMsgComplete d m = xfMsgEnqueue (d.write m b) q m ∧ b.id = xfMsgSwap (d.body m).id ∧
    ((∃ c, q = .remote c) → xfMsgSrcProxy (d.body m).id = true) ∧
    (XfCoreZero (d.body m).id → q = .queue 0#32 ∨ q = .remote 0#32) := by
  by_cases hproxy : xfMsgSrcProxy (d.body m).id = true
  · refine ⟨.remote (xfMsgSrcCore (d.body m).id),
      { d.body m with id := xfMsgSwap (d.body m).id }, by simp, ?_, rfl, fun _ => hproxy,
      fun hzero => .inr (by rw [hzero.1])⟩
    simp [xfMsgComplete, hproxy, xfMsgProxyPut, XfMsgData.write]
  · have hsubmit := xfMsgSubmit_eq (d.write m { d.body m with
      id := xfMsgSwap (d.body m).id, opcode := xfTurnOpcode (d.body m).opcode }) m
    obtain ⟨q, hq, hremote, he, hzero⟩ := hsubmit
    refine ⟨q, { d.body m with
      id := xfMsgSwap (d.body m).id, opcode := xfTurnOpcode (d.body m).opcode }, hq, ?_, rfl,
      fun ⟨c, hc⟩ => absurd hc (hremote c), fun h => .inl (hzero ?_)⟩
    · rw [← he]
      simp [xfMsgComplete, hproxy]
    · simpa [XfMsgData.write] using h.swap

end Effects

section Step

variable {start : U32} {s s' : XfShmem} {place : XfMessagePtr → XfPlace}

/-- The commands taken, counted by what the loop is doing. -/
lemma length_commands (s : XfShmem) : s.commands.length =
    s.cmd.taken.length + (match s.cmd.consumer with | .access _ _ _ => 1 | _ => 0) := by
  unfold XfShmem.commands
  split <;> simp [*]

namespace XfStored

/-- A step that moves no message. -/
lemma of_eq (h : XfStored s place) (hdata : s'.data = s.data) (hheld : s'.held = s.held)
    (hinput : s'.input = s.input) (houtput : s'.output = s.output)
    (hcmd : s.input = none ↔ ∀ r w c, s'.cmd.consumer ≠ .access r w c)
    (hrsp : s.output = none ↔ ∀ r w c, s'.rsp.producer ≠ .access r w c) : XfStored s' place where
  linked := hdata ▸ h.linked
  held := hheld ▸ h.held
  input := hinput ▸ h.input
  output := houtput ▸ h.output
  input_none := hinput ▸ hcmd
  output_none := houtput ▸ hrsp

/-- A message of the pool gets a command. -/
lemma inputGet (h : XfStored s place) {r w : U32} {m : XfMessagePtr} {data : XfMsgData}
    (hloop : s.cmd.consumer = .loop r w) (hget : xfMsgPoolGet s.data = some (m, data))
    (r' : U32) (c : XfProxyMessage) (b : XfMsgBody) (serial : XfMessagePtr → ℕ) :
    place m = .list .pool ∧ data.body = s.data.body ∧ XfStored { s with
      cmd := { s.cmd with consumer := .access r' w c }
      data := data.write m b
      input := some m
      serial := serial } (Function.update place m .input) := by
  obtain ⟨hm, hlinked, hbody⟩ := h.linked.poolGet hget (rfl : XfPlace.list? .input = none)
  have hnone : s.input = none := h.input_none.2 (by simp [hloop])
  refine ⟨hm, hbody, hlinked.write _ _, h.held_keep (by simp [hm]) (by simp), ?_,
    hand_keep h.output (by simp) (by simp [hm]), by simp, h.output_none⟩
  exact hand_update h.input (fun _ => ⟨hnone, rfl⟩) (fun hne => absurd rfl hne)
    fun hne => absurd rfl hne

/-- The message with the command is submitted. -/
lemma inputSubmit (h : XfStored s place) {m : XfMessagePtr} {q : XfMsgList}
    (hm : s.input = some m) (hq : q ≠ .pool) (r w : U32) (taken : List XfProxyMessage) :
    place m = .input ∧ XfStored { s with
      cmd := { s.cmd with
        read := r
        consumer := .loop r w
        taken := taken }
      data := xfMsgEnqueue s.data q m
      input := none } (Function.update place m (.list q)) := by
  have hmi : place m = .input := (h.input m).1 hm
  refine ⟨hmi, h.linked.enqueue (by simp [hmi, XfPlace.list?]) hq,
    h.held_keep (by simp [hmi]) (by simp), ?_, hand_keep h.output (by simp) (by simp [hmi]),
    by simp, h.output_none⟩
  exact hand_update h.input (fun he => by simp at he) (fun _ _ => rfl) fun _ hne => absurd hmi hne

/-- A message of the response queue gives its response. -/
lemma outputGet (h : XfStored s place) {r w : U32} {m : XfMessagePtr} {data : XfMsgData}
    (hloop : s.rsp.producer = .loop r w) (hget : xfMsgProxyGet s.data 0#32 = some (m, data))
    (w' : U32) (c : XfProxyMessage) (slots : ℕ → XfProxyMessage) :
    place m = .list (.remote 0#32) ∧ data.body = s.data.body ∧ XfStored { s with
      rsp := { s.rsp with
        slots := slots
        producer := .access r w' c }
      data := data
      output := some m } (Function.update place m .output) := by
  obtain ⟨hm, hlinked, hbody⟩ := h.linked.dequeue hget (rfl : XfPlace.list? .output = none)
  have hnone : s.output = none := h.output_none.2 (by simp [hloop])
  refine ⟨hm, hbody, hlinked, h.held_keep (by simp [hm]) (by simp),
    hand_keep h.input (by simp) (by simp [hm]), ?_, h.input_none, by simp⟩
  exact hand_update h.output (fun _ => ⟨hnone, rfl⟩) (fun hne => absurd rfl hne)
    fun hne => absurd rfl hne

/-- The message with the response goes back to the pool. -/
lemma outputPut (h : XfStored s place) {m : XfMessagePtr} (hm : s.output = some m) (r w : U32)
    (posted : List XfProxyMessage) (answered : List ℕ) :
    place m = .output ∧ XfStored { s with
      rsp := { s.rsp with
        write := w
        producer := .loop r w
        posted := posted }
      data := xfMsgPoolPut s.data m
      output := none
      answered := answered } (Function.update place m (.list .pool)) := by
  have hmo : place m = .output := (h.output m).1 hm
  refine ⟨hmo, h.linked.poolPut (by simp [hmo, XfPlace.list?]),
    h.held_keep (by simp [hmo]) (by simp), hand_keep h.input (by simp) (by simp [hmo]), ?_,
    h.input_none, by simp⟩
  exact hand_update h.output (fun he => by simp at he) (fun _ _ => rfl) fun _ hne => absurd hmo hne

/-- A message of a dispatch queue is handed over. -/
lemma dispatch (h : XfStored s place) {q : XfMsgList} {m : XfMessagePtr} {data : XfMsgData}
    (hget : xfMsgDequeue s.data q = some (m, data)) :
    place m = .list q ∧ data.body = s.data.body ∧ XfStored { s with
      data := data
      held := Function.update s.held m true } (Function.update place m .held) := by
  obtain ⟨hm, hlinked, hbody⟩ := h.linked.dequeue hget (rfl : XfPlace.list? .held = none)
  exact ⟨hm, hbody, hlinked, h.held_update m (by simp),
    hand_keep h.input (by simp) (by simp [hm]), hand_keep h.output (by simp) (by simp [hm]),
    h.input_none, h.output_none⟩

/-- The holder of a message gives it away. -/
lemma complete (h : XfStored s place) {m : XfMessagePtr} {q : XfMsgList}
    (hm : s.held m = true) (hq : q ≠ .pool) (b b' : XfMsgBody) :
    place m = .held ∧ XfStored { s with
      data := xfMsgEnqueue ((s.data.write m b).write m b') q m
      held := Function.update s.held m false } (Function.update place m (.list q)) := by
  have hmh : place m = .held := (h.held m).1 hm
  exact ⟨hmh, ((h.linked.write m b).write m b').enqueue (by simp [hmh, XfPlace.list?]) hq,
    h.held_update m (by simp), hand_keep h.input (by simp) (by simp [hmh]),
    hand_keep h.output (by simp) (by simp [hmh]), h.input_none, h.output_none⟩

/-- No step moves more than one message. -/
theorem step (h : XfStored s place) (hstep : XfShmemStep start s s') :
    ∃ place', XfStored s' place' := by
  cases hstep with
  | hostPost c hc =>
    exact ⟨place, h.of_eq rfl rfl rfl rfl (by simpa only [hc.consumer_eq.1] using h.input_none)
      h.output_none⟩
  | hostTake r hr =>
    exact ⟨place, h.of_eq rfl rfl rfl rfl h.input_none
      (by simpa only [hr.producer_eq.1] using h.output_none)⟩
  | inputEnter hidle =>
    exact ⟨place, h.of_eq rfl rfl rfl rfl (by simp [h.input_none, hidle]) h.output_none⟩
  | inputLeave r w hloop _ =>
    exact ⟨place, h.of_eq rfl rfl rfl rfl (by simp [h.input_none, hloop]) h.output_none⟩
  | inputGet r w m data hloop hempty hget c hc => exact ⟨_, (h.inputGet hloop hget _ c _ _).2.2⟩
  | inputSubmit r w c m haccess hm =>
    obtain ⟨q, hq, -, he, -⟩ := xfMsgSubmit_eq s.data m
    rw [he]
    exact ⟨_, (h.inputSubmit hm hq r w _).2⟩
  | outputEnter hidle =>
    exact ⟨place, h.of_eq rfl rfl rfl rfl h.input_none (by simp [h.output_none, hidle])⟩
  | outputLeave r w hloop _ =>
    exact ⟨place, h.of_eq rfl rfl rfl rfl h.input_none (by simp [h.output_none, hloop])⟩
  | outputGet r w m data hloop hfull hget c hc => exact ⟨_, (h.outputGet hloop hget _ c _).2.2⟩
  | outputPut r w c m haccess hm => exact ⟨_, (h.outputPut hm r w _ _).2⟩
  | dispatch q m data hq hget => exact ⟨_, (h.dispatch hget).2.2⟩
  | complete m b hm hsrc hdst hpool =>
    obtain ⟨q, b', hq, he, -⟩ := xfMsgComplete_eq (s.data.write m b) m
    rw [he]
    exact ⟨_, (h.complete hm hq b b').2⟩

end XfStored

/-- A step that moves no message. -/
lemma XfPlaced.of_eq (h : XfPlaced s place) (hdata : s'.data = s.data) (hheld : s'.held = s.held)
    (hinput : s'.input = s.input) (houtput : s'.output = s.output)
    (hcmd : s.input = none ↔ ∀ r w c, s'.cmd.consumer ≠ .access r w c)
    (hrsp : s.output = none ↔ ∀ r w c, s'.rsp.producer ≠ .access r w c) : XfPlaced s' place where
  toXfStored := h.toXfStored.of_eq hdata hheld hinput houtput hcmd hrsp
  live := h.live
  pooled := h.pooled
  cores := hdata ▸ h.cores

/-- A command is copied to a message of the pool. -/
lemma XfShmemInv.inputGet (h : XfShmemInv s) (hrings : XfRings s)
    (hzero : ∀ c ∈ s.cmd.posted, XfCoreZero c.sessionId) {r w : U32} {m : XfMessagePtr}
    {data : XfMsgData} (hloop : s.cmd.consumer = .loop r w) (hempty : xfQueueEmpty r w = false)
    (hget : xfMsgPoolGet s.data = some (m, data)) {c : XfProxyMessage}
    (hc : c = s.cmd.slots (xfQueueIdx r).toNat) :
    XfShmemInv { s with
      cmd := { s.cmd with consumer := .access (xfQueueAdvanceIdx r) w c }
      data := data.write m {
        id := c.sessionId
        opcode := c.opcode
        length := c.length
        buffer := xfIpcA2b start (c.address.setWidth 32) }
      input := some m
      serial := Function.update s.serial m s.cmd.taken.length } := by
  obtain ⟨place, hp, hs⟩ := h
  obtain ⟨hm, hbody, hstored⟩ := hp.toXfStored.inputGet hloop hget (xfQueueAdvanceIdx r) c
    ⟨c.sessionId, c.opcode, c.length, xfIpcA2b start (c.address.setWidth 32)⟩
    (Function.update s.serial m s.cmd.taken.length)
  obtain ⟨i, hi, rfl⟩ := hp.pooled m (.inl hm)
  have hread := (hrings.1.read_slot xfQueue_counts hloop hempty).2.1
  have hc0 : XfCoreZero c.sessionId := by
    rw [hc]
    exact hzero _ (List.mem_of_getElem? hread)
  refine ⟨_, hp.move hstored ?_ ?_ ?_ ?_, hs.take hi hm (by simp) rfl ?_ ?_ rfl⟩
  · exact fun _ _ _ => by simp [XfPlace.Live]
  · exact fun _ => ⟨i, hi, rfl⟩
  · intro _ _ _ _
    simpa [XfMsgData.write] using hc0
  · intro p hpm
    simp [XfMsgData.write, hpm, hbody]
  · simp [XfShmem.commands, hloop]
  · simp [length_commands, hloop]

/-- The message is submitted. -/
lemma XfShmemInv.inputSubmit (h : XfShmemInv s) {r w : U32} {c : XfProxyMessage} {m : XfMessagePtr}
    (haccess : s.cmd.consumer = .access r w c) (hm : s.input = some m) :
    XfShmemInv { s with
      cmd := { s.cmd with
        read := r
        consumer := .loop r w
        taken := s.cmd.taken ++ [c] }
      data := xfMsgSubmit s.data m
      input := none } := by
  obtain ⟨place, hp, hs⟩ := h
  obtain ⟨q, hq, -, he, hq0⟩ := xfMsgSubmit_eq s.data m
  obtain ⟨hmi, hstored⟩ := hp.toXfStored.inputSubmit hm hq r w (s.cmd.taken ++ [c])
  obtain ⟨i, hi, rfl⟩ := hp.pooled m (.inr (.inl hmi))
  have hcore := hp.cores i hi (by simp [hmi])
  obtain rfl := hq0 hcore
  rw [he]
  refine ⟨_, hp.move hstored ?_ ?_ ?_ ?_, hs.keep rfl rfl ?_ rfl ?_⟩
  · exact fun _ _ _ => by simp [XfPlace.Live]
  · rintro (he | he | he | ⟨c, he⟩) <;> simp at he
  · intro _ _ _ _
    simpa using hcore
  · intro p _
    simp
  · simp [length_commands, haccess]
  · exact XfSerials.pool_update (by simp [hmi]) (by simp)

/-- A response is copied to the ring. -/
lemma XfShmemInv.outputGet (h : XfShmemInv s) {r w : U32} {m : XfMessagePtr} {data : XfMsgData}
    (hloop : s.rsp.producer = .loop r w) (hget : xfMsgProxyGet s.data 0#32 = some (m, data))
    (c : XfProxyMessage) : XfShmemInv { s with
      rsp := { s.rsp with
        slots := Function.update s.rsp.slots (xfQueueIdx w).toNat c
        producer := .access r (xfQueueAdvanceIdx w) c }
      data := data
      output := some m } := by
  obtain ⟨place, hp, hs⟩ := h
  obtain ⟨hm, hbody, hstored⟩ := hp.toXfStored.outputGet hloop hget (xfQueueAdvanceIdx w) c
    (Function.update s.rsp.slots (xfQueueIdx w).toNat c)
  obtain ⟨i, hi, rfl⟩ := hp.pooled m (.inr (.inr (.inr ⟨_, hm⟩)))
  refine ⟨_, hp.move hstored ?_ ?_ ?_ ?_, hs.keep rfl rfl rfl rfl ?_⟩
  · exact fun _ _ _ => by simp [XfPlace.Live]
  · exact fun _ => ⟨i, hi, rfl⟩
  · intro _ _ _ _
    simp only [hbody]
    exact hp.cores i hi (by simp [hm])
  · intro p _
    simp [hbody]
  · exact XfSerials.pool_update (by simp [hm]) (by simp)

/-- The message is returned to the pool. -/
lemma XfShmemInv.outputPut (h : XfShmemInv s) {r w : U32} {c : XfProxyMessage} {m : XfMessagePtr}
    (hm : s.output = some m) : XfShmemInv { s with
      rsp := { s.rsp with
        write := w
        producer := .loop r w
        posted := s.rsp.posted ++ [c] }
      data := xfMsgPoolPut s.data m
      output := none
      answered := s.answered ++ [s.serial m] } := by
  obtain ⟨place, hp, hs⟩ := h
  obtain ⟨hmo, hstored⟩ := hp.toXfStored.outputPut hm r w (s.rsp.posted ++ [c])
    (s.answered ++ [s.serial m])
  obtain ⟨i, hi, rfl⟩ := hp.pooled m (.inr (.inr (.inl hmo)))
  refine ⟨_, hp.move hstored ?_ ?_ ?_ ?_, hs.answer hi (by simp [hmo]) rfl rfl rfl (by simp)⟩
  · exact fun _ _ _ => by simp [XfPlace.Live]
  · exact fun _ => ⟨i, hi, rfl⟩
  · exact fun hne => absurd rfl hne
  · exact fun _ _ => rfl

/-- A message of a dispatch queue is handed over. -/
lemma XfShmemInv.dispatch (h : XfShmemInv s) {q : XfMsgList} {m : XfMessagePtr} {data : XfMsgData}
    (hq : q = .localIpc 0#32 ∨ q = .queue 0#32) (hget : xfMsgDequeue s.data q = some (m, data)) :
    XfShmemInv { s with data := data, held := Function.update s.held m true } := by
  obtain ⟨place, hp, hs⟩ := h
  obtain ⟨hm, hbody, hstored⟩ := hp.toXfStored.dispatch hget
  have hmpool : place m ≠ .list .pool := by
    rcases hq with rfl | rfl <;> simp [hm]
  refine ⟨_, hp.move hstored ?_ ?_ ?_ ?_, hs.keep rfl rfl rfl rfl ?_⟩
  · exact fun _ _ _ => by simp [XfPlace.Live]
  · rintro (he | he | he | ⟨c, he⟩) <;> simp at he
  · rintro _ i hi rfl
    simp only [hbody]
    exact hp.cores i hi hmpool
  · intro p _
    simp [hbody]
  · exact XfSerials.pool_update (by simp [hmpool]) (by simp)

/-- A message is completed by its holder. -/
lemma XfShmemInv.complete (h : XfShmemInv s) {m : XfMessagePtr} {b : XfMsgBody}
    (hm : s.held m = true) (hsrc : xfMsgSrc b.id = xfMsgSrc (s.data.body m).id)
    (hdst : xfMsgDstCore b.id = xfMsgDstCore (s.data.body m).id ∨ xfMsgDstCore b.id = 0#32)
    (hpool : xfMsgSrcProxy b.id = true → ∃ i < xfCfgMessagePoolSize, m = .proxy i) :
    XfShmemInv { s with
      data := xfMsgComplete (s.data.write m b) m
      held := Function.update s.held m false } := by
  obtain ⟨place, hp, hs⟩ := h
  obtain ⟨q, b', hq, he, hid, hremote, hzeroq⟩ := xfMsgComplete_eq (s.data.write m b) m
  obtain ⟨hmh, hstored⟩ := hp.toXfStored.complete hm hq b b'
  have hbm : ((s.data.write m b).body m).id = b.id := by simp [XfMsgData.write]
  rw [hbm] at hid hremote hzeroq
  -- a message in flight still names core 0 when its holder has written it
  have hcore : ∀ i < xfCfgMessagePoolSize, m = .proxy i → XfCoreZero b.id := by
    rintro i hi rfl
    obtain ⟨hc1, hc2⟩ := hp.cores i hi (by simp [hmh])
    refine ⟨?_, ?_⟩
    · rw [xfMsgSrcCore_eq, hsrc, ← xfMsgSrcCore_eq, hc1]
    · rcases hdst with hd | hd
      · rw [hd, hc2]
      · exact hd
  rw [he]
  refine ⟨_, hp.move hstored ?_ ?_ ?_ ?_, hs.keep rfl rfl rfl rfl ?_⟩
  · intro i hi hmi
    rcases hzeroq (hcore i hi hmi) with rfl | rfl <;> simp [XfPlace.Live]
  · rintro (hx | hx | hx | ⟨c, hx⟩)
    · exact absurd (XfPlace.list.inj hx) hq
    · simp at hx
    · simp at hx
    · exact hpool (hremote ⟨c, XfPlace.list.inj hx⟩)
  · intro _ i hi hmi
    rw [body_xfMsgEnqueue]
    simp only [XfMsgData.write, Function.update_self, hid]
    exact (hcore i hi hmi).swap
  · intro p hpm
    rw [body_xfMsgEnqueue]
    simp [XfMsgData.write, hpm]
  · exact XfSerials.pool_update (by simp [hmh]) (by simp [hq])

/-- No step moves more than one message, and the invariant follows it. -/
theorem XfShmemInv.step (hrings : XfRings s) (hzero : ∀ c ∈ s.cmd.posted, XfCoreZero c.sessionId)
    (h : XfShmemInv s) (hstep : XfShmemStep start s s') : XfShmemInv s' := by
  cases hstep with
  | hostPost c hc =>
    obtain ⟨place, hp, hs⟩ := h
    obtain ⟨hconsumer, htaken, -⟩ := hc.consumer_eq
    refine ⟨place, hp.of_eq rfl rfl rfl rfl ?_ hp.output_none, hs.keep rfl rfl ?_ rfl fun _ => .rfl⟩
    · simpa only [hconsumer] using hp.input_none
    · rw [length_commands, length_commands]
      simp only [hconsumer, htaken]
  | hostTake r hr =>
    obtain ⟨place, hp, hs⟩ := h
    obtain ⟨hproducer, hposted⟩ := hr.producer_eq
    refine ⟨place, hp.of_eq rfl rfl rfl rfl hp.input_none ?_,
      hs.keep rfl rfl rfl (congrArg List.length hposted) fun _ => .rfl⟩
    simpa only [hproducer] using hp.output_none
  | inputEnter hidle =>
    obtain ⟨place, hp, hs⟩ := h
    refine ⟨place, hp.of_eq rfl rfl rfl rfl (by simp [hp.input_none, hidle]) hp.output_none,
      hs.keep rfl rfl ?_ rfl fun _ => .rfl⟩
    simp [length_commands, hidle]
  | inputLeave r w hloop _ =>
    obtain ⟨place, hp, hs⟩ := h
    refine ⟨place, hp.of_eq rfl rfl rfl rfl (by simp [hp.input_none, hloop]) hp.output_none,
      hs.keep rfl rfl ?_ rfl fun _ => .rfl⟩
    simp [length_commands, hloop]
  | inputGet r w m data hloop hempty hget c hc => exact h.inputGet hrings hzero hloop hempty hget hc
  | inputSubmit r w c m haccess hm => exact h.inputSubmit haccess hm
  | outputEnter hidle =>
    obtain ⟨place, hp, hs⟩ := h
    exact ⟨place, hp.of_eq rfl rfl rfl rfl hp.input_none (by simp [hp.output_none, hidle]),
      hs.keep rfl rfl rfl rfl fun _ => .rfl⟩
  | outputLeave r w hloop _ =>
    obtain ⟨place, hp, hs⟩ := h
    exact ⟨place, hp.of_eq rfl rfl rfl rfl hp.input_none (by simp [hp.output_none, hloop]),
      hs.keep rfl rfl rfl rfl fun _ => .rfl⟩
  | outputGet r w m data hloop hfull hget c hc => exact h.outputGet hloop hget c
  | outputPut r w c m haccess hm => exact h.outputPut hm
  | dispatch q m data hq hget => exact h.dispatch hq hget
  | complete m b hm hsrc hdst hpool => exact h.complete hm hsrc hdst hpool

end Step

section Exhausted

variable {start : U32} {s s' : XfShmem} {place : XfMessagePtr → XfPlace}

lemma xfMsgPoolGet_eq_none {d : XfMsgData} : xfMsgPoolGet d = none ↔ d.head .pool = none := by
  unfold xfMsgPoolGet
  split <;> simp [*]

/-- Submitting a message does not touch the free list. -/
lemma head_pool_xfMsgSubmit (d : XfMsgData) (m : XfMessagePtr) :
    (xfMsgSubmit d m).head .pool = d.head .pool := by
  obtain ⟨q, hq, -, he, -⟩ := xfMsgSubmit_eq d m
  rw [he, xfMsgEnqueue]
  split
  · exact Function.update_of_ne hq.symm _ _
  · rfl

/-- While the pool is exhausted no step takes a command. -/
lemma XfShmemStep.commands_of_exhausted (h : XfShmemStep start s s')
    (hpool : xfMsgPoolGet s.data = none) : s'.commands = s.commands := by
  cases h with
  | hostPost c hc =>
    obtain ⟨hconsumer, htaken, -⟩ := hc.consumer_eq
    simp [XfShmem.commands, hconsumer, htaken]
  | inputEnter h => simp [XfShmem.commands, h]
  | inputLeave r w h _ => simp [XfShmem.commands, h]
  | inputGet r w m d h _ hget => simp [hpool] at hget
  | inputSubmit r w c m h _ => simp [XfShmem.commands, h]
  | hostTake | outputEnter | outputLeave | outputGet | outputPut | dispatch | complete => rfl

variable (start) in
/-- A loop that sees a command and a free message takes the command. -/
lemma commands_of_loop (hrings : XfRings s) {r w : U32} (hloop : s.cmd.consumer = .loop r w)
    (hempty : xfQueueEmpty r w = false) (hpool : xfMsgPoolGet s.data ≠ none) {c : XfProxyMessage}
    (hc : s.cmd.posted[s.commands.length]? = some c) :
    ∃ s', XfShmemStep start s s' ∧ s'.commands = s.commands ++ [c] ∧
      s'.cmd.posted = s.cmd.posted := by
  obtain ⟨⟨m, data⟩, hget⟩ := Option.ne_none_iff_exists'.1 hpool
  have hread := (hrings.1.read_slot xfQueue_counts hloop hempty).2.1
  have hcommands : s.commands = s.cmd.taken := by simp [XfShmem.commands, hloop]
  rw [hcommands, hread, Option.some.injEq] at hc
  refine ⟨_, .inputGet s r w m data hloop hempty hget c hc.symm, ?_, rfl⟩
  rw [hcommands]
  rfl

variable (start) in
/-- A DSP outside the loop with a command and a free message enters the loop and takes it. -/
lemma commands_of_idle (hrings : XfRings s) (hidle : s.cmd.consumer = .idle)
    (hpool : xfMsgPoolGet s.data ≠ none) {c : XfProxyMessage}
    (hc : s.cmd.posted[s.commands.length]? = some c) :
    ∃ s', Relation.ReflTransGen (XfShmemStep start) s s' ∧ s'.commands = s.commands ++ [c] ∧
      s'.cmd.posted = s.cmd.posted := by
  have hcommands : s.commands = s.cmd.taken := by simp [XfShmem.commands, hidle]
  have henter : XfShmemStep start s _ := .inputEnter s hidle
  have hempty : xfQueueEmpty s.cmd.read s.cmd.write = false := by
    rw [Bool.eq_false_iff, ne_eq, (XfRingOk.of_inv hrings.1).empty_iff]
    intro he
    rw [hcommands, ← he, List.getElem?_eq_none le_rfl] at hc
    exact absurd hc (by simp)
  obtain ⟨s', hstep, hs', hposted⟩ := commands_of_loop start (hrings.step henter) rfl hempty hpool
    (c := c) (by rwa [hcommands] at hc)
  exact ⟨s', .head henter (.single hstep), by rw [hs', hcommands]; rfl, hposted⟩

variable (start) in
/-- A DSP in the loop with a command and a free message takes it, if need be with fresh copies of
the indices. -/
lemma commands_of_inLoop (hrings : XfRings s) {r w : U32} (hloop : s.cmd.consumer = .loop r w)
    (hpool : xfMsgPoolGet s.data ≠ none) {c : XfProxyMessage}
    (hc : s.cmd.posted[s.commands.length]? = some c) :
    ∃ s', Relation.ReflTransGen (XfShmemStep start) s s' ∧ s'.commands = s.commands ++ [c] ∧
      s'.cmd.posted = s.cmd.posted := by
  cases hempty : xfQueueEmpty r w with
  | false =>
    obtain ⟨s', hstep, hs'⟩ := commands_of_loop start hrings hloop hempty hpool hc
    exact ⟨s', .single hstep, hs'⟩
  | true =>
    have hcommands : s.commands = s.cmd.taken := by simp [XfShmem.commands, hloop]
    have hleave : XfShmemStep start s _ := .inputLeave s r w hloop (.inl hempty)
    obtain ⟨s', hrun, hs', hposted⟩ := commands_of_idle start (hrings.step hleave) rfl hpool
      (c := c) (by rwa [hcommands] at hc)
    exact ⟨s', .head hleave hrun, by rw [hs', hcommands]; rfl, hposted⟩

/-- When there is a free message, the next command in the ring can be taken. -/
lemma commands_resume (hrings : XfRings s) (hp : XfPlaced s place)
    (hpool : xfMsgPoolGet s.data ≠ none) {c : XfProxyMessage}
    (hc : s.cmd.posted[s.commands.length]? = some c) :
    ∃ s', Relation.ReflTransGen (XfShmemStep start) s s' ∧ s'.commands = s.commands ++ [c] ∧
      s'.cmd.posted = s.cmd.posted := by
  cases hconsumer : s.cmd.consumer with
  | idle => exact commands_of_idle start hrings hconsumer hpool hc
  | loop r w => exact commands_of_inLoop start hrings hconsumer hpool hc
  | access r w a =>
    obtain ⟨m, hm⟩ := Option.ne_none_iff_exists'.1
      (mt hp.input_none.1 (by simp [hconsumer]))
    have hsubmit : XfShmemStep start s _ := .inputSubmit s r w a m hconsumer hm
    have hcommands : s.commands = s.cmd.taken ++ [a] := by simp [XfShmem.commands, hconsumer]
    obtain ⟨s', hrun, hs', hposted⟩ := commands_of_inLoop start (hrings.step hsubmit) rfl
      (by rwa [ne_eq, xfMsgPoolGet_eq_none, head_pool_xfMsgSubmit, ← xfMsgPoolGet_eq_none])
      (c := c) (by rwa [hcommands] at hc)
    exact ⟨s', .head hsubmit hrun, by rw [hs', hcommands]; rfl, hposted⟩

end Exhausted

/-- The messages of the pool that are in flight. -/
def XfShmem.inFlight (s : XfShmem) : Set ℕ :=
  {i | i < xfCfgMessagePoolSize ∧ ¬ s.At (.proxy i) (.list .pool)}

/-- What holds of the pool in every state: each message is in one place on core 0, the responses
written and the messages in flight add up to the commands taken, every command taken is either
answered, once, or carried by one message, and an exhausted pool leaves the commands in the ring
until a message is free. -/
structure XfPoolOk (start : U32) (s : XfShmem) : Prop where
  place : ∀ i < xfCfgMessagePoolSize, ∃ pl : XfPlace, pl.Live ∧ s.At (.proxy i) pl ∧
    ∀ pl', s.At (.proxy i) pl' → pl' = pl
  count : s.rsp.posted.length + s.inFlight.ncard = s.commands.length
  answered : s.answered.Nodup ∧ s.answered.length = s.rsp.posted.length
  carried : ∀ k < s.commands.length,
    Xor (k ∈ s.answered) (∃! i, i ∈ s.inFlight ∧ s.serial (.proxy i) = k)
  exhausted : xfMsgPoolGet s.data = none → ∀ s', XfShmemStep start s s' → s'.commands = s.commands
  resume : xfMsgPoolGet s.data ≠ none → ∀ c, s.cmd.posted[s.commands.length]? = some c →
    ∃ s', Relation.ReflTransGen (XfShmemStep start) s s' ∧ s'.commands = s.commands ++ [c] ∧
      s'.cmd.posted = s.cmd.posted

section Count

variable {start : U32} {s : XfShmem} {place : XfMessagePtr → XfPlace}

lemma XfPlaced.mem_inFlight (hp : XfPlaced s place) (i : ℕ) :
    i ∈ s.inFlight ↔ i < xfCfgMessagePoolSize ∧ place (.proxy i) ≠ .list .pool :=
  and_congr_right fun _ => not_congr (hp.at_iff (by simp))

/-- The commands answered and those in flight are the commands taken. -/
lemma XfSerials.count (hp : XfPlaced s place) (hs : XfSerials s place) :
    s.rsp.posted.length + s.inFlight.ncard = s.commands.length := by
  classical
  let flight := (Finset.range xfCfgMessagePoolSize).filter fun i => place (.proxy i) ≠ .list .pool
  have hflight : s.inFlight = ↑flight := by
    ext i
    simp [flight, hp.mem_inFlight]
  have hmem : ∀ i, i ∈ flight ↔ i < xfCfgMessagePoolSize ∧ place (.proxy i) ≠ .list .pool := by
    simp [flight]
  have hcard : (flight.image fun i => s.serial (.proxy i)).card = flight.card := by
    refine Finset.card_image_of_injOn fun i hi j hj he => ?_
    obtain ⟨hi, hine⟩ := (hmem i).1 hi
    obtain ⟨hj, hjne⟩ := (hmem j).1 hj
    exact hs.inj i hi j hj hine hjne he
  have hdisjoint : Disjoint s.answered.toFinset (flight.image fun i => s.serial (.proxy i)) := by
    rw [Finset.disjoint_right]
    intro k hk
    obtain ⟨i, hi, rfl⟩ := Finset.mem_image.1 hk
    rw [List.mem_toFinset]
    exact (hs.flight_lt i ((hmem i).1 hi).1 ((hmem i).1 hi).2).2
  have hunion : s.answered.toFinset ∪ (flight.image fun i => s.serial (.proxy i)) =
      Finset.range s.commands.length := by
    ext k
    rw [Finset.mem_union, List.mem_toFinset, Finset.mem_image, Finset.mem_range]
    constructor
    · rintro (hk | ⟨i, hi, rfl⟩)
      · exact hs.lt k hk
      · exact (hs.flight_lt i ((hmem i).1 hi).1 ((hmem i).1 hi).2).1
    · intro hk
      refine (hs.cover k hk).imp_right fun ⟨i, hi, hne, he⟩ => ⟨i, (hmem i).2 ⟨hi, hne⟩, he⟩
  rw [hflight, Set.ncard_coe_finset, hs.posted, ← List.toFinset_card_of_nodup hs.nodup, ← hcard,
    ← Finset.card_union_of_disjoint hdisjoint, hunion, Finset.card_range]

lemma XfPoolOk.of_inv (hrings : XfRings s) (h : XfShmemInv s) : XfPoolOk start s := by
  obtain ⟨place, hp, hs⟩ := h
  refine ⟨fun i hi => ⟨place (.proxy i), hp.live i hi, ?_, fun pl' hpl' => ?_⟩, hs.count hp,
    ⟨hs.nodup, hs.posted.symm⟩, fun k hk => ?_, fun hpool s' hstep =>
      hstep.commands_of_exhausted hpool,
    fun hpool c hc => commands_resume hrings hp hpool hc⟩
  · rw [hp.at_iff]
    intro haway
    have := hp.live i hi
    simp [haway, XfPlace.Live] at this
  · by_cases haway : pl' = .away
    · rw [haway] at hpl'
      exact hpl'.elim
    · exact ((hp.at_iff haway).1 hpl').symm
  · have hunique : ∀ i, i ∈ s.inFlight ∧ s.serial (.proxy i) = k →
        ∃! i, i ∈ s.inFlight ∧ s.serial (.proxy i) = k := by
      rintro i ⟨hi, he⟩
      refine ⟨i, ⟨hi, he⟩, fun j hj => ?_⟩
      obtain ⟨hi, hine⟩ := (hp.mem_inFlight i).1 hi
      obtain ⟨hj', hjne⟩ := (hp.mem_inFlight j).1 hj.1
      exact hs.inj j hj' i hi hjne hine (hj.2.trans he.symm)
    by_cases hans : k ∈ s.answered
    · refine .inl ⟨hans, fun ⟨i, ⟨hi, he⟩, _⟩ => ?_⟩
      obtain ⟨hi, hine⟩ := (hp.mem_inFlight i).1 hi
      exact (hs.flight_lt i hi hine).2 (he ▸ hans)
    · obtain ⟨i, hi, hne, he⟩ := (hs.cover k hk).resolve_left hans
      exact .inr ⟨hunique i ⟨(hp.mem_inFlight i).2 ⟨hi, hne⟩, he⟩, hans⟩

end Count

/-- After the initialisation every message of the pool is on the free list. -/
lemma XfStored.init (command response : ℕ → XfProxyMessage) (body : XfMessagePtr → XfMsgBody) :
    XfStored (XfShmem.init command response body) XfPlace.init := by
  refine ⟨.init body, ?_, ?_, ?_, by simp [XfShmem.init, RingState.init],
    by simp [XfShmem.init, RingState.init]⟩
  all_goals
    rintro (i | ⟨a, i⟩)
    · by_cases hi : i < xfCfgMessagePoolSize <;> simp [XfShmem.init, XfPlace.init, hi]
    · simp [XfShmem.init, XfPlace.init]

lemma XfShmemInv.init (command response : ℕ → XfProxyMessage) (body : XfMessagePtr → XfMsgBody) :
    XfShmemInv (XfShmem.init command response body) := by
  have hpool : ∀ i < xfCfgMessagePoolSize, XfPlace.init (.proxy i) = .list .pool := fun i hi => by
    simp [XfPlace.init, hi]
  refine ⟨XfPlace.init, ⟨.init command response body, ?_, ?_, ?_⟩, ⟨?_, ?_, ?_, ?_, ?_, rfl⟩⟩
  · exact fun i hi => .inl (hpool i hi)
  · rintro (i | ⟨a, i⟩) h
    · by_cases hi : i < xfCfgMessagePoolSize
      · exact ⟨i, hi, rfl⟩
      · simp [XfPlace.init, hi] at h
    · simp [XfPlace.init] at h
  · exact fun i hi hne => absurd (hpool i hi) hne
  · exact List.nodup_nil
  · simp [XfShmem.init]
  · exact fun i hi hne => absurd (hpool i hi) hne
  · exact fun i hi _ _ hne => absurd (hpool i hi) hne
  · simp [XfShmem.init, XfShmem.commands, RingState.init]

/-- In every run in which the commands of the host name core 0 in both halves of their session id,
no message of the pool is lost or in two places, and no command is lost or answered twice. -/
theorem xfShmem_pool (start : U32) (command response : ℕ → XfProxyMessage)
    (body : XfMessagePtr → XfMsgBody) (s : XfShmem)
    (hrun : Relation.ReflTransGen (XfShmemStep start) (XfShmem.init command response body) s)
    (hzero : ∀ c ∈ s.cmd.posted, XfCoreZero c.sessionId) : XfPoolOk start s := by
  have h : XfRings s ∧ ((∀ c ∈ s.cmd.posted, XfCoreZero c.sessionId) → XfShmemInv s) := by
    refine run_invariant (fun s => XfRings s ∧
      ((∀ c ∈ s.cmd.posted, XfCoreZero c.sessionId) → XfShmemInv s)) ?_
      ⟨⟨.init _ _ _, .init _ _ _⟩, fun _ => .init command response body⟩ hrun
    rintro s s' ⟨hrings, hinv⟩ hstep
    refine ⟨hrings.step hstep, fun hzero => ?_⟩
    have hposted : s.cmd.posted <+: s'.cmd.posted := by
      rcases hstep.cmd with he | hp | hc
      · rw [he]
      · exact hp.consumer_eq.2.2
      · rw [hc.producer_eq.2]
    have hzero' : ∀ c ∈ s.cmd.posted, XfCoreZero c.sessionId :=
      fun c hc => hzero c (hposted.subset hc)
    exact (hinv hzero').step hrings hzero' hstep
  exact .of_inv h.1 (h.2 hzero)

section OneCommand

/-- A blank slot. -/
def XfProxyMessage.blank : XfProxyMessage := ⟨0#32, 0#32, 0#32, 0#64⟩

/-- A blank message. -/
def XfMsgBody.blank : XfMsgBody := ⟨0#32, 0#32, 0#32, 0#32⟩

/-- The layer with blank memory after its initialisation. -/
def XfShmem.blank : XfShmem :=
  .init (fun _ => .blank) (fun _ => .blank) fun _ => .blank

/-- The host posts one command, and the DSP takes it and submits the first message of the pool. -/
lemma xfShmem_one_command (start : U32) (c : XfProxyMessage) : ∃ s data,
    Relation.ReflTransGen (XfShmemStep start) XfShmem.blank s ∧ s.cmd.posted = [c] ∧
    xfMsgPoolGet XfShmem.blank.data = some (.proxy 0, data) ∧
    s.data = xfMsgSubmit (data.write (.proxy 0) ⟨c.sessionId, c.opcode, c.length,
      xfIpcA2b start (c.address.setWidth 32)⟩) (.proxy 0) ∧
    s.held = XfShmem.blank.held ∧ s.input = none ∧ s.output = none ∧ s.cmd.taken = [c] ∧
    s.rsp = XfShmem.blank.rsp := by
  obtain ⟨data, hget⟩ : ∃ data, xfMsgPoolGet XfShmem.blank.data = some (.proxy 0, data) := ⟨_, rfl⟩
  have h1 := Relation.ReflTransGen.single
    (.hostPost XfShmem.blank _ (.enter _ rfl) : XfShmemStep start XfShmem.blank _)
  have h2 := h1.tail (.hostPost _ _ (.access _ _ _ c rfl rfl))
  have h3 := h2.tail (.hostPost _ _ (.publish _ _ _ c rfl))
  have h4 := h3.tail (.inputEnter _ rfl)
  have h5 := h4.tail (.inputGet _ _ _ (.proxy 0) data rfl rfl (by exact hget) c
    (by simp [XfShmem.blank, XfShmem.init, RingState.init, xfQueue]))
  have h6 := h5.tail (.inputSubmit _ _ _ _ _ rfl rfl)
  exact ⟨_, _, h6, rfl, hget, rfl, rfl, rfl, rfl, rfl, rfl⟩

/-- The run in which the host asks for a component on core 0. -/
theorem xfShmem_pool_register : ∃ s, s.cmd.posted = [⟨0x80008000#32, 0x80000001#32, 0#32, 0#64⟩] ∧
    XfPoolOk 0#32 s := by
  obtain ⟨s, data, hrun, hposted, -⟩ :=
    xfShmem_one_command 0#32 ⟨0x80008000#32, 0x80000001#32, 0#32, 0#64⟩
  refine ⟨s, hposted,
    xfShmem_pool 0#32 (fun _ => .blank) (fun _ => .blank) (fun _ => .blank) s hrun ?_⟩
  intro c hc
  rw [hposted, List.mem_singleton] at hc
  subst hc
  exact ⟨rfl, rfl⟩

/-- A command whose session id names core 1 takes its message out of the layer: it is on no list of
core 0, and nobody has it. -/
theorem xfShmem_pool_other_core : ∃ s, Relation.ReflTransGen (XfShmemStep 0#32) XfShmem.blank s ∧
    s.cmd.posted = [⟨0x00018001#32, 0x80000008#32, 0#32, 0#64⟩] ∧
    ¬ ∃ pl : XfPlace, pl.Live ∧ s.At (.proxy 0) pl := by
  obtain ⟨s, data, hrun, hposted, hget, hdata, hheld, hinput, houtput, -, -⟩ :=
    xfShmem_one_command 0#32 ⟨0x00018001#32, 0x80000008#32, 0#32, 0#64⟩
  refine ⟨s, hrun, hposted, ?_⟩
  obtain ⟨-, hlinked, -⟩ :=
    (XfMsgData.Linked.init fun _ => .blank).poolGet hget (rfl : XfPlace.list? .input = none)
  have hqueue := (hlinked.write (.proxy 0) ⟨0x00018001#32, 0x80000008#32, 0#32, 0#32⟩).enqueue
    (m := .proxy 0) (q := .queue 1#32) (by simp [XfPlace.list?]) (by simp)
  have hlist : ∀ q, s.At (.proxy 0) (.list q) → q = .queue 1#32 := by
    intro q hq
    have hplace := (Lists.reaches_iff hqueue q (.proxy 0)).1 (by
      have he : s.data = xfMsgEnqueue (data.write (.proxy 0)
          ⟨0x00018001#32, 0x80000008#32, 0#32, 0#32⟩) (.queue 1#32) (.proxy 0) := by
        rw [hdata]
        simp [xfMsgSubmit, XfMsgData.write, xfMsgSrcCore, xfMsgDstCore, xfIpcA2b,
          xfCfgRemoteIpcPoolSize]
      rw [← he]
      exact hq)
    simpa [XfPlace.list?, eq_comm] using hplace
  rintro ⟨pl, rfl | rfl | rfl | rfl | rfl | rfl, hat⟩
  · simpa using hlist _ hat
  · simpa using hlist _ hat
  · simpa using hlist _ hat
  · simp [XfShmem.At, hheld, XfShmem.blank, XfShmem.init] at hat
  · simp [XfShmem.At, hinput] at hat
  · simp [XfShmem.At, houtput] at hat

end OneCommand

end Shmem

end Hikey
