import Hikey.Shmem.Queue

/-!
# Sleeping and waking (`ipc/xt-shmem/xf-main.c`, `include/sys/xt-shmem/xf-ipc.h`, `core/xf-core.c`)

The DSP serves its queues and sleeps until the host raises the interrupt of the mailbox.  The
handler acknowledges the interrupt and sets `waitstate`, which `xf_ipi_wait` tests with the
interrupts masked before it sleeps.  The host may post and raise at any time; a command that it has
announced is never slept on, as long as the pool has a message for it.
-/

namespace Hikey

namespace Shmem

/-- Where the main program is: at the statements of `xf_ipi_wait`, in `xf_shmem_process_output` or
in `xf_shmem_process_input`, or in the rest of `xf_core_service`.  The `status` of the two loops
goes with it; `unmask` knows whether the interrupts are still masked. -/
inductive XfMainPc
  | intsOn
  | mask
  | check
  | waiti
  | unmask (masked : Bool)
  | intsOff
  | reset
  | output (status : Bool)
  | input (status : Bool)
  | work (status : Bool)
deriving DecidableEq

/-- Where the interrupt handler `xf_ipi_resume` is. -/
inductive XfIsrPc
  | out
  | intsOff
  | read
  | clear
  | set
deriving DecidableEq

/-- The DSP with its shared-memory layer; `announced` counts the commands that had been posted when
the host last raised the interrupt. -/
structure XfDsp where
  shmem : XfShmem
  announced : ℕ
  mailbox : Bool
  intEnable : Bool
  waitstate : Bool
  pc : XfMainPc
  isr : XfIsrPc

/-- The interrupts are masked between `rsil` and `waiti`, or the second `rsil`. -/
def XfMainPc.masked : XfMainPc → Bool
  | .check => true
  | .unmask masked => masked
  | _ => false

/-- The statement behind one of `xf_shmem_process_output`. -/
def XfMainPc.afterOutput (status : Bool) : RingParty U32 XfProxyMessage → XfMainPc
  | .idle => .input status
  | .loop _ _ => .output status
  | .access _ _ _ => .output true

/-- The statement behind one of `xf_shmem_process_input`; the loop of `xf_shmem_process_queues` goes
on while there was something to do. -/
def XfMainPc.afterInput (status : Bool) : RingParty U32 XfProxyMessage → XfMainPc
  | .idle => if status then .output false else .work false
  | .loop _ _ => .input status
  | .access _ _ _ => .input true

/-- One step of the host, of the main program or of the interrupt handler. -/
inductive XfDspStep (start : U32) : XfDsp → XfDsp → Prop
  /-- The host posts commands or takes responses. -/
  | host (s : XfDsp) (shmem : XfShmem) (h : XfShmemStep start s.shmem shmem)
      (hhost : RingProduce xfQueue s.shmem.cmd shmem.cmd ∨
        RingConsume xfQueue s.shmem.rsp shmem.rsp) :
      XfDspStep start s { s with shmem := shmem }
  /-- The host raises the interrupt. -/
  | announce (s : XfDsp) :
      XfDspStep start s { s with mailbox := true, announced := s.shmem.cmd.posted.length }
  /-- `_xtos_ints_on` -/
  | intsOn (s : XfDsp) (hpc : s.pc = .intsOn) (hisr : s.isr = .out) :
      XfDspStep start s { s with intEnable := true, pc := .mask }
  /-- `rsil` -/
  | mask (s : XfDsp) (hpc : s.pc = .mask) (hisr : s.isr = .out) : XfDspStep start s
      { s with pc := .check }
  /-- `l32i`, `bnez` -/
  | check (s : XfDsp) (hpc : s.pc = .check) (hisr : s.isr = .out) :
      XfDspStep start s { s with pc := if s.waitstate then .unmask true else .waiti }
  /-- Another interrupt ends `waiti`. -/
  | wake (s : XfDsp) (hpc : s.pc = .waiti) (hisr : s.isr = .out) : XfDspStep start s
      { s with pc := .unmask false }
  | unmask (s : XfDsp) (masked : Bool) (hpc : s.pc = .unmask masked) (hisr : s.isr = .out) :
      XfDspStep start s { s with pc := .intsOff }
  /-- `_xtos_ints_off` -/
  | intsOff (s : XfDsp) (hpc : s.pc = .intsOff) (hisr : s.isr = .out) :
      XfDspStep start s { s with intEnable := false, pc := .reset }
  /-- `waitstate = 0` -/
  | reset (s : XfDsp) (hpc : s.pc = .reset) (hisr : s.isr = .out) :
      XfDspStep start s { s with waitstate := false, pc := .output false }
  /-- A step of `xf_shmem_process_output`. -/
  | output (s : XfDsp) (status : Bool) (shmem : XfShmem) (hpc : s.pc = .output status)
      (hisr : s.isr = .out)
      (h : XfShmemStep start s.shmem shmem) (hrsp : RingProduce xfQueue s.shmem.rsp shmem.rsp) :
      XfDspStep start s { s with shmem := shmem, pc := .afterOutput status shmem.rsp.producer }
  /-- A step of `xf_shmem_process_input`. -/
  | input (s : XfDsp) (status : Bool) (shmem : XfShmem) (hpc : s.pc = .input status)
      (hisr : s.isr = .out)
      (h : XfShmemStep start s.shmem shmem) (hcmd : RingConsume xfQueue s.shmem.cmd shmem.cmd) :
      XfDspStep start s { s with shmem := shmem, pc := .afterInput status shmem.cmd.consumer }
  /-- A message is dispatched or completed. -/
  | work (s : XfDsp) (status : Bool) (shmem : XfShmem) (hpc : s.pc = .work status)
      (hisr : s.isr = .out)
      (h : XfShmemStep start s.shmem shmem)
        (hrings : shmem.cmd = s.shmem.cmd ∧ shmem.rsp = s.shmem.rsp) :
      XfDspStep start s { s with shmem := shmem, pc := .work true }
  /-- A component processes data. -/
  | process (s : XfDsp) (status : Bool) (hpc : s.pc = .work status) (hisr : s.isr = .out) :
      XfDspStep start s { s with pc := .work true }
  /-- The loop of `xf_core_service` goes on. -/
  | again (s : XfDsp) (hpc : s.pc = .work true) (hisr : s.isr = .out) : XfDspStep start s
      { s with pc := .output false }
  /-- There was nothing to do. -/
  | leave (s : XfDsp) (hpc : s.pc = .work false) (hisr : s.isr = .out)
      (hipc : xfMsgDequeue s.shmem.data (.localIpc 0#32) = none)
        (hqueue : xfMsgDequeue s.shmem.data (.queue 0#32) = none) :
      XfDspStep start s { s with pc := .intsOn }
  /-- The interrupt is let through. -/
  | isrEnter (s : XfDsp) (hisr : s.isr = .out) (hmailbox : s.mailbox = true)
      (hen : s.intEnable = true)
      (hmask : s.pc.masked = false) : XfDspStep start s { s with isr := .intsOff }
  | isrOff (s : XfDsp) (hisr : s.isr = .intsOff) : XfDspStep start s
      { s with intEnable := false, isr := .read }
  /-- `SYS_IPC_CPUIRST` -/
  | isrRead (s : XfDsp) (hisr : s.isr = .read) :
      XfDspStep start s { s with isr := if s.mailbox then .clear else .out }
  /-- `SYS_IPC_ICLR` -/
  | isrClear (s : XfDsp) (hisr : s.isr = .clear) : XfDspStep start s
      { s with mailbox := false, isr := .set }
  /-- `waitstate = 1`, and the return, which ends `waiti`. -/
  | isrSet (s : XfDsp) (hisr : s.isr = .set) :
      XfDspStep start s { s with waitstate := true, isr := .out, pc :=
        if s.pc = .waiti then .unmask false else s.pc }

/-- The DSP at the start of `xf_core_loop`. -/
def XfDsp.init (command response : ℕ → XfProxyMessage) (body : XfMessagePtr → XfMsgBody) :
    XfDsp where
  shmem := .init command response body
  announced := 0
  mailbox := false
  intEnable := false
  waitstate := false
  pc := .intsOn
  isr := .out

/-! ## The invariant -/

variable {start : U32} {s s' : XfDsp}

/-- The announced commands are taken, or the host has raised the interrupt again. -/
def XfDsp.Taken (s : XfDsp) (n : ℕ) : Prop := s.announced ≤ n ∨ s.mailbox = true

/-- The copy `w` of the writing index is at least `taken`, and counts all commands that were
announced. -/
def XfDsp.Counts (s : XfDsp) (taken : ℕ) (w : U32) : Prop :=
  ∃ k, w = xfQueue.nth k ∧ taken ≤ k ∧ k ≤ s.shmem.cmd.posted.length ∧ s.Taken k

/-- The reader of the commands has seen all that were announced. -/
def XfDsp.Seen (s : XfDsp) : RingParty U32 XfProxyMessage → Prop
  | .idle => True
  | .loop _ w => s.Counts s.shmem.cmd.taken.length w
  | .access _ w _ => s.Counts (s.shmem.cmd.taken.length + 1) w

/-- Nothing is left to do, or the pool has no message for it. -/
def XfDsp.Quiet (s : XfDsp) : Prop :=
  s.Taken s.shmem.cmd.taken.length ∨ xfMsgPoolGet s.shmem.data = none

/-- What holds at a statement of the main program. -/
def XfDsp.At (s : XfDsp) : XfMainPc → Prop
  | .intsOn => s.shmem.cmd.consumer = .idle ∧ s.isr = .out ∧ s.intEnable = false ∧ s.Quiet
  | .mask => s.shmem.cmd.consumer = .idle ∧ (s.Quiet ∨ s.waitstate = true ∨ s.isr = .set) ∧
      (s.isr = .out → s.intEnable = true ∨ s.waitstate = true)
  | .check => s.shmem.cmd.consumer = .idle ∧ (s.Quiet ∨ s.waitstate = true) ∧ s.isr = .out ∧
      (s.intEnable = true ∨ s.waitstate = true)
  | .waiti => s.shmem.cmd.consumer = .idle ∧ (s.Quiet ∨ s.isr = .set) ∧
      (s.isr = .out → s.intEnable = true)
  | .unmask masked => s.shmem.cmd.consumer = .idle ∧ (masked = true → s.isr = .out)
  | .intsOff => s.shmem.cmd.consumer = .idle
  | .reset | .output _ => s.shmem.cmd.consumer = .idle ∧ s.isr = .out ∧ s.intEnable = false
  | .input _ => s.isr = .out ∧ s.intEnable = false ∧ s.Seen s.shmem.cmd.consumer
  | .work status => s.shmem.cmd.consumer = .idle ∧ s.isr = .out ∧ s.intEnable = false ∧
      (status = false → s.Quiet)

/-- The invariant of all interleavings. -/
structure XfDsp.Inv (s : XfDsp) : Prop where
  rings : XfRings s.shmem
  announced : s.announced ≤ s.shmem.cmd.posted.length
  isr : s.isr ≠ .out → s.isr ≠ .set → s.mailbox = true
  pc : s.At s.pc

/-! ## The steps of the layer -/

section Layer

variable {shmem shmem' : XfShmem}

lemma ringProduce_ne {q q' : RingState U32 XfProxyMessage} (h : RingProduce xfQueue q q') :
    q' ≠ q := by
  intro heq
  have hp := congrArg RingState.producer heq
  cases h with
  | enter hq | leave r w hq | access r w a hq | publish r w a hq =>
    rw [hq] at hp
    cases hp

lemma ringConsume_ne {q q' : RingState U32 XfProxyMessage} (h : RingConsume xfQueue q q') :
    q' ≠ q := by
  intro heq
  have hc := congrArg RingState.consumer heq
  cases h with
  | enter hq | leave r w hq | access r w hq | publish r w a hq =>
    rw [hq] at hc
    cases hc

/-- The host leaves the reader of the commands and the messages alone. -/
lemma XfShmemStep.host_spec (h : XfShmemStep start shmem shmem')
    (hhost : RingProduce xfQueue shmem.cmd shmem'.cmd ∨ RingConsume xfQueue shmem.rsp shmem'.rsp) :
    shmem'.data = shmem.data ∧ shmem'.cmd.consumer = shmem.cmd.consumer ∧
      shmem'.cmd.taken = shmem.cmd.taken ∧
      shmem.cmd.posted.length ≤ shmem'.cmd.posted.length := by
  cases h with
  | hostPost cmd hpost =>
    obtain ⟨hconsumer, htaken, hposted⟩ := hpost.consumer_eq
    exact ⟨rfl, hconsumer, htaken, hposted.length_le⟩
  | hostTake => exact ⟨rfl, rfl, rfl, le_rfl⟩
  | outputEnter hq | outputLeave r w hq | outputGet r w m d hq | outputPut r w c m hq =>
    rcases hhost with hhost | hhost
    · exact absurd rfl (ringProduce_ne hhost)
    · have hsame := hhost.producer_eq.1
      rw [hq] at hsame
      cases hsame
  | dispatch | complete =>
    rcases hhost with hhost | hhost
    · exact absurd rfl (ringProduce_ne hhost)
    · exact absurd rfl (ringConsume_ne hhost)
  | inputEnter hq | inputLeave r w hq | inputGet r w m d hq | inputSubmit r w c m hq =>
    rcases hhost with hhost | hhost
    · have hsame := hhost.consumer_eq.1
      rw [hq] at hsame
      cases hsame
    · exact absurd rfl (ringConsume_ne hhost)

/-- A step of `xf_shmem_process_output` leaves the commands alone. -/
lemma XfShmemStep.output_spec (h : XfShmemStep start shmem shmem')
    (hrsp : RingProduce xfQueue shmem.rsp shmem'.rsp) :
    shmem'.cmd = shmem.cmd := by
  cases h with
  | hostTake | outputEnter | outputLeave | outputGet | outputPut => rfl
  | hostPost | inputEnter | inputLeave | inputGet | inputSubmit | dispatch | complete =>
    exact absurd rfl (ringProduce_ne hrsp)

/-- What the steps of `xf_shmem_process_input` do to the reader: it copies the writing index, leaves
where there is no more command or no message, gets a command, or submits one. -/
lemma XfShmemStep.input_spec (h : XfShmemStep start shmem shmem')
    (hcmd : RingConsume xfQueue shmem.cmd shmem'.cmd) :
    shmem'.cmd.posted = shmem.cmd.posted ∧
      (shmem.cmd.consumer = .idle ∧ shmem'.cmd.taken = shmem.cmd.taken ∧
          shmem'.cmd.consumer = .loop shmem.cmd.read shmem.cmd.write ∨
        (∃ r w, shmem.cmd.consumer = .loop r w ∧ shmem'.cmd.taken = shmem.cmd.taken ∧
        shmem'.cmd.consumer = .idle ∧
          shmem'.data = shmem.data ∧ (xfQueueEmpty r w = true ∨ xfMsgPoolGet shmem.data = none)) ∨
        (∃ r w r' a, shmem.cmd.consumer = .loop r w ∧ xfQueueEmpty r w = false ∧
        shmem'.cmd.taken = shmem.cmd.taken ∧
          shmem'.cmd.consumer = .access r' w a) ∨
        ∃ r w a, shmem.cmd.consumer = .access r w a ∧
          shmem'.cmd.taken.length = shmem.cmd.taken.length + 1 ∧
          shmem'.cmd.consumer = .loop r w) := by
  cases h with
  | inputEnter hq => exact ⟨rfl, .inl ⟨hq, rfl, rfl⟩⟩
  | inputLeave r w hq hleave => exact ⟨rfl, .inr (.inl ⟨r, w, hq, rfl, rfl, rfl, hleave⟩)⟩
  | inputGet r w m d hq hempty => exact ⟨rfl, .inr (.inr (.inl ⟨r, w, _, _, hq, hempty, rfl, rfl⟩))⟩
  | inputSubmit r w c m hq => exact ⟨rfl, .inr (.inr (.inr ⟨r, w, c, hq, List.length_append, rfl⟩))⟩
  | hostPost cmd hpost =>
    have hsame := hcmd.producer_eq.1
    cases hpost with
    | enter hq | leave r w hq | access r w a hq | publish r w a hq =>
      rw [hq] at hsame
      cases hsame
  | hostTake | outputEnter | outputLeave | outputGet | outputPut | dispatch | complete =>
    exact absurd rfl (ringConsume_ne hcmd)

end Layer

/-! ## The invariant holds -/

/-- What the host does keeps what holds at a statement. -/
lemma XfDsp.At.transfer {pc : XfMainPc} (h : s.At pc)
    (hcmd : s'.shmem.cmd.consumer = s.shmem.cmd.consumer ∧
      s'.shmem.cmd.taken = s.shmem.cmd.taken ∧
        s.shmem.cmd.posted.length ≤ s'.shmem.cmd.posted.length)
    (hdata : s'.shmem.data = s.shmem.data) (htaken : ∀ n, s.Taken n → s'.Taken n)
    (hflags : s'.isr = s.isr ∧ s'.intEnable = s.intEnable ∧ s'.waitstate = s.waitstate) :
    s'.At pc := by
  obtain ⟨hconsumer, htook, hposted⟩ := hcmd
  obtain ⟨hisr, hen, hwait⟩ := hflags
  have hquiet : s.Quiet → s'.Quiet := by
    rintro (hq | hq)
    · exact .inl (htook ▸ htaken _ hq)
    · exact .inr (hdata ▸ hq)
  have hcounts : ∀ n w, s.Counts n w → s'.Counts n w := by
    rintro n w ⟨k, hw, hle, hk, hseen⟩
    exact ⟨k, hw, hle, hk.trans hposted, htaken k hseen⟩
  cases pc with
  | intsOn => exact ⟨hconsumer.trans h.1, hisr.trans h.2.1, hen.trans h.2.2.1, hquiet h.2.2.2⟩
  | mask =>
    refine ⟨hconsumer.trans h.1, ?_, ?_⟩
    · rw [hwait, hisr]
      exact h.2.1.imp_left hquiet
    · rw [hwait, hisr, hen]
      exact h.2.2
  | check =>
    refine ⟨hconsumer.trans h.1, ?_, hisr.trans h.2.2.1, ?_⟩
    · rw [hwait]
      exact h.2.1.imp_left hquiet
    · rw [hwait, hen]
      exact h.2.2.2
  | waiti =>
    refine ⟨hconsumer.trans h.1, ?_, ?_⟩
    · rw [hisr]
      exact h.2.1.imp_left hquiet
    · rw [hisr, hen]
      exact h.2.2
  | unmask masked => exact ⟨hconsumer.trans h.1, fun hm => hisr.trans (h.2 hm)⟩
  | intsOff => exact hconsumer.trans h
  | reset | output => exact ⟨hconsumer.trans h.1, hisr.trans h.2.1, hen.trans h.2.2⟩
  | input =>
    refine ⟨hisr.trans h.1, hen.trans h.2.1, ?_⟩
    have hseen := h.2.2
    rw [hconsumer]
    cases hc : s.shmem.cmd.consumer with
    | idle => trivial
    | loop r w =>
      rw [hc, XfDsp.Seen] at hseen
      rw [XfDsp.Seen, htook]
      exact hcounts _ _ hseen
    | access r w a =>
      rw [hc, XfDsp.Seen] at hseen
      rw [XfDsp.Seen, htook]
      exact hcounts _ _ hseen
  | work => exact ⟨hconsumer.trans h.1, hisr.trans h.2.1, hen.trans h.2.2.1,
      fun hst => hquiet (h.2.2.2 hst)⟩

/-- A step of `xf_shmem_process_input`. -/
lemma XfDsp.Inv.input {status : Bool} {shmem : XfShmem} (h : s.Inv) (hpc : s.pc = .input status)
    (hstep : XfShmemStep start s.shmem shmem) (hcmd : RingConsume xfQueue s.shmem.cmd shmem.cmd) :
    ({ s with shmem := shmem, pc := .afterInput status shmem.cmd.consumer } : XfDsp).Inv := by
  have hat := h.pc
  rw [hpc] at hat
  obtain ⟨hisr, hen, hseen⟩ := hat
  obtain ⟨hposted, hcase⟩ := hstep.input_spec hcmd
  have hrings := h.rings.step hstep
  refine ⟨hrings, ?_, h.isr, ?_⟩
  · rw [hposted]
    exact h.announced
  · rcases hcase with ⟨-, htaken, hloop⟩ | ⟨r, w, hidle, htaken, hleave, hdata, hend⟩ |
      ⟨r, w, r', a, hidle, hempty, htaken, haccess⟩ | ⟨r, w, a, haccess, htaken, hloop⟩
    · -- the copy of the writing index counts all commands that are posted
      rw [hloop]
      refine ⟨hisr, hen, ?_⟩
      simp only [hloop, XfDsp.Seen]
      exact ⟨_, h.rings.1.write_eq,
        by rw [htaken]; exact h.rings.1.prefix_.length_le, by rw [hposted], .inl h.announced⟩
    · rw [hleave]
      cases status with
      | true => exact ⟨hleave, hisr, hen⟩
      | false =>
        refine ⟨hleave, hisr, hen, fun _ => ?_⟩
        rcases hend with hend | hend
        · refine .inl ?_
          rw [hidle] at hseen
          obtain ⟨k, rfl, hle, hk, hk'⟩ := hseen
          have hread := h.rings.1.consumer
          rw [hidle] at hread
          have hroom := h.rings.1.room
          have heq : k = s.shmem.cmd.taken.length := by
            rw [hread.1] at hend
            exact (xfQueue_counts.isEmpty_nth _ _ hle (by omega)).1 hend
          simp only [htaken]
          exact heq ▸ hk'
        · exact .inr (hdata ▸ hend)
    · rw [haccess]
      refine ⟨hisr, hen, ?_⟩
      rw [hidle] at hseen
      obtain ⟨k, rfl, hle, hk, hk'⟩ := hseen
      have hread := h.rings.1.consumer
      rw [hidle] at hread
      have hroom := h.rings.1.room
      have hne : k ≠ s.shmem.cmd.taken.length := by
        intro heq
        have hempty' : xfQueueEmpty r (xfQueue.nth k) = true := by
          rw [hread.1]
          exact (xfQueue_counts.isEmpty_nth _ _ hle (by omega)).2 heq
        rw [hempty'] at hempty
        cases hempty
      simp only [haccess, XfDsp.Seen]
      exact ⟨k, rfl, by rw [htaken]; omega, by rw [hposted]; exact hk, hk'⟩
    · rw [hloop]
      refine ⟨hisr, hen, ?_⟩
      rw [haccess] at hseen
      obtain ⟨k, rfl, hle, hk, hk'⟩ := hseen
      simp only [hloop, XfDsp.Seen]
      exact ⟨k, rfl, by rw [htaken]; exact hle, by rw [hposted]; exact hk, hk'⟩

/-- The statements at which the interrupt is let through. -/
def XfMainPc.Open : XfMainPc → Prop
  | .mask | .waiti | .unmask false | .intsOff => True
  | _ => False

lemma XfDsp.At.open_of_enabled {pc : XfMainPc} (h : s.At pc) (hen : s.intEnable = true)
    (hmask : pc.masked = false) :
    pc.Open := by
  cases pc with
  | mask | waiti | intsOff => trivial
  | check => cases hmask
  | unmask masked =>
    cases masked with
    | true => cases hmask
    | false => trivial
  | intsOn | work => exact absurd hen (by rw [h.2.2.1]; exact Bool.false_ne_true)
  | reset | output => exact absurd hen (by rw [h.2.2]; exact Bool.false_ne_true)
  | input => exact absurd hen (by rw [h.2.1]; exact Bool.false_ne_true)

/-- The handler runs at one of them. -/
lemma XfDsp.At.open_of_isr {pc : XfMainPc} (h : s.At pc) (hisr : s.isr ≠ .out) : pc.Open := by
  cases pc with
  | mask | waiti | intsOff => trivial
  | check => exact absurd h.2.2.1 hisr
  | unmask masked =>
    cases masked with
    | true => exact absurd (h.2 rfl) hisr
    | false => trivial
  | intsOn | reset | output | work => exact absurd h.2.1 hisr
  | input => exact absurd h.1 hisr

lemma XfDsp.At.idle_of_open {pc : XfMainPc} (h : s.At pc) (hopen : pc.Open) :
    s.shmem.cmd.consumer = .idle := by
  cases pc with
  | mask | waiti | unmask => exact h.1
  | intsOff => exact h
  | intsOn | check | reset | output | input | work => exact hopen.elim

/-- What holds while the handler runs. -/
lemma XfDsp.at_of_open {pc : XfMainPc} (hopen : pc.Open) (hidle : s.shmem.cmd.consumer = .idle)
    (hquiet : s.Quiet ∨ s.isr = .set) (hisr : s.isr ≠ .out) : s.At pc := by
  cases pc with
  | mask => exact ⟨hidle, hquiet.imp_right .inr, fun hout => absurd hout hisr⟩
  | waiti => exact ⟨hidle, hquiet, fun hout => absurd hout hisr⟩
  | unmask masked =>
    cases masked with
    | true => exact hopen.elim
    | false => exact ⟨hidle, fun hm => by cases hm⟩
  | intsOff => exact hidle
  | intsOn | check | reset | output | input | work => exact hopen.elim

theorem XfDsp.Inv.step (h : s.Inv) (hstep : XfDspStep start s s') : s'.Inv := by
  have hat := h.pc
  cases hstep with
  | host shmem hshmem hhost =>
    obtain ⟨hdata, hconsumer, htaken, hposted⟩ := hshmem.host_spec hhost
    exact ⟨h.rings.step hshmem, h.announced.trans hposted, h.isr,
      hat.transfer ⟨hconsumer, htaken, hposted⟩ hdata (fun _ hn => hn) ⟨rfl, rfl, rfl⟩⟩
  | announce => exact ⟨h.rings, le_rfl, fun _ _ => rfl,
      hat.transfer ⟨rfl, rfl, le_rfl⟩ rfl (fun _ _ => .inr rfl) ⟨rfl, rfl, rfl⟩⟩
  | intsOn hpc hisr =>
    rw [hpc] at hat
    exact ⟨h.rings, h.announced, h.isr, hat.1, .inl hat.2.2.2, fun _ => .inl rfl⟩
  | mask hpc hisr =>
    rw [hpc] at hat
    have hquiet : s.Quiet ∨ s.waitstate = true := by
      rcases hat.2.1 with hq | hw | hset
      · exact .inl hq
      · exact .inr hw
      · rw [hisr] at hset
        cases hset
    exact ⟨h.rings, h.announced, h.isr, hat.1, hquiet, hisr, hat.2.2 hisr⟩
  | check hpc hisr =>
    rw [hpc] at hat
    obtain ⟨hidle, hquiet, -, hen⟩ := hat
    refine ⟨h.rings, h.announced, h.isr, ?_⟩
    cases hw : s.waitstate with
    | true => exact ⟨hidle, fun _ => hisr⟩
    | false =>
      rw [hw] at hquiet hen
      exact ⟨hidle, .inl (hquiet.resolve_right Bool.false_ne_true),
        fun _ => hen.resolve_right Bool.false_ne_true⟩
  | wake hpc hisr =>
    rw [hpc] at hat
    exact ⟨h.rings, h.announced, h.isr, hat.1, fun hm => by cases hm⟩
  | unmask masked hpc hisr =>
    rw [hpc] at hat
    exact ⟨h.rings, h.announced, h.isr, hat.1⟩
  | intsOff hpc hisr =>
    rw [hpc] at hat
    exact ⟨h.rings, h.announced, h.isr, hat, hisr, rfl⟩
  | reset hpc hisr =>
    rw [hpc] at hat
    exact ⟨h.rings, h.announced, h.isr, hat⟩
  | output status shmem hpc hisr hshmem hrsp =>
    rw [hpc] at hat
    have hcmd := hshmem.output_spec hrsp
    refine ⟨h.rings.step hshmem, hcmd.symm ▸ h.announced, h.isr, ?_⟩
    obtain ⟨hidle, hisr, hen⟩ := hat
    rw [← hcmd] at hidle
    cases hproducer : shmem.rsp.producer with
    | idle =>
      refine ⟨hisr, hen, ?_⟩
      rw [hidle]
      trivial
    | loop | access => exact ⟨hidle, hisr, hen⟩
  | input status shmem hpc hisr hshmem hcmd => exact h.input hpc hshmem hcmd
  | work status shmem hpc hisr hshmem hrings =>
    rw [hpc] at hat
    obtain ⟨hidle, hisr, hen, -⟩ := hat
    refine ⟨h.rings.step hshmem, hrings.1.symm ▸ h.announced, h.isr, ?_⟩
    rw [← hrings.1] at hidle
    exact ⟨hidle, hisr, hen, fun hst => by cases hst⟩
  | process status hpc hisr =>
    rw [hpc] at hat
    obtain ⟨hidle, hisr, hen, -⟩ := hat
    exact ⟨h.rings, h.announced, h.isr, hidle, hisr, hen, fun hst => by cases hst⟩
  | again hpc hisr =>
    rw [hpc] at hat
    exact ⟨h.rings, h.announced, h.isr, hat.1, hat.2.1, hat.2.2.1⟩
  | leave hpc hisr =>
    rw [hpc] at hat
    exact ⟨h.rings, h.announced, h.isr, hat.1, hat.2.1, hat.2.2.1, hat.2.2.2 rfl⟩
  | isrEnter hisr hmailbox hen hmask =>
    have hopen := hat.open_of_enabled hen hmask
    exact ⟨h.rings, h.announced, fun _ _ => hmailbox,
      XfDsp.at_of_open hopen (hat.idle_of_open hopen) (.inl (.inl (.inr hmailbox))) nofun⟩
  | isrOff hisr =>
    have hmailbox : s.mailbox = true := h.isr (by rw [hisr]; nofun) (by rw [hisr]; nofun)
    have hopen := hat.open_of_isr (by rw [hisr]; nofun)
    exact ⟨h.rings, h.announced, fun _ _ => hmailbox,
      XfDsp.at_of_open hopen (hat.idle_of_open hopen) (.inl (.inl (.inr hmailbox))) nofun⟩
  | isrRead hisr =>
    have hmailbox : s.mailbox = true := h.isr (by rw [hisr]; nofun) (by rw [hisr]; nofun)
    have hopen := hat.open_of_isr (by rw [hisr]; nofun)
    have hnext : (if s.mailbox = true then XfIsrPc.clear else .out) = .clear := if_pos hmailbox
    rw [hnext]
    exact ⟨h.rings, h.announced, fun _ _ => hmailbox,
      XfDsp.at_of_open hopen (hat.idle_of_open hopen) (.inl (.inl (.inr hmailbox))) nofun⟩
  | isrClear hisr =>
    have hopen := hat.open_of_isr (by rw [hisr]; nofun)
    exact ⟨h.rings, h.announced, fun _ hset => absurd rfl hset,
      XfDsp.at_of_open hopen (hat.idle_of_open hopen) (.inr rfl) nofun⟩
  | isrSet hisr =>
    have hopen := hat.open_of_isr (by rw [hisr]; nofun)
    have hidle := hat.idle_of_open hopen
    refine ⟨h.rings, h.announced, fun hout => absurd rfl hout, ?_⟩
    cases hpc : s.pc with
    | mask => exact ⟨hidle, .inr (.inl rfl), fun _ => .inr rfl⟩
    | waiti => exact ⟨hidle, fun hm => by cases hm⟩
    | unmask masked => exact ⟨hidle, fun _ => rfl⟩
    | intsOff => exact hidle
    | intsOn | check | reset | output | input | work =>
      rw [hpc] at hopen
      exact hopen.elim

/-- In every interleaving of the host, the main program and the interrupt handler: where the DSP
sleeps, the interrupt is let through, and each command that the host has announced has been taken,
unless the interrupt is pending again, or the pool has no message for the command. -/
theorem xfIpiWait_no_lost_wakeup (start : U32) (command response : ℕ → XfProxyMessage)
    (body : XfMessagePtr → XfMsgBody)
    (s : XfDsp) (hrun : Relation.ReflTransGen (XfDspStep start) (.init command response body) s)
    (hsleep : s.pc = .waiti) (hisr : s.isr = .out) :
    s.intEnable = true ∧ (s.announced ≤ s.shmem.cmd.taken.length ∨ s.mailbox = true ∨
      xfMsgPoolGet s.shmem.data = none) := by
  have hinit : (XfDsp.init command response body).Inv :=
    ⟨⟨.init _ _ _, .init _ _ _⟩, le_rfl, fun hout => absurd rfl hout, rfl, rfl, rfl,
      .inl (.inl le_rfl)⟩
  have hat := (run_invariant XfDsp.Inv (fun _ _ h hstep => h.step hstep) hinit hrun).pc
  rw [hsleep] at hat
  obtain ⟨-, hquiet, hen⟩ := hat
  refine ⟨hen hisr, ?_⟩
  rcases hquiet with (hquiet | hquiet) | hset
  · exact hquiet.imp_right .inl
  · exact .inr (.inr hquiet)
  · rw [hisr] at hset
    cases hset

/-- The host posts a command and announces it while the DSP sleeps. -/
theorem xfIpiWait_no_lost_wakeup_post :
    ∃ s : XfDsp, s.pc = .waiti ∧ s.announced = 1 ∧ s.shmem.cmd.taken = [] ∧
    (s.intEnable = true ∧ (s.announced ≤ s.shmem.cmd.taken.length ∨ s.mailbox = true ∨
      xfMsgPoolGet s.shmem.data = none)) := by
  have h1 := Relation.ReflTransGen.single
      (.intsOn (.init (fun _ => ⟨0#32, 0#32, 0#32, 0#64⟩) (fun _ => ⟨0#32, 0#32, 0#32, 0#64⟩)
    fun _ => ⟨0#32, 0#32, 0#32, 0#32⟩) rfl rfl : XfDspStep 0#32 _ _)
  have h2 := (h1.tail (.mask _ rfl rfl)).tail (.check _ rfl rfl)
  -- the host posts while the DSP sleeps
  have h3 := h2.tail (.host _ _ (.hostPost _ _ (.enter _ rfl)) (.inl (.enter _ rfl)))
  have h4 := h3.tail
      (.host _ _ (.hostPost _ _ (.access _ _ _ ⟨0x80008000#32, 0x80000001#32, 0#32, 0#64⟩ rfl rfl))
    (.inl (.access _ _ _ _ rfl rfl)))
  have h5 := h4.tail
      (.host _ _ (.hostPost _ _ (.publish _ _ _ _ rfl)) (.inl (.publish _ _ _ _ rfl)))
  have h6 := h5.tail (.announce _)
  exact ⟨_, rfl, rfl, rfl, xfIpiWait_no_lost_wakeup 0#32 _ _ _ _ h6 rfl rfl⟩

end Shmem

end Hikey
