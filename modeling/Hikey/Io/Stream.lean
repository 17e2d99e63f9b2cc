import Hikey.Io.Cursor
import Hikey.Foundation.Run

/-!
# An input port is a byte stream

A run of an input port puts messages, fills the internal buffer and consumes bytes, while the rest
of the system writes to memory outside the queued messages.  The bytes consumed are compared with
the concatenation of the payloads that the messages had when they were put.
-/

namespace Hikey

open XfInputPort

variable {mem : U32 → UInt8} {port port₀ : XfInputPort} {size : U32} {block : Option (List UInt8)}

/-- An input port in its memory, with the messages put so far, each with its payload at that time,
the bytes consumed and the messages completed. -/
structure XfStream where
  port : XfInputPort
  mem : U32 → UInt8
  puts : List (XfMessage × List UInt8)
  consumed : List UInt8
  completed : List XfMessage

variable {s s' : XfStream}

/-- One step of a run. -/
inductive XfStreamStep : XfStream → XfStream → Prop
  | put (s : XfStream) (m : XfMessage) (hlength : m.length ≠ 0#32) (hbuffer : m.buffer ≠ 0#32) :
    XfStreamStep s { s with
      port := (xfInputPortPut s.port m).1
      puts := s.puts ++ [(m, m.payload s.mem)]
      completed := s.completed ++ (xfInputPortPut s.port m).2.1 }
  | fill (s : XfStream) (port : XfInputPort) (out : List XfMessage) (full : Bool)
      (hbuffered : s.port.bypass = false) (hdone : s.port.done = false)
      (hres : xfInputPortFill s.mem s.port = some (port, out, full)) :
    XfStreamStep s { s with port := port, completed := s.completed ++ out }
  | consume (s : XfStream) (port : XfInputPort) (out : List XfMessage) (n : U32)
      (hoffered : n.toNat ≤ (s.port.offered s.mem).length)
      (hpending : s.port.bypass = true → s.port.ready = true)
      (hres : xfInputPortConsume s.port n = some (port, out)) :
    XfStreamStep s { s with
      port := port
      consumed := s.consumed ++ (s.port.offered s.mem).take n.toNat
      completed := s.completed ++ out }
  | write (s : XfStream) (mem : U32 → UInt8)
      (howned : ∀ m ∈ s.port.queue, m.payload mem = m.payload s.mem) :
    XfStreamStep s { s with mem := mem }

/-- What a run guarantees: the bytes consumed are the beginning of the stream and the bytes offered
its next bytes, messages are completed in the order in which they were put, and only when all their
bytes were consumed or copied; filling and consuming are defined. -/
structure XfStreamSafe (s : XfStream) : Prop where
  stream : s.consumed ++ s.port.offered s.mem <+: s.puts.flatMap Prod.snd
  fifo : s.completed ++ s.port.queue = s.puts.map Prod.fst
  taken : (s.puts.take s.completed.length).flatMap Prod.snd <+: s.consumed ++ s.port.stored
  fill : s.port.bypass = false → ∃ r, xfInputPortFill s.mem s.port = some r
  consume : ∀ n : U32, n.toNat ≤ (s.port.offered s.mem).length →
    (s.port.bypass = true → s.port.ready = true) → ∃ r, xfInputPortConsume s.port n = some r

/-- The invariant of a run: the stream is what was consumed, what is stored and what is unread, and
the queued messages are the last ones that were put. -/
structure XfStreamOk (s : XfStream) : Prop where
  bytes : s.puts.flatMap Prod.snd = s.consumed ++ (s.port.stored ++ s.port.unread s.mem)
  queued : ∃ P Q, s.puts = P ++ Q ∧ P.map Prod.fst = s.completed ∧ Q.map Prod.fst = s.port.queue ∧
    ∀ e ∈ Q, e.2 = e.1.payload s.mem
  data : ∀ m ∈ s.port.queue, m.length ≠ 0#32 ∧ m.buffer ≠ 0#32
  cursor : s.port.CursorOk
  buffer : s.port.BufferOk
  flags : s.port.enabled = true ∧ s.port.eos = false ∧ s.port.done = false

/-! ## The invariant -/

/-- Writing to memory that no queued message owns does not change the unread bytes. -/
lemma unread_congr {mem' : U32 → UInt8} (hcur : port.CursorOk)
    (h : ∀ m ∈ port.queue, m.payload mem' = m.payload mem) :
    port.unread mem' = port.unread mem := by
  unfold unread
  cases hq : port.queue with
  | nil => rfl
  | cons m queue =>
    rw [hq] at h
    obtain ⟨⟨read, hread, haccess⟩, -⟩ := hcur m queue hq
    have hhead : readBytes mem' port.access port.remaining.toNat =
        readBytes mem port.access port.remaining.toNat := by
      rw [haccess]
      refine readBytes_congr_drop ?_
      rw [hread]
      exact h m (by simp)
    have htail : queue.flatMap (XfMessage.payload mem') =
        queue.flatMap (XfMessage.payload mem) :=
      List.flatMap_congr fun m' hm' => h m' (by simp [hm'])
    simp only [hhead, htail]

/-- The bytes that are offered are the next ones of the stream. -/
lemma offered_begins (mem : U32 → UInt8) (port : XfInputPort) :
    port.offered mem <+: port.stored ++ port.unread mem := by
  cases hb : port.buffer with
  | some buf =>
    rw [offered, if_neg (by simp [bypass, hb])]
    exact List.prefix_append _ _
  | none =>
    rw [offered, if_pos (by simp [bypass, hb]), stored, hb]
    unfold unread
    cases port.queue with
    | nil => simp
    | cons m queue => simp

/-- Completing the first of the queued messages keeps the queue the end of the messages put. -/
lemma XfStreamOk.queued_of_append (h : XfStreamOk s) {out queue : List XfMessage}
    (hq : s.port.queue = out ++ queue) :
    ∃ P Q, s.puts = P ++ Q ∧ P.map Prod.fst = s.completed ++ out ∧ Q.map Prod.fst = queue ∧
      ∀ e ∈ Q, e.2 = e.1.payload s.mem := by
  obtain ⟨P, Q, hputs, hP, hQ, hpayload⟩ := h.queued
  obtain ⟨Q₁, Q₂, rfl, h₁, h₂⟩ := List.map_eq_append_iff.mp (hQ.trans hq)
  refine ⟨P ++ Q₁, Q₂, by rw [hputs, List.append_assoc], by rw [List.map_append, hP, h₁], h₂,
    fun e he => hpayload e (by simp [he])⟩

/-- An initialized port is an empty stream. -/
lemma xfStreamOk_init (hinit : xfInputPortInit port size block = (port₀, true))
    (hblock : ∀ buf, block = some buf → buf.length = size.toNat) :
    XfStreamOk ⟨port₀, mem, [], [], []⟩ := by
  unfold xfInputPortInit at hinit
  split at hinit
  · exact absurd (congrArg Prod.snd hinit) (by simp)
  · obtain rfl := (congrArg Prod.fst hinit).symm
    refine ⟨by simp [stored, unread], ⟨[], [], by simp⟩, by simp, by simp [CursorOk], ?_,
      by simp⟩
    intro buf hbuf
    obtain ⟨-, hbuf⟩ : ¬ size = 0#32 ∧ block = some buf := by simpa using hbuf
    exact ⟨hblock buf hbuf, by simp⟩

/-- Consuming bytes that are offered is defined and keeps the invariant. -/
lemma XfStreamOk.consume (h : XfStreamOk s) {n : U32}
    (hoffered : n.toNat ≤ (s.port.offered s.mem).length)
    (hpending : s.port.bypass = true → s.port.ready = true) :
    ∃ port' out, xfInputPortConsume s.port n = some (port', out) ∧
      XfStreamOk { s with
        port := port'
        consumed := s.consumed ++ (s.port.offered s.mem).take n.toNat
        completed := s.completed ++ out } := by
  obtain ⟨hen, heos, hdone⟩ := h.flags
  cases hb : s.port.buffer with
  | some buf =>
    have hbypass : s.port.bypass = false := by simp [bypass, hb]
    have hoff : s.port.offered s.mem = s.port.stored := by simp [offered, hbypass]
    obtain ⟨port', hres, hstored, hbuf', hframe, hbyp⟩ := xfInputPortConsume_buffered hb h.buffer n
    have hq' : port'.queue = s.port.queue := by rw [hframe]
    have haccess : port'.access = s.port.access := by rw [hframe]
    have hrem : port'.remaining = s.port.remaining := by rw [hframe]
    refine ⟨port', [], hres, ?_, h.queued_of_append (by simpa using hq'.symm), ?_, ?_, hbuf', ?_⟩
    · have hunread : port'.unread s.mem = s.port.unread s.mem := by
        simp only [unread, hq', haccess, hrem]
      rw [h.bytes, hoff, hstored, hunread, List.append_assoc, ← List.append_assoc (List.take _ _),
        List.take_append_drop]
    · rw [hq']
      exact h.data
    · intro m queue hq
      obtain ⟨hin, hempty⟩ := h.cursor m queue (hq' ▸ hq)
      exact ⟨by rw [CursorIn, haccess, hrem]; exact hin, by rw [hrem]; exact hempty⟩
    · exact ⟨by rw [hframe]; exact hen, by rw [hframe]; exact heos, by rw [hframe]; exact hdone⟩
  | none =>
    have hbypass : s.port.bypass = true := by simp [bypass, hb]
    obtain ⟨m, queue, hq⟩ : ∃ m queue, s.port.queue = m :: queue :=
      List.exists_cons_of_ne_nil (by simpa [ready] using hpending hbypass)
    have hoff : s.port.offered s.mem = readBytes s.mem s.port.access s.port.remaining.toNat := by
      simp [offered, hbypass, hq]
    have hn : n.toNat ≤ s.port.remaining.toNat := by simpa [hoff] using hoffered
    obtain ⟨port', out, hres, hqueue, hbytes, hcur', hflags, hframe⟩ :=
      xfInputPortConsume_bypass s.mem hb h.cursor hq hn
    have hbuf' : port'.buffer = none := by rw [hframe]; exact hb
    refine ⟨port', out, hres, ?_, h.queued_of_append hqueue,
      fun m hm => h.data m (by simp [hqueue, hm]), hcur', by simp [BufferOk, hbuf'], ?_⟩
    · have htake : (s.port.offered s.mem).take n.toNat = readBytes s.mem s.port.access n.toNat := by
        obtain ⟨l, hl⟩ := Nat.exists_eq_add_of_le hn
        rw [hoff, hl, readBytes_add, List.take_append_of_le_length (by simp),
          List.take_of_length_le (by simp)]
      rw [h.bytes, htake, ← hbytes]
      simp [stored, hb, hbuf']
    · have hsame : port'.eos = s.port.eos ∧ port'.done = s.port.done := by
        rcases hflags with hflags | ⟨⟨m', queue', hq', hm'⟩, -⟩
        · exact hflags
        · exact absurd hm' (h.data m' (by simp [hqueue, hq'])).2
      exact ⟨by rw [hframe]; exact hen, hsame.1.trans heos, hsame.2.trans hdone⟩

/-- Every step keeps the invariant. -/
lemma xfStreamStep_ok (h : XfStreamOk s) (hstep : XfStreamStep s s') : XfStreamOk s' := by
  cases hstep with
  | put m hlength hbuffer =>
    obtain ⟨port', hput, hq', hcur, hunread, hflags, hframe⟩ :=
      xfInputPortPut_spec s.mem h.flags.1 m
    obtain ⟨P, Q, hputs, hP, hQ, hpayload⟩ := h.queued
    obtain ⟨hen, heos, hdone⟩ := hflags hlength hbuffer
    have hbuf : port'.buffer = s.port.buffer := by rw [hframe]
    have hfilled : port'.filled = s.port.filled := by rw [hframe]
    have hlen : port'.length = s.port.length := by rw [hframe]
    rw [hput]
    refine ⟨?_, ⟨P, Q ++ [(m, m.payload s.mem)], ?_, ?_, ?_, ?_⟩, ?_, hcur h.cursor, ?_, ?_⟩
    · have hstored : port'.stored = s.port.stored := by simp only [stored, hbuf, hfilled]
      simp [hunread, hstored, h.bytes]
    · simp [hputs]
    · simp [hP]
    · simp [hQ, hq']
    · rintro e he
      rcases List.mem_append.mp he with he | he
      · exact hpayload e he
      · obtain rfl := List.mem_singleton.mp he
        rfl
    · intro m' hm'
      rcases List.mem_append.mp (hq' ▸ hm') with hm' | hm'
      · exact h.data m' hm'
      · obtain rfl := List.mem_singleton.mp hm'
        exact ⟨hlength, hbuffer⟩
    · intro buf hb
      rw [hlen, hfilled]
      exact h.buffer buf (hbuf ▸ hb)
    · exact ⟨hen, heos.trans h.flags.2.1, hdone.trans h.flags.2.2⟩
  | fill port out full hbuffered hdone hres =>
    obtain ⟨port', done, full', hres', hcopied, -⟩ := xfInputPortFill_spec s.mem h.cursor
      h.buffer (by simpa [bypass, ← Option.not_isSome] using hbuffered)
    obtain ⟨rfl, rfl, rfl⟩ : port' = port ∧ done = out ∧ full' = full := by
      simpa using hres'.symm.trans hres
    have hflags : port'.eos = s.port.eos ∧ port'.done = s.port.done := by
      rcases hcopied.flags with hflags | ⟨⟨m, queue, hq, hm⟩, -⟩
      · exact hflags
      · exact absurd hm (h.data m (by simp [hcopied.queue, hq])).1
    refine ⟨?_, h.queued_of_append hcopied.queue,
      fun m hm => h.data m (by simp [hcopied.queue, hm]), hcopied.cursor, hcopied.buffer, ?_⟩
    · rw [hcopied.bytes, h.bytes]
    · have hen : port'.enabled = s.port.enabled := by rw [hcopied.frame]
      exact ⟨hen.trans h.flags.1, hflags.1.trans h.flags.2.1, hflags.2.trans h.flags.2.2⟩
  | consume port out n hoffered hpending hres =>
    obtain ⟨port', out', hres', hok⟩ := h.consume hoffered hpending
    obtain ⟨rfl, rfl⟩ : port' = port ∧ out' = out := by simpa using hres'.symm.trans hres
    exact hok
  | write mem howned =>
    obtain ⟨P, Q, hputs, hP, hQ, hpayload⟩ := h.queued
    refine ⟨?_, ⟨P, Q, hputs, hP, hQ, fun e he => ?_⟩, h.data, h.cursor, h.buffer, h.flags⟩
    · rw [unread_congr h.cursor howned]
      exact h.bytes
    · rw [howned e.1 (hQ ▸ List.mem_map_of_mem he)]
      exact hpayload e he

/-- The invariant gives the guarantees of a run. -/
lemma XfStreamOk.safe (h : XfStreamOk s) : XfStreamSafe s where
  stream := by
    rw [h.bytes]
    exact (List.prefix_append_right_inj _).mpr (offered_begins _ _)
  fifo := by
    obtain ⟨P, Q, hputs, hP, hQ, -⟩ := h.queued
    rw [hputs, List.map_append, hP, hQ]
  taken := by
    obtain ⟨P, Q, hputs, hP, hQ, hpayload⟩ := h.queued
    have hlen : s.completed.length = P.length := by rw [← hP, List.length_map]
    have hunread : s.port.unread s.mem <:+ Q.flatMap Prod.snd := by
      have hsnd : Q.flatMap Prod.snd = s.port.queue.flatMap (XfMessage.payload s.mem) := by
        rw [← hQ, List.flatMap_map]
        exact List.flatMap_congr hpayload
      rw [hsnd]
      unfold unread
      cases hq : s.port.queue with
      | nil => simp
      | cons m queue =>
        obtain ⟨⟨read, hread, haccess⟩, -⟩ := h.cursor m queue hq
        refine ⟨readBytes s.mem m.buffer read, ?_⟩
        simp only [List.flatMap_cons, XfMessage.payload]
        rw [← List.append_assoc, haccess, ← readBytes_add, hread]
    obtain ⟨taken, htaken⟩ := hunread
    have hbytes := h.bytes
    rw [hputs, List.flatMap_append, ← htaken, ← List.append_assoc, ← List.append_assoc] at hbytes
    rw [hputs, hlen, List.take_left, ← List.append_cancel_right hbytes]
    exact List.prefix_append _ _
  fill := by
    intro hb
    obtain ⟨port', done, full, hres, -⟩ := xfInputPortFill_spec s.mem h.cursor h.buffer
      (by simpa [bypass, ← Option.not_isSome] using hb)
    exact ⟨_, hres⟩
  consume := by
    intro n hn hpending
    obtain ⟨port', out, hres, -⟩ := h.consume hn hpending
    exact ⟨_, hres⟩

/-! ## Runs -/

/-- An `EMPTY_THIS_BUFFER` message of one byte from the proxy. -/
def xfStreamByte : XfMessage where
  ptr := .proxy 0
  id := ⟨0x8000#16, 0x0004#16⟩
  opcode := .emptyThisBuffer
  length := 1#32
  buffer := 0x100#32

end Hikey
