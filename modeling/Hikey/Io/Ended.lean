import Hikey.Io.Stage
import Hikey.Io.Stream

/-!
# The completion of a stream on an input port

A stream ends with a message without data.  `xf_input_port_put` and `xf_input_port_consume` find the
end by the access pointer of that message, and `xf_input_port_fill` finds it by the length.  So a
port in bypass mode is never done when the message has a buffer.
-/

namespace Hikey

open XfInputPort

variable {mem : U32 → UInt8} {port port₀ : XfInputPort} {size n : U32} {block : Option (List UInt8)}
  {m a : XfMessage} {ms queue : List XfMessage} {s s' s₀ : XfStream} {data : List UInt8}
  {C : XfStream → Prop}

/-! ## Runs to the end of a stream -/

/-- The message without data is put. -/
def XfStream.putEnd (s : XfStream) (m : XfMessage) : XfStream :=
  { s with
    port := (xfInputPortPut s.port m).1
    puts := s.puts ++ [(m, m.payload s.mem)]
    completed := s.completed ++ (xfInputPortPut s.port m).2.1 }

/-- One step of a run after that; the port is filled in states with `C` only. -/
inductive XfStreamRead (C : XfStream → Prop) : XfStream → XfStream → Prop
  | fill (s : XfStream) (port : XfInputPort) (out : List XfMessage) (full : Bool)
      (hbuffered : s.port.bypass = false) (hdone : s.port.done = false) (hfill : C s)
      (hres : xfInputPortFill s.mem s.port = some (port, out, full)) :
    XfStreamRead C s { s with port := port, completed := s.completed ++ out }
  | consume (s : XfStream) (port : XfInputPort) (out : List XfMessage) (n : U32)
      (hoffered : n.toNat ≤ (s.port.offered s.mem).length)
      (hpending : s.port.bypass = true → s.port.ready = true)
      (hres : xfInputPortConsume s.port n = some (port, out)) :
    XfStreamRead C s { s with
      port := port
      consumed := s.consumed ++ (s.port.offered s.mem).take n.toNat
      completed := s.completed ++ out }
  | write (s : XfStream) (mem : U32 → UInt8)
      (howned : ∀ m ∈ s.port.queue, m.payload mem = m.payload s.mem) :
    XfStreamRead C s { s with mem := mem }

/-- The data that has been consumed, or copied to the internal buffer. -/
def XfStream.taken (s : XfStream) : List UInt8 := s.consumed ++ s.port.stored

/-- The next fill that has room makes the port done, and copies nothing. -/
def XfInputPort.EndsNext (mem : U32 → UInt8) (port : XfInputPort) : Prop :=
  port.bypass = false ∧ ((0#32).slt (port.length - port.filled) = true →
    ∃ port', xfInputPortFill mem port = some (port', [], true) ∧ port'.done = true ∧
      port'.stored = port.stored)

/-- Only the data before the end is read, the port is not done before all data has been taken, and
then it is done, or it is with the next fill. -/
structure XfEnds (data : List UInt8) (s : XfStream) : Prop where
  reads : s.consumed ++ s.port.offered s.mem <+: data
  before : s.port.done = true → s.taken = data
  reached : s.taken = data → s.port.done = true ∨ s.port.EndsNext s.mem

/-- The data that has not been consumed is not exactly one internal buffer. -/
def XfUnfit (data : List UInt8) (s : XfStream) : Prop :=
  s.consumed.length + s.port.length.toNat ≠ data.length

/-! ## The invariant -/

/-- A port in bypass mode to which the end `m` of the stream has been put: it is done when the
message is at the head of the queue, or has been completed, and has no buffer. -/
structure XfBypassEnd (m : XfMessage) (port : XfInputPort) : Prop where
  flags : port.eos = !port.done
  queue : (∃ ms, port.queue = ms ++ [m] ∧ (∀ a ∈ ms, a.length ≠ 0#32 ∧ a.buffer ≠ 0#32) ∧
      (port.done = true ↔ ms = [] ∧ m.buffer = 0#32)) ∨
    port.queue = [] ∧ (port.done = true ↔ m.buffer = 0#32)

/-- The invariant of a run after the end `m` of the stream has been put. -/
structure XfEndOk (m : XfMessage) (data : List UInt8) (s : XfStream) : Prop where
  bytes : data = s.consumed ++ (s.port.stored ++ s.port.unread s.mem)
  cursor : s.port.CursorOk
  buffer : s.port.BufferOk
  buffered : s.port.bypass = false →
    XaTrackPort s.port ∧ s.port.created = true ∧ s.port.stage ≠ 0
  bypass : s.port.bypass = true → XfBypassEnd m s.port

/-- All data has been read when only the message without data is left. -/
lemma unread_eq_nil_iff (hcur : port.CursorOk) (hqueue : port.queue = ms ++ [m])
    (hm : m.length = 0#32) (hms : ∀ a ∈ ms, a.length ≠ 0#32) :
    port.unread mem = [] ↔ ms = [] := by
  cases ms with
  | nil =>
    obtain ⟨⟨read, hread, -⟩, -⟩ := hcur m [] hqueue
    have hzero : port.remaining.toNat = 0 := by
      simp only [hm, BitVec.toNat_ofNat] at hread
      omega
    simp [unread, hqueue, hzero]
  | cons a ms =>
    have hne : port.remaining.toNat ≠ 0 := by
      intro hzero
      refine hms a List.mem_cons_self ((hcur a (ms ++ [m]) hqueue).2 ?_)
      exact BitVec.toNat_inj.mp hzero
    simp only [reduceCtorEq, iff_false]
    intro hnil
    have := congrArg List.length hnil
    simp only [unread, hqueue, List.cons_append, List.length_append, length_readBytes,
      List.length_nil] at this
    omega

lemma XfEndOk.taken_eq_iff (h : XfEndOk m data s) :
    s.taken = data ↔ s.port.unread s.mem = [] := by
  rw [XfStream.taken, h.bytes, ← List.append_assoc]
  exact List.self_eq_append_right

/-- What the flags of a port with an internal buffer say. -/
lemma XfEndOk.queue_of_buffered (h : XfEndOk m data s) (hb : s.port.bypass = false) :
    ∃ ms a, s.port.queue = ms ++ [a] ∧ a.length = 0#32 ∧ (s.port.unread s.mem = [] ↔ ms = []) ∧
      (s.port.done = true → ms = []) ∧ s.port.eos = !s.port.done := by
  obtain ⟨hport, -, hstage⟩ := h.buffered hb
  rcases hport.ended with ⟨heos, hdone, -⟩ | ⟨-, heos, ms, a, hqueue, ha, hms, hdone⟩
  · simp [XfInputPort.stage, heos, hdone] at hstage
  · exact ⟨ms, a, hqueue, ha, unread_eq_nil_iff h.cursor hqueue ha hms, hdone, heos⟩

/-- A port to which only data has been put. -/
lemma XfStreamOk.trackPort (h : XfStreamOk s) (hcreated : s.port.created = true)
    (hb : s.port.bypass = false) : XaTrackPort s.port := by
  refine ⟨fun hnot => by simp [hcreated] at hnot, fun _ => ?_, fun m queue hqueue => ?_, .inl ?_⟩
  · simpa [bypass, ← Option.not_isSome] using hb
  · have hdata := (h.data m (by simp [hqueue])).1
    exact ⟨fun hzero => absurd ((h.cursor m queue hqueue).2 hzero) hdata, fun hzero =>
      absurd hzero hdata⟩
  · exact ⟨h.flags.2.1, h.flags.2.2, fun m hm => (h.data m hm).1⟩

lemma XfStreamOk.putEnd (h : XfStreamOk s) (hcreated : s.port.created = true)
    (hm : m.length = 0#32) : XfEndOk m (s.puts.flatMap Prod.snd) (s.putEnd m) := by
  obtain ⟨port', hput, hqueue, hcur, hunread, -, hframe⟩ := xfInputPortPut_spec s.mem h.flags.1 m
  obtain ⟨-, heos, hdone⟩ := xfInputPortPut_end h.flags.1 h.flags.2.1 h.flags.2.2 hm
  have hpayload : m.payload s.mem = [] := by simp [XfMessage.payload, hm, readBytes]
  rw [hpayload, List.append_nil] at hunread
  have hbuf : port'.buffer = s.port.buffer := by rw [hframe]
  have hfilled : port'.filled = s.port.filled := by rw [hframe]
  have hlength : port'.length = s.port.length := by rw [hframe]
  have hbypass : port'.bypass = s.port.bypass := by simp only [XfInputPort.bypass, hbuf]
  have hport : (s.putEnd m).port = port' := by rw [XfStream.putEnd, hput]
  rw [hput] at heos hdone
  simp only at heos hdone
  have hcur := hcur h.cursor
  refine ⟨?_, ?_, ?_, fun hb => ?_, fun hb => ?_⟩
  · rw [hport, h.bytes]
    show _ = s.consumed ++ (port'.stored ++ port'.unread s.mem)
    rw [hunread]
    simp only [stored, hbuf, hfilled]
  · rw [hport]
    exact hcur
  · rw [hport]
    intro buf hb
    rw [hlength, hfilled]
    exact h.buffer buf (hbuf ▸ hb)
  · rw [hport, hbypass] at hb
    have htrack := (h.trackPort hcreated hb).put h.flags.1 (m := m) fun _ hne => absurd hm hne
    refine ⟨htrack.1, htrack.2.1, ?_⟩
    rw [hport]
    unfold XfInputPort.stage
    rw [heos]
    cases port'.done <;> simp
  · rw [hport]
    refine ⟨heos, .inl ⟨s.port.queue, hqueue, h.data, hdone⟩⟩

/-! ## Reading -/

lemma XfEndOk.fill (h : XfEndOk m data s) (hb : s.port.bypass = false) (hdone : s.port.done = false)
    {out : List XfMessage} {full : Bool}
    (hres : xfInputPortFill s.mem s.port = some (port, out, full)) :
    XfEndOk m data { s with port := port, completed := s.completed ++ out } := by
  obtain ⟨hport, hcreated, hstage⟩ := h.buffered hb
  obtain ⟨port', done, full', hres', hcopied, -⟩ := xfInputPortFill_spec s.mem h.cursor
    h.buffer (by simpa [XfInputPort.bypass, ← Option.not_isSome] using hb)
  obtain ⟨rfl, rfl, rfl⟩ : port' = port ∧ done = out ∧ full' = full := by
    simpa using hres'.symm.trans hres
  obtain ⟨hport', hle, hcreated', -⟩ := hport.fill hdone hres
  have hb' : port'.bypass = false := hcopied.bypass.trans hb
  refine ⟨?_, hcopied.cursor, hcopied.buffer, fun _ => ⟨hport', hcreated'.trans hcreated, ?_⟩,
    fun hnot => ?_⟩
  · rw [hcopied.bytes]
    exact h.bytes
  · show port'.stage ≠ 0
    simp only at hle
    omega
  · have hnot : port'.bypass = true := hnot
    simp [hb'] at hnot

lemma XfEndOk.consume_buffered (h : XfEndOk m data s) (hb : s.port.bypass = false)
    {out : List XfMessage} (hres : xfInputPortConsume s.port n = some (port, out)) :
    XfEndOk m data { s with
      port := port
      consumed := s.consumed ++ (s.port.offered s.mem).take n.toNat
      completed := s.completed ++ out } := by
  obtain ⟨hport, hcreated, hstage⟩ := h.buffered hb
  obtain ⟨buf, hbuf⟩ := Option.isSome_iff_exists.mp (hport.buffer hcreated)
  obtain ⟨port', hres', hstored, hbuf', hframe, hbyp⟩ := xfInputPortConsume_buffered hbuf h.buffer n
  obtain ⟨rfl, rfl⟩ : port' = port ∧ [] = out := by simpa using hres'.symm.trans hres
  obtain ⟨hport', -, hqueue, hstage', hcreated', -, -⟩ := hport.consume hcreated hres
  have hqueue : port'.queue = s.port.queue := hqueue
  have haccess : port'.access = s.port.access := by rw [hframe]
  have hrem : port'.remaining = s.port.remaining := by rw [hframe]
  have hunread : port'.unread s.mem = s.port.unread s.mem := by
    simp only [unread, hqueue, haccess, hrem]
  have hoff : s.port.offered s.mem = s.port.stored := by simp [offered, hb]
  refine ⟨?_, fun a queue hq => ?_, hbuf', fun _ => ⟨hport', hcreated', hstage' ▸ hstage⟩,
    fun hnot => ?_⟩
  · show data = s.consumed ++ _ ++ (port'.stored ++ port'.unread s.mem)
    rw [h.bytes, hoff, hstored, hunread, List.append_assoc, ← List.append_assoc (List.take _ _),
      List.take_append_drop]
  · obtain ⟨hin, hempty⟩ := h.cursor a queue (hqueue ▸ hq)
    exact ⟨by rw [CursorIn, haccess, hrem]; exact hin, by rw [hrem]; exact hempty⟩
  · have hnot : port'.bypass = true := hnot
    simp [hbyp, hb] at hnot

/-- Consuming from the message at the head of the queue completes it when nothing of it remains, and
then looks at the buffer of the next message. -/
lemma xfInputPortConsume_head (hb : port.buffer = none)
    (hqueue : port.queue = a :: queue) (n : U32) :
    (xfInputPortConsume port n = some ({ port with
        remaining := port.remaining - n, access := port.access + n }, []) ∧
        port.remaining - n ≠ 0#32) ∨
    ∃ port', xfInputPortConsume port n = some (port', [a]) ∧ port'.queue = queue ∧
      port'.eos = (port.eos ^^ decide (∃ m ∈ queue.head?, m.buffer = 0#32)) ∧
      port'.done = (port.done ^^ decide (∃ m ∈ queue.head?, m.buffer = 0#32)) := by
  by_cases hlast : port.remaining - n = 0#32
  · right
    cases queue with
    | nil => simp [xfInputPortConsume, xfInputPortComplete, hb, hqueue, hlast, ready]
    | cons m queue =>
      by_cases hbuf : m.buffer = 0#32 <;>
        simp [xfInputPortConsume, xfInputPortComplete, hb, hqueue, hlast, ready, toggleDone, hbuf]
  · left
    exact ⟨by simp [xfInputPortConsume, hb, hlast], hlast⟩

/-- The end of the stream is found when the last data has been consumed and it has no buffer. -/
lemma XfBypassEnd.consume (h : XfBypassEnd m port) (hb : port.buffer = none)
    (hm : m.length = 0#32) (hcur : port.CursorOk) (hready : port.queue ≠ [])
    (hn : n.toNat ≤ port.remaining.toNat) {out : List XfMessage} {port' : XfInputPort}
    (hres : xfInputPortConsume port n = some (port', out)) : XfBypassEnd m port' := by
  obtain ⟨ms, hqueue, hms, hdone⟩ := h.queue.resolve_right fun hnil => hready hnil.1
  cases ms with
  | nil =>
    -- the message without data is completed
    have hnil : port.unread (fun _ => 0) = [] :=
      (unread_eq_nil_iff hcur hqueue hm fun _ h => by cases h).mpr rfl
    have hzero : port.remaining = 0#32 := by
      have hlen := congrArg List.length hnil
      have hqueue : port.queue = [m] := hqueue
      simp only [unread, hqueue, List.length_append, length_readBytes, List.flatMap_nil,
        List.length_nil] at hlen
      exact BitVec.toNat_inj.mp (by simpa using hlen)
    have hn0 : n = 0#32 := BitVec.toNat_inj.mp (by simp [hzero] at hn; simpa using hn)
    rcases xfInputPortConsume_head hb hqueue n with ⟨-, hne⟩ | ⟨port₁, hres₁, hq, heos₁, hdone₁⟩
    · simp [hzero, hn0] at hne
    · obtain ⟨rfl, -⟩ : port₁ = port' ∧ [m] = out := by simpa using hres₁.symm.trans hres
      have hsame : port₁.eos = port.eos ∧ port₁.done = port.done :=
        ⟨heos₁.trans (by simp), hdone₁.trans (by simp)⟩
      refine ⟨by rw [hsame.1, hsame.2, h.flags], .inr ⟨hq, ?_⟩⟩
      rw [hsame.2, hdone]
      exact ⟨fun h => h.2, fun h => ⟨rfl, h⟩⟩
  | cons a ms =>
    have hnot : port.done = false := by
      by_contra hd
      have := (hdone.mp (by simpa using hd)).1
      cases this
    rcases xfInputPortConsume_head hb hqueue n with ⟨hres₁, -⟩ | ⟨port₁, hres₁, hq, heos₁, hdone₁⟩
    · obtain ⟨rfl, -⟩ := Prod.mk.inj (Option.some.inj (hres₁.symm.trans hres))
      exact ⟨h.flags, .inl ⟨a :: ms, hqueue, hms, hdone⟩⟩
    · obtain ⟨rfl, -⟩ : port₁ = port' ∧ [a] = out := by simpa using hres₁.symm.trans hres
      refine ⟨by rw [heos₁, hdone₁, h.flags]; cases port.done <;> simp, .inl ⟨ms, hq,
        fun b hb => hms b (List.mem_cons_of_mem _ hb), ?_⟩⟩
      rw [hdone₁, hnot]
      cases ms with
      | nil => simp
      | cons b ms =>
        have hb := (hms b (by simp)).2
        simp [hb]

lemma XfEndOk.consume_bypass (h : XfEndOk m data s) (hm : m.length = 0#32)
    (hb : s.port.bypass = true) (hready : s.port.ready = true)
    (hn : n.toNat ≤ (s.port.offered s.mem).length) {out : List XfMessage}
    (hres : xfInputPortConsume s.port n = some (port, out)) :
    XfEndOk m data { s with
      port := port
      consumed := s.consumed ++ (s.port.offered s.mem).take n.toNat
      completed := s.completed ++ out } := by
  have hbuf : s.port.buffer = none := by simpa [XfInputPort.bypass] using hb
  have hne : s.port.queue ≠ [] := by simpa [ready] using hready
  obtain ⟨a, queue, hq⟩ := List.exists_cons_of_ne_nil hne
  have hoff : s.port.offered s.mem = readBytes s.mem s.port.access s.port.remaining.toNat := by
    simp [offered, hb, hq]
  have hn : n.toNat ≤ s.port.remaining.toNat := by simpa [hoff] using hn
  have hend := (h.bypass hb).consume hbuf hm h.cursor hne hn hres
  obtain ⟨port', out', hres', -, hbytes, hcur', -, hframe⟩ :=
    xfInputPortConsume_bypass s.mem hbuf h.cursor hq hn
  obtain ⟨rfl, rfl⟩ : port' = port ∧ out' = out := by simpa using hres'.symm.trans hres
  have hbuf' : port'.buffer = none := by rw [hframe]; exact hbuf
  have htake : (s.port.offered s.mem).take n.toNat = readBytes s.mem s.port.access n.toNat := by
    obtain ⟨l, hl⟩ := Nat.exists_eq_add_of_le hn
    rw [hoff, hl, readBytes_add, List.take_append_of_le_length (by simp),
      List.take_of_length_le (by simp)]
  refine ⟨?_, hcur', ?_, fun hnot => ?_, fun _ => hend⟩
  · rw [h.bytes, htake, ← hbytes]
    simp [stored, hbuf, hbuf']
  · intro buf hb'
    have hb' : port'.buffer = some buf := hb'
    simp [hbuf'] at hb'
  · have hnot : port'.bypass = false := hnot
    simp [XfInputPort.bypass, hbuf'] at hnot

/-- Every step keeps the invariant. -/
lemma XfEndOk.step (h : XfEndOk m data s) (hm : m.length = 0#32) (hstep : XfStreamRead C s s') :
    XfEndOk m data s' := by
  cases hstep with
  | fill port out full hb hdone hfill hres => exact h.fill hb hdone hres
  | consume port out n hoffered hpending hres =>
    cases hb : s.port.bypass with
    | true => exact h.consume_bypass hm hb (hpending hb) hoffered hres
    | false => exact h.consume_buffered hb hres
  | write mem howned =>
    refine ⟨?_, h.cursor, h.buffer, h.buffered, h.bypass⟩
    rw [unread_congr h.cursor howned]
    exact h.bytes

/-! ## The end -/

/-- A port with an internal buffer that has room finds the message without data with the next fill.
-/
lemma endsNext_of_queue (hb : port.bypass = false) (hcur : port.CursorOk)
    (hqueue : port.queue = [m])
    (hm : m.length = 0#32) (hdone : port.done = false) : port.EndsNext mem := by
  refine ⟨hb, fun hroom => ⟨port.toggleDone, ?_, ?_, rfl⟩⟩
  · obtain ⟨⟨read, hread, -⟩, -⟩ := hcur m [] hqueue
    have hzero : port.remaining = 0#32 := by
      apply BitVec.eq_of_toNat_eq
      simp only [hm, BitVec.toNat_ofNat] at hread ⊢
      omega
    have hloop : xfInputPortFillLoop mem (port.queue.length + 1) port port.filled port.remaining
        (port.length - port.filled) [] =
        some (port.toggleDone, port.filled, port.remaining, 0#32, []) := by
      rw [xfInputPortFillLoop, if_pos hroom, hzero]
      simp
    rw [xfInputPortFill, if_neg (by simp [hqueue]), hloop]
    rfl
  · simp [toggleDone, hdone]

/-- The end is found in all modes but one. -/
lemma XfEndOk.ends (h : XfEndOk m data s) (hm : m.length = 0#32)
    (hbypass : s.port.bypass = true → m.buffer = 0#32) : XfEnds data s := by
  refine ⟨?_, fun hdone => h.taken_eq_iff.mpr ?_, fun htaken => ?_⟩
  · rw [h.bytes]
    exact (List.prefix_append_right_inj _).mpr (offered_begins _ _)
  · cases hb : s.port.bypass with
    | true =>
      rcases (h.bypass hb).queue with ⟨ms, hqueue, hms, hiff⟩ | ⟨hqueue, -⟩
      · exact (unread_eq_nil_iff h.cursor hqueue hm fun a ha => (hms a ha).1).mpr (hiff.mp hdone).1
      · simp [unread, hqueue]
    | false =>
      obtain ⟨ms, a, -, -, hiff, hend, -⟩ := h.queue_of_buffered hb
      exact hiff.mpr (hend hdone)
  · have hnil := h.taken_eq_iff.mp htaken
    cases hb : s.port.bypass with
    | true =>
      left
      rcases (h.bypass hb).queue with ⟨ms, hqueue, hms, hiff⟩ | ⟨-, hiff⟩
      · have hms := (unread_eq_nil_iff h.cursor hqueue hm fun a ha => (hms a ha).1).mp hnil
        exact hiff.mpr ⟨hms, hbypass hb⟩
      · exact hiff.mpr (hbypass hb)
    | false =>
      obtain ⟨ms, a, hqueue, ha, hiff, -, -⟩ := h.queue_of_buffered hb
      obtain rfl := hiff.mp hnil
      by_cases hdone : s.port.done = true
      · exact .inl hdone
      · exact .inr (endsNext_of_queue hb h.cursor hqueue ha (by simpa using hdone))

/-- In bypass mode the data can be consumed up to the end. -/
lemma XfEndOk.exists_taken (h : XfEndOk m data s) (hm : m.length = 0#32)
    (hb : s.port.bypass = true) :
    ∃ t, Relation.ReflTransGen (XfStreamRead fun _ => True) s t ∧ XfEndOk m data t ∧
      t.port.bypass = true ∧ t.taken = data := by
  induction hk : (s.port.unread s.mem).length using Nat.strong_induction_on generalizing s with
  | _ k ih =>
    by_cases hnil : s.port.unread s.mem = []
    · exact ⟨s, .refl, h, hb, h.taken_eq_iff.mpr hnil⟩
    · -- the rest of the first message is consumed
      have hbuf : s.port.buffer = none := by simpa [XfInputPort.bypass] using hb
      have hne : s.port.queue ≠ [] := fun hq => hnil (by simp [unread, hq])
      obtain ⟨a, queue, hq⟩ := List.exists_cons_of_ne_nil hne
      obtain ⟨port', out, hres, -, hbytes, -, -, hframe⟩ :=
        xfInputPortConsume_bypass s.mem hbuf h.cursor hq (le_refl s.port.remaining.toNat)
      have hoffered : s.port.remaining.toNat ≤ (s.port.offered s.mem).length := by
        simp [offered, hb, hq]
      have hready : s.port.ready = true := by simp [ready, hq]
      have hstep := XfStreamRead.consume (C := fun _ => True) s port' out s.port.remaining hoffered
        (fun _ => hready) hres
      have hb' : port'.bypass = true := by
        rw [hframe]
        exact hb
      have hrem : s.port.remaining.toNat ≠ 0 := by
        intro hzero
        obtain ⟨ms, hqueue, hms, -⟩ := (h.bypass hb).queue.resolve_right fun hnot => hne hnot.1
        refine hnil ((unread_eq_nil_iff h.cursor hqueue hm fun a ha => (hms a ha).1).mpr ?_)
        cases ms with
        | nil => rfl
        | cons b ms =>
          obtain ⟨-, hempty⟩ := h.cursor b (ms ++ [m]) hqueue
          exact absurd (hempty (BitVec.toNat_inj.mp (by simpa using hzero)))
            (hms b List.mem_cons_self).1
      have hlen := congrArg List.length hbytes
      simp only [List.length_append, length_readBytes] at hlen
      obtain ⟨t, hreach, ht⟩ := ih (port'.unread s.mem).length (by omega)
        (h.step hm hstep) hb' rfl
      exact ⟨t, .head hstep hreach, ht⟩

/-- The mode of a port does not change. -/
lemma bypass_of_read (h : XfEndOk m data s) (hstep : XfStreamRead C s s') :
    s'.port.bypass = s.port.bypass := by
  cases hstep with
  | fill port out full hb hdone hfill hres =>
    obtain ⟨port', done, full', hres', hcopied, -⟩ := xfInputPortFill_spec s.mem h.cursor
      h.buffer (by simpa [XfInputPort.bypass, ← Option.not_isSome] using hb)
    obtain ⟨rfl, -⟩ := Prod.mk.inj (Option.some.inj (hres'.symm.trans hres))
    exact hcopied.bypass
  | consume port out n hoffered hpending hres =>
    cases hb : s.port.bypass with
    | true =>
      have hbuf : s.port.buffer = none := by simpa [XfInputPort.bypass] using hb
      have hne : s.port.queue ≠ [] := by simpa [ready] using hpending hb
      obtain ⟨a, queue, hq⟩ := List.exists_cons_of_ne_nil hne
      obtain ⟨port', out', hres', -, -, -, -, hframe⟩ := xfInputPortConsume_bypass s.mem hbuf
        h.cursor hq (n := n) (by simpa [offered, hb, hq] using hoffered)
      obtain ⟨rfl, -⟩ := Prod.mk.inj (Option.some.inj (hres'.symm.trans hres))
      show port'.bypass = true
      rw [hframe]
      exact hb
    | false =>
      obtain ⟨hport, hcreated, -⟩ := h.buffered hb
      obtain ⟨buf, hbuf⟩ := Option.isSome_iff_exists.mp (hport.buffer hcreated)
      obtain ⟨port', hres', -, -, -, hbyp⟩ := xfInputPortConsume_buffered hbuf h.buffer n
      obtain ⟨rfl, -⟩ := Prod.mk.inj (Option.some.inj (hres'.symm.trans hres))
      exact hbyp.trans hb
  | write => rfl

/-- The port is done as soon as all data has been taken. -/
def XfEndDone (m : XfMessage) (data : List UInt8) (s : XfStream) : Prop :=
  XfEndOk m data s ∧ (s.port.bypass = true → m.buffer = 0#32) ∧
    (s.taken = data → s.port.done = true)

/-- A fill that does not run is one without room. -/
lemma xfInputPortFill_stop (hcur : port.CursorOk) (hbuf : port.BufferOk) (hb : port.buffer.isSome)
    {r : XfInputPort × List XfMessage × Bool} (hres : xfInputPortFill mem port = some r) :
    r.1 = port ∨ r.1.queue = [] ∨ r.2.2 = true := by
  rcases xfInputPortFill_cases
    hres with ⟨-, rfl⟩ | ⟨hq, port', filled, remaining, n, out, hloop, rfl⟩
  · exact .inl rfl
  by_cases hroom : (0#32).slt (port.length - port.filled) = true
  · obtain ⟨buf, hbuf'⟩ := Option.isSome_iff_exists.mp hb
    have hfilled := (hbuf buf hbuf').2
    have hn : (port.length - port.filled).toNat = port.length.toNat - port.filled.toNat :=
      BitVec.toNat_sub_of_le hfilled
    have h31 : (port.length - port.filled).toNat < 2 ^ 31 := by
      by_contra hnot
      rw [BitVec.slt_iff_toInt_lt, BitVec.toInt_zero, BitVec.toInt_eq_toNat_cond,
        if_neg (by omega)] at hroom
      have := (port.length - port.filled).isLt
      omega
    obtain ⟨port₁, filled₁, remaining₁, n₁, done, hloop₁, -, hn₁⟩ :=
      xfInputPortFillLoop_spec mem (port.queue.length + 1) port port.filled port.remaining
        (port.length - port.filled) [] hcur hbuf hb (by omega) h31 (fun _ => hq) (Or.inr (by omega))
    obtain ⟨rfl, rfl, rfl, rfl, rfl⟩ : port₁ = port' ∧ filled₁ = filled ∧ remaining₁ = remaining ∧
        n₁ = n ∧ done = out := by simpa using hloop₁.symm.trans hloop
    by_cases hzero : n₁ = 0#32
    · exact .inr (.inr (by simpa using hzero))
    · exact .inr (.inl (hn₁ hzero))
  · rw [xfInputPortFillLoop, if_neg hroom] at hloop
    obtain ⟨rfl, rfl, rfl, rfl, rfl⟩ : port = port' ∧ port.filled = filled ∧
        port.remaining = remaining ∧ port.length - port.filled = n ∧ [] = out := by
          simpa using hloop
    exact .inl rfl

lemma XfEndDone.step (h : XfEndDone m data s) (hm : m.length = 0#32)
    (hstep : XfStreamRead (XfUnfit data) s s') : XfEndDone m data s' := by
  obtain ⟨hok, hbypass, hdone⟩ := h
  have hok' := hok.step hm hstep
  have hmode := bypass_of_read hok hstep
  have hbypass' : s'.port.bypass = true → m.buffer = 0#32 := hmode ▸ hbypass
  have hends (hb : s'.port.bypass = true) (hbuf : m.buffer = 0#32) (htaken : s'.taken = data) :
      s'.port.done = true := by
    refine ((hok'.ends hm fun _ => hbuf).reached htaken).resolve_right fun hnot => ?_
    exact absurd hnot.1 (by simp [hb])
  cases hstep with
  | fill port out full hb hnot hfill hres =>
    obtain ⟨port', done, full', hres', hcopied, -⟩ := xfInputPortFill_spec s.mem hok.cursor
      hok.buffer (by simpa [XfInputPort.bypass, ← Option.not_isSome] using hb)
    obtain ⟨rfl, rfl, rfl⟩ : port' = port ∧ done = out ∧ full' = full := by
      simpa using hres'.symm.trans hres
    have hb' : port'.bypass = false := hcopied.bypass.trans hb
    refine ⟨hok', hbypass', fun htaken => ?_⟩
    have hunread : port'.unread s.mem = [] := hok'.taken_eq_iff.mp htaken
    have hleft : s.port.unread s.mem ≠ [] := fun hnil => by
      simp [hdone (hok.taken_eq_iff.mpr hnil)] at hnot
    obtain ⟨ms, a, hqueue', -, -, -, -⟩ := hok'.queue_of_buffered hb'
    rcases xfInputPortFill_stop hok.cursor hok.buffer
      (by simpa [XfInputPort.bypass, ← Option.not_isSome] using hb) hres with hsame | hnil | hfull
    · have hsame : port' = s.port := hsame
      rw [hsame] at hunread
      exact absurd hunread hleft
    · have hnil : port'.queue = [] := hnil
      have hqueue' : port'.queue = ms ++ [a] := hqueue'
      simp [hqueue'] at hnil
    · rcases xfInputPortFill_full hres hfull with hroom | hend
      · -- the data would fit exactly
        have hroom : port'.filled = port'.length := hroom
        obtain ⟨buf, hbuf⟩ : ∃ buf, port'.buffer = some buf := by
          rw [← Option.isSome_iff_exists]
          simpa [XfInputPort.bypass, ← Option.not_isSome] using hb'
        have hstored : port'.stored.length = s.port.length.toNat := by
          rw [stored, hbuf, Option.getD_some, List.length_take, (hcopied.buffer buf hbuf).1, hroom,
            Nat.min_self, hcopied.length_eq]
        have hlen := congrArg List.length htaken
        rw [XfStream.taken, List.length_append, hstored] at hlen
        exact absurd hlen hfill
      · have hend : port'.done = !s.port.done := hend
        rw [hend, hnot]
        rfl
  | consume port out n hoffered hpending hres =>
    cases hb : s.port.bypass with
    | true => exact ⟨hok', hbypass', hends (hmode.trans hb) (hbypass hb)⟩
    | false =>
      obtain ⟨hport, hcreated, -⟩ := hok.buffered hb
      obtain ⟨buf, hbuf⟩ := Option.isSome_iff_exists.mp (hport.buffer hcreated)
      obtain ⟨port', hres', -, -, hframe, -⟩ := xfInputPortConsume_buffered hbuf hok.buffer n
      obtain ⟨rfl, rfl⟩ : port' = port ∧ [] = out := by simpa using hres'.symm.trans hres
      refine ⟨hok', hbypass', fun htaken => ?_⟩
      have hunread : port'.unread s.mem = s.port.unread s.mem := by rw [hframe]; rfl
      have hnil : port'.unread s.mem = [] := hok'.taken_eq_iff.mp htaken
      have hdone := hdone (hok.taken_eq_iff.mpr (hunread ▸ hnil))
      rw [hframe]
      exact hdone
  | write mem howned => exact ⟨hok', hbypass, hdone⟩

/-! ## Streams -/

/-- The port stays created while data is put and read. -/
lemma xfStreamStep_created (hcreated : s.port.created = true) (hstep : XfStreamStep s s') :
    s'.port.created = true := by
  cases hstep with
  | put m => exact (flags_xfInputPortPut s.port m).created.trans hcreated
  | fill port out full hb hdone hres => exact (flags_xfInputPortFill hres).created.trans hcreated
  | consume port out n hoffered hpending hres =>
    exact (flags_xfInputPortConsume hres).created.trans hcreated
  | write => exact hcreated

lemma bypass_putEnd (hen : s.port.enabled = true) (m : XfMessage) :
    (s.putEnd m).port.bypass = s.port.bypass := by
  obtain ⟨port', hput, -, -, -, -, hframe⟩ := xfInputPortPut_spec s.mem hen m
  show (xfInputPortPut s.port m).1.bypass = _
  rw [hput, hframe]
  rfl

/-- Every stream that ends with a message without data is completed when its data has been taken,
and not before, if and only if that message has no buffer when the port is in bypass mode.  The port
is even done at once, unless the message has a buffer and the port is empty, or the data fits
exactly. -/
theorem xfInputPort_ends_iff (hinit : xfInputPortInit port size block = (port₀, true))
    (hblock : ∀ buf, block = some buf → buf.length = size.toNat)
    (hrun : Relation.ReflTransGen XfStreamStep ⟨port₀, mem, [], [], []⟩ s₀)
    (hm : m.length = 0#32) :
    ((∀ s, Relation.ReflTransGen (XfStreamRead fun _ => True) (s₀.putEnd m) s →
        XfEnds (s₀.puts.flatMap Prod.snd) s) ↔
      (s₀.port.bypass = true → m.buffer = 0#32)) ∧
    ((s₀.port.bypass = true → m.buffer = 0#32) → (m.buffer = 0#32 ∨ s₀.port.queue ≠ []) →
      ∀ s, Relation.ReflTransGen (XfStreamRead (XfUnfit (s₀.puts.flatMap Prod.snd)))
          (s₀.putEnd m) s →
        (s.port.done = true ↔ s.taken = s₀.puts.flatMap Prod.snd)) := by
  have hcreated₀ : port₀.created = true := by
    rw [xfInputPortInit] at hinit
    split at hinit
    · cases hinit
    · rw [← (Prod.mk.inj hinit).1]
  have hstream : XfStreamOk s₀ :=
    run_invariant XfStreamOk (fun _ _ => xfStreamStep_ok) (xfStreamOk_init hinit hblock) hrun
  have hcreated : s₀.port.created = true :=
    run_invariant (fun s => s.port.created = true) (fun _ _ => xfStreamStep_created) hcreated₀ hrun
  have hstart := hstream.putEnd hcreated hm
  have hbypass := bypass_putEnd hstream.flags.1 m
  have hsame {C : XfStream → Prop} {s : XfStream}
      (hreach : Relation.ReflTransGen (XfStreamRead C) (s₀.putEnd m) s)
      (hbuf : s₀.port.bypass = true → m.buffer = 0#32) :
      XfEndOk m (s₀.puts.flatMap Prod.snd) s ∧ (s.port.bypass = true → m.buffer = 0#32) := by
    refine run_invariant (fun s => XfEndOk m (s₀.puts.flatMap Prod.snd) s ∧
      (s.port.bypass = true → m.buffer = 0#32)) ?_ ⟨hstart, hbypass ▸ hbuf⟩ hreach
    rintro s s' ⟨hok, hbuf⟩ hstep
    exact ⟨hok.step hm hstep, fun hb => hbuf ((bypass_of_read hok hstep).symm.trans hb)⟩
  refine ⟨⟨fun hends hb => ?_, fun hbuf s hreach => ?_⟩, fun hbuf hfirst s hreach => ?_⟩
  · by_contra hne
    obtain ⟨s, hreach, hok, hb', htaken⟩ := hstart.exists_taken hm (hbypass.trans hb)
    rcases (hends s hreach).reached htaken with hdone | hnext
    · rcases (hok.bypass hb').queue with ⟨ms, -, -, hiff⟩ | ⟨-, hiff⟩
      · exact hne (hiff.mp hdone).2
      · exact hne (hiff.mp hdone)
    · exact absurd hnext.1 (by simp [hb'])
  · obtain ⟨hok, hbuf⟩ := hsame hreach hbuf
    exact hok.ends hm hbuf
  · have hdone : XfEndDone m (s₀.puts.flatMap Prod.snd) (s₀.putEnd m) := by
      refine ⟨hstart, hbypass ▸ hbuf, fun htaken => ?_⟩
      have hnil := hstart.taken_eq_iff.mp htaken
      obtain ⟨-, -, hiff⟩ :=
        xfInputPortPut_end hstream.flags.1 hstream.flags.2.1 hstream.flags.2.2 hm
      obtain ⟨port', hput, hqueue, -⟩ := xfInputPortPut_spec s₀.mem hstream.flags.1 m
      have hqueue : (s₀.putEnd m).port.queue = s₀.port.queue ++ [m] := by
        show (xfInputPortPut s₀.port m).1.queue = _
        rw [hput, hqueue]
      have hempty : s₀.port.queue = [] :=
        (unread_eq_nil_iff hstart.cursor hqueue hm fun a ha => (hstream.data a ha).1).mp hnil
      exact hiff.mpr ⟨hempty, hfirst.resolve_right fun hne => hne hempty⟩
    obtain ⟨hok, hbuf, hdone⟩ :=
      run_invariant (XfEndDone m _) (fun _ _ h hstep => h.step hm hstep) hdone hreach
    exact ⟨(hok.ends hm hbuf).before, hdone⟩

/-- A message without data, and with a buffer. -/
def xfStreamEnd : XfMessage where
  ptr := .proxy 1
  id := ⟨0x8000#16, 0x0004#16⟩
  opcode := .emptyThisBuffer
  length := 0#32
  buffer := 0x200#32

/-- One byte has been put into the port. -/
def xfStreamOne (port : XfInputPort) : XfStream :=
  ⟨(xfInputPortPut port xfStreamByte).1, fun _ => 7, [(xfStreamByte, [7])], [], []⟩

/-- A stream of one byte is copied to an internal buffer of two bytes, and completed. -/
theorem xfInputPort_ends_one : ∃ s, s.port.done = true ∧ s.taken = [7] ∧ XfEnds [7] s := by
  have hput : XfStreamStep ⟨(xfInputPortInit .zero 2#32 (some [0, 0])).1, fun _ => 7, [], [], []⟩
      (xfStreamOne (xfInputPortInit .zero 2#32 (some [0, 0])).1) :=
    XfStreamStep.put _ xfStreamByte (by decide) (by decide)
  have hfill := XfStreamRead.fill (C := fun _ => True) ((xfStreamOne (xfInputPortInit .zero 2#32
    (some [0, 0])).1).putEnd xfStreamEnd) _ _ _ rfl rfl trivial rfl
  have hinit : xfInputPortInit .zero 2#32 (some [0, 0]) =
      ((xfInputPortInit .zero 2#32 (some [0, 0])).1, true) := rfl
  have hends := ((xfInputPort_ends_iff hinit (by simp) (.single hput) rfl).1.mpr (by decide)) _
    (.single hfill)
  exact ⟨_, rfl, rfl, hends⟩

/-- A stream of one byte is consumed in bypass mode, and the port is not done, since the message
that ends the stream has a buffer. -/
theorem xfInputPort_not_ends : ∃ s₀ s,
    Relation.ReflTransGen XfStreamStep
      ⟨(xfInputPortInit .zero 0#32 none).1, fun _ => 7, [], [], []⟩ s₀ ∧
    Relation.ReflTransGen (XfStreamRead fun _ => True) (s₀.putEnd xfStreamEnd) s ∧
    s.taken = s₀.puts.flatMap Prod.snd ∧ s.port.done = false ∧
    ¬ XfEnds (s₀.puts.flatMap Prod.snd) s := by
  have hput : XfStreamStep ⟨(xfInputPortInit .zero 0#32 none).1, fun _ => 7, [], [], []⟩
      (xfStreamOne (xfInputPortInit .zero 0#32 none).1) :=
    XfStreamStep.put _ xfStreamByte (by decide) (by decide)
  have hconsume := XfStreamRead.consume (C := fun _ => True)
    ((xfStreamOne (xfInputPortInit .zero 0#32 none).1).putEnd xfStreamEnd) _ _ 1#32
    (by decide) (by decide) rfl
  refine ⟨_, _, .single hput, .single hconsume, rfl, rfl, fun hends => ?_⟩
  rcases hends.reached rfl with hdone | hnext
  · cases hdone
  · cases hnext.1

end Hikey
