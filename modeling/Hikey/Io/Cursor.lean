import Hikey.Io.Input

/-!
# The cursor of an input port

The unread bytes of an input port are the rest of the message at the head of the queue, which the
cursor `(access, remaining)` describes, and the messages queued behind it.  Filling moves bytes from
the unread ones to the internal buffer (`XfCopied`), consuming takes the bytes that the port offers,
and a message is completed when its last byte is taken.
-/

namespace Hikey

variable {mem mem' : U32 → UInt8} {port port' port'' : XfInputPort} {m : XfMessage}
  {done done' out : List XfMessage} {n k : U32} {fuel : ℕ}

/-- The bytes in the buffer of a message. -/
def XfMessage.payload (mem : U32 → UInt8) (m : XfMessage) : List UInt8 :=
  readBytes mem m.buffer m.length.toNat

namespace XfInputPort

/-- The bytes in the internal buffer. -/
def stored (port : XfInputPort) : List UInt8 := (port.buffer.getD []).take port.filled.toNat

/-- The bytes of the queued messages that are not yet read. -/
def unread (mem : U32 → UInt8) (port : XfInputPort) : List UInt8 :=
  match port.queue with
  | [] => []
  | _ :: queue =>
    readBytes mem port.access port.remaining.toNat ++ queue.flatMap (XfMessage.payload mem)

/-- The bytes that the port offers to be consumed. -/
def offered (mem : U32 → UInt8) (port : XfInputPort) : List UInt8 :=
  if port.bypass then
    match port.queue with
    | [] => []
    | _ :: _ => readBytes mem port.access port.remaining.toNat
  else port.stored

/-- The cursor `(access, remaining)` describes a suffix of the buffer of the message `m`. -/
def CursorIn (port : XfInputPort) (m : XfMessage) : Prop :=
  ∃ read : ℕ, read + port.remaining.toNat = m.length.toNat ∧
    port.access = m.buffer + BitVec.ofNat 32 read

/-- The cursor describes the unread suffix of the message at the head of the queue; only of an empty
message nothing is left to read. -/
def CursorOk (port : XfInputPort) : Prop :=
  ∀ m queue, port.queue = m :: queue →
    port.CursorIn m ∧ (port.remaining = 0#32 → m.length = 0#32)

/-- The internal buffer has the length of the port and holds at most that many bytes. -/
def BufferOk (port : XfInputPort) : Prop :=
  ∀ buf, port.buffer = some buf →
    buf.length = port.length.toNat ∧ port.filled.toNat ≤ port.length.toNat

end XfInputPort

open XfInputPort

/-! ## Completing a message -/

variable (mem port) in
/-- A message whose buffer is read completely is followed by the next one. -/
lemma xfInputPortComplete_eq {queue : List XfMessage} (hq : port.queue = m :: queue)
    (hlast : port.remaining = 0#32) :
    ∃ port', xfInputPortComplete port = some (port', m, !queue.isEmpty) ∧
      port'.queue = queue ∧ port'.CursorOk ∧ port'.unread mem = port.unread mem ∧
      (queue = [] → port'.remaining = 0#32) ∧ (∀ m' ∈ queue.head?, port'.access = m'.buffer) ∧
      port' = { port with
        queue := port'.queue, access := port'.access, remaining := port'.remaining } := by
  cases queue with
  | nil =>
    refine ⟨{ port with queue := [], access := 0#32 }, by simp [xfInputPortComplete, hq], rfl,
      by simp [CursorOk], by simp [unread, hq, hlast], fun _ => hlast, by simp, rfl⟩
  | cons m' queue =>
    refine ⟨{ port with queue := m' :: queue, access := m'.buffer, remaining := m'.length },
      by simp [xfInputPortComplete, hq], rfl, ?_, ?_, by simp, by simp, rfl⟩
    · rintro m₁ queue₁ hq₁
      obtain ⟨rfl, rfl⟩ : m' = m₁ ∧ queue = queue₁ := by simpa using hq₁
      exact ⟨⟨0, by simp, by simp⟩, id⟩
    · simp [unread, hq, hlast, XfMessage.payload]

/-! ## Filling the internal buffer -/

/-- From `port` to `port'` bytes were moved into the internal buffer and the messages `done` were
completed; at an empty message the end-of-stream condition turned into the completion of the stream.
-/
structure XfCopied (mem : U32 → UInt8) (port port' : XfInputPort) (done : List XfMessage) :
    Prop where
  queue : port.queue = done ++ port'.queue
  bytes : port'.stored ++ port'.unread mem = port.stored ++ port.unread mem
  cursor : port'.CursorOk
  buffer : port'.BufferOk
  bypass : port'.bypass = port.bypass
  frame : port' = { port with
    queue := port'.queue
    buffer := port'.buffer
    filled := port'.filled
    access := port'.access
    remaining := port'.remaining
    eos := port'.eos
    done := port'.done }
  flags : port'.eos = port.eos ∧ port'.done = port.done ∨
    (∃ m queue, port'.queue = m :: queue ∧ m.length = 0#32) ∧
      port'.eos = !port.eos ∧ port'.done = !port.done

lemma XfCopied.refl (hcur : port.CursorOk) (hbuf : port.BufferOk) : XfCopied mem port port [] :=
  ⟨by simp, rfl, hcur, hbuf, rfl, rfl, Or.inl ⟨rfl, rfl⟩⟩

lemma XfCopied.length_eq (h : XfCopied mem port port' done) : port'.length = port.length := by
  rw [h.frame]

/-- Bytes are moved while the flags stay, until the flags are toggled at the end. -/
lemma XfCopied.trans (h : XfCopied mem port port' done) (h' : XfCopied mem port' port'' done')
    (hflags : port'.eos = port.eos ∧ port'.done = port.done) :
    XfCopied mem port port'' (done ++ done') where
  queue := by rw [h.queue, h'.queue, List.append_assoc]
  bytes := h'.bytes.trans h.bytes
  cursor := h'.cursor
  buffer := h'.buffer
  bypass := h'.bypass.trans h.bypass
  frame := by rw [h'.frame, h.frame]
  flags := by rw [← hflags.1, ← hflags.2]; exact h'.flags

/-- The port after `memcpy` has moved `k` bytes. -/
def XfInputPort.copy (mem : U32 → UInt8) (port : XfInputPort) (k : U32) : XfInputPort :=
  { port with
    buffer := port.buffer.map fun buf =>
      writeBytes buf port.filled.toNat (readBytes mem port.access k.toNat)
    filled := port.filled + k
    access := port.access + k
    remaining := port.remaining - k }

variable {buf : List UInt8} {queue : List XfMessage} {filled remaining : U32}

/-- Moving bytes of the message at the head of the queue keeps the bytes of the port in order. -/
lemma copy_bytes (hq : port.queue = m :: queue) (hbuf : port.buffer = some buf)
    (hk : k.toNat ≤ port.remaining.toNat) (hroom : port.filled.toNat + k.toNat ≤ buf.length)
    (hlen : buf.length < 2 ^ 32) :
    (port.copy mem k).stored ++ (port.copy mem k).unread mem = port.stored ++ port.unread mem := by
  have hfill : (port.filled + k).toNat = port.filled.toNat + k.toNat := by
    rw [BitVec.toNat_add, Nat.mod_eq_of_lt (by omega)]
  have hrem : (port.remaining - k).toNat = port.remaining.toNat - k.toNat :=
    BitVec.toNat_sub_of_le hk
  have hstored : (port.copy mem k).stored =
      port.stored ++ readBytes mem port.access k.toNat := by
    simp only [stored, copy, hbuf, Option.map_some, Option.getD_some, hfill]
    have := take_writeBytes port.filled.toNat buf (readBytes mem port.access k.toNat)
      (by simpa using hroom)
    simpa using this
  have hunread : port.unread mem =
      readBytes mem port.access k.toNat ++ (port.copy mem k).unread mem := by
    obtain ⟨l, hl⟩ := Nat.exists_eq_add_of_le hk
    have hkk : BitVec.ofNat 32 k.toNat = k := by simp
    simp only [unread, copy, hq, hrem]
    rw [hl, readBytes_add, hkk, Nat.add_sub_cancel_left, List.append_assoc]
  rw [hstored, hunread, List.append_assoc]

lemma copy_bufferOk (hbuf : port.BufferOk)
    (hroom : port.filled.toNat + k.toNat ≤ port.length.toNat) :
    (port.copy mem k).BufferOk := by
  intro buf' hbuf'
  obtain ⟨buf, hb, rfl⟩ : ∃ buf, port.buffer = some buf ∧
      writeBytes buf port.filled.toNat (readBytes mem port.access k.toNat) = buf' := by
    simpa [copy] using hbuf'
  have hlen := (hbuf buf hb).1
  have hfill : (port.filled + k).toNat = port.filled.toNat + k.toNat := by
    rw [BitVec.toNat_add, Nat.mod_eq_of_lt (by have := port.length.isLt; omega)]
  refine ⟨?_, by simpa only [copy, hfill] using hroom⟩
  rw [length_writeBytes (by rw [length_readBytes]; omega)]
  exact hlen

variable (mem) in
/-- A part of the message at the head of the queue is moved. -/
lemma xfCopied_part (hcur : port.CursorOk) (hbuf : port.BufferOk) (hb : port.buffer = some buf)
    (hq : port.queue = m :: queue) (hk : k.toNat < port.remaining.toNat)
    (hroom : port.filled.toNat + k.toNat ≤ port.length.toNat) :
    XfCopied mem port (port.copy mem k) [] where
  queue := rfl
  bytes := copy_bytes hq hb hk.le (by rw [(hbuf buf hb).1]; exact hroom)
    (by rw [(hbuf buf hb).1]; exact port.length.isLt)
  cursor := by
    intro m₁ queue₁ hq₁
    obtain ⟨rfl, rfl⟩ : m = m₁ ∧ queue = queue₁ := by
      simpa [copy, hq] using hq₁
    obtain ⟨⟨read, hread, haccess⟩, -⟩ := hcur m queue hq
    have hrem : (port.remaining - k).toNat = port.remaining.toNat - k.toNat :=
      BitVec.toNat_sub_of_le hk.le
    refine ⟨⟨read + k.toNat, ?_, ?_⟩, fun h0 => ?_⟩
    · simp only [copy, hrem]
      omega
    · simp [copy, haccess, BitVec.ofNat_add, BitVec.add_assoc]
    · have := congrArg BitVec.toNat h0
      simp only [copy, hrem, BitVec.toNat_ofNat] at this
      omega
  buffer := copy_bufferOk hbuf hroom
  bypass := by simp [copy, bypass]
  frame := rfl
  flags := Or.inl ⟨rfl, rfl⟩

variable (mem) in
/-- The rest of the message at the head of the queue is moved, and the message is completed. -/
lemma xfCopied_complete (hbuf : port.BufferOk) (hb : port.buffer = some buf)
    (hq : port.queue = m :: queue)
    (hroom : port.filled.toNat + port.remaining.toNat ≤ port.length.toNat) :
    ∃ port', xfInputPortComplete (port.copy mem port.remaining) =
        some (port', m, !queue.isEmpty) ∧ port'.queue = queue ∧
      (queue = [] → port'.remaining = 0#32) ∧ XfCopied mem port port' [m] ∧
      port'.eos = port.eos ∧ port'.done = port.done ∧
      port'.filled = port.filled + port.remaining := by
  obtain ⟨port', hres, hq', hcur', hunread, hlast, -, hframe⟩ :=
    xfInputPortComplete_eq mem (port.copy mem port.remaining) hq (by simp [copy])
  have hbuf' : port'.buffer = (port.copy mem port.remaining).buffer := by rw [hframe]
  have hfill' : port'.filled = (port.copy mem port.remaining).filled := by rw [hframe]
  refine ⟨port', hres, hq', hlast, ⟨by rw [hq, hq']; rfl, ?_, hcur', ?_, ?_, ?_,
    Or.inl ⟨by rw [hframe]; rfl, by rw [hframe]; rfl⟩⟩, by rw [hframe]; rfl, by rw [hframe]; rfl,
    hfill'⟩
  · have hstored : port'.stored = (port.copy mem port.remaining).stored := by
      simp only [stored, hbuf', hfill']
    rw [hunread, hstored]
    exact copy_bytes hq hb le_rfl (by rw [(hbuf buf hb).1]; exact hroom)
      (by rw [(hbuf buf hb).1]; exact port.length.isLt)
  · have hlength : port'.length = (port.copy mem port.remaining).length := by rw [hframe]
    intro b hb'
    rw [hlength, hfill']
    exact copy_bufferOk hbuf hroom b (hbuf' ▸ hb')
  · simp [bypass, hbuf', copy]
  · rw [hframe]
    rfl

/-- The loop runs while the count is positive as a signed number. -/
lemma slt_zero_iff (hn : n.toNat < 2 ^ 31) : (0#32).slt n = true ↔ n ≠ 0#32 := by
  rw [BitVec.slt_iff_toInt_lt, BitVec.toInt_zero, BitVec.toInt_eq_toNat_of_lt (by omega), ne_eq,
    ← BitVec.toNat_inj, BitVec.toNat_ofNat]
  omega

/-- The local copies of `filled` and `remaining` do not matter to the completion of a message. -/
lemma xfInputPortComplete_locals (port : XfInputPort) (filled remaining : U32) :
    xfInputPortComplete { port with filled := filled, remaining := remaining } =
      (xfInputPortComplete port).map fun (port', m, more) =>
        ({ port' with
            filled := filled
            remaining := if more then port'.remaining else remaining }, m, more) := by
  obtain ⟨queue, _, _, _, _, _, _, _, _, _, _⟩ := port
  cases queue with
  | nil => rfl
  | cons m queue =>
    cases queue with
    | nil => rfl
    | cons m' queue => rfl

variable (mem) in
/-- The loop of `xf_input_port_fill` moves bytes until the buffer is full, the messages are used up
or an empty message is met. -/
lemma xfInputPortFillLoop_spec (fuel : ℕ) (port : XfInputPort) (filled remaining n : U32)
    (out : List XfMessage)
    (hcur : CursorOk { port with filled := filled, remaining := remaining })
    (hbuf : BufferOk { port with filled := filled, remaining := remaining })
    (hb : port.buffer.isSome) (hn : n.toNat + filled.toNat = port.length.toNat)
    (hn31 : n.toNat < 2 ^ 31) (hpend : n ≠ 0#32 → port.queue ≠ [])
    (hfuel : n = 0#32 ∧ 0 < fuel ∨ port.queue.length < fuel) :
    ∃ port' filled' remaining' n' done,
      xfInputPortFillLoop mem fuel port filled remaining n out =
        some (port', filled', remaining', n', out ++ done) ∧
      XfCopied mem { port with filled := filled, remaining := remaining }
        { port' with filled := filled', remaining := remaining' } done ∧
      (n' ≠ 0#32 → port'.queue = []) := by
  induction fuel generalizing port filled remaining n out with
  | zero => exact absurd hfuel (by omega)
  | succ fuel ih =>
    rw [xfInputPortFillLoop]
    by_cases hn0 : n = 0#32
    · refine ⟨port, filled, remaining, n, [], ?_, XfCopied.refl hcur hbuf, fun h => absurd hn0 h⟩
      rw [if_neg (by rw [slt_zero_iff hn31]; exact fun h => h hn0), List.append_nil]
    rw [if_pos ((slt_zero_iff hn31).mpr hn0)]
    obtain ⟨m, queue, hq⟩ := List.exists_cons_of_ne_nil (hpend hn0)
    obtain ⟨buf, hb⟩ := Option.isSome_iff_exists.mp hb
    have hlt : port.queue.length < fuel + 1 := by
      rcases hfuel with ⟨h, -⟩ | h
      · exact absurd h hn0
      · exact h
    simp only
    by_cases hr0 : remaining = 0#32
    · -- an empty message
      have hk : (if n < remaining then n else remaining) = 0#32 := by simp [hr0]
      rw [if_pos hk]
      refine ⟨port.toggleDone, filled, remaining, 0#32, [], by simp, ?_, by simp⟩
      have hm := (hcur m queue hq).2 hr0
      exact ⟨rfl, rfl, hcur, hbuf, rfl, rfl, Or.inr ⟨⟨m, queue, hq, hm⟩, rfl, rfl⟩⟩
    have hr : remaining.toNat ≠ 0 := fun h => hr0 (BitVec.toNat_inj.mp h)
    by_cases hlt' : n < remaining
    · -- the room is used up by a part of the message
      have hk : (if n < remaining then n else remaining) = n := if_pos hlt'
      have hpart := xfCopied_part mem (k := n) hcur hbuf hb hq
        (BitVec.lt_def.mp hlt') (by simp only; omega)
      have hrem : remaining - n ≠ 0#32 := by
        intro h
        have hsub : (remaining - n).toNat = remaining.toNat - n.toNat :=
          BitVec.toNat_sub_of_le (BitVec.le_of_lt hlt')
        have := congrArg BitVec.toNat h
        have := BitVec.lt_def.mp hlt'
        simp only [hsub, BitVec.toNat_ofNat] at *
        omega
      rw [hk, if_neg hn0, if_neg hrem, BitVec.sub_self]
      obtain ⟨port', filled', remaining', n', done, hres, hcopied, hn'⟩ :=
        ih { port with
            buffer := port.buffer.map fun buf =>
              writeBytes buf filled.toNat (readBytes mem port.access n.toNat)
            access := port.access + n } (filled + n) (remaining - n) 0#32 out hpart.cursor
          hpart.buffer (by simp [hb]) (by
            rw [BitVec.toNat_add, Nat.mod_eq_of_lt (by have := port.length.isLt; omega)]
            simp only [BitVec.toNat_ofNat]
            omega)
          (by simp) (by simp) (Or.inl ⟨rfl, by have := List.length_pos_iff.mpr (hpend hn0); omega⟩)
      exact ⟨port', filled', remaining', n', done, hres,
        hpart.trans hcopied ⟨rfl, rfl⟩, hn'⟩
    · -- the message is completed
      have hk : (if n < remaining then n else remaining) = remaining := if_neg hlt'
      have hle : remaining.toNat ≤ n.toNat := by
        exact Nat.le_of_not_lt fun h => hlt' (BitVec.lt_def.mpr h)
      obtain ⟨cur', hcomp, hq', hlast, hcopied, heos, hdone, hfill⟩ :=
        xfCopied_complete mem hbuf hb hq (by simp only; omega)
      rw [hk, if_neg hr0, if_pos (BitVec.sub_self _)]
      have hloc := (xfInputPortComplete_locals { port with
        buffer := port.buffer.map fun buf =>
          writeBytes buf filled.toNat (readBytes mem port.access remaining.toNat)
        access := port.access + remaining } (filled + remaining) (remaining - remaining)).symm.trans
          hcomp
      obtain ⟨⟨port', m', more⟩, hcomp', hpair⟩ := Option.map_eq_some_iff.mp hloc
      obtain ⟨rfl, rfl, rfl⟩ : cur' = { port' with
          filled := filled + remaining
          remaining := if more then port'.remaining else remaining - remaining } ∧
          m = m' ∧ more = !queue.isEmpty := by
        simp only [Prod.mk.injEq] at hpair
        exact ⟨hpair.1.symm, hpair.2.1.symm, hpair.2.2⟩
      rw [hcomp']
      cases queue with
      | nil =>
        exact ⟨port', filled + remaining, remaining - remaining, n - remaining, [m], rfl, hcopied,
          fun _ => hq'⟩
      | cons m' queue =>
        have hsub : (n - remaining).toNat = n.toNat - remaining.toNat := BitVec.toNat_sub_of_le hle
        have hlen : port'.length = port.length := hcopied.length_eq
        have hbuf' : port'.buffer.isSome := by
          have := hcopied.bypass
          simp only [bypass, hb, Option.isNone_some] at this
          simpa [Option.isSome_iff_ne_none] using this
        obtain ⟨port'', filled', remaining', n', done, hres, hcopied', hn'⟩ :=
          ih port' (filled + remaining) port'.remaining (n - remaining) (out ++ [m]) hcopied.cursor
            hcopied.buffer hbuf' (by
              rw [BitVec.toNat_add, hsub, hlen,
                Nat.mod_eq_of_lt (by have := port.length.isLt; omega)]
              omega)
            (by omega) (fun _ => by rw [hq']; simp)
            (Or.inr (by rw [hq']; rw [hq] at hlt; simp only [List.length_cons] at hlt ⊢; omega))
        refine ⟨port'', filled', remaining', n', m :: done, ?_,
          hcopied.trans hcopied' ⟨heos, hdone⟩, hn'⟩
        rw [List.append_cons]
        exact hres

variable (mem) in
/-- `xf_input_port_fill` is defined, and moves bytes into the internal buffer; it reports a buffer
that is not prefilled only when the messages are used up. -/
theorem xfInputPortFill_spec (hcur : port.CursorOk) (hbuf : port.BufferOk)
    (hb : port.buffer.isSome) :
    ∃ port' done full, xfInputPortFill mem port = some (port', done, full) ∧
      XfCopied mem port port' done ∧
      (full = false → port.length.toNat < 2 ^ 31 → port'.queue = []) := by
  by_cases hq : port.queue = []
  · exact ⟨port, [], false, by simp [xfInputPortFill, hq], XfCopied.refl hcur hbuf, fun _ _ => hq⟩
  obtain ⟨buf, hbuf'⟩ := Option.isSome_iff_exists.mp hb
  have hfilled := (hbuf buf hbuf').2
  have hn : (port.length - port.filled).toNat = port.length.toNat - port.filled.toNat :=
    BitVec.toNat_sub_of_le hfilled
  by_cases h31 : (port.length - port.filled).toNat < 2 ^ 31
  · obtain ⟨port', filled', remaining', n', done, hres, hcopied, hn'⟩ :=
      xfInputPortFillLoop_spec mem (port.queue.length + 1) port port.filled port.remaining
        (port.length - port.filled) [] hcur hbuf hb (by omega) h31 (fun _ => hq)
        (Or.inr (by omega))
    refine ⟨{ port' with filled := filled', remaining := remaining' }, done, n' = 0#32, ?_,
      hcopied, fun hfull _ => hn' (by simpa using hfull)⟩
    rw [xfInputPortFill, if_neg hq, hres]
    simp
  · -- the count is negative as a signed number
    have hneg : ¬ (0#32).slt (port.length - port.filled) = true := by
      rw [BitVec.slt_iff_toInt_lt, BitVec.toInt_zero, BitVec.toInt_eq_toNat_cond,
        if_neg (by omega)]
      have := (port.length - port.filled).isLt
      omega
    refine ⟨port, [], false, ?_, XfCopied.refl hcur hbuf, fun _ hlen => absurd h31 (by omega)⟩
    rw [xfInputPortFill, if_neg hq, xfInputPortFillLoop, if_neg hneg]
    have : port.length - port.filled ≠ 0#32 := by
      intro h0
      rw [h0] at h31
      exact h31 (by decide)
    simp [this]

/-! ## Consuming -/

/-- Consuming from the internal buffer. -/
lemma xfInputPortConsume_buffered (hb : port.buffer = some buf) (hbuf : port.BufferOk) (n : U32) :
    ∃ port', xfInputPortConsume port n = some (port', []) ∧
      port'.stored = port.stored.drop n.toNat ∧ port'.BufferOk ∧
      port' = { port with buffer := port'.buffer, filled := port'.filled } ∧
      port'.bypass = port.bypass := by
  have ⟨hlen, hfilled⟩ := hbuf buf hb
  by_cases hn : n < port.filled
  · have hsub : (port.filled - n).toNat = port.filled.toNat - n.toNat :=
      BitVec.toNat_sub_of_le (BitVec.le_of_lt hn)
    have hlt := BitVec.lt_def.mp hn
    have htake : ((buf.drop n.toNat).take (port.filled.toNat - n.toNat)).length =
        port.filled.toNat - n.toNat := by
      rw [List.length_take, List.length_drop]
      omega
    refine ⟨{ port with
        buffer := some (writeBytes buf 0 ((buf.drop n.toNat).take (port.filled - n).toNat))
        filled := port.filled - n }, by simp [xfInputPortConsume, hb, hn], ?_, ?_, rfl,
      by simp [bypass, hb]⟩
    · simp only [stored, hb, Option.getD_some, hsub]
      have := take_writeBytes 0 buf
        ((buf.drop n.toNat).take (port.filled.toNat - n.toNat)) (by rw [htake]; omega)
      rw [Nat.zero_add, htake] at this
      rw [this, List.take_zero, List.nil_append, List.drop_take]
    · rintro b hb'
      obtain rfl := Option.some_inj.mp hb'
      refine ⟨?_, by simp only [hsub]; omega⟩
      rw [hsub, length_writeBytes (by rw [htake]; omega)]
      exact hlen
  · refine ⟨{ port with filled := 0#32 }, by simp [xfInputPortConsume, hb, hn], ?_, ?_, rfl, rfl⟩
    · have hle : port.filled.toNat ≤ n.toNat :=
        Nat.le_of_not_lt fun h => hn (BitVec.lt_def.mpr h)
      simp only [stored, BitVec.toNat_ofNat]
      rw [List.drop_eq_nil_of_le (by rw [List.length_take]; omega)]
      simp
    · rintro b hb'
      exact ⟨(hbuf b hb').1, by simp⟩

variable (mem) in
/-- Consuming from the message at the head of the queue. -/
lemma xfInputPortConsume_bypass (hb : port.buffer = none) (hcur : port.CursorOk)
    (hq : port.queue = m :: queue) (hn : n.toNat ≤ port.remaining.toNat) :
    ∃ port' done, xfInputPortConsume port n = some (port', done) ∧
      port.queue = done ++ port'.queue ∧
      readBytes mem port.access n.toNat ++ port'.unread mem = port.unread mem ∧
      port'.CursorOk ∧
      (port'.eos = port.eos ∧ port'.done = port.done ∨
        (∃ m queue, port'.queue = m :: queue ∧ m.buffer = 0#32) ∧
          port'.eos = !port.eos ∧ port'.done = !port.done) ∧
      port' = { port with
        queue := port'.queue
        access := port'.access
        remaining := port'.remaining
        eos := port'.eos
        done := port'.done } := by
  obtain ⟨⟨read, hread, haccess⟩, hrem⟩ := hcur m queue hq
  have hsub : (port.remaining - n).toNat = port.remaining.toNat - n.toNat :=
    BitVec.toNat_sub_of_le hn
  have hsplit : port.unread mem = readBytes mem port.access n.toNat ++
      (readBytes mem (port.access + n) (port.remaining - n).toNat ++
        queue.flatMap (XfMessage.payload mem)) := by
    obtain ⟨l, hl⟩ := Nat.exists_eq_add_of_le hn
    simp only [unread, hq, hsub]
    rw [hl, readBytes_add, BitVec.ofNat_toNat, BitVec.setWidth_eq, Nat.add_sub_cancel_left,
      List.append_assoc]
  by_cases hlast : port.remaining - n = 0#32
  · -- the message is used up
    obtain ⟨port', hcomp, hq', hcur', hunread, -, haccess', hframe⟩ := xfInputPortComplete_eq mem
      { port with remaining := port.remaining - n } hq hlast
    have hbytes : readBytes mem port.access n.toNat ++ port'.unread mem = port.unread mem := by
      rw [hunread, hsplit]
      simp [unread, hq, hlast]
    have heos : port'.eos = port.eos := by rw [hframe]
    have hdone : port'.done = port.done := by rw [hframe]
    have hres : xfInputPortConsume port n =
        some (if port'.ready ∧ port'.access = 0#32 then port'.toggleDone else port', [m]) := by
      unfold xfInputPortConsume
      split
      · simp only
        rw [if_pos hlast, hcomp]
      · next h => exact absurd (h.symm.trans hb) (by simp)
    by_cases htog : port'.ready ∧ port'.access = 0#32
    · refine ⟨port'.toggleDone, [m], by rw [hres, if_pos htog], by rw [hq, ← hq']; rfl, hbytes,
        hcur', Or.inr ⟨?_, ?_, ?_⟩, ?_⟩
      · obtain ⟨m', queue', hq''⟩ : ∃ m' queue', port'.queue = m' :: queue' :=
          List.exists_cons_of_ne_nil (by simpa [ready] using htog.1)
        refine ⟨m', queue', hq'', ?_⟩
        rw [← haccess' m' (by rw [← hq', hq'']; rfl)]
        exact htog.2
      · simp [toggleDone, heos]
      · simp [toggleDone, hdone]
      · rw [toggleDone, hframe]
    · exact ⟨port', [m], by rw [hres, if_neg htog], by rw [hq, hq']; rfl, hbytes, hcur',
        Or.inl ⟨heos, hdone⟩, by rw [hframe]⟩
  · refine ⟨{ port with remaining := port.remaining - n, access := port.access + n }, [],
      by simp [xfInputPortConsume, hb, hlast], rfl, ?_, ?_, Or.inl ⟨rfl, rfl⟩, rfl⟩
    · rw [hsplit]
      simp [unread, hq]
    · intro m₁ queue₁ hq₁
      obtain ⟨rfl, rfl⟩ : m = m₁ ∧ queue = queue₁ := by simpa [hq] using hq₁
      refine ⟨⟨read + n.toNat, by simp only [hsub]; omega, ?_⟩, fun h => absurd h hlast⟩
      simp [haccess, BitVec.ofNat_add, BitVec.add_assoc]

/-! ## Putting a message -/

lemma enabled_of_xfInputPortPut (h : (xfInputPortPut port m).2.2 = true) : port.enabled = true := by
  by_contra hen
  rw [xfInputPortPut, if_pos (by simpa using hen)] at h
  cases h

/-- Putting a message changes the queue, the cursor and the flags; data leaves the flags. -/
lemma xfInputPortPut_frame (hen : port.enabled = true) (m : XfMessage) :
    (m.length ≠ 0#32 → (port.queue = [] → m.buffer ≠ 0#32) →
      (xfInputPortPut port m).1.enabled = true ∧ (xfInputPortPut port m).1.eos = port.eos ∧
        (xfInputPortPut port m).1.done = port.done) ∧
    (xfInputPortPut port m).1 = { port with
      queue := (xfInputPortPut port m).1.queue
      access := (xfInputPortPut port m).1.access
      remaining := (xfInputPortPut port m).1.remaining
      enabled := (xfInputPortPut port m).1.enabled
      eos := (xfInputPortPut port m).1.eos
      done := (xfInputPortPut port m).1.done } := by
  rw [xfInputPortPut, if_neg (by simp [hen])]
  by_cases hlen : m.length = 0#32 <;> by_cases hbuf : m.buffer = 0#32 <;>
    by_cases hq : port.queue = [] <;> simp [xfMsgEnqueue, toggleDone, hen, hq, hlen, hbuf]

/-- The cursor is set to the first message. -/
lemma xfInputPortPut_nil (hen : port.enabled = true) (hq : port.queue = []) (m : XfMessage) :
    (xfInputPortPut port m).2 = ([], true) ∧ (xfInputPortPut port m).1.queue = [m] ∧
      (xfInputPortPut port m).1.access = m.buffer ∧
      (xfInputPortPut port m).1.remaining = m.length := by
  rw [xfInputPortPut, if_neg (by simp [hen])]
  by_cases hlen : m.length = 0#32 <;> by_cases hbuf : m.buffer = 0#32 <;>
    simp [xfMsgEnqueue, toggleDone, hq, hlen, hbuf]

/-- Behind other messages, the cursor stays. -/
lemma xfInputPortPut_cons (hen : port.enabled = true) (hq : port.queue ≠ []) (m : XfMessage) :
    (xfInputPortPut port m).2 = ([], false) ∧ (xfInputPortPut port m).1.queue = port.queue ++ [m] ∧
      (xfInputPortPut port m).1.access = port.access ∧
      (xfInputPortPut port m).1.remaining = port.remaining := by
  rw [xfInputPortPut, if_neg (by simp [hen])]
  by_cases hlen : m.length = 0#32 <;> simp [xfMsgEnqueue, hq, hlen]

/-- The flags after the message without data has been put. -/
lemma xfInputPortPut_end (hen : port.enabled = true) (heos : port.eos = false)
    (hdone : port.done = false) (hm : m.length = 0#32) :
    (xfInputPortPut port m).1.enabled = false ∧
      (xfInputPortPut port m).1.eos = !(xfInputPortPut port m).1.done ∧
      ((xfInputPortPut port m).1.done = true ↔ port.queue = [] ∧ m.buffer = 0#32) := by
  by_cases hq : port.queue = [] <;> by_cases hbuf : m.buffer = 0#32 <;>
    simp [xfInputPortPut, xfMsgEnqueue, toggleDone, hen, heos, hdone, hm, hq, hbuf]

lemma queue_xfInputPortPut (hen : port.enabled = true) (m : XfMessage) :
    (xfInputPortPut port m).1.queue = port.queue ++ [m] := by
  by_cases hq : port.queue = []
  · rw [(xfInputPortPut_nil hen hq m).2.1, hq]
    rfl
  · exact (xfInputPortPut_cons hen hq m).2.1

/-- The message without data announces the end of the stream, and is the last one. -/
lemma ended_xfInputPortPut (hen : port.enabled = true) (heos : port.eos = false)
    (hdone : port.done = false) (hdata : ∀ a ∈ port.queue, a.length ≠ 0#32)
    (hm : port.queue = [] → m.length ≠ 0#32 → m.buffer ≠ 0#32)
    (hput : (xfInputPortPut port m).1 = port') :
    (port'.eos = false ∧ port'.done = false ∧ ∀ a ∈ port'.queue, a.length ≠ 0#32) ∨
      (port'.enabled = false ∧ port'.eos = !port'.done ∧ ∃ as a, port'.queue = as ++ [a] ∧
        a.length = 0#32 ∧ (∀ a ∈ as, a.length ≠ 0#32) ∧ (port'.done = true → as = [])) := by
  subst hput
  have hqueue := queue_xfInputPortPut hen m
  by_cases hlen : m.length = 0#32
  · obtain ⟨hen', heos', hdone'⟩ := xfInputPortPut_end hen heos hdone hlen
    exact .inr ⟨hen', heos', port.queue, m, hqueue, hlen, hdata, fun hd => (hdone'.mp hd).1⟩
  · obtain ⟨-, heos', hdone'⟩ := (xfInputPortPut_frame hen m).1 hlen fun hnil => hm hnil hlen
    refine .inl ⟨heos'.trans heos, hdone'.trans hdone, fun a ha => ?_⟩
    rw [hqueue] at ha
    rcases List.mem_append.mp ha with ha | ha
    · exact hdata a ha
    · obtain rfl := List.mem_singleton.mp ha
      exact hlen

variable (mem) in
/-- A message put into an enabled port is queued last; the cursor is set to the first one. -/
lemma xfInputPortPut_spec (hen : port.enabled = true) (m : XfMessage) :
    ∃ port', xfInputPortPut port m = (port', [], port.queue.isEmpty) ∧
      port'.queue = port.queue ++ [m] ∧ (port.CursorOk → port'.CursorOk) ∧
      port'.unread mem = port.unread mem ++ m.payload mem ∧
      (m.length ≠ 0#32 → m.buffer ≠ 0#32 →
        port'.enabled = true ∧ port'.eos = port.eos ∧ port'.done = port.done) ∧
      port' = { port with
        queue := port'.queue
        access := port'.access
        remaining := port'.remaining
        enabled := port'.enabled
        eos := port'.eos
        done := port'.done } := by
  obtain ⟨hflags, hframe⟩ := xfInputPortPut_frame hen m
  have hflags (hlen : m.length ≠ 0#32) (hbuf : m.buffer ≠ 0#32) := hflags hlen fun _ => hbuf
  by_cases hq : port.queue = []
  · obtain ⟨hput, hq', haccess, hrem⟩ := xfInputPortPut_nil hen hq m
    refine ⟨_, Prod.ext rfl (by rw [hput, hq]; rfl), by rw [hq, hq']; rfl, fun _ => ?_, ?_, hflags,
      hframe⟩
    · intro m₁ queue₁ hq₁
      obtain ⟨rfl, rfl⟩ : m = m₁ ∧ [] = queue₁ := by simpa [hq'] using hq₁
      exact ⟨⟨0, by simp [hrem], by simp [haccess]⟩, fun h => hrem ▸ h⟩
    · simp [unread, hq, hq', haccess, hrem, XfMessage.payload]
  · obtain ⟨hput, hq', haccess, hrem⟩ := xfInputPortPut_cons hen hq m
    obtain ⟨m₀, queue, hq₀⟩ := List.exists_cons_of_ne_nil hq
    have hq' : (xfInputPortPut port m).1.queue = m₀ :: (queue ++ [m]) := by rw [hq', hq₀]; rfl
    refine ⟨_, Prod.ext rfl (by rw [hput, hq₀]; rfl), by rw [hq₀, hq']; rfl, fun hcur => ?_, ?_,
      hflags, hframe⟩
    · intro m₁ queue₁ hq₁
      obtain ⟨rfl, -⟩ : m₀ = m₁ ∧ queue ++ [m] = queue₁ := by simpa [hq'] using hq₁
      obtain ⟨⟨read, hread, hacc⟩, hempty⟩ := hcur m₀ queue hq₀
      exact ⟨⟨read, by rw [hrem]; exact hread, by rw [haccess]; exact hacc⟩,
        fun h => hempty (hrem ▸ h)⟩
    · simp [unread, hq₀, hq', haccess, hrem]

end Hikey
