import Hikey.Io.Cursor

/-!
# The end of a stream on an input port

The flags of an input port tell how far the end of a stream has come: it is announced when the
message without data is put into the port, and reached when everything before that message has been
read.  Both `xf_input_port_put` and `xf_input_port_fill` toggle the flags, so the end moves on only
when the port is not filled once more after it has been reached.
-/

namespace Hikey

variable {m : XfMessage} {port : XfInputPort} {mem : U32 → UInt8} {n : U32}

/-- How far the end of the stream has come: it is ahead, announced (`EOS`) or reached (`DONE`). -/
def XfInputPort.stage (port : XfInputPort) : ℕ := if port.done then 2 else if port.eos then 1 else 0

/-- The messages in the queue do not fill the internal buffer, and the end of the stream is not
among them. -/
def XfInputPort.short (port : XfInputPort) : Prop :=
  port.queue = [] ∨ (∀ m ∈ port.queue, m.length ≠ 0#32) ∧
    port.remaining.toNat + (port.queue.tail.map fun m => m.length.toNat).sum <
      (port.length - port.filled).toNat

instance : DecidablePred XfInputPort.short := fun port => by
  unfold XfInputPort.short
  infer_instance

/-- A port with an internal buffer.  While the end of the stream is announced or reached, the
message without data is the last one in the queue; it is the only one when the end is reached. -/
structure XaTrackPort (port : XfInputPort) : Prop where
  fresh : port.created = false → port.enabled = false ∧ port.queue = []
  buffer : port.created = true → port.buffer.isSome = true
  cursor : ∀ m queue, port.queue = m :: queue → (port.remaining = 0#32 ↔ m.length = 0#32)
  ended : (port.eos = false ∧ port.done = false ∧ ∀ m ∈ port.queue, m.length ≠ 0#32) ∨
    (port.enabled = false ∧ port.eos = !port.done ∧ ∃ ms m, port.queue = ms ++ [m] ∧
      m.length = 0#32 ∧ (∀ m ∈ ms, m.length ≠ 0#32) ∧ (port.done = true → ms = []))

/-- A fill leaves a port without messages as it is, and goes through the loop otherwise. -/
lemma xfInputPortFill_cases {r : XfInputPort × List XfMessage × Bool}
    (hres : xfInputPortFill mem port = some r) :
    port.queue = [] ∧ r = (port, [], false) ∨
      port.queue ≠ [] ∧ ∃ port' filled remaining n out,
        xfInputPortFillLoop mem (port.queue.length + 1) port port.filled port.remaining
          (port.length - port.filled) [] = some (port', filled, remaining, n, out) ∧
        r = ({ port' with filled := filled, remaining := remaining }, out, decide (n = 0#32)) := by
  unfold xfInputPortFill at hres
  split at hres
  · next hq => exact .inl ⟨hq, (Option.some.inj hres).symm⟩
  · next hq =>
    split at hres
    · cases hres
    · next hloop => exact .inr ⟨hq, _, _, _, _, _, hloop, (Option.some.inj hres).symm⟩

/-- Completing a message only moves the cursor. -/
lemma xfInputPortComplete_frame {r : XfInputPort × XfMessage × Bool}
    (h : xfInputPortComplete port = some r) :
    r.1 = { port with queue := r.1.queue, access := r.1.access, remaining := r.1.remaining } := by
  unfold xfInputPortComplete at h
  split at h
  · cases h
  · obtain rfl := Option.some.inj h
    rfl
  · obtain rfl := Option.some.inj h
    rfl

namespace XaTrackPort

lemma flags_of_queue_nil (h : XaTrackPort port) (hq : port.queue = []) :
    port.eos = false ∧ port.done = false := by
  rcases h.ended with ⟨heos, hdone, -⟩ | ⟨-, -, ms, m, hqueue, -⟩
  · exact ⟨heos, hdone⟩
  · simp [hq] at hqueue

/-- The end of a stream that is announced is the last message of the queue. -/
lemma getLast (h : XaTrackPort port) (hstage : port.stage ≠ 0) :
    ∃ queue m, port.queue = queue ++ [m] ∧ m.length = 0#32 ∧ (port.done = true → queue = []) := by
  rcases h.ended with ⟨heos, hdone, -⟩ | ⟨-, -, ms, m, hqueue, hm, -, hms⟩
  · simp [XfInputPort.stage, heos, hdone] at hstage
  · exact ⟨ms, m, hqueue, hm, hms⟩

/-- A port to which messages can be put has not seen the end of the stream. -/
lemma flags_of_enabled (h : XaTrackPort port) (hen : port.enabled = true) :
    port.created = true ∧ port.eos = false ∧ port.done = false ∧
      ∀ m ∈ port.queue, m.length ≠ 0#32 := by
  have hcreated : port.created = true := by
    by_contra hnot
    have := (h.fresh (by simpa using hnot)).1
    simp [hen] at this
  rcases h.ended with ⟨heos, hdone, hall⟩ | ⟨hnot, -⟩
  · exact ⟨hcreated, heos, hdone, hall⟩
  · simp [hen] at hnot

/-- An empty port with a buffer. -/
lemma of_queue_nil (hbuf : port.created = true → port.buffer.isSome = true)
    (hfresh : port.created = false → port.enabled = false) (hq : port.queue = [])
    (heos : port.eos = false) (hdone : port.done = false) : XaTrackPort port where
  fresh h := ⟨hfresh h, hq⟩
  buffer := hbuf
  cursor := by simp [hq]
  ended := .inl ⟨heos, hdone, by simp [hq]⟩

lemma purge (h : XaTrackPort port) : XaTrackPort (xfInputPortPurge port).1 ∧
    (xfInputPortPurge port).1.queue = [] ∧ (xfInputPortPurge port).1.created = port.created ∧
    (xfInputPortPurge port).2 = port.queue.map XfMessage.ok := by
  unfold xfInputPortPurge
  cases hcreated : port.created with
  | false =>
    have hq := (h.fresh hcreated).2
    exact ⟨h, hq, hcreated, by simp [hq]⟩
  | true =>
    refine ⟨of_queue_nil (fun _ => h.buffer hcreated) (fun hnot => ?_) rfl rfl rfl, rfl, rfl, rfl⟩
    cases hnot

/-- A message with data is put into the port with a buffer when it is the first one. -/
lemma put (h : XaTrackPort port) (hen : port.enabled = true)
    (hm : port.queue = [] → m.length ≠ 0#32 → m.buffer ≠ 0#32) :
    XaTrackPort (xfInputPortPut port m).1 ∧ (xfInputPortPut port m).1.created = true ∧
      (xfInputPortPut port m).2.1 = [] ∧
      ((xfInputPortPut port m).2.2 = true ↔ port.queue = []) := by
  obtain ⟨hcreated, heos, hdone, hall⟩ := h.flags_of_enabled hen
  obtain ⟨-, hframe⟩ := xfInputPortPut_frame hen m
  have hcreated' : (xfInputPortPut port m).1.created = true := by
    rw [hframe]
    exact hcreated
  have hcursor : (xfInputPortPut port m).2.1 = [] ∧
      ((xfInputPortPut port m).2.2 = true ↔ port.queue = []) ∧
      ∀ m' queue, (xfInputPortPut port m).1.queue = m' :: queue →
        ((xfInputPortPut port m).1.remaining = 0#32 ↔ m'.length = 0#32) := by
    by_cases hq : port.queue = []
    · obtain ⟨hput, hqueue, -, hrem⟩ := xfInputPortPut_nil hen hq m
      refine ⟨by rw [hput], by simp [hput, hq], fun m' queue hq' => ?_⟩
      obtain ⟨rfl, -⟩ : m = m' ∧ [] = queue := by simpa [hqueue] using hq'
      rw [hrem]
    · obtain ⟨hput, hqueue, -, hrem⟩ := xfInputPortPut_cons hen hq m
      obtain ⟨a, as, hqa⟩ := List.exists_cons_of_ne_nil hq
      refine ⟨by rw [hput], by simp [hput, hq], fun m' queue hq' => ?_⟩
      obtain ⟨rfl, -⟩ : a = m' ∧ as ++ [m] = queue := by simpa [hqueue, hqa] using hq'
      rw [hrem]
      exact h.cursor a as hqa
  obtain ⟨hout, hfirst, hcursor⟩ := hcursor
  refine ⟨⟨fun hnot => ?_, fun _ => ?_, hcursor, ?_⟩, hcreated', hout, hfirst⟩
  · simp [hcreated'] at hnot
  · rw [hframe]
    exact h.buffer hcreated
  · exact ended_xfInputPortPut hen heos hdone hall hm rfl

/-- A port with an internal buffer loses no message when it is consumed. -/
lemma consume (h : XaTrackPort port) (hcreated : port.created = true)
    {r : XfInputPort × List XfMessage} (hres : xfInputPortConsume port n = some r) :
    XaTrackPort r.1 ∧ r.2 = [] ∧ r.1.queue = port.queue ∧ r.1.stage = port.stage ∧
      r.1.created = true ∧ r.1.enabled = port.enabled ∧ r.1.done = port.done := by
  obtain ⟨buf, hbuf⟩ := Option.isSome_iff_exists.mp (h.buffer hcreated)
  simp only [xfInputPortConsume, hbuf] at hres
  by_cases hn : n < port.filled
  · rw [if_pos hn, Option.some_inj] at hres
    subst hres
    exact ⟨⟨h.fresh, fun _ => rfl, h.cursor, h.ended⟩, rfl, rfl, rfl, hcreated, rfl, rfl⟩
  · rw [if_neg hn, Option.some_inj] at hres
    subst hres
    exact ⟨⟨h.fresh, fun _ => rfl, h.cursor, h.ended⟩, rfl, rfl, rfl, hcreated, rfl, rfl⟩

/-- The message at the head of the queue is completed, and it is not the last one of an announced
end. -/
lemma complete {filled remaining : U32}
    (h : XaTrackPort { port with filled := filled, remaining := remaining })
    (hrem : remaining ≠ 0#32) {r : XfInputPort × XfMessage × Bool}
    (hres : xfInputPortComplete port = some r) :
    ∃ queue, port.queue = r.2.1 :: queue ∧ r.1.queue = queue ∧ (r.2.2 = true ↔ queue ≠ []) ∧
      r.1.stage = port.stage ∧ r.1.created = port.created ∧ r.1.done = port.done ∧
      (port.stage ≠ 0 → queue.getLast? = port.queue.getLast?) ∧
      ∀ filled remaining, (queue ≠ [] → remaining = r.1.remaining) →
        XaTrackPort { r.1 with filled := filled, remaining := remaining } := by
  obtain ⟨hfresh, hbuffer, hcursor, hended⟩ := h
  simp only at hfresh hbuffer hcursor hended
  cases hq : port.queue with
  | nil => simp [xfInputPortComplete, hq] at hres
  | cons m queue =>
    have hm : m.length ≠ 0#32 := fun h0 => hrem ((hcursor m queue hq).mpr h0)
    have hcreated : port.created = true := by
      by_contra hnot
      have := (hfresh (by simpa using hnot)).2
      simp [hq] at this
    cases queue with
    | nil =>
      simp only [xfInputPortComplete, hq, Option.some.injEq] at hres
      subst hres
      rcases hended with ⟨heos, hdone, -⟩ | ⟨-, -, ms, m', hqueue, hm', -, -⟩
      · refine ⟨[], rfl, rfl, by simp, rfl, rfl, rfl, ?_, fun filled remaining _ => ?_⟩
        · simp [XfInputPort.stage, heos, hdone]
        · refine of_queue_nil (fun _ => hbuffer hcreated) ?_ rfl heos hdone
          simp [hcreated]
      · -- the only message is the one without data
        obtain ⟨rfl, rfl⟩ : ms = [] ∧ m = m' := by
          cases ms with
          | nil => simpa [hq] using hqueue
          | cons a as => simp [hq] at hqueue
        exact absurd hm' hm
    | cons m' queue =>
      simp only [xfInputPortComplete, hq, Option.some.injEq] at hres
      subst hres
      refine ⟨m' :: queue, rfl, rfl, by simp, rfl, rfl, rfl, fun _ => ?_,
        fun filled remaining hremaining => ⟨?_, fun _ => hbuffer hcreated, ?_, ?_⟩⟩
      · simp
      · simp [hcreated]
      · rintro a as has
        obtain ⟨rfl, -⟩ : m' = a ∧ queue = as := by simpa using has
        rw [hremaining (by simp)]
      · rcases hended with ⟨heos, hdone, hall⟩ | ⟨hen, heos, ms, a, hqueue, ha, hall, hms⟩
        · exact .inl ⟨heos, hdone, fun b hb => hall b (by rw [hq]; exact List.mem_cons_of_mem _ hb)⟩
        · rw [hq] at hqueue
          cases ms with
          | nil => simp at hqueue
          | cons b bs =>
            obtain ⟨rfl, hrest⟩ : m = b ∧ m' :: queue = bs ++ [a] := by simpa using hqueue
            refine .inr ⟨hen, heos, bs, a, hrest, ha, fun c hc => hall c ?_, fun hdone => ?_⟩
            · exact List.mem_cons_of_mem _ hc
            · cases hms hdone

/-- The loop reads messages with data, and reaches the end of the stream at the message without
data. -/
lemma fillLoop (fuel : ℕ) (port : XfInputPort) (filled remaining n : U32) (out : List XfMessage)
    {port' : XfInputPort} {filled' remaining' n' : U32} {out' : List XfMessage}
    (h : XaTrackPort { port with filled := filled, remaining := remaining })
    (hdone : port.done = false) (hq : port.queue ≠ [])
    (hres : xfInputPortFillLoop mem fuel port filled remaining n out =
      some (port', filled', remaining', n', out')) :
    XaTrackPort { port' with filled := filled', remaining := remaining' } ∧
      port.stage ≤ port'.stage ∧ port'.created = port.created ∧
      (port.stage ≠ 0 → port'.queue.getLast? = port.queue.getLast?) := by
  induction fuel generalizing port filled remaining n out with
  | zero => cases hres
  | succ fuel ih =>
    obtain ⟨m, queue, hqm⟩ := List.exists_cons_of_ne_nil hq
    have hcursor : remaining = 0#32 ↔ m.length = 0#32 := h.cursor m queue hqm
    rw [xfInputPortFillLoop] at hres
    by_cases hslt : (0#32).slt n = true
    swap
    · rw [if_neg hslt] at hres
      simp only [Option.some.injEq, Prod.mk.injEq] at hres
      obtain ⟨rfl, rfl, rfl, -, -⟩ := hres
      exact ⟨h, le_rfl, rfl, fun _ => rfl⟩
    have hn : n ≠ 0#32 := by
      rintro rfl
      simp at hslt
    rw [if_pos hslt] at hres
    simp only at hres
    by_cases hk : (if n < remaining then n else remaining) = 0#32
    · -- the message without data
      rw [if_pos hk] at hres
      have hr0 : remaining = 0#32 := by
        by_cases hlt : n < remaining
        · rw [if_pos hlt] at hk
          exact absurd hk hn
        · rwa [if_neg hlt] at hk
      simp only [Option.some.injEq, Prod.mk.injEq] at hres
      obtain ⟨rfl, rfl, rfl, -, -⟩ := hres
      have hm := hcursor.mp hr0
      rcases h.ended with ⟨-, -, hall⟩ | ⟨hen, heos, ms, m', hqe, hm', hall, -⟩
      · exact absurd hm (hall m (by rw [hqm]; exact List.mem_cons_self))
      · have hqe : port.queue = ms ++ [m'] := hqe
        have heos : port.eos = !port.done := heos
        have hms : ms = [] := by
          cases ms with
          | nil => rfl
          | cons a as =>
            obtain ⟨rfl, -⟩ : m = a ∧ queue = as ++ [m'] := by simpa [hqm] using hqe
            exact absurd hm (hall m List.mem_cons_self)
        refine ⟨⟨h.fresh, h.buffer, h.cursor, .inr ⟨hen, ?_, ms, m', hqe, hm', hall, fun _ => hms⟩⟩,
          ?_, rfl, fun _ => rfl⟩
        · simp [XfInputPort.toggleDone, heos, hdone]
        · simp [XfInputPort.stage, XfInputPort.toggleDone, heos, hdone]
    · rw [if_neg hk] at hres
      have hr0 : remaining ≠ 0#32 := by
        rintro rfl
        simp at hk
      generalize (if n < remaining then n else remaining) = k at hk hres
      by_cases hrest : remaining - k = 0#32
      · -- a message is used up
        rw [if_pos hrest] at hres
        generalize hport : ({ port with
          buffer := port.buffer.map fun buf =>
            writeBytes buf filled.toNat (readBytes mem port.access k.toNat)
          access := port.access + k } : XfInputPort) = port₁ at hres
        have hcopy : XaTrackPort { port₁ with filled := filled, remaining := remaining } := by
          subst hport
          exact ⟨h.fresh, fun hc => by simpa using h.buffer hc, h.cursor, h.ended⟩
        have hsame : port₁.stage = port.stage ∧ port₁.created = port.created ∧
            port₁.done = port.done ∧ port₁.queue = port.queue := by
          subst hport
          exact ⟨rfl, rfl, rfl, rfl⟩
        obtain ⟨hstage₁, hcreated₁, hdone₁, hqueue₁⟩ := hsame
        cases hcomplete : xfInputPortComplete port₁ with
        | none => simp [hcomplete] at hres
        | some r =>
          obtain ⟨queue', -, hq', hmore, hstage, hcreated, hdone', hlast, hok⟩ :=
            hcopy.complete hr0 hcomplete
          obtain ⟨port₂, m₂, more⟩ := r
          rw [hcomplete] at hres
          cases more with
          | true =>
            have hne : queue' ≠ [] := hmore.mp rfl
            obtain ⟨hport', hle, hcre, hlast'⟩ := ih port₂ (filled + k) port₂.remaining (n - k) _
              (hok _ _ fun _ => rfl) (by rw [hdone', hdone₁, hdone]) (by rw [hq']; exact hne) hres
            rw [hstage, hstage₁] at hle hlast'
            rw [hcreated, hcreated₁] at hcre
            refine ⟨hport', hle, hcre, fun hne0 => (hlast' hne0).trans ?_⟩
            rw [hq', hlast (by rwa [hstage₁]), hqueue₁]
          | false =>
            have hnil : queue' = [] := by
              by_contra hne
              cases hmore.mpr hne
            simp only [Option.some.injEq, Prod.mk.injEq] at hres
            obtain ⟨rfl, rfl, rfl, -, -⟩ := hres
            refine ⟨hok _ _ fun hne => absurd hnil hne, by rw [hstage, hstage₁],
              hcreated.trans hcreated₁, fun hne0 => ?_⟩
            rw [hq', hlast (by rwa [hstage₁]), hqueue₁]
      · -- the buffer is full
        rw [if_neg hrest] at hres
        refine ih { port with
          buffer := port.buffer.map fun buf =>
            writeBytes buf filled.toNat (readBytes mem port.access k.toNat)
          access := port.access + k } _ _ _ _ ⟨h.fresh, fun hc => ?_, fun a as has => ?_, h.ended⟩
          hdone hq hres
        · simpa using h.buffer hc
        · obtain ⟨rfl, -⟩ : m = a ∧ queue = as := by simpa [hqm] using has
          simp only [hrest, false_iff]
          exact fun hm => hr0 (hcursor.mpr hm)

/-- A port in which the end of the stream has not been reached is filled. -/
lemma fill (h : XaTrackPort port) (hdone : port.done = false)
    {r : XfInputPort × List XfMessage × Bool} (hres : xfInputPortFill mem port = some r) :
    XaTrackPort r.1 ∧ port.stage ≤ r.1.stage ∧ r.1.created = port.created ∧
      (port.stage ≠ 0 → r.1.queue.getLast? = port.queue.getLast?) := by
  rcases xfInputPortFill_cases
    hres with ⟨-, rfl⟩ | ⟨hq, port', filled, remaining, n, out, hloop, rfl⟩
  · exact ⟨h, le_rfl, rfl, fun _ => rfl⟩
  · exact h.fillLoop _ _ _ _ _ _ hdone hq hloop

end XaTrackPort

/-- The loop uses up all messages when they are short of the buffer. -/
lemma xfInputPortFillLoop_short (fuel : ℕ) (port : XfInputPort) (filled remaining n : U32)
    (out : List XfMessage) {port' : XfInputPort} {filled' remaining' n' : U32}
    {out' : List XfMessage} (hrem : remaining ≠ 0#32) (hdata : ∀ m ∈ port.queue, m.length ≠ 0#32)
    (hshort : remaining.toNat + (port.queue.tail.map fun m => m.length.toNat).sum < n.toNat)
    (hres : xfInputPortFillLoop mem fuel port filled remaining n out =
      some (port', filled', remaining', n', out')) : n' ≠ 0#32 := by
  induction fuel generalizing port filled remaining n out with
  | zero => cases hres
  | succ fuel ih =>
    have hne : n ≠ 0#32 := by
      rintro rfl
      simp at hshort
    rw [xfInputPortFillLoop] at hres
    by_cases hslt : (0#32).slt n = true
    swap
    · rw [if_neg hslt] at hres
      simp only [Option.some.injEq, Prod.mk.injEq] at hres
      obtain ⟨-, -, -, rfl, -⟩ := hres
      exact hne
    have hk : (if n < remaining then n else remaining) = remaining := by
      rw [if_neg]
      rw [BitVec.lt_def]
      omega
    have hsub : (n - remaining).toNat = n.toNat - remaining.toNat :=
      BitVec.toNat_sub_of_le (by rw [BitVec.le_def]; omega)
    rw [if_pos hslt] at hres
    simp only [hk, hrem, if_false, BitVec.sub_self, if_true] at hres
    cases hq : port.queue with
    | nil => simp [xfInputPortComplete, hq] at hres
    | cons m queue =>
      rw [hq, List.tail_cons] at hshort
      cases queue with
      | nil =>
        simp only [xfInputPortComplete, hq, Option.some.injEq, Prod.mk.injEq] at hres
        obtain ⟨-, -, -, rfl, -⟩ := hres
        intro h0
        have := congrArg BitVec.toNat h0
        simp [hsub] at this hshort
        omega
      | cons m' queue =>
        simp only [xfInputPortComplete, hq] at hres
        simp only [List.map_cons, List.sum_cons] at hshort
        refine ih _ _ _ _ _ ?_ (fun a ha => ?_) ?_ hres
        · exact hdata m' (by simp [hq])
        · exact hdata a (by rw [hq]; exact List.mem_cons_of_mem _ ha)
        · simp only [List.tail_cons, hsub]
          omega

/-- A port that is short is not prefilled. -/
lemma XaTrackPort.fill_short (h : XaTrackPort port) (hshort : port.short)
    {r : XfInputPort × List XfMessage × Bool} (hres : xfInputPortFill mem port = some r) :
    r.2.2 = false := by
  rcases xfInputPortFill_cases
    hres with ⟨-, rfl⟩ | ⟨hq, port', filled, remaining, n, out, hloop, rfl⟩
  · rfl
  · obtain ⟨hdata, hsum⟩ := hshort.resolve_left hq
    have hrem : port.remaining ≠ 0#32 := by
      obtain ⟨m, queue, hqm⟩ := List.exists_cons_of_ne_nil hq
      rw [ne_eq, h.cursor m queue hqm]
      exact hdata m (by simp [hqm])
    exact decide_eq_false (xfInputPortFillLoop_short _ _ _ _ _ _ hrem hdata hsum hloop)

/-! ## The flags and the room -/

/-- The port stays created or not, and does not become enabled. -/
structure XaPortFlags (port port' : XfInputPort) : Prop where
  created : port'.created = port.created
  enabled : port'.enabled = true → port.enabled = true

lemma XaPortFlags.trans {port port' port'' : XfInputPort} (h : XaPortFlags port port')
    (h' : XaPortFlags port' port'') : XaPortFlags port port'' :=
  ⟨h'.created.trans h.created, fun hen => h.enabled (h'.enabled hen)⟩

lemma flags_xfInputPortComplete {r : XfInputPort × XfMessage × Bool}
    (h : xfInputPortComplete port = some r) : XaPortFlags port r.1 := by
  rw [xfInputPortComplete_frame h]
  exact ⟨rfl, id⟩

lemma flags_xfInputPortFillLoop {fuel : ℕ} {filled remaining n : U32} {out : List XfMessage}
    {r : XfInputPort × U32 × U32 × U32 × List XfMessage}
    (h : xfInputPortFillLoop mem fuel port filled remaining n out = some r) :
    XaPortFlags port r.1 := by
  induction fuel generalizing port filled remaining n out with
  | zero => cases h
  | succ fuel ih =>
    unfold xfInputPortFillLoop at h
    dsimp only at h
    generalize (if n < remaining then n else remaining) = k at h
    split_ifs at h with hn hk hrest
    · rw [← Option.some.inj h]
      exact ⟨rfl, id⟩
    · split at h
      · cases h
      · next port' m hcomplete =>
        have hflags := flags_xfInputPortComplete hcomplete
        exact XaPortFlags.trans ⟨hflags.created, hflags.enabled⟩ (ih h)
      · next port' m hcomplete =>
        have hflags := flags_xfInputPortComplete hcomplete
        rw [← Option.some.inj h]
        exact ⟨hflags.created, hflags.enabled⟩
    · have hflags := ih h
      exact ⟨hflags.created, hflags.enabled⟩
    · rw [← Option.some.inj h]
      exact ⟨rfl, id⟩

lemma flags_xfInputPortFill {r : XfInputPort × List XfMessage × Bool}
    (h : xfInputPortFill mem port = some r) : XaPortFlags port r.1 := by
  rcases xfInputPortFill_cases h with ⟨-, rfl⟩ | ⟨-, port', filled, remaining, n, out, hloop, rfl⟩
  · exact ⟨rfl, id⟩
  · exact ⟨(flags_xfInputPortFillLoop hloop).created, (flags_xfInputPortFillLoop hloop).enabled⟩

lemma flags_xfInputPortConsume {r : XfInputPort × List XfMessage}
    (h : xfInputPortConsume port n = some r) : XaPortFlags port r.1 := by
  unfold xfInputPortConsume at h
  cases hbuffer : port.buffer with
  | none =>
    simp only [hbuffer] at h
    split at h
    · split at h
      · cases h
      · next port' m more hcomplete =>
        have hflags := flags_xfInputPortComplete hcomplete
        rw [← Option.some.inj h]
        split
        · exact ⟨hflags.created, hflags.enabled⟩
        · exact ⟨hflags.created, hflags.enabled⟩
    · rw [← Option.some.inj h]
      exact ⟨rfl, id⟩
  | some buf =>
    simp only [hbuffer] at h
    split at h
    · rw [← Option.some.inj h]
      exact ⟨rfl, id⟩
    · rw [← Option.some.inj h]
      exact ⟨rfl, id⟩

lemma flags_xfInputPortPut (port : XfInputPort) (m : XfMessage) :
    XaPortFlags port (xfInputPortPut port m).1 := by
  by_cases hen : port.enabled = true
  · rw [(xfInputPortPut_frame hen m).2]
    exact ⟨rfl, fun _ => hen⟩
  · rw [xfInputPortPut, if_pos (by simpa using hen)]
    exact ⟨rfl, id⟩

/-- A message that is not the first one has been put into an empty port only if that is not enabled.
-/
lemma xfInputPortPut_of_empty (hqueue : port.queue = []) (h : (xfInputPortPut port m).2.2 = false) :
    (xfInputPortPut port m).1 = port := by
  by_cases hen : port.enabled = true
  · simp [(xfInputPortPut_nil hen hqueue m).1] at h
  · rw [xfInputPortPut, if_pos (by simpa using hen)]

/-- The loop of `xf_input_port_fill` fills the room, unless it takes the end of the stream from a
message without data. -/
lemma xfInputPortFillLoop_filled {fuel : ℕ} {filled remaining n : U32} {out : List XfMessage}
    {r : XfInputPort × U32 × U32 × U32 × List XfMessage}
    (h : xfInputPortFillLoop mem fuel port filled remaining n out = some r) :
    r.1.length = port.length ∧
      (r.2.1 + r.2.2.2.1 = filled + n ∨ r.2.2.2.1 = 0#32 ∧ r.1.done = !port.done) := by
  induction fuel generalizing port filled remaining n out with
  | zero => cases h
  | succ fuel ih =>
    unfold xfInputPortFillLoop at h
    dsimp only at h
    generalize (if n < remaining then n else remaining) = k at h
    have hsum (a : U32) (ha : a = filled + k + (n - k)) : a = filled + n := by
      rw [ha, BitVec.add_assoc, BitVec.add_comm k, BitVec.sub_add_cancel]
    split_ifs at h with hn hk hrest
    · rw [← Option.some.inj h]
      exact ⟨rfl, .inr ⟨rfl, rfl⟩⟩
    · split at h
      · cases h
      · next port' m hcomplete =>
        have hlength := congrArg XfInputPort.length (xfInputPortComplete_frame hcomplete)
        have hdone := congrArg XfInputPort.done (xfInputPortComplete_frame hcomplete)
        obtain ⟨hlen, hor⟩ := ih h
        refine ⟨hlen.trans hlength, hor.imp (hsum _) fun hend => ⟨hend.1, ?_⟩⟩
        exact hend.2.trans (congrArg (!·) hdone)
      · next port' m hcomplete =>
        have hlength := congrArg XfInputPort.length (xfInputPortComplete_frame hcomplete)
        rw [← Option.some.inj h]
        exact ⟨hlength, .inl (hsum _ rfl)⟩
    · obtain ⟨hlen, hor⟩ := ih h
      exact ⟨hlen, hor.imp (hsum _) id⟩
    · rw [← Option.some.inj h]
      exact ⟨rfl, .inl rfl⟩

/-- A port that is prefilled is full, or the end of its stream has been taken. -/
lemma xfInputPortFill_full {r : XfInputPort × List XfMessage × Bool}
    (h : xfInputPortFill mem port = some r) (hfull : r.2.2 = true) :
    r.1.filled = r.1.length ∨ r.1.done = !port.done := by
  rcases xfInputPortFill_cases h with ⟨-, rfl⟩ | ⟨-, port', filled, remaining, n, out, hloop, rfl⟩
  · cases hfull
  · obtain ⟨hlen, hor⟩ := xfInputPortFillLoop_filled hloop
    have hn : n = 0#32 := by simpa using hfull
    refine hor.imp (fun hsum => ?_) fun hend => hend.2
    have hsum : filled + n = port.filled + (port.length - port.filled) := hsum
    rw [hn, BitVec.add_zero, BitVec.add_comm port.filled, BitVec.sub_add_cancel] at hsum
    exact hsum.trans hlen.symm

end Hikey
