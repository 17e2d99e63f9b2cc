import Hikey.Codec.Process
import Hikey.Component.Pcm
import Hikey.Io.Cursor

/-!
# The bytes of a PCM stream

The bytes that have been delivered to a PCM codec are those that it has consumed and those that are
pending in its input port.  The plugin is given at most the rest of the current message, and so
consumes no more than that; but it answers with the counts of the last step in which it has
processed samples.
-/

namespace Hikey

open Prog XfInputPort

variable {port port' : XfInputPort} {m : XfMessage} {n : U32}

/-! ## The input port in bypass mode -/

/-- The number of bytes that are pending. -/
def XfInputPort.pending (port : XfInputPort) : ℕ := (port.unread fun _ => 0).length

/-- An input port in bypass mode: only messages without data may lack a buffer, and a message
without data is the last one. -/
structure XaPcmPort (port : XfInputPort) : Prop where
  bypass : port.buffer = none
  created : port.created = true ∨ port.enabled = false ∧ port.queue = []
  idle : port.queue = [] → port.access = 0#32
  cursor : port.CursorOk
  data : ∀ m ∈ port.queue, m.length ≠ 0#32 → m.buffer ≠ 0#32
  ended : (port.eos = false ∧ port.done = false ∧ ∀ m ∈ port.queue, m.length ≠ 0#32) ∨
    (port.enabled = false ∧ port.eos = !port.done ∧ ∃ ms m, port.queue = ms ++ [m] ∧
      m.length = 0#32 ∧ (∀ m ∈ ms, m.length ≠ 0#32) ∧ (port.done = true → ms = []))

lemma pending_of_queue_nil (h : port.queue = []) : port.pending = 0 := by
  simp [pending, unread, h]

lemma XaPcmPort.pending_of_done (h : XaPcmPort port) (hdone : port.done = true) :
    port.pending = 0 ∧ port.remaining = 0#32 := by
  obtain ⟨-, hnot, -⟩ | ⟨-, -, ms, m, hq, hm, -, hms⟩ := h.ended
  · rw [hdone] at hnot
    cases hnot
  · obtain rfl := hms hdone
    obtain ⟨⟨read, hread, -⟩, -⟩ := h.cursor m [] (by rw [hq]; rfl)
    have hzero : port.remaining.toNat = 0 := by
      rw [hm] at hread
      simp only [BitVec.toNat_ofNat] at hread
      omega
    exact ⟨by simp [pending, unread, hq, hzero], BitVec.toNat_inj.mp hzero⟩

/-- An empty port in bypass mode. -/
lemma xaPcmPort_of_queue_nil (hbuf : port.buffer = none)
    (hcreated : port.created = true ∨ port.enabled = false) (hq : port.queue = [])
    (haccess : port.access = 0#32) (heos : port.eos = false) (hdone : port.done = false) :
    XaPcmPort port where
  bypass := hbuf
  created := hcreated.imp_right fun h => ⟨h, hq⟩
  idle := fun _ => haccess
  cursor := by simp [CursorOk, hq]
  data := by simp [hq]
  ended := .inl ⟨heos, hdone, by simp [hq]⟩

lemma XaPcmPort.purge (h : XaPcmPort port) :
    XaPcmPort (xfInputPortPurge port).1 ∧ (xfInputPortPurge port).1.queue = [] := by
  unfold xfInputPortPurge
  cases hcreated : port.created with
  | false =>
    have hq : port.queue = [] := by
      rcases h.created with hc | ⟨-, hq⟩
      · rw [hcreated] at hc
        cases hc
      · exact hq
    exact ⟨h, hq⟩
  | true => exact ⟨xaPcmPort_of_queue_nil h.bypass (.inl rfl) rfl rfl rfl rfl, rfl⟩

/-- A message that is put into the port is pending afterwards. -/
lemma XaPcmPort.put (h : XaPcmPort port) (hen : port.enabled = true)
    (hm : m.length ≠ 0#32 → m.buffer ≠ 0#32) :
    XaPcmPort (xfInputPortPut port m).1 ∧
      (xfInputPortPut port m).1.pending = port.pending + m.length.toNat ∧
      (port.queue ≠ [] → (xfInputPortPut port m).1.remaining = port.remaining) ∧
      (xfInputPortPut port m).1.queue ≠ [] := by
  obtain ⟨port', hput, hq, hcur, hunread, hflags, hframe⟩ :=
    xfInputPortPut_spec (fun _ => 0) hen m
  have hdata : port.eos = false ∧ port.done = false ∧ ∀ m ∈ port.queue, m.length ≠ 0#32 := by
    rcases h.ended with hdata | ⟨hnot, -⟩
    · exact hdata
    · rw [hen] at hnot
      cases hnot
  have hpending : port'.pending = port.pending + m.length.toNat := by
    rw [pending, hunread, List.length_append, XfMessage.payload, length_readBytes]
    rfl
  have hcreated : port'.created = true := by
    rw [hframe]
    rcases h.created with hc | ⟨hnot, -⟩
    · exact hc
    · rw [hen] at hnot
      cases hnot
  have hremaining : port.queue ≠ [] → port'.remaining = port.remaining := by
    intro hne
    have := (xfInputPortPut_cons hen hne m).2.2.2
    rwa [hput] at this
  obtain ⟨heos, hdone, hall⟩ := hdata
  refine ⟨⟨?_, ?_, ?_, ?_, ?_, ?_⟩, ?_⟩
  · rw [hput, hframe]
    exact h.bypass
  · rw [hput]
    exact .inl hcreated
  · rw [hput]
    exact fun hnil => absurd hnil (by simp [hq])
  · rw [hput]
    exact hcur h.cursor
  · rw [hput]
    intro m' hm'
    rcases List.mem_append.mp (hq ▸ hm') with hm' | hm'
    · exact h.data m' hm'
    · obtain rfl := List.mem_singleton.mp hm'
      exact hm
  · exact ended_xfInputPortPut hen heos hdone hall (fun _ => hm) rfl
  · rw [hput]
    exact ⟨hpending, hremaining, by simp [hq]⟩

/-- Bytes of the current message that are consumed are not pending any more. -/
lemma XaPcmPort.consume (h : XaPcmPort port) {ms : List XfMessage} (hq : port.queue ≠ [])
    (hn : n ≠ 0#32) (hle : n.toNat ≤ port.remaining.toNat)
    (hres : xfInputPortConsume port n = some (port', ms)) :
    XaPcmPort port' ∧ port'.pending + n.toNat = port.pending := by
  obtain ⟨m, queue, hq⟩ := List.exists_cons_of_ne_nil hq
  obtain ⟨port₁, ms₁, hres₁, hqueue, hbytes, hcur, hflags, hframe⟩ :=
    xfInputPortConsume_bypass (fun _ => 0) h.bypass h.cursor hq hle
  obtain ⟨rfl, rfl⟩ : port₁ = port' ∧ ms₁ = ms := by simpa using hres₁.symm.trans hres
  have hpos : 0 < n.toNat := Nat.pos_of_ne_zero fun h0 => hn (BitVec.toNat_inj.mp h0)
  have hnot : port.done = false := by
    by_contra hdone
    have := (h.pending_of_done (by simpa using hdone)).2
    rw [this] at hle
    simp only [BitVec.toNat_ofNat] at hle
    omega
  have hlength : m.length ≠ 0#32 := by
    intro h0
    obtain ⟨⟨read, hread, -⟩, -⟩ := h.cursor m queue hq
    rw [h0] at hread
    simp only [BitVec.toNat_ofNat] at hread
    omega
  have hpending : port₁.pending + n.toNat = port.pending := by
    have := congrArg List.length hbytes
    simp only [List.length_append, length_readBytes] at this
    rw [pending, pending]
    omega
  -- only the message that is read is completed
  have htail : port₁.queue = m :: queue ∨
      port₁.queue = queue ∧ (queue = [] → port₁.access = 0#32) := by
    simp only [xfInputPortConsume, h.bypass, xfInputPortComplete, hq] at hres
    split at hres
    · cases queue with
      | nil =>
        simp only [Option.some.injEq, Prod.mk.injEq] at hres
        obtain ⟨rfl, -⟩ := hres
        exact .inr ⟨rfl, fun _ => rfl⟩
      | cons m' queue =>
        simp only [Option.some.injEq, Prod.mk.injEq] at hres
        obtain ⟨rfl, -⟩ := hres
        refine .inr ⟨?_, fun h => by cases h⟩
        split <;> rfl
    · simp only [Option.some.injEq, Prod.mk.injEq] at hres
      obtain ⟨rfl, -⟩ := hres
      exact .inl rfl
  have hsub : ∀ m' ∈ port₁.queue, m' ∈ port.queue := by
    intro m' hm'
    rw [hqueue]
    exact List.mem_append_right _ hm'
  refine ⟨⟨by rw [hframe]; exact h.bypass, ?_, fun hnil => ?_, hcur, fun m' hm' =>
    h.data m' (hsub m' hm'), ?_⟩,
    hpending⟩
  · rcases h.created with hc | ⟨-, hnil⟩
    · exact .inl (by rw [hframe]; exact hc)
    · rw [hq] at hnil
      cases hnil
  · rcases htail with htail | ⟨htail, haccess⟩
    · rw [hnil] at htail
      cases htail
    · exact haccess (htail.symm.trans hnil)
  have henabled : port₁.enabled = port.enabled := by rw [hframe]
  rcases h.ended with ⟨heos, -, hall⟩ | ⟨hen, heos, as, e, hqe, he, hall, -⟩
  · rcases hflags with ⟨heos', hdone'⟩ | ⟨⟨m', queue', hq', hbuf'⟩, -⟩
    · exact .inl ⟨heos'.trans heos, hdone'.trans hnot, fun m' hm' => hall m' (hsub m' hm')⟩
    · have hmem := hsub m' (by simp [hq'])
      exact absurd hbuf' (h.data m' hmem (hall m' hmem))
  · -- the message without data stays behind
    obtain ⟨bs, hbs, hsuffix⟩ : ∃ bs, port₁.queue = bs ++ [e] ∧ ∀ m' ∈ bs, m' ∈ as := by
      cases as with
      | nil =>
        obtain ⟨rfl, -⟩ : m = e ∧ queue = [] := by simpa [hq] using hqe
        exact absurd he hlength
      | cons a as =>
        obtain ⟨rfl, rfl⟩ : m = a ∧ queue = as ++ [e] := by simpa [hq] using hqe
        rcases htail with htail | ⟨htail, -⟩
        · exact ⟨m :: as, by rw [htail]; rfl, fun m' hm' => hm'⟩
        · exact ⟨as, htail, fun m' hm' => List.mem_cons_of_mem _ hm'⟩
    refine .inr ⟨henabled.trans hen, ?_, bs, e, hbs, he, fun m' hm' => hall m' (hsuffix m' hm'),
      fun hdone' => ?_⟩
    · rcases hflags with ⟨heos', hdone'⟩ | ⟨-, heos', hdone'⟩
      · rw [heos', hdone', heos]
      · rw [heos', hdone', heos]
    · rcases hflags with ⟨-, hsame⟩ | ⟨⟨m', queue', hq', hbuf'⟩, -⟩
      · rw [hsame, hnot] at hdone'
        cases hdone'
      · -- the first message has no buffer
        cases bs with
        | nil => rfl
        | cons b bs =>
          obtain ⟨rfl, -⟩ : m' = b ∧ queue' = bs ++ [e] := by simpa [hq'] using hbs
          have hmem := hsub m' (by simp [hq'])
          exact absurd hbuf' (h.data m' hmem (hall m' (hsuffix m' (by simp))))

end Hikey
