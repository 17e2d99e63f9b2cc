import Hikey.Shmem.Basic
import Hikey.Foundation.Run

/-!
# The command and the response ring

The ring macros keep the slot in the low byte of an index and a counter of 16 bits in its upper
half, which is what tells a full ring from an empty one (`xfQueue_counts`).  Every step of the
shared-memory layer is at most one step of one party on each ring (`XfShmemStep.cmd`,
`XfShmemStep.rsp`), so both rings keep the invariant of `RingInv` in every run.
-/

namespace Hikey

namespace Shmem

section Index

/-- The advance keeps the low byte and the upper half of the sum. -/
lemma toNat_and_mask (x : U32) :
    (x &&& (0xFFFF0000#32 ||| xfProxyMessageQueueMask)).toNat =
      x.toNat / 65536 * 65536 + x.toNat % 256 := by
  have hsplit : x &&& (0xFFFF0000#32 ||| xfProxyMessageQueueMask) =
      ((x >>> 16) <<< 16) ||| (x &&& 0xFF#32) := by
    ext i hi
    interval_cases i <;> simp [xfProxyMessageQueueMask]
  have hlow : (x &&& 0xFF#32).toNat = x.toNat % 256 := by
    rw [BitVec.toNat_and, show (0xFF#32).toNat = 2 ^ 8 - 1 from rfl, Nat.and_two_pow_sub_one_eq_mod]
  have hhigh : ((x >>> 16) <<< 16).toNat = (x.toNat / 65536) <<< 16 := by
    have hx := x.isLt
    rw [BitVec.toNat_shiftLeft, BitVec.toNat_ushiftRight, Nat.shiftRight_eq_div_pow,
      Nat.shiftLeft_eq, Nat.mod_eq_of_lt (by omega)]
  rw [hsplit, BitVec.toNat_or, hlow, hhigh, ← Nat.shiftLeft_add_eq_or_of_lt (by omega),
    Nat.shiftLeft_eq]

/-- The index after `k` advances: the slot in the low byte, the counter in the upper half. -/
lemma toNat_xfQueue_nth (k : ℕ) :
    (xfQueue.nth k).toNat = k % 65536 * 65536 + k % 256 := by
  induction k with
  | zero => rfl
  | succ k ih =>
    rw [← RingIndex.advance_nth]
    change ((xfQueue.nth k + 0x10001#32) &&&
      (0xFFFF0000#32 ||| xfProxyMessageQueueMask)).toNat = _
    rw [toNat_and_mask, BitVec.toNat_add, ih, show (0x10001#32).toNat = 65537 from rfl]
    have hslot : k % 256 = k % 65536 % 256 := by omega
    have hnext : (k + 1) % 65536 = (k % 65536 + 1) % 65536 := by omega
    have hnextSlot : (k + 1) % 256 = (k % 65536 + 1) % 256 := by omega
    rw [hslot, hnext, hnextSlot]
    have hlt : k % 65536 < 65536 := Nat.mod_lt _ (by decide)
    generalize k % 65536 = b at hlt
    -- the counter wraps around where it carries out of the upper half
    rcases Nat.lt_or_ge (b + 1) 65536 with hb | hb
    · have hlow : b % 256 < 256 := Nat.mod_lt _ (by decide)
      have hsum : (b * 65536 + b % 256 + 65537) % 2 ^ 32 =
          (b + 1) * 65536 + (b % 256 + 1) := by
        rw [Nat.mod_eq_of_lt (by omega)]
        omega
      rw [hsum, Nat.mod_eq_of_lt hb]
      omega
    · obtain rfl : b = 65535 := by omega
      rfl

lemma xfQueue_nth_eq_iff (x : U32) (k : ℕ) :
    xfQueue.nth k = x ↔ x.toNat = k % 65536 * 65536 + k % 256 := by
  rw [← BitVec.toNat_inj, toNat_xfQueue_nth, eq_comm]

/-- The ring macros count `XF_PROXY_MESSAGE_QUEUE_LENGTH` slots. -/
theorem xfQueue_counts : xfQueue.Counts xfProxyMessageQueueLength.toNat where
  slot_nth := by
    intro k
    change (xfQueue.nth k &&& 0xFF#32).toNat = k % 256
    rw [BitVec.toNat_and, toNat_xfQueue_nth, show (0xFF#32).toNat = 2 ^ 8 - 1 from rfl,
      Nat.and_two_pow_sub_one_eq_mod]
    omega
  isEmpty_nth := by
    intro r w hrw hwr
    have hlen : xfProxyMessageQueueLength.toNat = 256 := rfl
    change (xfQueue.nth r == xfQueue.nth w) = true ↔ w = r
    rw [beq_iff_eq, xfQueue_nth_eq_iff, toNat_xfQueue_nth]
    omega
  isFull_nth := by
    intro r w hrw hwr
    have hlen : xfProxyMessageQueueLength.toNat = 256 := rfl
    change (xfQueue.nth w == xfQueue.nth r + (xfProxyMessageQueueLength <<< 16)) = true ↔ _
    have hadd : (r % 65536 * 65536 + r % 256 + 16777216) % 2 ^ 32 =
        (r + 256) % 65536 * 65536 + r % 256 := by
      rcases Nat.lt_or_ge (r % 65536 + 256) 65536 with hb | hb <;> omega
    rw [beq_iff_eq, xfQueue_nth_eq_iff, BitVec.toNat_add, toNat_xfQueue_nth,
      show (xfProxyMessageQueueLength <<< 16).toNat = 16777216 from rfl, hadd]
    constructor
    · intro h
      have hcounter : (r + 256) % 65536 = w % 65536 := by omega
      omega
    · intro h
      rw [hlen] at h
      rw [h, Nat.add_mod_right]

end Index

/-- What holds of a ring in every state: what has been taken is what was posted first, a command in
the hands of the reader is the next one, no pending item is overwritten, the macros tell an empty
and a full ring, and the reader can take all that is posted. -/
structure XfRingOk (q : RingState U32 XfProxyMessage) : Prop where
  taken_prefix : q.taken <+: q.posted
  access_prefix : ∀ r w a, q.consumer = .access r w a → q.taken ++ [a] <+: q.posted
  pending : ∀ i, q.taken.length ≤ i → ∀ a, q.posted[i]? = some a →
    q.slots (i % xfProxyMessageQueueLength.toNat) = a
  empty_iff : xfQueueEmpty q.read q.write = true ↔ q.posted = q.taken
  full_iff : xfQueueFull q.read q.write = true ↔
    q.posted.length = q.taken.length + xfProxyMessageQueueLength.toNat
  drain : ∃ q', Relation.ReflTransGen (RingConsume xfQueue) q q' ∧ q'.posted = q.posted ∧
    q'.taken = q.posted

lemma XfRingOk.of_inv {q : RingState U32 XfProxyMessage}
    (h : RingInv xfQueue xfProxyMessageQueueLength.toNat q) : XfRingOk q where
  taken_prefix := h.prefix_
  access_prefix := fun _ _ _ hc => h.access_next hc
  pending := h.slots_eq
  empty_iff := h.isEmpty_iff xfQueue_counts
  full_iff := h.isFull_iff xfQueue_counts
  drain := h.drain xfQueue_counts

section Step

variable {start : U32} {s s' : XfShmem}

/-- A step of the layer is at most one step on the command ring. -/
lemma XfShmemStep.cmd (h : XfShmemStep start s s') :
    s'.cmd = s.cmd ∨ RingProduce xfQueue s.cmd s'.cmd ∨ RingConsume xfQueue s.cmd s'.cmd := by
  cases h with
  | hostPost c h => exact .inr (.inl h)
  | inputEnter h => exact .inr (.inr (.enter _ h))
  | inputLeave r w h _ => exact .inr (.inr (.leave _ r w h))
  | inputGet r w m d h hempty _ c hc =>
    subst hc
    exact .inr (.inr (.access _ r w h hempty))
  | inputSubmit r w c m h _ => exact .inr (.inr (.publish _ r w c h))
  | hostTake | outputEnter | outputLeave | outputGet | outputPut | dispatch | complete =>
    exact .inl rfl

/-- A step of the layer is at most one step on the response ring. -/
lemma XfShmemStep.rsp (h : XfShmemStep start s s') :
    s'.rsp = s.rsp ∨ RingProduce xfQueue s.rsp s'.rsp ∨ RingConsume xfQueue s.rsp s'.rsp := by
  cases h with
  | hostTake r h => exact .inr (.inr h)
  | outputEnter h => exact .inr (.inl (.enter _ h))
  | outputLeave r w h _ => exact .inr (.inl (.leave _ r w h))
  | outputGet r w m d h hfull _ c hc => exact .inr (.inl (.access _ r w c h hfull))
  | outputPut r w c m h _ => exact .inr (.inl (.publish _ r w c h))
  | hostPost | inputEnter | inputLeave | inputGet | inputSubmit | dispatch | complete =>
    exact .inl rfl

/-- The invariant of both rings. -/
def XfRings (s : XfShmem) : Prop :=
  RingInv xfQueue xfProxyMessageQueueLength.toNat s.cmd ∧
    RingInv xfQueue xfProxyMessageQueueLength.toNat s.rsp

lemma XfRings.step (h : XfRings s) (hstep : XfShmemStep start s s') : XfRings s' := by
  refine ⟨?_, ?_⟩
  · rcases hstep.cmd with he | hp | hc
    · rw [he]; exact h.1
    · exact h.1.produce xfQueue_counts hp
    · exact h.1.consume xfQueue_counts hc
  · rcases hstep.rsp with he | hp | hc
    · rw [he]; exact h.2
    · exact h.2.produce xfQueue_counts hp
    · exact h.2.consume xfQueue_counts hc

end Step

end Shmem

end Hikey
