import Mathlib.Tactic

/-!
# Rings with one producer and one consumer

A ring is a block of `n` slots with a reading and a writing index.  Each party owns one index and
works on a copy of the other's that may be out of date; it touches a slot first and publishes its
index afterwards.  `RingIndex.Counts` says what an index arithmetic has to provide, `RingInv` is the
invariant of all interleavings, and `RingInv.produce` and `RingInv.consume` prove it for one step of
each party.
-/

namespace Hikey

universe u v

/-- The index arithmetic of a ring: the first index, the advance, the slot of an index, and the
tests for an empty and for a full ring on a reading and a writing index. -/
structure RingIndex (ι : Type u) where
  start : ι
  advance : ι → ι
  slot : ι → ℕ
  isEmpty : ι → ι → Bool
  isFull : ι → ι → Bool

variable {ι : Type u} {α : Type v}

/-- The index after `k` advances. -/
def RingIndex.nth (R : RingIndex ι) (k : ℕ) : ι := R.advance^[k] R.start

lemma RingIndex.advance_nth (R : RingIndex ι) (k : ℕ) : R.advance (R.nth k) = R.nth (k + 1) :=
  (Function.iterate_succ_apply' _ _ _).symm

/-- The arithmetic counts: as long as the writing index is at most `n` ahead, the indices tell the
distance `0` and the distance `n` from all others. -/
structure RingIndex.Counts (R : RingIndex ι) (n : ℕ) : Prop where
  slot_nth : ∀ k, R.slot (R.nth k) = k % n
  isEmpty_nth : ∀ r w, r ≤ w → w ≤ r + n → (R.isEmpty (R.nth r) (R.nth w) = true ↔ w = r)
  isFull_nth : ∀ r w, r ≤ w → w ≤ r + n → (R.isFull (R.nth r) (R.nth w) = true ↔ w = r + n)

/-- Where a party of the ring is: outside its loop, at the head of the loop with its copies of the
two indices, or between the access to a slot and the publication of its advanced index. -/
inductive RingParty (ι : Type u) (α : Type v)
  | idle
  | loop (read write : ι)
  | access (read write : ι) (item : α)

/-- The state of a ring: the published indices, the slots, the two parties, and as history what has
been posted and what has been taken. -/
structure RingState (ι : Type u) (α : Type v) where
  read : ι
  write : ι
  slots : ℕ → α
  producer : RingParty ι α
  consumer : RingParty ι α
  posted : List α
  taken : List α

/-- One step of the producer. -/
inductive RingProduce (R : RingIndex ι) : RingState ι α → RingState ι α → Prop
  | enter (s : RingState ι α) (h : s.producer = .idle) :
      RingProduce R s { s with producer := .loop s.read s.write }
  | leave (s : RingState ι α) (r w : ι) (h : s.producer = .loop r w) :
      RingProduce R s { s with producer := .idle }
  | access (s : RingState ι α) (r w : ι) (a : α) (h : s.producer = .loop r w)
      (hfull : R.isFull r w = false) :
      RingProduce R s { s with
        slots := Function.update s.slots (R.slot w) a
        producer := .access r (R.advance w) a }
  | publish (s : RingState ι α) (r w : ι) (a : α) (h : s.producer = .access r w a) :
      RingProduce R s { s with
        write := w
        producer := .loop r w
        posted := s.posted ++ [a] }

/-- One step of the consumer. -/
inductive RingConsume (R : RingIndex ι) : RingState ι α → RingState ι α → Prop
  | enter (s : RingState ι α) (h : s.consumer = .idle) :
      RingConsume R s { s with consumer := .loop s.read s.write }
  | leave (s : RingState ι α) (r w : ι) (h : s.consumer = .loop r w) :
      RingConsume R s { s with consumer := .idle }
  | access (s : RingState ι α) (r w : ι) (h : s.consumer = .loop r w)
      (hempty : R.isEmpty r w = false) :
      RingConsume R s { s with consumer := .access (R.advance r) w (s.slots (R.slot r)) }
  | publish (s : RingState ι α) (r w : ι) (a : α) (h : s.consumer = .access r w a) :
      RingConsume R s { s with
        read := r
        consumer := .loop r w
        taken := s.taken ++ [a] }

/-- A step of the producer leaves the consumer alone, and what has been posted stays posted. -/
lemma RingProduce.consumer_eq {R : RingIndex ι} {s s' : RingState ι α} (h : RingProduce R s s') :
    s'.consumer = s.consumer ∧ s'.taken = s.taken ∧ s.posted <+: s'.posted := by
  cases h with
  | publish => exact ⟨rfl, rfl, List.prefix_append _ _⟩
  | enter | leave | access => exact ⟨rfl, rfl, List.prefix_rfl⟩

/-- A step of the consumer leaves the producer alone. -/
lemma RingConsume.producer_eq {R : RingIndex ι} {s s' : RingState ι α} (h : RingConsume R s s') :
    s'.producer = s.producer ∧ s'.posted = s.posted := by
  cases h with
  | enter | leave | access | publish => exact ⟨rfl, rfl⟩

/-- The producer's copies: its own index is exact, and the reading index is one of the past. -/
def RingParty.ProducerOk (R : RingIndex ι) (n posted taken : ℕ) (slots : ℕ → α) :
    RingParty ι α → Prop
  | .idle => True
  | .loop r w => w = R.nth posted ∧ ∃ k, r = R.nth k ∧ k ≤ taken ∧ posted ≤ k + n
  | .access r w a => w = R.nth (posted + 1) ∧ slots (posted % n) = a ∧
      ∃ k, r = R.nth k ∧ k ≤ taken ∧ posted + 1 ≤ k + n

/-- The consumer's copies: its own index is exact, and the writing index is one of the past. -/
def RingParty.ConsumerOk (R : RingIndex ι) (posted : List α) (taken : ℕ) : RingParty ι α → Prop
  | .idle => True
  | .loop r w => r = R.nth taken ∧ ∃ k, w = R.nth k ∧ taken ≤ k ∧ k ≤ posted.length
  | .access r w a => r = R.nth (taken + 1) ∧ posted[taken]? = some a ∧
      ∃ k, w = R.nth k ∧ taken + 1 ≤ k ∧ k ≤ posted.length

/-- The invariant of a ring of `n` slots: the indices count what was posted and taken, what was
taken is what was posted first, at most `n` items are pending, and each of them is in its slot. -/
structure RingInv (R : RingIndex ι) (n : ℕ) (s : RingState ι α) : Prop where
  read_eq : s.read = R.nth s.taken.length
  write_eq : s.write = R.nth s.posted.length
  prefix_ : s.taken <+: s.posted
  room : s.posted.length ≤ s.taken.length + n
  slots_eq : ∀ i, s.taken.length ≤ i → ∀ a, s.posted[i]? = some a → s.slots (i % n) = a
  producer : s.producer.ProducerOk R n s.posted.length s.taken.length s.slots
  consumer : s.consumer.ConsumerOk R s.posted s.taken.length

/-- A ring on which nothing has happened yet. -/
def RingState.init (R : RingIndex ι) (slots : ℕ → α) : RingState ι α where
  read := R.start
  write := R.start
  slots := slots
  producer := .idle
  consumer := .idle
  posted := []
  taken := []

lemma RingInv.init (R : RingIndex ι) (n : ℕ) (slots : ℕ → α) :
    RingInv R n (RingState.init R slots) where
  read_eq := rfl
  write_eq := rfl
  prefix_ := List.prefix_rfl
  room := Nat.zero_le _
  slots_eq := fun i _ a ha => by simp [RingState.init] at ha
  producer := trivial
  consumer := trivial

/-- Two items fewer than `n` apart are in different slots. -/
lemma mod_ne_of_lt {n i j : ℕ} (hij : i < j) (hj : j < i + n) : i % n ≠ j % n := by
  intro h
  have hdvd : n ∣ j - i := (Nat.modEq_iff_dvd' hij.le).1 h
  exact absurd (Nat.le_of_dvd (by omega) hdvd) (by omega)

section Step

variable {R : RingIndex ι} {n : ℕ} {s s' : RingState ι α}

/-- A producer that is not told the ring is full has a free slot. -/
lemma RingInv.write_room (h : RingInv R n s) (hR : R.Counts n) {r w : ι}
    (hp : s.producer = .loop r w) (hfull : R.isFull r w = false) :
    w = R.nth s.posted.length ∧
      ∃ k, r = R.nth k ∧ k ≤ s.taken.length ∧ s.posted.length + 1 ≤ k + n := by
  have hok := h.producer
  rw [hp] at hok
  obtain ⟨rfl, k, rfl, hk, hkn⟩ := hok
  refine ⟨rfl, k, rfl, hk, ?_⟩
  have hle : k ≤ s.posted.length := hk.trans h.prefix_.length_le
  have hne : s.posted.length ≠ k + n := fun he =>
    Bool.false_ne_true (hfull.symm.trans ((hR.isFull_nth k _ hle hkn).2 he))
  omega

/-- A consumer that is not told the ring is empty finds the oldest pending item in its slot. -/
lemma RingInv.read_slot (h : RingInv R n s) (hR : R.Counts n) {r w : ι}
    (hc : s.consumer = .loop r w) (hempty : R.isEmpty r w = false) :
    r = R.nth s.taken.length ∧ s.posted[s.taken.length]? = some (s.slots (R.slot r)) ∧
      ∃ k, w = R.nth k ∧ s.taken.length + 1 ≤ k ∧ k ≤ s.posted.length := by
  have hok := h.consumer
  rw [hc] at hok
  obtain ⟨rfl, k, rfl, hk, hkp⟩ := hok
  have hne : k ≠ s.taken.length := fun he =>
    Bool.false_ne_true (hempty.symm.trans
      ((hR.isEmpty_nth _ k hk (hkp.trans h.room)).2 he))
  have hlt : s.taken.length < s.posted.length := by omega
  refine ⟨rfl, ?_, k, rfl, by omega, hkp⟩
  rw [hR.slot_nth, List.getElem?_eq_getElem hlt]
  exact congrArg some (h.slots_eq _ le_rfl _ (List.getElem?_eq_getElem hlt)).symm

/-- Every step of the producer keeps the invariant. -/
theorem RingInv.produce (hR : R.Counts n) (h : RingInv R n s) (hstep : RingProduce R s s') :
    RingInv R n s' := by
  cases hstep with
  | enter hp =>
    exact { h with
      producer := ⟨h.write_eq, s.taken.length, h.read_eq, le_rfl, h.room⟩ }
  | leave r w hp => exact { h with producer := trivial }
  | access r w a hp hfull =>
    obtain ⟨rfl, k, rfl, hk, hkn⟩ := h.write_room hR hp hfull
    refine { h with slots_eq := ?_, producer := ?_ }
    · intro i hi b hb
      have hlt : i < s.posted.length := (List.getElem?_eq_some_iff.1 hb).1
      change Function.update s.slots (R.slot (R.nth s.posted.length)) a (i % n) = b
      rw [hR.slot_nth,
        Function.update_of_ne (mod_ne_of_lt hlt (by change s.taken.length ≤ i at hi; omega))]
      exact h.slots_eq i hi b hb
    · refine ⟨R.advance_nth _, ?_, k, rfl, hk, hkn⟩
      change Function.update s.slots (R.slot (R.nth s.posted.length)) a (s.posted.length % n) = a
      rw [hR.slot_nth, Function.update_self]
  | publish r w a hp =>
    have hok := h.producer
    rw [hp] at hok
    obtain ⟨rfl, hslot, k, rfl, hk, hkn⟩ := hok
    refine ⟨h.read_eq, by simp, h.prefix_.trans (List.prefix_append _ _), ?_, ?_, ?_, ?_⟩
    · simp only [List.length_append, List.length_singleton]
      omega
    · intro i hi b hb
      change (s.posted ++ [a])[i]? = some b at hb
      rcases Nat.lt_or_ge i s.posted.length with hlt | hge
      · rw [List.getElem?_append_left hlt] at hb
        exact h.slots_eq i hi b hb
      · have hlast := (List.getElem?_eq_some_iff.1 hb).1
        rw [List.length_append, List.length_singleton] at hlast
        obtain rfl : i = s.posted.length := by omega
        rw [List.getElem?_concat_length, Option.some.injEq] at hb
        exact hslot.trans hb
    · exact ⟨by simp, k, rfl, hk, by simpa using hkn⟩
    · have hc := h.consumer
      cases hs : s.consumer with
      | idle => trivial
      | loop r' w' =>
        rw [hs] at hc
        obtain ⟨hr, j, hj, hle, hjp⟩ := hc
        exact ⟨hr, j, hj, hle, by simp only [List.length_append]; omega⟩
      | access r' w' b =>
        rw [hs] at hc
        obtain ⟨hr, hb, j, hj, hle, hjp⟩ := hc
        refine ⟨hr, ?_, j, hj, hle, by simp only [List.length_append]; omega⟩
        rw [List.getElem?_append_left (List.getElem?_eq_some_iff.1 hb).1]
        exact hb

/-- Every step of the consumer keeps the invariant. -/
theorem RingInv.consume (hR : R.Counts n) (h : RingInv R n s) (hstep : RingConsume R s s') :
    RingInv R n s' := by
  cases hstep with
  | enter hc =>
    exact { h with
      consumer := ⟨h.read_eq, s.posted.length, h.write_eq, h.prefix_.length_le, le_rfl⟩ }
  | leave r w hc => exact { h with consumer := trivial }
  | access r w hc hempty =>
    obtain ⟨rfl, hitem, k, rfl, hk, hkp⟩ := h.read_slot hR hc hempty
    exact { h with consumer := ⟨R.advance_nth _, hitem, k, rfl, hk, hkp⟩ }
  | publish r w a hc =>
    have hok := h.consumer
    rw [hc] at hok
    obtain ⟨rfl, hitem, k, rfl, hk, hkp⟩ := hok
    obtain ⟨hlt, hget⟩ := List.getElem?_eq_some_iff.1 hitem
    refine ⟨by simp, h.write_eq, ?_, ?_, ?_, ?_, ?_⟩
    · have hpre := List.prefix_iff_eq_take.1 h.prefix_
      rw [List.prefix_iff_eq_take, List.length_append, List.length_singleton,
        List.take_add_one, ← hpre, List.getElem?_eq_getElem hlt, hget]
      rfl
    · have := h.room
      simp only [List.length_append, List.length_singleton]
      omega
    · intro i hi b hb
      simp only [List.length_append, List.length_singleton] at hi
      exact h.slots_eq i (by omega) b hb
    · have hp := h.producer
      cases hs : s.producer with
      | idle => trivial
      | loop r' w' =>
        rw [hs] at hp
        obtain ⟨hw, j, hj, hle, hjn⟩ := hp
        exact ⟨hw, j, hj, by simp only [List.length_append]; omega, hjn⟩
      | access r' w' b =>
        rw [hs] at hp
        obtain ⟨hw, hb, j, hj, hle, hjn⟩ := hp
        exact ⟨hw, hb, j, hj, by simp only [List.length_append]; omega, hjn⟩
    · exact ⟨by simp, k, rfl, by simpa using hk, hkp⟩

end Step

section Read

variable {R : RingIndex ι} {n : ℕ} {s : RingState ι α}

/-- The published indices are equal exactly when all that was posted has been taken. -/
theorem RingInv.isEmpty_iff (hR : R.Counts n) (h : RingInv R n s) :
    R.isEmpty s.read s.write = true ↔ s.posted = s.taken := by
  rw [h.read_eq, h.write_eq, hR.isEmpty_nth _ _ h.prefix_.length_le h.room]
  refine ⟨fun he => (h.prefix_.eq_of_length he.symm).symm, fun he => by rw [he]⟩

/-- The published indices tell a full ring exactly when `n` items are pending. -/
theorem RingInv.isFull_iff (hR : R.Counts n) (h : RingInv R n s) :
    R.isFull s.read s.write = true ↔ s.posted.length = s.taken.length + n := by
  rw [h.read_eq, h.write_eq, hR.isFull_nth _ _ h.prefix_.length_le h.room]

/-- The item that the consumer has read is the next one. -/
theorem RingInv.access_next (h : RingInv R n s) {r w : ι} {a : α}
    (hc : s.consumer = .access r w a) : s.taken ++ [a] <+: s.posted := by
  have hok := h.consumer
  rw [hc] at hok
  obtain ⟨hlt, hget⟩ := List.getElem?_eq_some_iff.1 hok.2.1
  rw [List.prefix_iff_eq_take, List.length_append, List.length_singleton, List.take_add_one,
    ← List.prefix_iff_eq_take.1 h.prefix_, List.getElem?_eq_getElem hlt, hget]
  rfl

end Read

section Drain

variable {R : RingIndex ι} {n : ℕ} {s : RingState ι α}

/-- A consumer with exact copies of the indices takes all that is pending. -/
lemma RingInv.drain_loop (hR : R.Counts n) (h : RingInv R n s) {r w : ι}
    (hc : s.consumer = .loop r w) (hw : w = R.nth s.posted.length) :
    ∃ s', Relation.ReflTransGen (RingConsume R) s s' ∧ s'.posted = s.posted ∧
      s'.taken = s.posted := by
  obtain ⟨k, hk⟩ : ∃ k, s.posted.length - s.taken.length = k := ⟨_, rfl⟩
  induction k generalizing s r with
  | zero =>
    have hlen : s.taken.length = s.posted.length := by
      have := h.prefix_.length_le
      omega
    exact ⟨s, .refl, rfl, h.prefix_.eq_of_length hlen⟩
  | succ k ih =>
    have hok := h.consumer
    rw [hc] at hok
    have hempty : R.isEmpty r w = false := by
      rw [hok.1, hw, Bool.eq_false_iff, ne_eq,
        hR.isEmpty_nth _ _ h.prefix_.length_le h.room]
      omega
    have hread := RingConsume.access s r w hc hempty
    have hpublish := RingConsume.publish (R := R) { s with
      consumer := .access (R.advance r) w (s.slots (R.slot r)) } _ _ _ rfl
    obtain ⟨s', hrun, hposted, htaken⟩ := ih ((h.consume hR hread).consume hR hpublish) rfl hw (by
      simp only [List.length_append, List.length_singleton]
      omega)
    exact ⟨s', .head hread (.head hpublish hrun), hposted, htaken⟩

/-- The consumer alone gets to a state in which it has taken all that is posted now. -/
theorem RingInv.drain (hR : R.Counts n) (h : RingInv R n s) :
    ∃ s', Relation.ReflTransGen (RingConsume R) s s' ∧ s'.posted = s.posted ∧
      s'.taken = s.posted := by
  have enter : ∀ t : RingState ι α, RingInv R n t → t.consumer = .idle →
      ∃ s', Relation.ReflTransGen (RingConsume R) t s' ∧ s'.posted = t.posted ∧
        s'.taken = t.posted := by
    intro t ht hidle
    have henter := RingConsume.enter (R := R) t hidle
    obtain ⟨s', hrun, hposted, htaken⟩ := (ht.consume hR henter).drain_loop hR rfl ht.write_eq
    exact ⟨s', .head henter hrun, hposted, htaken⟩
  have leave : ∀ t : RingState ι α, RingInv R n t → ∀ r w, t.consumer = .loop r w →
      ∃ s', Relation.ReflTransGen (RingConsume R) t s' ∧ s'.posted = t.posted ∧
        s'.taken = t.posted := by
    intro t ht r w hloop
    have hleave := RingConsume.leave (R := R) t r w hloop
    obtain ⟨s', hrun, hposted, htaken⟩ := enter _ (ht.consume hR hleave) rfl
    exact ⟨s', .head hleave hrun, hposted, htaken⟩
  cases hc : s.consumer with
  | idle => exact enter s h hc
  | loop r w => exact leave s h r w hc
  | access r w a =>
    have hpublish := RingConsume.publish (R := R) s r w a hc
    obtain ⟨s', hrun, hposted, htaken⟩ := leave _ (h.consume hR hpublish) _ _ rfl
    exact ⟨s', .head hpublish hrun, hposted, htaken⟩

end Drain

end Hikey
