import Hikey.Foundation.Bytes
import Hikey.Foundation.Run

/-!
# The mutex of the cores (`mutex.c`)

Szymanski's algorithm with linear waiting.  Every core has one shared variable that it alone writes.
A step of a core reads or writes one of them; the steps of the cores are interleaved in any order.
-/

namespace Hikey

/-! ## The source -/

/-- `__M_A`. -/
def mA : U32 := 1 <<< 0

/-- `__M_W`. -/
def mW : U32 := 1 <<< 1

/-- `__M_S`. -/
def mS : U32 := 1 <<< 2

/-- `M_PASSIVE`. -/
def mPassive : U32 := 0

/-- `M_ENTRY`. -/
def mEntry : U32 := mA

/-- `M_INSIDE`. -/
def mInside : U32 := mW

/-- `M_TRANSIENT`. -/
def mTransient : U32 := mS ||| mW

/-- `M_EXIT`. -/
def mExit : U32 := mS

/-- The place of a core in `mutex_lock`, with the index of the loop it is in. -/
inductive MutexPc
  /-- Not in `mutex_lock`. -/
  | p1
  | p2 (j : ℕ)
  | p4 (j : ℕ)
  | p61 (j : ℕ)
  | p62
  | p64 (j : ℕ)
  | p7 (j : ℕ)
  | p81
  | p9 (j : ℕ)
  /-- Between the return of `mutex_lock` and `mutex_unlock`. -/
  | critical
deriving DecidableEq, Repr

variable {n : ℕ}

/-- The shared variables, and where the cores are. -/
structure MutexState (n : ℕ) where
  shared : Fin n → U32
  pc : Fin n → MutexPc

/-- `MUTEX_SHARED_WRITE`, followed by a jump. -/
def MutexState.write (s : MutexState n) (i : Fin n) (val : U32) (p : MutexPc) : MutexState n :=
  ⟨Function.update s.shared i val, Function.update s.pc i p⟩

/-- A jump. -/
def MutexState.goto (s : MutexState n) (i : Fin n) (p : MutexPc) : MutexState n :=
  { s with pc := Function.update s.pc i p }

/-- One step of core `i` in `mutex_lock`, or `mutex_unlock`. -/
def mutexStep (s : MutexState n) (i : Fin n) : MutexState n :=
  match s.pc i with
  | .p1 => s.write i mEntry (.p2 0)
  | .p2 j =>
    if h : j < n then
      if s.shared ⟨j, h⟩ &&& mS ≠ 0 then s else s.goto i (.p2 (j + 1))
    else s.write i mInside (.p4 0)
  | .p4 j =>
    if h : j < n then
      if s.shared ⟨j, h⟩ &&& mA ≠ 0 then s.goto i (.p7 0) else s.goto i (.p4 (j + 1))
    else s.write i mTransient (.p61 0)
  | .p61 j =>
    if h : j < n then
      if s.shared ⟨j, h⟩ &&& mA ≠ 0 then s.goto i .p62 else s.goto i (.p61 (j + 1))
    else s.write i mExit (.p64 0)
  | .p62 => s.write i mInside (.p7 0)
  | .p64 j =>
    if h : j < n then
      if s.shared ⟨j, h⟩ &&& mW ≠ 0 then s else s.goto i (.p64 (j + 1))
    else s.goto i (.p9 0)
  | .p7 j =>
    if h : j < n then
      if s.shared ⟨j, h⟩ = mExit then s.goto i .p81 else s.goto i (.p7 (j + 1))
    else s.goto i (.p4 0)
  | .p81 => s.write i mExit (.p9 0)
  | .p9 j =>
    if h : j < i then
      if s.shared ⟨j, h.trans i.isLt⟩ &&& (mW ||| mS) ≠ 0 then s else s.goto i (.p9 (j + 1))
    else s.goto i .critical
  | .critical => s.write i mPassive .p1

/-- No core has called `mutex_lock`. -/
def MutexState.start (n : ℕ) : MutexState n := ⟨fun _ => mPassive, fun _ => .p1⟩

/-- A step of one of the cores. -/
def MutexStep (s s' : MutexState n) : Prop := ∃ i, s' = mutexStep s i

/-! ## What a step does -/

/-- The value of the shared variable of a core. -/
def MutexPc.value : MutexPc → U32
  | .p1 => mPassive
  | .p2 _ => mEntry
  | .p4 _ | .p7 _ | .p81 => mInside
  | .p61 _ | .p62 => mTransient
  | .p64 _ | .p9 _ | .critical => mExit

/-- In the waiting room (`w`). -/
def MutexPc.Waits : MutexPc → Prop
  | .p4 _ | .p7 _ | .p81 | .p61 _ | .p62 => True
  | _ => False

/-- On the way out (`s` without `w`). -/
def MutexPc.Exits : MutexPc → Prop
  | .p64 _ | .p9 _ | .critical => True
  | _ => False

/-- The door is closed (`s`). -/
def MutexPc.Shuts : MutexPc → Prop
  | .p61 _ | .p62 | .p64 _ | .p9 _ | .critical => True
  | _ => False

/-- At the door (`a`). -/
def MutexPc.Enters : MutexPc → Prop
  | .p2 _ => True
  | _ => False

/-- At the door, where core `k` was found without `s`. -/
def MutexPc.Passed (k : ℕ) : MutexPc → Prop
  | .p2 j => k < j
  | _ => False

/-- The shared variable of a core is the one of the place where it is. -/
def MutexState.Tracks (s : MutexState n) : Prop := ∀ i, s.shared i = (s.pc i).value

/-- The moves of core `i`, with what it has read of the others. -/
inductive MutexMove (pc : Fin n → MutexPc) (i : Fin n) : MutexPc → Prop
  | entry (hi : pc i = .p1) : MutexMove pc i (.p2 0)
  | door (j : Fin n) (hi : pc i = .p2 j) (hj : ¬(pc j).Shuts) : MutexMove pc i (.p2 (j + 1))
  | inside (j : ℕ) (hi : pc i = .p2 j) (hj : n ≤ j) : MutexMove pc i (.p4 0)
  | look (j : ℕ) (hi : pc i = .p4 j) : MutexMove pc i (.p4 (j + 1))
  | found (j : ℕ) (hi : pc i = .p4 j) : MutexMove pc i (.p7 0)
  | transient (j : ℕ) (hi : pc i = .p4 j) : MutexMove pc i (.p61 0)
  | check (j : Fin n) (hi : pc i = .p61 j) (hj : ¬(pc j).Enters) : MutexMove pc i (.p61 (j + 1))
  | fail (j : ℕ) (hi : pc i = .p61 j) : MutexMove pc i .p62
  | back (hi : pc i = .p62) : MutexMove pc i (.p7 0)
  | lead (j : ℕ) (hi : pc i = .p61 j) (hj : n ≤ j) : MutexMove pc i (.p64 0)
  | settle (j : Fin n) (hi : pc i = .p64 j) (hj : ¬(pc j).Waits) : MutexMove pc i (.p64 (j + 1))
  | settled (j : ℕ) (hi : pc i = .p64 j) (hj : n ≤ j) : MutexMove pc i (.p9 0)
  | search (j : ℕ) (hi : pc i = .p7 j) : MutexMove pc i (.p7 (j + 1))
  | again (j : ℕ) (hi : pc i = .p7 j) : MutexMove pc i (.p4 0)
  | follow (j : Fin n) (hi : pc i = .p7 j) (hj : (pc j).Exits) : MutexMove pc i .p81
  | exit (hi : pc i = .p81) : MutexMove pc i (.p9 0)
  | turn (j : Fin n) (hi : pc i = .p9 j) (hlt : j < i) (hj : ¬(pc j).Waits ∧ ¬(pc j).Shuts) :
      MutexMove pc i (.p9 (j + 1))
  | enter (j : ℕ) (hi : pc i = .p9 j) (hj : i ≤ j) : MutexMove pc i .critical
  | unlock (hi : pc i = .critical) : MutexMove pc i .p1

lemma MutexPc.value_and_mA (p : MutexPc) : p.value &&& mA = 0 ↔ ¬p.Enters := by
  cases p <;> simp only [MutexPc.value, MutexPc.Enters] <;> decide

lemma MutexPc.value_and_mW (p : MutexPc) : p.value &&& mW = 0 ↔ ¬p.Waits := by
  cases p <;> simp only [MutexPc.value, MutexPc.Waits] <;> decide

lemma MutexPc.value_and_mS (p : MutexPc) : p.value &&& mS = 0 ↔ ¬p.Shuts := by
  cases p <;> simp only [MutexPc.value, MutexPc.Shuts] <;> decide

lemma MutexPc.value_and_mW_mS (p : MutexPc) :
    p.value &&& (mW ||| mS) = 0 ↔ ¬p.Waits ∧ ¬p.Shuts := by
  cases p <;> simp only [MutexPc.value, MutexPc.Waits, MutexPc.Shuts] <;> decide

lemma MutexPc.value_eq_mExit (p : MutexPc) : p.value = mExit ↔ p.Exits := by
  cases p <;> simp only [MutexPc.value, MutexPc.Exits] <;> decide

variable {s s' : MutexState n} {i j k : Fin n} {p : MutexPc}

/-- A jump that keeps the value. -/
lemma MutexState.Tracks.goto_eq (htracks : s.Tracks) (hval : p.value = (s.pc i).value) :
    s.goto i p = s.write i p.value p := by
  rw [MutexState.goto, MutexState.write, hval, ← htracks i, Function.update_eq_self]

/-- A step waits, or moves the core. -/
lemma mutexStep_cases (htracks : s.Tracks) (i : Fin n) :
    mutexStep s i = s ∨ ∃ p, MutexMove s.pc i p ∧ mutexStep s i = s.write i p.value p := by
  cases hpc : s.pc i with
  | p1 => exact .inr ⟨_, .entry hpc, by simp only [mutexStep, hpc, MutexPc.value]⟩
  | p2 j =>
    simp only [mutexStep, hpc]
    split
    · rename_i h
      rw [htracks ⟨j, h⟩]
      split
      · exact .inl rfl
      · rename_i hread
        rw [ne_eq, not_not, MutexPc.value_and_mS] at hread
        exact .inr ⟨_, .door ⟨j, h⟩ hpc hread, htracks.goto_eq (by rw [hpc]; rfl)⟩
    · exact .inr ⟨_, .inside j hpc (by omega), rfl⟩
  | p4 j =>
    simp only [mutexStep, hpc]
    split
    · rename_i h
      split
      · exact .inr ⟨_, .found j hpc, htracks.goto_eq (by rw [hpc]; rfl)⟩
      · exact .inr ⟨_, .look j hpc, htracks.goto_eq (by rw [hpc]; rfl)⟩
    · exact .inr ⟨_, .transient j hpc, rfl⟩
  | p61 j =>
    simp only [mutexStep, hpc]
    split
    · rename_i h
      rw [htracks ⟨j, h⟩]
      split
      · exact .inr ⟨_, .fail j hpc, htracks.goto_eq (by rw [hpc]; rfl)⟩
      · rename_i hread
        rw [ne_eq, not_not, MutexPc.value_and_mA] at hread
        exact .inr ⟨_, .check ⟨j, h⟩ hpc hread, htracks.goto_eq (by rw [hpc]; rfl)⟩
    · exact .inr ⟨_, .lead j hpc (by omega), rfl⟩
  | p62 => exact .inr ⟨_, .back hpc, by simp only [mutexStep, hpc, MutexPc.value]⟩
  | p64 j =>
    simp only [mutexStep, hpc]
    split
    · rename_i h
      rw [htracks ⟨j, h⟩]
      split
      · exact .inl rfl
      · rename_i hread
        rw [ne_eq, not_not, MutexPc.value_and_mW] at hread
        exact .inr ⟨_, .settle ⟨j, h⟩ hpc hread, htracks.goto_eq (by rw [hpc]; rfl)⟩
    · exact .inr ⟨_, .settled j hpc (by omega), htracks.goto_eq (by rw [hpc]; rfl)⟩
  | p7 j =>
    simp only [mutexStep, hpc]
    split
    · rename_i h
      split
      · rename_i hread
        rw [htracks ⟨j, h⟩, MutexPc.value_eq_mExit] at hread
        exact .inr ⟨_, .follow ⟨j, h⟩ hpc hread, htracks.goto_eq (by rw [hpc]; rfl)⟩
      · exact .inr ⟨_, .search j hpc, htracks.goto_eq (by rw [hpc]; rfl)⟩
    · exact .inr ⟨_, .again j hpc, htracks.goto_eq (by rw [hpc]; rfl)⟩
  | p81 => exact .inr ⟨_, .exit hpc, by simp only [mutexStep, hpc, MutexPc.value]⟩
  | p9 j =>
    simp only [mutexStep, hpc]
    split
    · rename_i h
      have hjn : j < n := h.trans i.isLt
      rw [htracks ⟨j, hjn⟩]
      split
      · exact .inl rfl
      · rename_i hread
        rw [ne_eq, not_not, MutexPc.value_and_mW_mS] at hread
        exact .inr ⟨_, .turn ⟨j, hjn⟩ hpc h hread, htracks.goto_eq (by rw [hpc]; rfl)⟩
    · exact .inr ⟨_, .enter j hpc (by omega), htracks.goto_eq (by rw [hpc]; rfl)⟩
  | critical => exact .inr ⟨_, .unlock hpc, by simp only [mutexStep, hpc, MutexPc.value]⟩

/-! ## The invariant -/

/-- Core `j` cannot pass the door any more before this core leaves. -/
def MutexPc.Bars (j : ℕ) : MutexPc → Prop
  | .p61 m => j < m
  | .p64 _ => True
  | _ => False

/-- Leading, with the other cores on their way out. -/
def MutexPc.Leads : MutexPc → Prop
  | .p64 _ => True
  | _ => False

/-- Leading, with core `j` not in the waiting room. -/
def MutexPc.Settled (j : ℕ) : MutexPc → Prop
  | .p64 m => j < m
  | _ => False

/-- Behind the leader, with the cores below it to wait for, or inside the critical section. -/
def MutexPc.Leaves : MutexPc → Prop
  | .p9 _ | .critical => True
  | _ => False

/-- Will not leave before core `k` does. -/
def MutexPc.StaysFor (k : ℕ) : MutexPc → Prop
  | .p64 _ => True
  | .p9 m => m ≤ k
  | _ => False

/-- Core `j` was found outside. -/
def MutexPc.Precedes (j : ℕ) : MutexPc → Prop
  | .p9 m => j < m
  | .critical => True
  | _ => False

/-- What holds of the places of the cores in every run. -/
structure MutexInv (pc : Fin n → MutexPc) : Prop where
  bars : ∀ i j : Fin n, (pc i).Bars j → ¬(pc j).Passed i
  settled : ∀ i j : Fin n, (pc i).Settled j → ¬(pc j).Waits
  leader : ∀ i k, (pc i).Leaves → (pc k).Waits → ∃ l, (pc l).Leads
  follows : ∀ k, pc k = .p81 → ∃ l, (pc l).Leads
  stays : ∀ k i, (pc k).Exits → (pc i).Passed k → ∃ l : Fin n, (pc l).StaysFor k ∧ ¬(pc i).Passed l
  order : ∀ k i : Fin n, i < k → (pc k).Precedes i → ¬(pc i).Waits ∧ ¬(pc i).Shuts


variable {pc : Fin n → MutexPc}

lemma MutexPc.Passed.enters {p : MutexPc} {k : ℕ} (h : p.Passed k) : p.Enters := by
  cases p <;> first | exact h.elim | trivial

lemma MutexPc.Bars.shuts {p : MutexPc} {k : ℕ} (h : p.Bars k) : p.Shuts := by
  cases p <;> first | exact h.elim | trivial

lemma MutexPc.StaysFor.shuts {p : MutexPc} {k : ℕ} (h : p.StaysFor k) : p.Shuts := by
  cases p <;> first | exact h.elim | trivial

lemma MutexPc.Exits.shuts {p : MutexPc} (h : p.Exits) : p.Shuts := by
  cases p <;> first | exact h.elim | trivial

/-- Only a core that reads on at the door passes it. -/
lemma MutexMove.passed (hmove : MutexMove pc i p) (hp : p.Passed k) (hold : ¬(pc i).Passed k) :
    ¬(pc k).Shuts := by
  cases hmove with
  | door j hi hj =>
    have hjk : j = k := by
      rw [hi] at hold
      simp only [MutexPc.Passed] at hp hold
      omega
    exact hjk ▸ hj
  | entry hi => exact absurd hp (Nat.not_lt_zero _)
  | _ => exact hp.elim

lemma MutexInv.bars_move (hinv : MutexInv pc) (hmove : MutexMove pc i p) (a b : Fin n)
    (hbars : (Function.update pc i p a).Bars b) : ¬(Function.update pc i p b).Passed a := by
  intro hpassed
  by_cases ha : a = i
  · subst ha
    rw [Function.update_self] at hbars
    by_cases hb : b = a
    · subst hb
      rw [Function.update_self] at hpassed
      cases p <;> first | exact hbars.elim | exact hpassed.elim
    · rw [Function.update_of_ne hb] at hpassed
      cases hmove with
      | check j hi hj =>
        by_cases hbj : b = j
        · exact hj (hbj ▸ hpassed.enters)
        · refine hinv.bars a b ?_ hpassed
          rw [hi]
          simp only [MutexPc.Bars] at hbars ⊢
          omega
      | lead j hi hj =>
        refine hinv.bars a b ?_ hpassed
        rw [hi]
        simp only [MutexPc.Bars]
        omega
      | settle j hi hj => exact hinv.bars a b (by rw [hi]; trivial) hpassed
      | transient => exact absurd hbars (Nat.not_lt_zero _)
      | _ => exact hbars.elim
  · rw [Function.update_of_ne ha] at hbars
    by_cases hb : b = i
    · subst hb
      rw [Function.update_self] at hpassed
      exact hmove.passed hpassed (hinv.bars a b hbars) hbars.shuts
    · rw [Function.update_of_ne hb] at hpassed
      exact hinv.bars a b hbars hpassed

/-- A core comes into the waiting room through the door only, after it has passed that of each core.
-/
lemma MutexMove.waits (hmove : MutexMove pc i p) (hp : p.Waits) (hold : ¬(pc i).Waits) (k : Fin n) :
    (pc i).Passed k := by
  cases hmove with
  | inside j hi hj => exact hi ▸ k.isLt.trans_le hj
  | _ => simp_all [MutexPc.Waits]

lemma MutexPc.Settled.bars {p : MutexPc} {k : ℕ} (h : p.Settled k) (j : ℕ) : p.Bars j := by
  cases p <;> first | exact h.elim | trivial

lemma MutexPc.Leads.bars {p : MutexPc} (h : p.Leads) (j : ℕ) : p.Bars j := by
  cases p <;> first | exact h.elim | trivial

lemma MutexPc.Leads.staysFor {p : MutexPc} (h : p.Leads) (k : ℕ) : p.StaysFor k := by
  cases p <;> first | exact h.elim | trivial

lemma MutexPc.Exits.leads_or_leaves {p : MutexPc} (h : p.Exits) : p.Leads ∨ p.Leaves := by
  cases p <;> first | exact h.elim | exact .inl trivial | exact .inr trivial

lemma MutexPc.Leaves.exits {p : MutexPc} (h : p.Leaves) : p.Exits := by
  cases p <;> first | exact h.elim | trivial

lemma MutexPc.Precedes.exits {p : MutexPc} {k : ℕ} (h : p.Precedes k) : p.Exits := by
  cases p <;> first | exact h.elim | trivial

lemma MutexInv.settled_move (hinv : MutexInv pc) (hmove : MutexMove pc i p) (a b : Fin n)
    (hsettled : (Function.update pc i p a).Settled b) : ¬(Function.update pc i p b).Waits := by
  intro hwaits
  by_cases ha : a = i
  · subst ha
    rw [Function.update_self] at hsettled
    by_cases hb : b = a
    · subst hb
      rw [Function.update_self] at hwaits
      cases p <;> first | exact hsettled.elim | exact hwaits.elim
    · rw [Function.update_of_ne hb] at hwaits
      cases hmove with
      | settle j hi hj =>
        by_cases hbj : b = j
        · exact hj (hbj ▸ hwaits)
        · refine hinv.settled a b ?_ hwaits
          rw [hi]
          simp only [MutexPc.Settled] at hsettled ⊢
          omega
      | lead => exact absurd hsettled (Nat.not_lt_zero _)
      | _ => exact hsettled.elim
  · rw [Function.update_of_ne ha] at hsettled
    by_cases hb : b = i
    · subst hb
      rw [Function.update_self] at hwaits
      exact hinv.bars a b (hsettled.bars b) (hmove.waits hwaits (hinv.settled a b hsettled) a)
    · rw [Function.update_of_ne hb] at hwaits
      exact hinv.settled a b hsettled hwaits

/-- A leader leads until nobody waits. -/
lemma MutexInv.leads_move (hinv : MutexInv pc) (hmove : MutexMove pc i p) {b : Fin n}
    (hwaits : (Function.update pc i p b).Waits) (hleads : ∃ l, (pc l).Leads) :
    ∃ l, (Function.update pc i p l).Leads := by
  obtain ⟨l, hl⟩ := hleads
  refine ⟨l, ?_⟩
  by_cases hli : l = i
  · subst hli
    rw [Function.update_self]
    cases hmove with
    | settle => trivial
    | settled j hi hj =>
      have hb : b ≠ l := by
        rintro rfl
        rw [Function.update_self] at hwaits
        exact hwaits
      rw [Function.update_of_ne hb] at hwaits
      exact absurd hwaits (hinv.settled l b (hi ▸ b.isLt.trans_le hj))
    | _ => simp_all [MutexPc.Leads]
  · rwa [Function.update_of_ne hli]

/-- Where somebody is on the way out and somebody waits, there is a leader. -/
lemma MutexInv.leads (hinv : MutexInv pc) {a b : Fin n} (ha : (pc a).Exits) (hb : (pc b).Waits) :
    ∃ l, (pc l).Leads := by
  rcases ha.leads_or_leaves with ha | ha
  · exact ⟨a, ha⟩
  · exact hinv.leader a b ha hb

/-- Nobody comes in while somebody is on the way out. -/
lemma MutexInv.not_inside (hinv : MutexInv pc) {a : Fin n} (ha : (pc a).Exits)
    (hall : ∀ k : Fin n, (pc i).Passed k) : False := by
  obtain ⟨l, -, hl⟩ := hinv.stays a i ha (hall a)
  exact hl (hall l)

lemma MutexInv.leader_move (hinv : MutexInv pc) (hmove : MutexMove pc i p) (a b : Fin n)
    (hleaves : (Function.update pc i p a).Leaves) (hwaits : (Function.update pc i p b).Waits) :
    ∃ l, (Function.update pc i p l).Leads := by
  refine hinv.leads_move hmove hwaits ?_
  by_cases hb : b = i
  · subst hb
    have ha : a ≠ b := by
      rintro rfl
      rw [Function.update_self] at hleaves hwaits
      cases p <;> first | exact hleaves.elim | exact hwaits.elim
    rw [Function.update_of_ne ha] at hleaves
    rw [Function.update_self] at hwaits
    by_cases hold : (pc b).Waits
    · exact hinv.leader a b hleaves hold
    · exact (hinv.not_inside hleaves.exits (hmove.waits hwaits hold)).elim
  · rw [Function.update_of_ne hb] at hwaits
    by_cases ha : a = i
    · subst ha
      rw [Function.update_self] at hleaves
      cases hmove with
      | settled j hi => exact ⟨a, by rw [hi]; trivial⟩
      | exit hi => exact hinv.follows a hi
      | turn j hi => exact hinv.leader a b (by rw [hi]; trivial) hwaits
      | enter j hi => exact hinv.leader a b (by rw [hi]; trivial) hwaits
      | _ => exact hleaves.elim
    · rw [Function.update_of_ne ha] at hleaves
      exact hinv.leader a b hleaves hwaits

lemma MutexInv.follows_move (hinv : MutexInv pc) (hmove : MutexMove pc i p) (a : Fin n)
    (hfollows : Function.update pc i p a = .p81) : ∃ l, (Function.update pc i p l).Leads := by
  refine hinv.leads_move hmove (b := a) (by rw [hfollows]; trivial) ?_
  by_cases ha : a = i
  · subst ha
    rw [Function.update_self] at hfollows
    cases hmove with
    | follow j hi hj => exact hinv.leads hj (b := a) (by rw [hi]; trivial)
    | _ => cases hfollows
  · rw [Function.update_of_ne ha] at hfollows
    exact hinv.follows a hfollows

/-- A core that stays for another one goes on to stay, as long as that one does. -/
lemma MutexMove.staysFor (hmove : MutexMove pc i p) {k : Fin n} (hk : (pc k).Exits) (hlt : k < i)
    (hstays : (pc i).StaysFor k) : p.StaysFor k := by
  cases hmove with
  | settle => trivial
  | settled => exact Nat.zero_le _
  | turn j hi hji hj =>
    rw [hi] at hstays
    have hne : j ≠ k := by
      rintro rfl
      exact hj.2 hk.shuts
    simp only [MutexPc.StaysFor] at hstays ⊢
    omega
  | enter j hi hj =>
    rw [hi] at hstays
    simp only [MutexPc.StaysFor] at hstays
    omega
  | _ => simp_all [MutexPc.StaysFor]

lemma MutexInv.stays_move (hinv : MutexInv pc) (hmove : MutexMove pc i p) (a b : Fin n)
    (hexits : (Function.update pc i p a).Exits) (hpassed : (Function.update pc i p b).Passed a) :
    ∃ l : Fin n, (Function.update pc i p l).StaysFor a ∧ ¬(Function.update pc i p b).Passed l := by
  by_cases ha : a = i
  · subst ha
    have hb : b ≠ a := by
      rintro rfl
      rw [Function.update_self] at hexits hpassed
      cases p <;> first | exact hexits.elim | exact hpassed.elim
    rw [Function.update_self] at hexits
    rw [Function.update_of_ne hb] at hpassed ⊢
    have hold : (pc a).Exits → ∃ l : Fin n,
        (Function.update pc a p l).StaysFor a ∧ ¬(pc b).Passed l := by
      intro hold
      obtain ⟨l, hl, hbl⟩ := hinv.stays a b hold hpassed
      have hla : l ≠ a := by
        rintro rfl
        exact hbl hpassed
      exact ⟨l, by rwa [Function.update_of_ne hla], hbl⟩
    cases hmove with
    | lead j hi hj =>
      exact absurd hpassed (hinv.bars a b (hi ▸ b.isLt.trans_le hj))
    | exit hi =>
      obtain ⟨l, hl⟩ := hinv.follows a hi
      have hla : l ≠ a := by
        rintro rfl
        rw [hi] at hl
        exact hl
      exact ⟨l, by rw [Function.update_of_ne hla]; exact hl.staysFor a,
        hinv.bars l b (hl.bars b)⟩
    | settle j hi => exact hold (hi ▸ trivial)
    | settled j hi => exact hold (hi ▸ trivial)
    | turn j hi => exact hold (hi ▸ trivial)
    | enter j hi => exact hold (hi ▸ trivial)
    | _ => exact hexits.elim
  · rw [Function.update_of_ne ha] at hexits
    by_cases hb : b = i
    · subst hb
      rw [Function.update_self] at hpassed ⊢
      by_cases hold : (pc b).Passed a
      · obtain ⟨l, hl, hbl⟩ := hinv.stays a b hexits hold
        have hlb : l ≠ b := by
          rintro rfl
          cases hpc : pc l <;> rw [hpc] at hl hold <;> first | exact hl.elim | exact hold.elim
        refine ⟨l, by rwa [Function.update_of_ne hlb], fun hp => ?_⟩
        exact hmove.passed hp hbl hl.shuts
      · exact absurd hexits.shuts (hmove.passed hpassed hold)
    · rw [Function.update_of_ne hb] at hpassed ⊢
      obtain ⟨l, hl, hbl⟩ := hinv.stays a b hexits hpassed
      refine ⟨l, ?_, hbl⟩
      by_cases hli : l = i
      · subst hli
        rw [Function.update_self]
        refine hmove.staysFor hexits ?_ hl
        cases hpc : pc b <;> rw [hpc] at hpassed hbl <;>
          first | exact hpassed.elim | (simp only [MutexPc.Passed] at hpassed hbl; omega)
      · rwa [Function.update_of_ne hli]

lemma MutexInv.order_move (hinv : MutexInv pc) (hmove : MutexMove pc i p) (a b : Fin n)
    (hlt : b < a) (hprecedes : (Function.update pc i p a).Precedes b) :
    ¬(Function.update pc i p b).Waits ∧ ¬(Function.update pc i p b).Shuts := by
  by_cases ha : a = i
  · subst ha
    rw [Function.update_self] at hprecedes
    rw [Function.update_of_ne hlt.ne]
    cases hmove with
    | turn j hi _ hj =>
      by_cases hbj : b = j
      · exact hbj ▸ hj
      · refine hinv.order a b hlt ?_
        rw [hi]
        simp only [MutexPc.Precedes] at hprecedes ⊢
        omega
    | enter j hi hj =>
      have hbj : (b : ℕ) < j := lt_of_lt_of_le hlt hj
      exact hinv.order a b hlt (hi ▸ hbj)
    | settled => exact absurd hprecedes (Nat.not_lt_zero _)
    | exit => exact absurd hprecedes (Nat.not_lt_zero _)
    | _ => exact hprecedes.elim
  · rw [Function.update_of_ne ha] at hprecedes
    obtain ⟨hwaits, hshuts⟩ := hinv.order a b hlt hprecedes
    by_cases hb : b = i
    · subst hb
      rw [Function.update_self]
      have hnew : ¬p.Waits := fun hp => hinv.not_inside hprecedes.exits (hmove.waits hp hwaits)
      refine ⟨hnew, fun hp => ?_⟩
      cases hmove <;> simp_all [MutexPc.Waits, MutexPc.Shuts]
    · rw [Function.update_of_ne hb]
      exact ⟨hwaits, hshuts⟩

/-- A move keeps the invariant. -/
lemma MutexInv.move (hinv : MutexInv pc) (hmove : MutexMove pc i p) :
    MutexInv (Function.update pc i p) where
  bars := hinv.bars_move hmove
  settled := hinv.settled_move hmove
  leader := hinv.leader_move hmove
  follows := hinv.follows_move hmove
  stays := hinv.stays_move hmove
  order := hinv.order_move hmove

lemma MutexState.Tracks.write (htracks : s.Tracks) (i : Fin n) (p : MutexPc) :
    (s.write i p.value p).Tracks := by
  intro j
  by_cases hj : j = i
  · subst hj
    simp only [MutexState.write, Function.update_self]
  · simp only [MutexState.write, Function.update_of_ne hj]
    exact htracks j

/-- Every reachable state has the invariant. -/
lemma MutexInv.of_run (hrun : Relation.ReflTransGen MutexStep (.start n) s) :
    s.Tracks ∧ MutexInv s.pc := by
  refine run_invariant (fun s : MutexState n => s.Tracks ∧ MutexInv s.pc) ?_ ⟨fun _ => rfl, ?_⟩ hrun
  · rintro s s' ⟨htracks, hinv⟩ ⟨i, rfl⟩
    obtain heq | ⟨p, hmove, heq⟩ := mutexStep_cases htracks i
    · rw [heq]
      exact ⟨htracks, hinv⟩
    · rw [heq]
      exact ⟨htracks.write i p, hinv.move hmove⟩
  · constructor <;> simp [MutexState.start, MutexPc.Bars, MutexPc.Settled, MutexPc.Leaves,
      MutexPc.Exits, MutexPc.Precedes]

/-- No two cores are in the critical section at the same time. -/
theorem mutex_exclusion (s : MutexState n) (hrun : Relation.ReflTransGen MutexStep (.start n) s)
    (i j : Fin n) (hi : s.pc i = .critical) (hj : s.pc j = .critical) : i = j := by
  obtain ⟨-, hinv⟩ := MutexInv.of_run hrun
  have hshuts (k : Fin n) (hk : s.pc k = .critical) : (s.pc k).Shuts := hk ▸ trivial
  have hprecedes (k l : Fin n) (hk : s.pc k = .critical) : (s.pc k).Precedes l := hk ▸ trivial
  rcases lt_trichotomy i j with hlt | heq | hlt
  · exact absurd (hshuts i hi) (hinv.order j i hlt (hprecedes j i hj)).2
  · exact heq
  · exact absurd (hshuts j hj) (hinv.order i j hlt (hprecedes i j hi)).2

/-- Steps of the given cores, one after the other. -/
def mutexRun (s : MutexState n) (is : List (Fin n)) : MutexState n := is.foldl mutexStep s

lemma mutexRun_steps (s : MutexState n) (is : List (Fin n)) :
    Relation.ReflTransGen MutexStep s (mutexRun s is) := by
  induction is generalizing s with
  | nil => exact .refl
  | cons i is ih => exact .head ⟨i, rfl⟩ (ih (mutexStep s i))

/-- Core 0 of two cores gets the mutex while core 1 waits at the door. -/
theorem mutex_exclusion_two :
    (mutexRun (.start 2) (List.replicate 14 0 ++ [1, 1])).pc 0 = .critical ∧
      (mutexRun (.start 2) (List.replicate 14 0 ++ [1, 1])).pc 1 ≠ .critical := by
  have hzero : (mutexRun (.start 2) (List.replicate 14 0 ++ [1, 1])).pc 0 = .critical := by decide
  refine ⟨hzero, fun hone => ?_⟩
  have := mutex_exclusion _ (mutexRun_steps (.start 2) _) 0 1 hzero hone
  exact absurd this (by decide)

end Hikey
