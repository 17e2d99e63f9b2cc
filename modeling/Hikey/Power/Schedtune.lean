import Hikey.Foundation.Run
import Mathlib.Data.Int.Notation
import Mathlib.Tactic.Common

/-!
# Schedtune boosting (`power/power_hikey.c`)

Interaction hints boost the device; a thread ends the boost when its time is over.  The thread
sleeps on a semaphore, and while a boost lasts it sleeps until the time that it has read under the
lock.  A step is a hint, a critical section of the thread, or one of its moves outside of the lock.

Times are nanoseconds of the monotonic clock.  Every step reads the clock once, at the time `now`.
The time of a hint and the boost time add up to a `long long`; C leaves the overflow undefined.
-/

namespace Hikey

/-- The values written to the boost file: `schedtune_boost_norm` and `schedtune_boost_interactive`.
-/
inductive SchedtuneBoost
  | norm
  | interactive
deriving DecidableEq, Repr

/-- The hints of `power_hint`. -/
inductive PowerHint
  | interaction
  | vsync
  | lowPower
  | other
deriving DecidableEq, Repr

/-- The place of `schedtune_deboost_thread`: at `sem_wait`, before the lock in the inner loop, or in
`nanosleep` there. -/
inductive DeboostPc
  | wait
  | inner
  | sleep
deriving DecidableEq, Repr

/-- A write of a boost value at a time; `ends` says that it ends a boost. -/
structure SchedtuneWrite where
  value : SchedtuneBoost
  time : ℤ
  ends : Bool
deriving DecidableEq, Repr

/-- `struct hikey_power_module` as far as schedtune uses it, the boost file with all values written
to it, the thread, the clock, and the time of the last interaction hint. -/
structure HikeyPower where
  deboostTime : ℤ
  signalLock : ℕ
  writes : List SchedtuneWrite
  pc : DeboostPc
  now : ℤ
  lastHint : Option ℤ
deriving DecidableEq, Repr

/-- `schedtune_sysfs_boost`. -/
def schedtuneSysfsBoost (hikey : HikeyPower) (value : SchedtuneBoost) : HikeyPower :=
  { hikey with
    writes := hikey.writes ++ [⟨value, hikey.now, value = .norm && hikey.deboostTime ≠ 0⟩] }

/-- `schedtune_power_init`; the thread has been started. -/
def schedtunePowerInit (now : ℤ) : HikeyPower where
  deboostTime := 0
  signalLock := 1
  writes := []
  pc := .wait
  now := now
  lastHint := none

/-- `schedtune_boost`. -/
def schedtuneBoost (boostTime : ℤ) (hikey : HikeyPower) : HikeyPower :=
  let boosted :=
    if hikey.deboostTime = 0 then
      let hikey := schedtuneSysfsBoost hikey .interactive
      { hikey with signalLock := hikey.signalLock + 1 }
    else hikey
  { boosted with deboostTime := hikey.now + boostTime, lastHint := some hikey.now }

/-- `power_hint` when the boost pulse of the interactive governor is not available; the other hints
do nothing to schedtune. -/
def powerHint (boostTime : ℤ) (hikey : HikeyPower) : PowerHint → HikeyPower
  | .interaction => schedtuneBoost boostTime hikey
  | .vsync | .lowPower | .other => hikey

/-- The critical section of `schedtune_deboost_thread`. -/
def schedtuneDeboost (hikey : HikeyPower) : HikeyPower :=
  if hikey.now < hikey.deboostTime then { hikey with pc := .sleep }
  else { schedtuneSysfsBoost hikey .norm with deboostTime := 0, pc := .wait }

/-- One step, after the clock has moved on to `now`.  A sleep may end at any time. -/
inductive HikeyPowerStep (boostTime : ℤ) : HikeyPower → HikeyPower → Prop
  | hint (hikey : HikeyPower) (now : ℤ) (hint : PowerHint) (hnow : hikey.now ≤ now) :
    HikeyPowerStep boostTime hikey (powerHint boostTime { hikey with now := now } hint)
  | semWait (hikey : HikeyPower) (hpc : hikey.pc = .wait) (hsem : 0 < hikey.signalLock) :
    HikeyPowerStep boostTime hikey { hikey with signalLock := hikey.signalLock - 1, pc := .inner }
  | deboost (hikey : HikeyPower) (now : ℤ) (hpc : hikey.pc = .inner) (hnow : hikey.now ≤ now) :
    HikeyPowerStep boostTime hikey (schedtuneDeboost { hikey with now := now })
  | wake (hikey : HikeyPower) (hpc : hikey.pc = .sleep) :
    HikeyPowerStep boostTime hikey { hikey with pc := .inner }

/-- What is promised of the hand-over between the hints and the thread: a boost that lasts has a
pending post or the thread in its inner loop, the last value written tells whether a boost lasts,
and a write that ends a boost comes no earlier than the boost time after the last hint. -/
structure SchedtuneSafe (boostTime : ℤ) (hikey : HikeyPower) : Prop where
  wakeup : hikey.deboostTime ≠ 0 → 0 < hikey.signalLock ∨ hikey.pc ≠ .wait
  value : ∀ w ∈ hikey.writes.getLast?, w.value = .interactive ↔ hikey.deboostTime ≠ 0

/-- A step writes the normal value to end a boost only when the boost time has passed since the last
hint. -/
def SchedtuneOnTime (boostTime : ℤ) (hikey hikey' : HikeyPower) : Prop :=
  ∀ w ∈ hikey'.writes.drop hikey.writes.length, w.ends = true →
    ∃ t ∈ hikey.lastHint, t + boostTime ≤ w.time

/-- The invariant: between hints the time of the boost is that of the last hint, and before the
first write no boost lasts. -/
structure SchedtuneInv (boostTime : ℤ) (hikey : HikeyPower) : Prop
    extends SchedtuneSafe boostTime hikey where
  clock : 0 ≤ hikey.now
  deadline : hikey.deboostTime ≠ 0 → ∃ t ∈ hikey.lastHint, hikey.deboostTime = t + boostTime
  initial : hikey.writes = [] → hikey.deboostTime = 0

variable {boostTime : ℤ} {hikey hikey' : HikeyPower}

lemma schedtuneInv_init {now : ℤ} (hnow : 0 ≤ now) :
    SchedtuneInv boostTime (schedtunePowerInit now) := by
  refine ⟨⟨?_, ?_⟩, hnow, ?_, fun _ => rfl⟩
  · intro h
    exact absurd rfl h
  · intro w hw
    simp [schedtunePowerInit] at hw
  · intro h
    exact absurd rfl h

/-- The clock moves on. -/
lemma SchedtuneInv.withNow (h : SchedtuneInv boostTime hikey) {now : ℤ} (hnow : hikey.now ≤ now) :
    SchedtuneInv boostTime { hikey with now := now } :=
  ⟨⟨h.wakeup, h.value⟩, Int.le_trans h.clock hnow, h.deadline, h.initial⟩

/-- A hint starts a boost, with a post, or prolongs it. -/
lemma SchedtuneInv.boost (h : SchedtuneInv boostTime hikey) (htime : 0 < boostTime) :
    SchedtuneInv boostTime (schedtuneBoost boostTime hikey) := by
  have hclock := h.clock
  have hne : hikey.now + boostTime ≠ 0 := by omega
  unfold schedtuneBoost schedtuneSysfsBoost
  by_cases hzero : hikey.deboostTime = 0
  · simp only [if_pos hzero]
    refine ⟨⟨fun _ => .inl (Nat.succ_pos _), fun w hw => ?_⟩, hclock, fun _ => ⟨_, rfl, rfl⟩, ?_⟩
    · simp only [List.getLast?_concat, Option.mem_def, Option.some.injEq] at hw
      subst hw
      exact ⟨fun _ => hne, fun _ => rfl⟩
    · intro hnil
      simp at hnil
  · simp only [if_neg hzero]
    refine ⟨⟨fun _ => h.wakeup hzero, fun w hw => ?_⟩, hclock, fun _ => ⟨_, rfl, rfl⟩, ?_⟩
    · exact ⟨fun _ => hne, fun _ => (h.value w hw).2 hzero⟩
    · intro hnil
      exact absurd (h.initial hnil) hzero

/-- The thread ends a boost, or sleeps in its inner loop. -/
lemma SchedtuneInv.deboost (h : SchedtuneInv boostTime hikey) :
    SchedtuneInv boostTime (schedtuneDeboost hikey) := by
  unfold schedtuneDeboost
  by_cases hlt : hikey.now < hikey.deboostTime
  · rw [if_pos hlt]
    refine ⟨⟨fun _ => .inr ?_, h.value⟩, h.clock, h.deadline, h.initial⟩
    simp
  · rw [if_neg hlt]
    refine ⟨⟨fun hne => absurd rfl hne, fun w hw => ?_⟩, h.clock, fun hne => absurd rfl hne,
      fun _ => rfl⟩
    simp only [schedtuneSysfsBoost, List.getLast?_concat, Option.mem_def, Option.some.injEq] at hw
    subst hw
    simp

lemma SchedtuneInv.step (htime : 0 < boostTime) (hikey hikey' : HikeyPower)
    (h : SchedtuneInv boostTime hikey) (hstep : HikeyPowerStep boostTime hikey hikey') :
    SchedtuneInv boostTime hikey' := by
  cases hstep with
  | hint now hint hnow =>
    cases hint with
    | interaction => exact (h.withNow hnow).boost htime
    | vsync | lowPower | other => exact h.withNow hnow
  | semWait hpc hsem =>
    refine ⟨⟨fun _ => .inr ?_, h.value⟩, h.clock, h.deadline, h.initial⟩
    simp
  | deboost now hpc hnow => exact (h.withNow hnow).deboost
  | wake hpc =>
    refine ⟨⟨fun _ => .inr ?_, h.value⟩, h.clock, h.deadline, h.initial⟩
    simp

/-- Only the critical section of the thread ends a boost. -/
lemma SchedtuneInv.onTime (h : SchedtuneInv boostTime hikey)
    (hstep : HikeyPowerStep boostTime hikey hikey') : SchedtuneOnTime boostTime hikey hikey' := by
  intro w hw hends
  cases hstep with
  | hint now hint hnow =>
    cases hint with
    | interaction =>
      simp only [powerHint, schedtuneBoost, schedtuneSysfsBoost] at hw
      split at hw
      · simp only [List.drop_left, List.mem_singleton] at hw
        subst hw
        simp at hends
      · simp at hw
    | vsync | lowPower | other => simp [powerHint] at hw
  | semWait hpc hsem => simp at hw
  | deboost now hpc hnow =>
    unfold schedtuneDeboost at hw
    split at hw
    · simp at hw
    · next hlt =>
      simp only [schedtuneSysfsBoost, List.drop_left, List.mem_singleton] at hw
      subst hw
      -- the time of the boost has been read under the lock
      obtain ⟨t, ht, hdeadline⟩ := h.deadline (by simpa using hends)
      refine ⟨t, ht, ?_⟩
      simp only at hlt ⊢
      omega
  | wake hpc => simp at hw

/-- Every interleaving of hints with the thread keeps the promises of the hand-over, and the normal
value never ends a boost too early. -/
theorem schedtune_run (htime : 0 < boostTime) {now : ℤ} (hnow : 0 ≤ now)
    (hrun : Relation.ReflTransGen (HikeyPowerStep boostTime) (schedtunePowerInit now) hikey) :
    SchedtuneSafe boostTime hikey ∧
      ∀ hikey', HikeyPowerStep boostTime hikey hikey' → SchedtuneOnTime boostTime hikey hikey' := by
  have hinv := run_invariant _ (SchedtuneInv.step htime) (schedtuneInv_init hnow) hrun
  exact ⟨hinv.toSchedtuneSafe, fun hikey' hstep => hinv.onTime hstep⟩

/-- A hint at the time 5 has started a boost of 10. -/
def hintedPower : HikeyPower := powerHint 10 { schedtunePowerInit 0 with now := 5 } .interaction

/-- The thread has taken a post. -/
def boostedPower : HikeyPower :=
  { hintedPower with signalLock := hintedPower.signalLock - 1, pc := .inner }

/-- The thread ends the boost at the time 15. -/
def deboostedPower : HikeyPower := schedtuneDeboost { boostedPower with now := 15 }

/-- The boost is on time: it lasts until then, and is over afterwards. -/
theorem schedtune_run_boost :
    boostedPower.deboostTime = 15 ∧ deboostedPower.deboostTime = 0 ∧
      SchedtuneOnTime 10 boostedPower deboostedPower ∧ SchedtuneSafe 10 deboostedPower := by
  have hstart : Relation.ReflTransGen (HikeyPowerStep 10) (schedtunePowerInit 0)
      (schedtunePowerInit 0) := .refl
  have hhinted : HikeyPowerStep 10 (schedtunePowerInit 0) hintedPower :=
    .hint (schedtunePowerInit 0) 5 .interaction (by decide)
  have htaken : HikeyPowerStep 10 hintedPower boostedPower :=
    .semWait hintedPower rfl (by decide)
  have hboosted := (hstart.tail hhinted).tail htaken
  have hstep : HikeyPowerStep 10 boostedPower deboostedPower :=
    .deboost boostedPower 15 rfl (by decide)
  exact ⟨by decide, by decide, (schedtune_run (by decide) le_rfl hboosted).2 _ hstep,
    (schedtune_run (by decide) le_rfl (hboosted.tail hstep)).1⟩

end Hikey
