import Hikey.Core.Mutex

/-!
# Progress of the cores in `mutex_lock`

Wherever the cores of a run are, those that have called `mutex_lock` can get one of them into the
critical section without any other core: no step of a core that is outside is needed, and none of a
core that is inside the critical section.  The way there clears the room behind the door: a leader
is found first, then the waiting room empties, and the lowest of the cores on their way out goes on.
-/

namespace Hikey

variable {n : ℕ}

/-! ## Steps of the cores in the lock -/

/-- In `mutex_lock`. -/
def MutexPc.Locks : MutexPc → Prop
  | .p1 | .critical => False
  | _ => True

/-- A step of a core that is in `mutex_lock`. -/
def MutexWork (s s' : MutexState n) : Prop := ∃ i, (s.pc i).Locks ∧ s' = mutexStep s i

/-- The state with the cores at the given places. -/
def MutexState.at (pc : Fin n → MutexPc) : MutexState n := ⟨fun i => (pc i).value, pc⟩

lemma MutexState.Tracks.eq_at {s : MutexState n} (htracks : s.Tracks) : s = .at s.pc := by
  obtain ⟨shared, pc⟩ := s
  exact congrArg (MutexState.mk · pc) (funext htracks)

/-- Such a step, on the places of the cores. -/
def MutexWorks (pc pc' : Fin n → MutexPc) : Prop := MutexWork (.at pc) (.at pc')

variable {pc : Fin n → MutexPc} {i k : Fin n} {p q : MutexPc} {j : ℕ}

lemma MutexState.at_update (pc : Fin n → MutexPc) (i : Fin n) (p : MutexPc) :
    (MutexState.at pc).write i p.value p = .at (Function.update pc i p) := by
  refine congrArg (MutexState.mk · (Function.update pc i p)) (funext fun j => ?_)
  by_cases hj : j = i
  · subst hj
    simp only [Function.update_self]
  · simp only [MutexState.at, Function.update_of_ne hj]

/-- A step in the lock that does not wait moves the core. -/
lemma MutexWorks.write (hlocks : (pc i).Locks)
    (hstep : mutexStep (.at pc) i = (MutexState.at pc).write i p.value p) :
    MutexWorks pc (Function.update pc i p) :=
  ⟨i, hlocks, by rw [hstep, MutexState.at_update]⟩

lemma MutexWorks.goto (hlocks : (pc i).Locks) (hval : p.value = (pc i).value)
    (hstep : mutexStep (.at pc) i = (MutexState.at pc).goto i p) :
    MutexWorks pc (Function.update pc i p) := by
  have htracks : (MutexState.at pc).Tracks := fun _ => rfl
  exact .write hlocks (hstep.trans (htracks.goto_eq hval))

/-- A step of a loop at a core that the loop does not look for: its shared variable passes. -/
lemma MutexWorks.next {place : ℕ → MutexPc} (passes : U32 → Prop) {j : Fin n}
    (hlocks : (place j).Locks) (hvalue : (place (j + 1)).value = (place j).value)
    (hstep : ∀ s : MutexState n, s.pc i = place j → passes (s.shared j) →
      mutexStep s i = s.goto i (place (j + 1)))
    (hi : pc i = place j) (hj : passes (pc j).value) :
    MutexWorks pc (Function.update pc i (place (j + 1))) :=
  .goto (by rwa [hi]) (by rwa [hi]) (hstep (.at pc) hi hj)

/-! ## The loops -/

/-- A loop over the cores: the places in it, and what it looks for. -/
structure MutexLoop (n : ℕ) where
  place : ℕ → MutexPc
  finds : MutexPc → Prop
  own : ∀ j, ¬finds (place j)
  next : ∀ (pc : Fin n → MutexPc) (i j : Fin n), pc i = place j → ¬finds (pc j) →
    MutexWorks pc (Function.update pc i (place (j + 1)))

/-- A core in a loop gets to the first core that the loop looks for, or to the end of the loop. -/
lemma MutexLoop.scan (l : MutexLoop n) (hi : pc i = l.place j) :
    (∃ m : Fin n, m ≠ i ∧ l.finds (pc m) ∧
        Relation.ReflTransGen MutexWorks pc (Function.update pc i (l.place m))) ∨
      ((∀ m : Fin n, j ≤ m → ¬l.finds (pc m)) ∧ ∃ m, n ≤ m ∧
        Relation.ReflTransGen MutexWorks pc (Function.update pc i (l.place m))) := by
  induction hd : n - j generalizing pc j with
  | zero =>
    refine .inr ⟨fun m hm => by omega, j, by omega, ?_⟩
    rw [← hi, Function.update_eq_self]
  | succ d ih =>
    have hjn : j < n := by omega
    by_cases hfinds : l.finds (pc ⟨j, hjn⟩)
    · refine .inl ⟨⟨j, hjn⟩, ?_, hfinds, ?_⟩
      · rintro rfl
        exact l.own j (hi ▸ hfinds)
      · rw [← hi, Function.update_eq_self]
    · have hstep := l.next pc i ⟨j, hjn⟩ hi hfinds
      have hi' : Function.update pc i (l.place (j + 1)) i = l.place (j + 1) :=
        Function.update_self ..
      rcases ih hi' (by omega) with ⟨m, hm, hfound, hrun⟩ | ⟨hnone, m, hm, hrun⟩
      · rw [Function.update_of_ne hm] at hfound
        rw [Function.update_idem] at hrun
        exact .inl ⟨m, hm, hfound, .head hstep hrun⟩
      · rw [Function.update_idem] at hrun
        refine .inr ⟨fun m hjm => ?_, m, hm, .head hstep hrun⟩
        by_cases hmi : m = i
        · rw [hmi, hi]
          exact l.own j
        · rcases hjm.eq_or_lt with heq | hlt
          · have hmj : m = ⟨j, hjn⟩ := Fin.ext heq.symm
            rwa [hmj]
          · have := hnone m hlt
            rwa [Function.update_of_ne hmi] at this

/-- The wait for the door to open. -/
def mutexLoopP2 : MutexLoop n where
  place := .p2
  finds := MutexPc.Shuts
  own _ h := h
  next pc i j hi hj := by
    rw [← MutexPc.value_and_mS] at hj
    refine MutexWorks.next (fun x => x &&& mS = 0) trivial rfl (fun s hi hj => ?_) hi hj
    simp only [mutexStep, hi, Fin.is_lt, dif_pos, hj, ne_eq, not_true, if_false]

/-- The search for a core at the door. -/
def mutexLoopP4 : MutexLoop n where
  place := .p4
  finds := MutexPc.Enters
  own _ h := h
  next pc i j hi hj := by
    rw [← MutexPc.value_and_mA] at hj
    refine MutexWorks.next (fun x => x &&& mA = 0) trivial rfl (fun s hi hj => ?_) hi hj
    simp only [mutexStep, hi, Fin.is_lt, dif_pos, hj, ne_eq, not_true, if_false]

/-- The second search for a core at the door. -/
def mutexLoopP61 : MutexLoop n where
  place := .p61
  finds := MutexPc.Enters
  own _ h := h
  next pc i j hi hj := by
    rw [← MutexPc.value_and_mA] at hj
    refine MutexWorks.next (fun x => x &&& mA = 0) trivial rfl (fun s hi hj => ?_) hi hj
    simp only [mutexStep, hi, Fin.is_lt, dif_pos, hj, ne_eq, not_true, if_false]

/-- The wait of a leader for the waiting room to be empty. -/
def mutexLoopP64 : MutexLoop n where
  place := .p64
  finds := MutexPc.Waits
  own _ h := h
  next pc i j hi hj := by
    rw [← MutexPc.value_and_mW] at hj
    refine MutexWorks.next (fun x => x &&& mW = 0) trivial rfl (fun s hi hj => ?_) hi hj
    simp only [mutexStep, hi, Fin.is_lt, dif_pos, hj, ne_eq, not_true, if_false]

/-- The search for a core on its way out. -/
def mutexLoopP7 : MutexLoop n where
  place := .p7
  finds := MutexPc.Exits
  own _ h := h
  next pc i j hi hj := by
    rw [← MutexPc.value_eq_mExit] at hj
    refine MutexWorks.next (fun x => x ≠ mExit) trivial rfl (fun s hi hj => ?_) hi hj
    simp only [mutexStep, hi, Fin.is_lt, dif_pos, if_neg hj]

/-! ## Single steps -/

/-- A run that moves one core, and a step of this core. -/
lemma MutexWorks.after (hrun : Relation.ReflTransGen MutexWorks pc (Function.update pc i p))
    (hstep : ∀ pc' : Fin n → MutexPc, pc' i = p → (∀ m, m ≠ i → pc' m = pc m) →
      MutexWorks pc' (Function.update pc' i q)) :
    Relation.ReflTransGen MutexWorks pc (Function.update pc i q) := by
  have hlast := hstep (Function.update pc i p) (Function.update_self ..)
    fun m hm => Function.update_of_ne hm ..
  rw [Function.update_idem] at hlast
  exact hrun.tail hlast

/-- A core at the open door comes in. -/
lemma reach_p4_of_p2 (hi : pc i = .p2 j) (hopen : ∀ m, ¬(pc m).Shuts) :
    Relation.ReflTransGen MutexWorks pc (Function.update pc i (.p4 0)) := by
  rcases mutexLoopP2.scan hi with ⟨m, -, hm, -⟩ | ⟨-, m, hnm, hrun⟩
  · exact absurd hm (hopen m)
  · refine MutexWorks.after hrun fun pc' hi' _ => .write (by rw [hi']; trivial) ?_
    simp only [mutexLoopP2] at hi'
    simp only [mutexStep, MutexState.at, hi', dif_neg (Nat.not_lt.2 hnm), MutexPc.value]

/-- The search for a core at the door sends a core back, or ends with nobody at the door. -/
lemma reach_of_p4 (hi : pc i = .p4 j) :
    ((∃ m, (pc m).Enters) ∧ Relation.ReflTransGen MutexWorks pc (Function.update pc i (.p7 0))) ∨
      Relation.ReflTransGen MutexWorks pc (Function.update pc i (.p61 0)) := by
  rcases mutexLoopP4.scan hi with ⟨m, hmi, hm, hrun⟩ | ⟨-, m, hnm, hrun⟩
  · refine .inl ⟨⟨m, hm⟩, MutexWorks.after hrun fun pc' hi' hother => ?_⟩
    simp only [mutexLoopP4] at hi' hm
    rw [← hother m hmi, ← not_not (a := (pc' m).Enters), ← MutexPc.value_and_mA] at hm
    refine .goto (by rw [hi']; trivial) (by rw [hi']; rfl) ?_
    simp only [mutexStep, MutexState.at, hi', Fin.is_lt, dif_pos, ne_eq, hm,
      not_false_eq_true, if_true]
  · refine .inr (MutexWorks.after hrun fun pc' hi' _ => .write (by rw [hi']; trivial) ?_)
    simp only [mutexLoopP4] at hi'
    simp only [mutexStep, MutexState.at, hi', dif_neg (Nat.not_lt.2 hnm), MutexPc.value]

/-- The second search sends a core back, or makes it a leader. -/
lemma reach_of_p61 (hi : pc i = .p61 j) :
    ((∃ m, m ≠ i ∧ (pc m).Enters) ∧
        Relation.ReflTransGen MutexWorks pc (Function.update pc i (.p7 0))) ∨
      Relation.ReflTransGen MutexWorks pc (Function.update pc i (.p64 0)) := by
  rcases mutexLoopP61.scan hi with ⟨m, hmi, hm, hrun⟩ | ⟨-, m, hnm, hrun⟩
  · refine .inl ⟨⟨m, hmi, hm⟩, ?_⟩
    refine (MutexWorks.after (p := .p62) (MutexWorks.after hrun fun pc' hi' hother => ?_)
      fun pc' hi' _ => ?_)
    · simp only [mutexLoopP61] at hi' hm
      rw [← hother m hmi, ← not_not (a := (pc' m).Enters), ← MutexPc.value_and_mA] at hm
      refine .goto (by rw [hi']; trivial) (by rw [hi']; rfl) ?_
      simp only [mutexStep, MutexState.at, hi', Fin.is_lt, dif_pos, ne_eq, hm, not_false_eq_true,
        if_true]
    · refine .write (by rw [hi']; trivial) ?_
      simp only [mutexStep, MutexState.at, hi', MutexPc.value]
  · refine .inr (MutexWorks.after hrun fun pc' hi' _ => .write (by rw [hi']; trivial) ?_)
    simp only [mutexLoopP61] at hi'
    simp only [mutexStep, MutexState.at, hi', dif_neg (Nat.not_lt.2 hnm), MutexPc.value]

/-- A leader of an empty waiting room goes on. -/
lemma reach_p9_of_p64 (hi : pc i = .p64 j) (hempty : ∀ m, ¬(pc m).Waits) :
    Relation.ReflTransGen MutexWorks pc (Function.update pc i (.p9 0)) := by
  rcases mutexLoopP64.scan hi with ⟨m, -, hm, -⟩ | ⟨-, m, hnm, hrun⟩
  · exact absurd hm (hempty m)
  · refine MutexWorks.after hrun fun pc' hi' _ => .goto (by rw [hi']; trivial) (by rw [hi']; rfl) ?_
    simp only [mutexLoopP64] at hi'
    simp only [mutexStep, MutexState.at, hi', dif_neg (Nat.not_lt.2 hnm)]

lemma reach_p9_of_p81 (hi : pc i = .p81) :
    Relation.ReflTransGen MutexWorks pc (Function.update pc i (.p9 0)) := by
  refine .single (.write (by rw [hi]; trivial) ?_)
  simp only [mutexStep, MutexState.at, hi, MutexPc.value]

/-- The search for a core on its way out finds one and follows it, or there is none from here on. -/
lemma reach_of_p7 (hi : pc i = .p7 j) :
    Relation.ReflTransGen MutexWorks pc (Function.update pc i (.p9 0)) ∨
      (∀ m : Fin n, j ≤ m → ¬(pc m).Exits) ∧
        Relation.ReflTransGen MutexWorks pc (Function.update pc i (.p4 0)) := by
  rcases mutexLoopP7.scan hi with ⟨m, hmi, hm, hrun⟩ | ⟨hnone, m, hnm, hrun⟩
  · refine .inl (MutexWorks.after (p := .p81) (MutexWorks.after hrun fun pc' hi' hother => ?_)
      fun pc' hi' _ => ?_)
    · simp only [mutexLoopP7] at hi' hm
      rw [← hother m hmi, ← MutexPc.value_eq_mExit] at hm
      refine .goto (by rw [hi']; trivial) (by rw [hi']; rfl) ?_
      simp only [mutexStep, MutexState.at, hi', Fin.is_lt, dif_pos, hm, if_true]
    · refine .write (by rw [hi']; trivial) ?_
      simp only [mutexStep, MutexState.at, hi', MutexPc.value]
  · refine .inr ⟨hnone, MutexWorks.after hrun fun pc' hi' _ =>
      .goto (by rw [hi']; trivial) (by rw [hi']; rfl) ?_⟩
    simp only [mutexLoopP7] at hi'
    simp only [mutexStep, MutexState.at, hi', dif_neg (Nat.not_lt.2 hnm)]

/-! ## Out of the waiting room -/

variable {l : Fin n}

/-- Core `k` alone gets on its way out. -/
def MutexLeaves (pc : Fin n → MutexPc) (k : Fin n) : Prop :=
  ∃ q : MutexPc, Relation.ReflTransGen MutexWorks pc (Function.update pc k q) ∧ q.Exits

lemma MutexLeaves.of_reach (hrun : Relation.ReflTransGen MutexWorks pc (Function.update pc k p))
    (hleaves : MutexLeaves (Function.update pc k p) k) : MutexLeaves pc k := by
  obtain ⟨q, hrun', hq⟩ := hleaves
  rw [Function.update_idem] at hrun'
  exact ⟨q, hrun.trans hrun', hq⟩

lemma leaves_of_p7_zero (hk : pc k = .p7 0) (hl : (pc l).Exits) : MutexLeaves pc k := by
  rcases reach_of_p7 hk with hrun | ⟨hnone, -⟩
  · exact ⟨_, hrun, trivial⟩
  · exact absurd hl (hnone l (Nat.zero_le _))

lemma leaves_of_p61 (hk : pc k = .p61 j) (hl : (pc l).Exits) : MutexLeaves pc k := by
  have hlk : l ≠ k := by
    rintro rfl
    rw [hk] at hl
    exact hl
  rcases reach_of_p61 hk with ⟨-, hrun⟩ | hrun
  · refine .of_reach hrun (leaves_of_p7_zero (Function.update_self ..) (l := l) ?_)
    rwa [Function.update_of_ne hlk]
  · exact ⟨_, hrun, trivial⟩

lemma leaves_of_p4 (hk : pc k = .p4 j) (hl : (pc l).Exits) : MutexLeaves pc k := by
  have hlk : l ≠ k := by
    rintro rfl
    rw [hk] at hl
    exact hl
  rcases reach_of_p4 hk with ⟨-, hrun⟩ | hrun
  · refine .of_reach hrun (leaves_of_p7_zero (Function.update_self ..) (l := l) ?_)
    rwa [Function.update_of_ne hlk]
  · refine .of_reach hrun (leaves_of_p61 (Function.update_self ..) (l := l) ?_)
    rwa [Function.update_of_ne hlk]

/-- While somebody is on the way out, a core of the waiting room gets there by its own steps. -/
lemma leaves_of_waits (hk : (pc k).Waits) (hl : (pc l).Exits) : MutexLeaves pc k := by
  have hlk : l ≠ k := by
    rintro rfl
    cases hpc : pc l <;> rw [hpc] at hk hl <;> first | exact hk.elim | exact hl.elim
  cases hpc : pc k with
  | p4 j => exact leaves_of_p4 hpc hl
  | p61 j => exact leaves_of_p61 hpc hl
  | p62 =>
    have hstep : MutexWorks pc (Function.update pc k (.p7 0)) := by
      refine .write (by rw [hpc]; trivial) ?_
      simp only [mutexStep, MutexState.at, hpc, MutexPc.value]
    refine .of_reach (.single hstep) (leaves_of_p7_zero (Function.update_self ..) (l := l) ?_)
    rwa [Function.update_of_ne hlk]
  | p7 j =>
    rcases reach_of_p7 hpc with hrun | ⟨-, hrun⟩
    · exact ⟨_, hrun, trivial⟩
    · refine .of_reach hrun (leaves_of_p4 (Function.update_self ..) (l := l) ?_)
      rwa [Function.update_of_ne hlk]
  | p81 => exact ⟨_, reach_p9_of_p81 hpc, trivial⟩
  | p1 | p2 j | p64 j | p9 j | critical =>
    rw [hpc] at hk
    exact hk.elim

/-- The waiting room empties while somebody is on the way out, and the leaders go on. -/
lemma reach_settled (hl : (pc l).Exits) :
    ∃ pc' : Fin n → MutexPc, Relation.ReflTransGen MutexWorks pc pc' ∧ (∃ l, (pc' l).Leaves) ∧
      ∀ k, ¬(pc' k).Waits ∧ ¬(pc' k).Leads := by
  obtain ⟨pc₁, hrun₁, ⟨l₁, hl₁⟩, hwaits⟩ := exists_forall_of_update (R := MutexWorks)
    (fun pc : Fin n → MutexPc => ∃ l, (pc l).Exits) (fun p => ¬p.Waits) (by
      intro pc k hexits hk
      obtain ⟨l, hl⟩ := hexits
      obtain ⟨q, hrun, hq⟩ := leaves_of_waits (not_not.1 hk) hl
      refine ⟨q, hrun, fun hw => ?_, k, by rwa [Function.update_self]⟩
      cases q <;> first | exact hw.elim | exact hq.elim) ⟨l, hl⟩
  obtain ⟨pc₂, hrun₂, ⟨⟨l₂, hl₂⟩, hwaits₂⟩, hleads⟩ := exists_forall_of_update (R := MutexWorks)
    (fun pc : Fin n → MutexPc => (∃ l, (pc l).Exits) ∧ ∀ k, ¬(pc k).Waits) (fun p => ¬p.Leads) (by
      intro pc k hpc hk
      cases hpk : pc k with
      | p64 j =>
        refine ⟨_, reach_p9_of_p64 hpk hpc.2, fun h => h, ⟨k, ?_⟩, fun m => ?_⟩
        · rw [Function.update_self]
          trivial
        · by_cases hm : m = k
          · subst hm
            rw [Function.update_self]
            exact fun h => h
          · rw [Function.update_of_ne hm]
            exact hpc.2 m
      | p1 | p2 j | p4 j | p61 j | p62 | p7 j | p81 | p9 j | critical =>
        rw [hpk] at hk
        exact absurd (fun h => h) hk) ⟨⟨l₁, hl₁⟩, hwaits⟩
  refine ⟨pc₂, hrun₁.trans hrun₂, ⟨l₂, ?_⟩, fun k => ⟨hwaits₂ k, hleads k⟩⟩
  exact hl₂.leads_or_leaves.resolve_left (hleads l₂)

/-- The lowest of the cores on their way out gets into the critical section. -/
lemma reach_critical (hleaves : (pc l).Leaves) (hrest : ∀ k, ¬(pc k).Waits ∧ ¬(pc k).Leads) :
    ∃ pc' : Fin n → MutexPc, Relation.ReflTransGen MutexWorks pc pc' ∧ ∃ i, pc' i = .critical := by
  obtain ⟨i, hi, hlow⟩ := exists_minimal_of_wellFoundedLT (fun i => (pc i).Leaves) ⟨l, hleaves⟩
  have hbelow : ∀ m : Fin n, m < i → ¬(pc m).Waits ∧ ¬(pc m).Shuts := by
    intro m hm
    refine ⟨(hrest m).1, fun hs => ?_⟩
    have hnot : ¬(pc m).Leaves := fun h => absurd (hlow h hm.le) (not_le.2 hm)
    have hw := (hrest m).1
    have hlead := (hrest m).2
    cases hpc : pc m <;> rw [hpc] at hs hw hlead hnot <;>
      first | exact hs.elim | exact hw trivial | exact hlead trivial | exact hnot trivial
  cases hpc : pc i with
  | critical => exact ⟨pc, .refl, i, hpc⟩
  | p9 j =>
    clear hi hlow hrest hleaves
    induction hd : (i : ℕ) - j generalizing pc j with
    | zero =>
      refine ⟨Function.update pc i .critical, .single (.goto (by rw [hpc]; trivial)
        (by rw [hpc]; rfl) ?_), i, Function.update_self ..⟩
      simp only [mutexStep, MutexState.at, hpc, dif_neg (show ¬j < (i : ℕ) by omega)]
    | succ d ih =>
      have hji : j < (i : ℕ) := by omega
      have hread := hbelow ⟨j, hji.trans i.isLt⟩ (Fin.lt_def.2 hji)
      rw [← MutexPc.value_and_mW_mS] at hread
      have hstep : MutexWorks pc (Function.update pc i (.p9 (j + 1))) := by
        refine .goto (by rw [hpc]; trivial) (by rw [hpc]; rfl) ?_
        simp only [mutexStep, MutexState.at, hpc, dif_pos hji, hread, ne_eq, not_true, if_false]
      have hbelow' : ∀ m : Fin n, m < i → ¬(Function.update pc i (.p9 (j + 1)) m).Waits ∧
          ¬(Function.update pc i (.p9 (j + 1)) m).Shuts := by
        intro m hm
        rw [Function.update_of_ne hm.ne]
        exact hbelow m hm
      obtain ⟨pc', hrun, hcrit⟩ := ih hbelow' (j + 1) (Function.update_self ..) (by omega)
      exact ⟨pc', .head hstep hrun, hcrit⟩
  | p1 | p2 j | p4 j | p61 j | p62 | p64 j | p7 j | p81 =>
    rw [hpc] at hi
    exact hi.elim

/-! ## A leader -/

/-- Somebody has called `mutex_lock`, and nobody is about to follow a leader. -/
def MutexTries (pc : Fin n → MutexPc) : Prop := (∃ k, pc k ≠ .p1) ∧ ∀ k, pc k ≠ .p81

lemma MutexTries.update (htries : MutexTries pc) (hp1 : q ≠ .p1) (hp81 : q ≠ .p81) (k : Fin n) :
    MutexTries (Function.update pc k q) := by
  refine ⟨⟨k, by rwa [Function.update_self]⟩, fun m => ?_⟩
  by_cases hm : m = k
  · subst hm
    rwa [Function.update_self]
  · rw [Function.update_of_ne hm]
    exact htries.2 m

/-- A core of the waiting room, with the door open and nobody at it, becomes a leader. -/
lemma reach_leads (htries : MutexTries pc) (hopen : ∀ k, ¬(pc k).Shuts)
    (hnobody : ∀ k, ¬(pc k).Enters) :
    ∃ pc' : Fin n → MutexPc, Relation.ReflTransGen MutexWorks pc pc' ∧ ∃ l, (pc' l).Exits := by
  have from_p61 : ∀ (pc : Fin n → MutexPc) (k : Fin n) (j : ℕ), pc k = .p61 j →
      (∀ m, m ≠ k → ¬(pc m).Enters) →
      ∃ pc' : Fin n → MutexPc, Relation.ReflTransGen MutexWorks pc pc' ∧ ∃ l, (pc' l).Exits := by
    intro pc k j hk hnone
    rcases reach_of_p61 hk with ⟨⟨m, hmk, hm⟩, -⟩ | hrun
    · exact absurd hm (hnone m hmk)
    · exact ⟨_, hrun, k, by rw [Function.update_self]; trivial⟩
  have from_p4 : ∀ (pc : Fin n → MutexPc) (k : Fin n) (j : ℕ), pc k = .p4 j →
      (∀ m, ¬(pc m).Enters) →
      ∃ pc' : Fin n → MutexPc, Relation.ReflTransGen MutexWorks pc pc' ∧ ∃ l, (pc' l).Exits := by
    intro pc k j hk hnone
    rcases reach_of_p4 hk with ⟨⟨m, hm⟩, -⟩ | hrun
    · exact absurd hm (hnone m)
    · obtain ⟨pc', hrun', hl⟩ := from_p61 _ k 0 (Function.update_self ..) (by
        intro m hm
        rw [Function.update_of_ne hm]
        exact hnone m)
      exact ⟨pc', hrun.trans hrun', hl⟩
  obtain ⟨⟨k, hk⟩, h81⟩ := htries
  have hopenk := hopen k
  have hnobodyk := hnobody k
  cases hpc : pc k with
  | p4 j => exact from_p4 pc k j hpc hnobody
  | p7 j =>
    rcases reach_of_p7 hpc with hrun | ⟨-, hrun⟩
    · exact ⟨_, hrun, k, by rw [Function.update_self]; trivial⟩
    · obtain ⟨pc', hrun', hl⟩ := from_p4 _ k 0 (Function.update_self ..) (by
        intro m
        by_cases hm : m = k
        · subst hm
          rw [Function.update_self]
          exact fun h => h
        · rw [Function.update_of_ne hm]
          exact hnobody m)
      exact ⟨pc', hrun.trans hrun', hl⟩
  | p1 => exact absurd hpc hk
  | p81 => exact absurd hpc (h81 k)
  | p2 j =>
    rw [hpc] at hnobodyk
    exact absurd trivial hnobodyk
  | p61 j | p62 | p64 j | p9 j | critical =>
    rw [hpc] at hopenk
    exact absurd trivial hopenk

/-- The cores in `mutex_lock` get one of them on its way out. -/
lemma reach_exits (htries : MutexTries pc) :
    ∃ pc' : Fin n → MutexPc, Relation.ReflTransGen MutexWorks pc pc' ∧ ∃ l, (pc' l).Exits := by
  -- the transient cores go back to the waiting room, or lead
  obtain ⟨pc₁, hrun₁, htries₁, hsettled⟩ := exists_forall_of_update (R := MutexWorks) MutexTries
    (fun p => ¬(p.Shuts ∧ p.Waits)) (by
      intro pc k htries hk
      rw [not_not] at hk
      cases hpc : pc k with
      | p61 j =>
        rcases reach_of_p61 hpc with ⟨-, hrun⟩ | hrun
        · exact ⟨_, hrun, fun h => h.1, htries.update (by simp) (by simp) k⟩
        · exact ⟨_, hrun, fun h => h.2, htries.update (by simp) (by simp) k⟩
      | p62 =>
        refine ⟨.p7 0, .single (.write (by rw [hpc]; trivial) ?_), fun h => h.1,
          htries.update (by simp) (by simp) k⟩
        simp only [mutexStep, MutexState.at, hpc, MutexPc.value]
      | p1 | p2 j | p4 j | p7 j | p81 =>
        rw [hpc] at hk
        exact hk.1.elim
      | p64 j | p9 j | critical =>
        rw [hpc] at hk
        exact hk.2.elim) htries
  by_cases hexits : ∃ l, (pc₁ l).Exits
  · exact ⟨pc₁, hrun₁, hexits⟩
  · push Not at hexits
    have hopen : ∀ k, ¬(pc₁ k).Shuts := by
      intro k hs
      have hk := hsettled k
      have hx := hexits k
      cases hpc : pc₁ k <;> rw [hpc] at hs hk hx <;>
        first | exact hs.elim | exact hk ⟨trivial, trivial⟩ | exact hx trivial
    -- the cores at the door come in
    obtain ⟨pc₂, hrun₂, ⟨htries₂, hopen₂⟩, hnobody⟩ := exists_forall_of_update (R := MutexWorks)
      (fun pc : Fin n → MutexPc => MutexTries pc ∧ ∀ k, ¬(pc k).Shuts) (fun p => ¬p.Enters) (by
        intro pc k hpc hk
        cases hpk : pc k with
        | p2 j =>
          refine ⟨.p4 0, reach_p4_of_p2 hpk hpc.2, fun h => h,
            hpc.1.update (by simp) (by simp) k, fun m => ?_⟩
          by_cases hm : m = k
          · subst hm
            rw [Function.update_self]
            exact fun h => h
          · rw [Function.update_of_ne hm]
            exact hpc.2 m
        | p1 | p4 j | p61 j | p62 | p64 j | p7 j | p81 | p9 j | critical =>
          rw [hpk] at hk
          exact absurd (fun h => h) hk) ⟨htries₁, hopen⟩
    obtain ⟨pc₃, hrun₃, hl⟩ := reach_leads htries₂ hopen₂ hnobody
    exact ⟨pc₃, hrun₁.trans (hrun₂.trans hrun₃), hl⟩

/-- In every reachable state in which a core has called `mutex_lock` and not returned from
`mutex_unlock`, a core is in the critical section, or the steps of cores in `mutex_lock` alone lead
to a state in which one is. -/
theorem mutex_progress (s : MutexState n) (hrun : Relation.ReflTransGen MutexStep (.start n) s)
    (hcalled : ∃ i, s.pc i ≠ .p1) :
    ∃ s', Relation.ReflTransGen MutexWork s s' ∧ ∃ i, s'.pc i = .critical := by
  obtain ⟨htracks, hinv⟩ := MutexInv.of_run hrun
  have lift : ∀ pc' : Fin n → MutexPc, Relation.ReflTransGen MutexWorks s.pc pc' →
      Relation.ReflTransGen MutexWork s (.at pc') := by
    intro pc' hworks
    rw [htracks.eq_at]
    exact Relation.ReflTransGen.lift MutexState.at (fun _ _ h => h) _ _ hworks
  have hexits : ∃ pc' : Fin n → MutexPc, Relation.ReflTransGen MutexWorks s.pc pc' ∧
      ∃ l, (pc' l).Exits := by
    by_cases h81 : ∃ k, s.pc k = .p81
    · obtain ⟨k, hk⟩ := h81
      obtain ⟨l, hl⟩ := hinv.follows k hk
      refine ⟨s.pc, .refl, l, ?_⟩
      cases hpc : s.pc l <;> rw [hpc] at hl <;> first | exact hl.elim | trivial
    · push Not at h81
      exact reach_exits ⟨hcalled, h81⟩
  obtain ⟨pc₁, hrun₁, l₁, hl₁⟩ := hexits
  obtain ⟨pc₂, hrun₂, ⟨l₂, hl₂⟩, hrest⟩ := reach_settled hl₁
  obtain ⟨pc₃, hrun₃, i, hi⟩ := reach_critical hl₂ hrest
  exact ⟨.at pc₃, lift pc₃ (hrun₁.trans (hrun₂.trans hrun₃)), i, hi⟩

/-- Three cores at the door. -/
theorem mutex_progress_three :
    ∃ s', Relation.ReflTransGen MutexWork (mutexRun (.start 3) [0, 1, 2]) s' ∧
      ∃ i, s'.pc i = .critical :=
  mutex_progress _ (mutexRun_steps (.start 3) _) ⟨0, by decide⟩

end Hikey
