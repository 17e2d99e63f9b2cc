import Hikey.Foundation.Slots
import Hikey.Gdb.Registers

/-!
# Hardware breakpoints over all stops

The breakpoint registers of the processor are a table of slots, with the bits of `IBREAKENABLE` as
their switches.  The stub changes it in the cache and writes it back when the program goes on.  The
addresses that it compares may be those of an earlier stop, and a slot that was set in this stop is
read again by a removal; with the removals of a stop in front of its insertions, as the debugger
sends them, the processor has exactly the breakpoints that were inserted and not removed.
-/

namespace Hikey.Gdb

variable {cfg : Config} {bus : Bus} {windowbase : U32} {s s' t t' : Stub} {buffer : ℕ → UInt8}
  {ptr : ℕ} {r r' : Regs}
  {E : U32} {A : ℕ → U32} {B : Finset U32} {addr : U32} {i n : ℕ}

/-! ## The table in the cache -/

/-- The registers of the breakpoints stand at `E` and `A`, and the cache has the addresses that are
enabled. -/
structure Regs.Slots (cfg : Config) (r : Regs) (E : U32) (A : ℕ → U32) : Prop where
  saved : r.Saved cfg
  enable : r.Holds cfg.ibreakEnable E
  clean : r.Clean cfg.ibreakEnable
  slot : ∀ i < cfg.numIbreak, r.Holds (cfg.ibreakA + i) (A i)
  cached : ∀ i < cfg.numIbreak, E.getLsbD i = true → r.sregs (cfg.ibreakA + i) = A i

/-- No slot was set in this stop without having been read. -/
def Regs.SlotsClean (cfg : Config) (r : Regs) : Prop :=
  ∀ i < cfg.numIbreak, r.Clean (cfg.ibreakA + i)

lemma Config.enable_ne_slot (cfg : Config) (hi : i < cfg.numIbreak) :
    cfg.ibreakEnable ≠ cfg.ibreakA + i := by
  have := (cfg.apart cfg.ibreakEnable (by simp)).2
  omega

lemma Config.late_ne_slot (cfg : Config) {sr : ℕ} (hsr : sr ∈ cfg.late) (hi : i < cfg.numIbreak) :
    cfg.ibreakA + i ≠ sr := by
  have := (cfg.apart sr (by simp [hsr])).2
  omega

/-- The registers that the entry of the stub uses are not for breakpoints. -/
lemma Config.level_ne_slot (cfg : Config) {sr : ℕ} (hsr : sr ∈ [cfg.debugPs, cfg.debugExcsave])
    (hi : i < cfg.numIbreak) : cfg.ibreakA + i ≠ sr := by
  have := (cfg.level_apart sr hsr).2
  omega

lemma Config.enable_ne_level (cfg : Config) {sr : ℕ} (hsr : sr ∈ [cfg.debugPs, cfg.debugExcsave]) :
    cfg.ibreakEnable ≠ sr := by
  rintro rfl
  exact (cfg.level_apart _ hsr).1 List.mem_cons_self

/-- A register that is not for breakpoints may change. -/
lemma Regs.Slots.of_same (h : r.Slots cfg E A) (hsaved : r'.Saved cfg)
    (henable : r.SameAt r' cfg.ibreakEnable)
    (hslot : ∀ i < cfg.numIbreak, r.SameAt r' (cfg.ibreakA + i)) : r'.Slots cfg E A where
  saved := hsaved
  enable := henable.holds h.enable
  clean := henable.clean h.clean
  slot i hi := (hslot i hi).holds (h.slot i hi)
  cached i hi hon := by rw [(hslot i hi).sregs, h.cached i hi hon]

lemma Regs.SlotsClean.of_same (h : r.SlotsClean cfg)
    (hslot : ∀ i < cfg.numIbreak, r.SameAt r' (cfg.ibreakA + i)) :
    r'.SlotsClean cfg := fun i hi => (hslot i hi).clean (h i hi)

/-- Reading `IBREAKENABLE` brings its value to the cache. -/
lemma Regs.Slots.readEnable (h : r.Slots cfg E A) :
    (r.readSr cfg.ibreakEnable).Slots cfg E A ∧
    (r.readSr cfg.ibreakEnable).sregs cfg.ibreakEnable = E := by
  obtain ⟨hholds, hclean, hvalue⟩ := h.enable.readSr h.saved h.clean
  have hsame : ∀ i < cfg.numIbreak, r.SameAt (r.readSr cfg.ibreakEnable) (cfg.ibreakA + i) :=
    fun i hi =>
    r.sameAt_readSr (Ne.symm (cfg.enable_ne_slot hi))
  refine ⟨⟨h.saved.readSr, hholds, hclean, fun i hi => (hsame i hi).holds (h.slot i hi),
    fun i hi hon => ?_⟩, hvalue⟩
  rw [(hsame i hi).sregs, h.cached i hi hon]

/-- Reading a clean slot brings its address to the cache. -/
lemma Regs.Slots.readSlot (h : r.Slots cfg E A) (hclean : r.SlotsClean cfg)
    (hi : i < cfg.numIbreak) :
    (r.readSr (cfg.ibreakA + i)).Slots cfg E A ∧ (r.readSr (cfg.ibreakA + i)).SlotsClean cfg ∧
      (r.readSr (cfg.ibreakA + i)).sregs (cfg.ibreakA + i) = A i := by
  obtain ⟨hholds, hclean', hvalue⟩ := (h.slot i hi).readSr h.saved (hclean i hi)
  have hen : r.SameAt (r.readSr (cfg.ibreakA + i)) cfg.ibreakEnable :=
    r.sameAt_readSr (cfg.enable_ne_slot hi)
  have hother : ∀ j, j ≠ i → r.SameAt (r.readSr (cfg.ibreakA + i)) (cfg.ibreakA + j) := fun j hj =>
    r.sameAt_readSr (by omega)
  refine ⟨⟨h.saved.readSr, hen.holds h.enable, hen.clean h.clean, fun j hj => ?_,
    fun j hj hon => ?_⟩, fun j hj => ?_, hvalue⟩
  · by_cases hji : j = i
    · exact hji ▸ hholds
    · exact (hother j hji).holds (h.slot j hj)
  · by_cases hji : j = i
    · rw [hji, hvalue]
    · rw [(hother j hji).sregs, h.cached j hj hon]
  · by_cases hji : j = i
    · exact hji ▸ hclean'
    · exact (hother j hji).clean (hclean j hj)

/-- Writing `IBREAKENABLE`, once it was read. -/
lemma Regs.Slots.setEnable {E' : U32} (h : r.Slots cfg E A)
    (hread : r.sregsRead cfg.ibreakEnable = true)
    (hle : ∀ i < cfg.numIbreak, E'.getLsbD i = true → r.sregs (cfg.ibreakA + i) = A i) :
    ((r.set cfg.ibreakEnable E').markMod cfg.ibreakEnable).Slots cfg E' A := by
  have hsame : ∀ i < cfg.numIbreak,
      r.SameAt ((r.set cfg.ibreakEnable E').markMod cfg.ibreakEnable) (cfg.ibreakA + i) :=
        fun i hi =>
    (r.sameAt_set _ (Ne.symm (cfg.enable_ne_slot hi))).trans
      (Regs.sameAt_markMod _ (Ne.symm (cfg.enable_ne_slot hi)))
  refine ⟨h.saved.set.markMod, ⟨fun _ => Function.update_self .., fun hm => ?_⟩, fun _ => hread,
    fun i hi => (hsame i hi).holds (h.slot i hi), fun i hi hon => ?_⟩
  · have hmod : ((r.set cfg.ibreakEnable E').markMod cfg.ibreakEnable).sregsMod
        cfg.ibreakEnable = true :=
      Function.update_self ..
    rw [hmod] at hm
    cases hm
  · rw [(hsame i hi).sregs, hle i hi hon]

/-- Writing a slot that is off. -/
lemma Regs.Slots.setSlot (h : r.Slots cfg E A) (hi : i < cfg.numIbreak) :
    ((r.set (cfg.ibreakA + i) addr).markMod (cfg.ibreakA + i)).Slots cfg E
    (Function.update A i addr) := by
  have hen : r.SameAt ((r.set (cfg.ibreakA + i) addr).markMod (cfg.ibreakA + i)) cfg.ibreakEnable :=
    (r.sameAt_set _ (cfg.enable_ne_slot hi)).trans (Regs.sameAt_markMod _ (cfg.enable_ne_slot hi))
  have hother : ∀ j, j ≠ i → r.SameAt ((r.set (cfg.ibreakA + i) addr).markMod (cfg.ibreakA + i))
      (cfg.ibreakA + j) :=
    fun j hj => (r.sameAt_set _ (by omega)).trans (Regs.sameAt_markMod _ (by omega))
  have hvalue : ((r.set (cfg.ibreakA + i) addr).markMod (cfg.ibreakA + i)).sregs
      (cfg.ibreakA + i) = addr :=
    Function.update_self ..
  refine ⟨h.saved.set.markMod, hen.holds h.enable, hen.clean h.clean, fun j hj => ?_,
    fun j hj hon => ?_⟩
  · by_cases hji : j = i
    · subst hji
      rw [Function.update_self]
      refine ⟨fun _ => hvalue, fun hm => ?_⟩
      have hmod : ((r.set (cfg.ibreakA + j) addr).markMod (cfg.ibreakA + j)).sregsMod
          (cfg.ibreakA + j) = true :=
        Function.update_self ..
      rw [hmod] at hm
      cases hm
    · rw [Function.update_of_ne hji]
      exact (hother j hji).holds (h.slot j hj)
  · by_cases hji : j = i
    · subst hji
      rw [Function.update_self, hvalue]
    · rw [Function.update_of_ne hji, (hother j hji).sregs, h.cached j hj hon]

/-! ## Inserting and removing -/

lemma getLsbD_set_bit (E : U32) {j : ℕ} (hi : i < 32) :
    (E ||| 1#32 <<< i).getLsbD j = if j = i then true else E.getLsbD j := by
  rw [BitVec.getLsbD_or, BitVec.getLsbD_shiftLeft]
  split_ifs with hji
  · subst hji
    simp [hi]
  · by_cases hlt : j < i
    · simp [hlt]
    · have : j - i ≠ 0 := by omega
      simp [BitVec.getLsbD_one, this]

lemma getLsbD_clear_bit (E : U32) {j : ℕ} (hj : j < 32) :
    (E &&& ~~~(1#32 <<< i)).getLsbD j = if j = i then false else E.getLsbD j := by
  rw [BitVec.getLsbD_and, BitVec.getLsbD_not, BitVec.getLsbD_shiftLeft]
  split_ifs with hji
  · subst hji
    simp [hj]
  · by_cases hlt : j < i
    · simp [hlt, hj]
    · have : j - i ≠ 0 := by omega
      simp [BitVec.getLsbD_one, this, hj]

/-- The loop of an insertion takes the first slot that is off, where none that is on has the
address. -/
lemma Regs.Slots.insertLoop (h : r.Slots cfg E A) (hen : r.sregs cfg.ibreakEnable = E)
    (hnew : ∀ j < cfg.numIbreak, E.getLsbD j = true → A j ≠ addr) (hin : i + n ≤ cfg.numIbreak) :
    (∃ j < cfg.numIbreak, E.getLsbD j = false ∧ r.insertLoop cfg addr i n =
        ((((r.set (cfg.ibreakA + j) addr).markMod (cfg.ibreakA + j)).set cfg.ibreakEnable
        (E ||| 1#32 <<< j)).markMod
          cfg.ibreakEnable, true)) ∨
      (∀ j, i ≤ j → j < i + n → E.getLsbD j = true) ∧ r.insertLoop cfg addr i n = (r, false) := by
  induction n generalizing i with
  | zero => exact .inr ⟨fun j hij hj => by omega, rfl⟩
  | succ n ih =>
    have hi : i < cfg.numIbreak := by omega
    rw [Regs.insertLoop, Regs.enabled, hen]
    cases hon : E.getLsbD i with
    | false =>
      refine .inl ⟨i, hi, hon, ?_⟩
      have hen' : ((r.set (cfg.ibreakA + i) addr).markMod (cfg.ibreakA + i)).sregs
          cfg.ibreakEnable = E :=
        (Function.update_of_ne (cfg.enable_ne_slot hi) ..).trans hen
      simp only [Bool.not_false, Bool.true_or, if_true, hen']
    | true =>
      have hne : (r.sregs (cfg.ibreakA + i) == addr) = false := by
        rw [h.cached i hi hon, beq_eq_false_iff_ne]
        exact hnew i hi hon
      simp only [Bool.not_true, hne, Bool.or_self, Bool.false_eq_true, if_false]
      have hrest : (i + 1) + n ≤ cfg.numIbreak := by omega
      rcases ih hrest with hfound | ⟨hall, hnone⟩
      · exact .inl hfound
      · refine .inr ⟨fun j hij hj => ?_, hnone⟩
        rcases hij.eq_or_lt with rfl | hlt
        · exact hon
        · exact hall j hlt (by omega)

/-- The loop of a removal turns off the first slot with the address that is on. -/
lemma Regs.Slots.removeLoop (h : r.Slots cfg E A) (hclean : r.SlotsClean cfg)
    (hen : r.sregs cfg.ibreakEnable = E)
    (hread : r.sregsRead cfg.ibreakEnable = true) (hin : i + n ≤ cfg.numIbreak) :
    (∃ j < cfg.numIbreak, E.getLsbD j = true ∧ A j = addr ∧ (r.removeLoop cfg addr i n).2 = true ∧
        (r.removeLoop cfg addr i n).1.Slots cfg (E &&& ~~~(1#32 <<< j)) A ∧
        (r.removeLoop cfg addr i n).1.SlotsClean cfg) ∨
      (∀ j, i ≤ j → j < i + n → E.getLsbD j = true → A j ≠ addr) ∧
      (r.removeLoop cfg addr i n).2 = false ∧
        (r.removeLoop cfg addr i n).1.Slots cfg E A ∧
        (r.removeLoop cfg addr i n).1.SlotsClean cfg := by
  induction n generalizing i r with
  | zero => exact .inr ⟨fun j hij hj => by omega, rfl, h, hclean⟩
  | succ n ih =>
    have hi : i < cfg.numIbreak := by omega
    obtain ⟨hslots, hclean', hvalue⟩ := h.readSlot hclean hi
    have hsame : r.SameAt (r.readSr (cfg.ibreakA + i)) cfg.ibreakEnable :=
      r.sameAt_readSr (cfg.enable_ne_slot hi)
    have hen' : (r.readSr (cfg.ibreakA + i)).sregs cfg.ibreakEnable = E := hsame.sregs.trans hen
    have hread' : (r.readSr (cfg.ibreakA + i)).sregsRead cfg.ibreakEnable = true :=
      hsame.read.trans hread
    rw [Regs.removeLoop, Regs.enabled, hen', hvalue]
    by_cases hfound : E.getLsbD i = true ∧ A i = addr
    · have hcond : (E.getLsbD i && A i == addr) = true := by simp [hfound]
      rw [if_pos hcond]
      refine .inl ⟨i, hi, hfound.1, hfound.2, rfl, ?_, ?_⟩
      · refine hslots.setEnable hread' fun j hj hon => hslots.cached j hj ?_
        rw [getLsbD_clear_bit E (by have := cfg.ibreak_le; omega)] at hon
        split_ifs at hon
        exact hon
      · exact hclean'.of_same fun j hj =>
          (Regs.sameAt_set _ _ (Ne.symm (cfg.enable_ne_slot hj))).trans
          (Regs.sameAt_markMod _ (Ne.symm (cfg.enable_ne_slot hj)))
    · have hcond : ¬(E.getLsbD i && A i == addr) = true := by
        simpa using hfound
      rw [if_neg hcond]
      have hrest : (i + 1) + n ≤ cfg.numIbreak := by omega
      rcases ih hslots hclean' hen' hread' hrest with hin' | ⟨hnone, hok, hslots', hclean''⟩
      · exact .inl hin'
      · refine .inr ⟨fun j hij hj hon => ?_, hok, hslots', hclean''⟩
        rcases hij.eq_or_lt with rfl | hlt
        · exact fun heq => hfound ⟨hon, heq⟩
        · exact hnone j hlt (by omega) hon

/-! ## The requests of the debugger -/

/-- The breakpoints behind an action: an insertion needs a slot. -/
def RegsAct.points (cfg : Config) (B : Finset U32) : RegsAct → Finset U32
  | .insert addr => if B.card < cfg.numIbreak then Insert.insert addr B else B
  | .remove addr => B.erase addr
  | _ => B

/-- An action that inserts a breakpoint. -/
def RegsAct.inserts : RegsAct → Bool
  | .insert _ => true
  | _ => false

/-- An action that is in order where `B` are the breakpoints, and `inserted` tells whether one was
inserted in this stop: a breakpoint is inserted once, slots are read and breakpoints are removed
before the insertions, and the registers of the breakpoints are left to the stub. -/
def RegsAct.InOrder (cfg : Config) (inserted : Bool) (B : Finset U32) : RegsAct → Prop
  | .read sr => inserted = true → ∀ i < cfg.numIbreak, sr ≠ cfg.ibreakA + i
  | .write sr _ => sr ≠ cfg.ibreakEnable ∧ ∀ i < cfg.numIbreak, sr ≠ cfg.ibreakA + i
  | .insert addr => addr ∉ B
  | .remove _ => inserted = false
  | _ => True

/-- The breakpoints behind a list of actions. -/
def pointsAfter (cfg : Config) (B : Finset U32) (acts : List RegsAct) : Finset U32 :=
  acts.foldl (RegsAct.points cfg) B

/-- Every action of a stop is in order behind those before it. -/
def ActsInOrder (cfg : Config) (B : Finset U32) (acts : List RegsAct) : Prop :=
  ∀ before act after, acts = before ++ act :: after →
    act.InOrder cfg (before.any RegsAct.inserts) (pointsAfter cfg B before)

/-- An action that changes the table of the breakpoints. -/
def RegsAct.forBreaks : RegsAct → Bool
  | .insert _ | .remove _ => true
  | _ => false

/-- Whether such an action succeeds. -/
def RegsAct.succeeds (cfg : Config) (r : Regs) : RegsAct → Bool
  | .insert addr => ((r.readSr cfg.ibreakEnable).insertLoop cfg addr 0 cfg.numIbreak).2
  | .remove addr => ((r.readSr cfg.ibreakEnable).removeLoop cfg addr 0 cfg.numIbreak).2
  | _ => true

/-- Whether it can, where `B` are the breakpoints. -/
def RegsAct.allowed (cfg : Config) (B : Finset U32) : RegsAct → Bool
  | .insert _ => B.card < cfg.numIbreak
  | .remove addr => addr ∈ B
  | _ => true

/-- The cache holds the breakpoints `B`. -/
def Regs.Breaks (cfg : Config) (r : Regs) (inserted : Bool) (B : Finset U32) : Prop :=
  ∃ E A, r.Slots cfg E A ∧ SlotsHold cfg.numIbreak E.getLsbD A B ∧
    (inserted = false → r.SlotsClean cfg)

/-- Turning on a free slot in the cache. -/
lemma Regs.Slots.insert_at {j : ℕ} (h : r.Slots cfg E A)
    (hhold : SlotsHold cfg.numIbreak E.getLsbD A B)
    (hread : r.sregsRead cfg.ibreakEnable = true) (hj : j < cfg.numIbreak)
    (hoff : E.getLsbD j = false) (hnew : addr ∉ B) :
    Regs.Breaks cfg ((((r.set (cfg.ibreakA + j) addr).markMod (cfg.ibreakA + j)).set
      cfg.ibreakEnable
      (E ||| 1#32 <<< j)).markMod cfg.ibreakEnable) true (insert addr B) := by
  have hj32 : j < 32 := by
    have := cfg.ibreak_le
    omega
  refine ⟨E ||| 1#32 <<< j, Function.update A j addr, ?_, ?_, fun hins => by cases hins⟩
  · have hset : ((r.set (cfg.ibreakA + j) addr).markMod (cfg.ibreakA + j)).Slots cfg E
        (Function.update A j addr) := h.setSlot hj
    refine hset.setEnable hread fun i hi hon => ?_
    by_cases hij : i = j
    · subst hij
      rw [Function.update_self]
      exact Function.update_self ..
    · rw [getLsbD_set_bit E hj32, if_neg hij] at hon
      exact hset.cached i hi hon
  · refine (hhold.insert hj hoff hnew).congr (fun i _ => ?_) fun i _ _ => rfl
    rw [getLsbD_set_bit E hj32, Function.update_apply]

/-- An action that is in order keeps the table of the breakpoints, and succeeds where it can. -/
lemma Regs.Breaks.apply {inserted : Bool} (h : r.Breaks cfg inserted B) {act : RegsAct}
    (hord : act.InOrder cfg inserted B) :
    (act.apply cfg r).Breaks cfg (inserted || act.inserts) (act.points cfg B) ∧
      act.succeeds cfg r = act.allowed cfg B := by
  obtain ⟨E, A, hslots, hhold, hclean⟩ := h
  cases act with
  | keep =>
    refine ⟨?_, rfl⟩
    exact ⟨E, A, hslots, hhold, fun hins => hclean (by simpa [RegsAct.inserts] using hins)⟩
  | read sr =>
    refine ⟨?_, rfl⟩
    simp only [RegsAct.inserts, Bool.or_false, RegsAct.points]
    by_cases hslot : ∃ i < cfg.numIbreak, sr = cfg.ibreakA + i
    · obtain ⟨i, hi, rfl⟩ := hslot
      have hins : inserted = false := by
        by_contra hins
        exact hord (by simpa using hins) i hi rfl
      obtain ⟨hslots', hclean', -⟩ := hslots.readSlot (hclean hins) hi
      exact ⟨E, A, hslots', hhold, fun _ => hclean'⟩
    · have hne : ∀ i < cfg.numIbreak, cfg.ibreakA + i ≠ sr := fun i hi heq =>
          hslot ⟨i, hi, heq.symm⟩
      have hframe : ∀ i < cfg.numIbreak, r.SameAt (r.readSr sr) (cfg.ibreakA + i) :=
        fun i hi => r.sameAt_readSr (hne i hi)
      by_cases hsr : sr = cfg.ibreakEnable
      · subst hsr
        exact ⟨E, A, hslots.readEnable.1, hhold, fun hins => (hclean hins).of_same hframe⟩
      · exact ⟨E, A, hslots.of_same hslots.saved.readSr (r.sameAt_readSr (Ne.symm hsr))
          hframe, hhold,
          fun hins => (hclean hins).of_same hframe⟩
  | write sr v =>
    obtain ⟨hen, hslot⟩ := hord
    refine ⟨?_, rfl⟩
    simp only [RegsAct.inserts, Bool.or_false, RegsAct.points]
    have frame : ∀ sr', sr' ≠ sr → r.SameAt (((r.set sr v).markRead sr).markMod sr) sr' :=
      fun sr' hne =>
      ((r.sameAt_set v hne).trans (Regs.sameAt_markRead _ hne)).trans (Regs.sameAt_markMod _ hne)
    have hframe := fun i hi => frame (cfg.ibreakA + i) (Ne.symm (hslot i hi))
    exact ⟨E, A, hslots.of_same hslots.saved.set.markRead.markMod (frame _ (Ne.symm hen))
      hframe, hhold,
      fun hins => (hclean hins).of_same hframe⟩
  | pc v =>
    refine ⟨?_, rfl⟩
    simp only [RegsAct.inserts, Bool.or_false, RegsAct.points]
    have hen : cfg.ibreakEnable ≠ cfg.debugPc := fun heq => cfg.late_ne.1 (heq ▸ cfg.late_mem.2.2)
    have hframe : ∀ i < cfg.numIbreak, r.SameAt (r.set cfg.debugPc v) (cfg.ibreakA + i) :=
      fun i hi =>
      r.sameAt_set v (cfg.late_ne_slot cfg.late_mem.2.2 hi)
    exact ⟨E, A, hslots.of_same hslots.saved.set (r.sameAt_set v hen) hframe, hhold,
      fun hins => (hclean hins).of_same hframe⟩
  | insert addr =>
    rw [RegsAct.inserts, Bool.or_true]
    obtain ⟨hslots', hen⟩ := hslots.readEnable
    have hnew : ∀ j < cfg.numIbreak, E.getLsbD j = true → A j ≠ addr := fun j hj hon heq =>
      hord ((hhold.mem addr).2 ⟨j, hj, hon, heq⟩)
    simp only [RegsAct.apply, RegsAct.points, RegsAct.succeeds, RegsAct.allowed]
    rcases @Regs.Slots.insertLoop cfg _ E A addr 0 cfg.numIbreak hslots' hen hnew
      (by omega) with ⟨j, hj, hoff, hloop⟩ | ⟨hall, hloop⟩
    · have hfree := hhold.card_lt_iff.2 ⟨j, hj, hoff⟩
      rw [hloop, if_pos hfree]
      refine ⟨?_, (decide_eq_true hfree).symm⟩
      exact hslots'.insert_at hhold (r.readSr_read cfg.ibreakEnable) hj hoff hord
    · have hfull : ¬B.card < cfg.numIbreak := by
        rw [hhold.card_lt_iff]
        rintro ⟨k, hk, hoff⟩
        rw [hall k (Nat.zero_le k) (by omega)] at hoff
        cases hoff
      rw [hloop, if_neg hfull]
      refine ⟨?_, (decide_eq_false hfull).symm⟩
      exact ⟨E, A, hslots', hhold, fun hins => by cases hins⟩
  | remove addr =>
    have hins : inserted = false := hord
    subst hins
    obtain ⟨hslots', hen⟩ := hslots.readEnable
    have hclean' : (r.readSr cfg.ibreakEnable).SlotsClean cfg := (hclean rfl).of_same fun i hi =>
      r.sameAt_readSr (Ne.symm (cfg.enable_ne_slot hi))
    simp only [RegsAct.apply, RegsAct.points, RegsAct.succeeds, RegsAct.allowed]
    have hread := r.readSr_read cfg.ibreakEnable
    rcases @Regs.Slots.removeLoop cfg _ E A addr 0 cfg.numIbreak hslots' hclean' hen hread
      (by omega) with ⟨j, hj, hon, rfl, hok, hslots'', hclean''⟩ | ⟨hnone, hok, hslots'', hclean''⟩
    · refine ⟨?_, hok.trans (decide_eq_true ((hhold.mem _).2 ⟨j, hj, hon, rfl⟩)).symm⟩
      refine ⟨_, A, hslots'', (hhold.erase hj hon).congr (fun i hi => ?_) fun i _ _ => rfl,
        fun _ => hclean''⟩
      have hi32 : i < 32 := by
        have := cfg.ibreak_le
        omega
      rw [getLsbD_clear_bit E hi32, Function.update_apply]
    · have hout : addr ∉ B := fun hmem => by
        obtain ⟨j, hj, hon, heq⟩ := (hhold.mem addr).1 hmem
        exact hnone j (Nat.zero_le j) (by omega) hon heq
      rw [Finset.erase_eq_of_notMem hout]
      refine ⟨?_, hok.trans (decide_eq_false hout).symm⟩
      exact ⟨E, A, hslots'', hhold, fun _ => hclean''⟩

lemma ActsInOrder.of_append {acts after : List RegsAct} (h : ActsInOrder cfg B (acts ++ after)) :
    ActsInOrder cfg B acts := by
  intro before act rest heq
  apply h before act (rest ++ after)
  rw [heq, List.append_assoc, List.cons_append]

/-- The table of the breakpoints in every state of a session. -/
lemma Session.breaks {packets : List ((ℕ → UInt8) × ℕ)}
    (hrun : Session cfg bus windowbase s packets t)
    (h : s.regs.Breaks cfg false B)
    (hord : ActsInOrder cfg B (sessionActs cfg windowbase packets)) :
    t.regs.Breaks cfg ((sessionActs cfg windowbase packets).any RegsAct.inserts)
      (pointsAfter cfg B (sessionActs cfg windowbase packets)) := by
  induction hrun with
  | nil => exact h
  | @snoc s₁ s₂ packets buffer ptr _ hcmd ih =>
    obtain ⟨act, hact, hregs⟩ := Stub.command_act hcmd
    have hacts : sessionActs cfg windowbase (packets ++ [(buffer, ptr)]) = sessionActs cfg
        windowbase packets ++ [act] := by
      rw [sessionActs, List.filterMap_append, sessionActs]
      simp only [List.filterMap_cons, hact, List.filterMap_nil]
    rw [hacts] at hord ⊢
    have hstep := ((ih hord.of_append).apply (hord _ act [] rfl)).1
    rw [hregs, pointsAfter, List.foldl_append, List.any_append]
    simpa [pointsAfter] using hstep

/-! ## The replies -/

variable {act : RegsAct}

lemma readAct_forBreaks (h : readAct cfg windowbase buffer ptr = some act) :
    act.forBreaks = false := by
  simp only [readAct, Option.bind_eq_bind, Option.bind_eq_some_iff] at h
  obtain ⟨⟨numChars, addr, last⟩, -, h⟩ := h
  cases hplace : regPlace cfg windowbase addr <;> simp only [hplace] at h <;> obtain rfl :=
    Option.some.inj h
  case special sr => split_ifs <;> rfl
  all_goals rfl

lemma writeAct_forBreaks (h : writeAct cfg windowbase buffer ptr = some act) :
    act.forBreaks = false := by
  simp only [writeAct, Option.bind_eq_bind, Option.bind_eq_some_iff] at h
  obtain ⟨_ | ⟨addr, last⟩, -, h⟩ := h
  · obtain rfl := Option.some.inj h
    rfl
  · cases hplace : regPlace cfg windowbase addr <;>
      simp only [hplace, Option.map_eq_map, Option.map_eq_some_iff] at h
    case pc | special sr =>
      obtain ⟨v, -, rfl⟩ := h
      rfl
    all_goals
      obtain rfl := Option.some.inj h
      rfl

/-- The reply of an insertion. -/
lemma Stub.insertBreak_reply (s : Stub) (h : insertAct cfg buffer ptr = some (.insert addr)) :
    ∃ s₁ : Stub, s.insertBreak cfg buffer ptr =
      some (s₁.strcpy (if (RegsAct.insert addr).succeeds cfg s.regs then "OK" else "E02")) := by
  simp only [insertAct, Option.bind_eq_bind, Option.bind_eq_some_iff] at h
  obtain ⟨kind, hkind, h⟩ := h
  by_cases hone : kind ≠ '1'.toUInt8
  · rw [if_pos hone] at h
    cases h
  · rw [if_neg hone, Option.bind_eq_some_iff] at h
    obtain ⟨_ | ⟨addr', last⟩, harg, h⟩ := h
    · cases h
    · simp only [Option.bind_eq_some_iff] at h
      obtain ⟨ch, hch, h⟩ := h
      by_cases hend : ch ≠ 0
      · rw [if_pos hend] at h
        cases h
      · rw [if_neg hend] at h
        obtain rfl := RegsAct.insert.inj (Option.some.inj h)
        simp only [Stub.insertBreak, hkind, harg, hch, Option.bind_eq_bind, Option.bind_some,
          if_neg hone, if_neg hend]
        exact ⟨_, rfl⟩

/-- The reply of a removal. -/
lemma Stub.removeBreak_reply (s : Stub) (h : removeAct cfg buffer ptr = some (.remove addr)) :
    ∃ s₁ : Stub, s.removeBreak cfg buffer ptr =
      some (s₁.strcpy (if (RegsAct.remove addr).succeeds cfg s.regs then "OK" else "E02")) := by
  simp only [removeAct, Option.bind_eq_bind, Option.bind_eq_some_iff] at h
  obtain ⟨kind, hkind, h⟩ := h
  by_cases hone : kind ≠ '1'.toUInt8
  · rw [if_pos hone] at h
    cases h
  · rw [if_neg hone, Option.bind_eq_some_iff] at h
    obtain ⟨_ | ⟨addr', last⟩, harg, h⟩ := h
    · cases h
    · obtain rfl := RegsAct.remove.inj (Option.some.inj h)
      simp only [Stub.removeBreak, hkind, harg, Option.bind_eq_bind, Option.bind_some, if_neg hone]
      exact ⟨_, rfl⟩

lemma insertAct_eq (h : insertAct cfg buffer ptr = some act) (hbreak : act.forBreaks = true) :
    ∃ addr, act = .insert addr := by
  simp only [insertAct, Option.bind_eq_bind, Option.bind_eq_some_iff] at h
  obtain ⟨kind, -, h⟩ := h
  split_ifs at h
  · obtain rfl := Option.some.inj h
    cases hbreak
  · rw [Option.bind_eq_some_iff] at h
    obtain ⟨_ | ⟨addr, last⟩, -, h⟩ := h
    · obtain rfl := Option.some.inj h
      cases hbreak
    · simp only [Option.bind_eq_some_iff] at h
      obtain ⟨ch, -, h⟩ := h
      obtain rfl := Option.some.inj h
      split_ifs at hbreak ⊢
      · cases hbreak
      · exact ⟨addr, rfl⟩

lemma removeAct_eq (h : removeAct cfg buffer ptr = some act) (hbreak : act.forBreaks = true) :
    ∃ addr, act = .remove addr := by
  simp only [removeAct, Option.bind_eq_bind, Option.bind_eq_some_iff] at h
  obtain ⟨kind, -, h⟩ := h
  split_ifs at h
  · obtain rfl := Option.some.inj h
    cases hbreak
  · rw [Option.bind_eq_some_iff] at h
    obtain ⟨_ | ⟨addr, last⟩, -, h⟩ := h
    · obtain rfl := Option.some.inj h
      cases hbreak
    · obtain rfl := Option.some.inj h
      exact ⟨addr, rfl⟩

/-- The reply of a command that changes the table of the breakpoints. -/
lemma Stub.command_break (bus : Bus) (s : Stub) (h : regsAct cfg windowbase buffer ptr = some act)
    (hbreak : act.forBreaks = true) : ∃ s₁ : Stub, s.command cfg bus windowbase buffer ptr =
      some (.reply (s₁.strcpy (if act.succeeds cfg s.regs then "OK" else "E02"))) := by
  simp only [regsAct, Option.bind_eq_bind, Option.bind_eq_some_iff] at h
  obtain ⟨ch, hch, h⟩ := h
  simp only [Stub.command, hch, Option.bind_eq_bind, Option.bind_some]
  by_cases hp : ch = 'p'.toUInt8
  · rw [if_pos hp] at h
    rw [readAct_forBreaks h] at hbreak
    cases hbreak
  · rw [if_neg hp] at h
    by_cases hP : ch = 'P'.toUInt8
    · rw [if_pos hP] at h
      rw [writeAct_forBreaks h] at hbreak
      cases hbreak
    · rw [if_neg hP] at h
      by_cases hZ : ch = 'Z'.toUInt8
      · subst hZ
        rw [if_pos rfl] at h
        obtain ⟨addr, rfl⟩ := insertAct_eq h hbreak
        obtain ⟨s₁, hreply⟩ :=
          ({ s with outBuffer := Function.update s.outBuffer 0 0 } : Stub).insertBreak_reply h
        refine ⟨s₁, ?_⟩
        simp +decide only [if_true, if_false, hreply]
        rfl
      · rw [if_neg hZ] at h
        by_cases hz : ch = 'z'.toUInt8
        · subst hz
          rw [if_pos rfl] at h
          obtain ⟨addr, rfl⟩ := removeAct_eq h hbreak
          obtain ⟨s₁, hreply⟩ :=
            ({ s with outBuffer := Function.update s.outBuffer 0 0 } : Stub).removeBreak_reply h
          refine ⟨s₁, ?_⟩
          simp +decide only [if_true, if_false, hreply]
          rfl
        · rw [if_neg hz] at h
          obtain rfl := Option.some.inj h
          cases hbreak

/-! ## Over all stops -/

/-- The program runs: it changes its memory and its registers, but neither those of the breakpoints
nor the data of the stub. -/
structure Stub.Runs (cfg : Config) (s s' : Stub) : Prop where
  sregs : s'.regs.sregs = s.regs.sregs
  late : s'.regs.sregsLate = s.regs.sregsLate
  enable : s'.regs.special cfg.ibreakEnable = s.regs.special cfg.ibreakEnable
  slot : ∀ i < cfg.numIbreak, s'.regs.special (cfg.ibreakA + i) = s.regs.special (cfg.ibreakA + i)

/-- From `s₀` on the program runs, stops, and goes on behind the commands of the debugger, with what
the commands of each stop have asked of the special registers. -/
inductive Debugging (cfg : Config) (bus : Bus) (s₀ : Stub) : List (List RegsAct) → Stub → Prop
  | start : Debugging cfg bus s₀ [] s₀
  | round {stops : List (List RegsAct)} {s s₁ t t' : Stub} {packets : List ((ℕ → UInt8) × ℕ)}
      {windowbase : U32}
      (buffer : ℕ → UInt8) (ptr : ℕ) (hbefore : Debugging cfg bus s₀ stops s)
        (hprogram : s.Runs cfg s₁)
      (hwindow : windowbase = 4 * (s₁.stop cfg).regs.sregs cfg.windowBase)
      (hsession : Session cfg bus windowbase (s₁.stop cfg) packets t)
      (hlast : t.command cfg bus windowbase buffer ptr = some (.resume t')) :
      Debugging cfg bus s₀ (stops ++ [sessionActs cfg windowbase packets]) (t'.go cfg)

/-- The actions of every stop are in order, with the breakpoints that the stops before it have left.
-/
def StopsInOrder (cfg : Config) (B : Finset U32) (stops : List (List RegsAct)) : Prop :=
  ∀ before acts after, stops = before ++ acts :: after →
    ActsInOrder cfg (pointsAfter cfg B before.flatten) acts

/-- The processor has the breakpoints `B` while the program runs, and the cache still has their
addresses. -/
structure Stub.HasBreaks (cfg : Config) (s : Stub) (B : Finset U32) : Prop where
  late : ∀ sr, s.regs.sregsLate sr = cfg.late.contains sr
  hold : SlotsHold cfg.numIbreak (s.regs.special cfg.ibreakEnable).getLsbD
    (fun i => s.regs.special (cfg.ibreakA + i)) B
  cached : ∀ i < cfg.numIbreak, (s.regs.special cfg.ibreakEnable).getLsbD i = true →
    s.regs.sregs (cfg.ibreakA + i) = s.regs.special (cfg.ibreakA + i)

lemma Stub.HasBreaks.runs (h : s.HasBreaks cfg B) (hruns : s.Runs cfg s') : s'.HasBreaks cfg B := by
  refine ⟨fun sr => by rw [hruns.late, h.late], ?_, fun i hi hon => ?_⟩
  · rw [hruns.enable]
    exact h.hold.congr (fun _ _ => rfl) fun i hi _ => hruns.slot i hi
  · rw [hruns.enable] at hon
    rw [hruns.sregs, hruns.slot i hi, h.cached i hi hon]

/-- When the program stops, the breakpoints stand in the cache. -/
lemma Stub.HasBreaks.stop (h : s.HasBreaks cfg B) : (s.stop cfg).regs.Breaks cfg false B := by
  have hpc : cfg.debugPc ∈ cfg.late := cfg.late_mem.2.2
  have hen : cfg.ibreakEnable ≠ cfg.debugPc := fun heq => cfg.late_ne.1 (heq ▸ hpc)
  have hlevel : ∀ i < cfg.numIbreak, cfg.ibreakA + i ≠ cfg.icountLevel := fun i hi heq => by
    have := (cfg.apart cfg.icountLevel (by simp)).2
    omega
  have hapart : ∀ i < cfg.numIbreak, s.regs.StoppedAt cfg (s.stop cfg).regs (cfg.ibreakA + i) :=
    fun i hi => s.stoppedAt (hlevel i hi) (cfg.level_ne_slot (by simp) hi)
      (cfg.level_ne_slot (by simp) hi)
  have hslot := fun i hi => (hapart i hi).holds h.late (cfg.late_ne_slot hpc hi)
  obtain ⟨henable, hclean⟩ := (s.stoppedAt cfg.enable_ne.2.1 (cfg.enable_ne_level (by simp))
    (cfg.enable_ne_level (by simp))).holds h.late hen
  refine ⟨_, _, ⟨Stub.saved_stop h.late, henable, hclean, fun i hi => (hslot i hi).1,
    fun i hi hon => ?_⟩, h.hold,
    fun _ i hi => (hslot i hi).2⟩
  have hnotlate : ¬cfg.late.contains (cfg.ibreakA + i) = true := by
    rw [List.contains_iff_mem]
    exact fun hmem => cfg.late_ne_slot hmem hi rfl
  rw [(hapart i hi).sregs (cfg.late_ne_slot hpc hi), if_neg hnotlate, h.cached i hi hon]

/-- The command that lets the program go on leaves the breakpoints in the cache. -/
lemma Stub.breaks_resume {inserted : Bool} (h : t.regs.Breaks cfg inserted B)
    (hlast : t.command cfg bus windowbase buffer ptr = some (.resume t')) :
    t'.regs.Breaks cfg inserted B := by
  obtain ⟨r, hr, hregs⟩ := Stub.command_resume hlast
  have hmid : r.Breaks cfg inserted B := by
    rcases hr with rfl | ⟨v, rfl⟩
    · exact h
    · have hpc := (@Regs.Breaks.apply cfg t.regs B inserted h (.pc v) trivial).1
      simpa [RegsAct.inserts, RegsAct.apply, RegsAct.points] using hpc
  rcases hregs with hregs | hregs <;> rw [hregs]
  · exact hmid
  · obtain ⟨E, A, hslots, hhold, hclean⟩ := hmid
    have frame : ∀ sr, sr ≠ cfg.icount → sr ≠ cfg.icountLevel → r.SameAt (r.singleStep cfg) sr :=
      fun sr hcount hlevel =>
      (((Regs.sameAt_set _ _ hcount).trans (Regs.sameAt_markMod _ hcount)).trans
        (Regs.sameAt_set _ _ hlevel)).trans
        (Regs.sameAt_markMod _ hlevel)
    have hframe : ∀ i < cfg.numIbreak, r.SameAt (r.singleStep cfg) (cfg.ibreakA + i) :=
      fun i hi => by
      have hcount := (cfg.apart cfg.icount (by simp)).2
      have hlevel := (cfg.apart cfg.icountLevel (by simp)).2
      exact frame _ (by omega) (by omega)
    exact ⟨E, A, hslots.of_same hslots.saved.set.markMod.set.markMod
      (frame _ cfg.enable_ne.1 cfg.enable_ne.2.1) hframe, hhold,
      fun hins => (hclean hins).of_same hframe⟩

/-- When the program goes on, the processor has the breakpoints. -/
lemma Stub.hasBreaks_go {inserted : Bool} (h : t.regs.Breaks cfg inserted B) :
    (t.go cfg).HasBreaks cfg B := by
  obtain ⟨E, A, hslots, hhold, -⟩ := h
  have hcause : cfg.debugCause ∈ cfg.late := cfg.late_mem.2.1
  have henable : (t.go cfg).regs.special cfg.ibreakEnable = E :=
    Stub.special_go (cfg.apart cfg.ibreakEnable (by simp)).1
      (fun heq => cfg.late_ne.1 (heq ▸ hcause))
      (cfg.enable_ne_level (by simp)) (cfg.enable_ne_level (by simp)) hslots.enable hslots.saved
  have hslot : ∀ i < cfg.numIbreak, (t.go cfg).regs.special (cfg.ibreakA + i) = A i :=
    fun i hi => by
    have := cfg.ibreak_le.2
    exact Stub.special_go (by omega) (cfg.late_ne_slot hcause hi) (cfg.level_ne_slot (by simp) hi)
      (cfg.level_ne_slot (by simp) hi) (hslots.slot i hi) hslots.saved
  refine ⟨fun sr => ?_, ?_, fun i hi hon => ?_⟩
  · simp only [Stub.go, Regs.leave, Regs.restoreSr_eq]
    exact hslots.saved.late sr
  · rw [henable]
    exact hhold.congr (fun _ _ => rfl) fun i hi _ => hslot i hi
  · rw [henable] at hon
    rw [hslot i hi, ← hslots.cached i hi hon]
    simp only [Stub.go, Regs.leave, Regs.restoreSr_eq]

lemma Stub.HasBreaks.start (hlate : ∀ sr, s.regs.sregsLate sr = cfg.late.contains sr)
    (hoff : ∀ i < cfg.numIbreak, (s.regs.special cfg.ibreakEnable).getLsbD i = false) :
    s.HasBreaks cfg ∅ := by
  refine ⟨hlate, .empty hoff, fun i hi hon => ?_⟩
  rw [hoff i hi] at hon
  cases hon

lemma StopsInOrder.of_append {stops after : List (List RegsAct)}
    (h : StopsInOrder cfg B (stops ++ after)) :
    StopsInOrder cfg B stops := by
  intro before acts rest heq
  apply h before acts (rest ++ after)
  rw [heq, List.append_assoc, List.cons_append]

/-- While the program runs the processor has the breakpoints of all stops before. -/
lemma Debugging.hasBreaks {s₀ : Stub} {stops : List (List RegsAct)}
    (hrun : Debugging cfg bus s₀ stops s)
    (h : s₀.HasBreaks cfg B) (hord : StopsInOrder cfg B stops) :
    s.HasBreaks cfg (pointsAfter cfg B stops.flatten) := by
  induction hrun with
  | start => exact h
  | @round stops s s₁ t t' packets windowbase buffer ptr _ hprogram _ hsession hlast ih =>
    have hstop := ((ih hord.of_append).runs hprogram).stop
    have hsess := hsession.breaks hstop (hord stops _ [] rfl)
    rw [List.flatten_append, pointsAfter, List.foldl_append]
    simpa [pointsAfter] using Stub.hasBreaks_go (Stub.breaks_resume hsess hlast)

/-- The packets of a stop that inserts a breakpoint. -/
def insertPacket : (ℕ → UInt8) × ℕ :=
  (patch (fun _ => 0) 0 ("Z1,1234,2".toList.map Char.toUInt8), 0)

lemma oneInOrder : StopsInOrder twoBreakpoints ∅ [[.insert 0x1234]] := by
  intro before acts after heq
  rcases before with _ | ⟨first, before⟩
  · obtain ⟨rfl, rfl⟩ := List.cons.inj heq
    intro before act after heq
    rcases before with _ | ⟨first, before⟩
    · obtain ⟨rfl, rfl⟩ := List.cons.inj heq
      exact Finset.notMem_empty _
    · have hnil := (List.cons.inj heq).2
      simp at hnil
  · have hnil := (List.cons.inj heq).2
    simp at hnil

end Hikey.Gdb
