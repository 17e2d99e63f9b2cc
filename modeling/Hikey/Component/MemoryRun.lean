import Hikey.Component.Memory

/-!
# What a codec gives back

`XaOwns n M s` is the ledger of a codec: the live allocations of the pool are those that the codec
names and `M`.  A block that loses its name goes to `M`; this happens where a memory table takes the
place of a block (`XaPlaceFree` fails), and nowhere else.
-/

namespace Hikey.LocalPool

open Prog

variable {addr size₀ n size align : U32} {M L : Multiset (U32 × U32)}
  {s s' : XaCodecMemory} {b : XaSlot}
  {pool : XfMmPool} {m : XaSetParam} {ms : List XaSetParam} {pre : XaPreinitCmd → XaAnswer}

/-! ## The ledger -/

/-- The allocation of a buffer. -/
def XfMmBuffer.taken (buf : XfMmBuffer) : Multiset (U32 × U32) := xfMmTaken buf.addr buf.size

/-- The allocations that a codec of `n` bytes names. -/
def XaCodecMemory.blocks (n : U32) (s : XaCodecMemory) : Multiset (U32 × U32) :=
  xfMmTaken s.codec n + ((s.slot .api).taken + (s.slot .memTabs).taken + (s.slot .persist).taken) +
    xfMmTaken s.buffer s.length

/-- The live allocations of the pool are `M` and those that the codec names. -/
structure XaOwns (addr size₀ n : U32) (M : Multiset (U32 × U32)) (s : XaCodecMemory) : Prop where
  live : XfMmLive addr size₀ (M + s.blocks n) s.pool
  codec : s.codec ≠ 0
  created : s.buffer ≠ 0 → s.created = true

/-- The state after one buffer of the base has changed. -/
def XaCodecMemory.withSlot (s : XaCodecMemory) (b : XaSlot) (pool : XfMmPool) (buf : XfMmBuffer) :
    XaCodecMemory :=
  { s with pool, slot := Function.update s.slot b buf }

/-- What a buffer names is exchanged. -/
lemma XaCodecMemory.blocks_withSlot (buf : XfMmBuffer) :
    (s.slot b).taken + (s.withSlot b pool buf).blocks n = buf.taken + s.blocks n := by
  cases b <;> simp only [XaCodecMemory.blocks, XaCodecMemory.withSlot, Function.update_self, ne_eq,
    reduceCtorEq, not_false_eq_true, Function.update_of_ne] <;> abel

/-- A buffer changes: its allocation goes to the others. -/
lemma XaOwns.withSlot (h : XaOwns addr size₀ n M s) {buf : XfMmBuffer}
    (hlive : XfMmLive addr size₀ (buf.taken + (M + s.blocks n)) pool) :
    XaOwns addr size₀ n (M + (s.slot b).taken) (s.withSlot b pool buf) := by
  refine ⟨?_, h.codec, h.created⟩
  have heq : M + (s.slot b).taken + (s.withSlot b pool buf).blocks n =
      buf.taken + (M + s.blocks n) := by
    rw [add_assoc, XaCodecMemory.blocks_withSlot]
    abel
  rw [heq]
  exact hlive

/-! ## Allocations -/

lemma ends_xfMemAlloc {Q : U32 → XaCodecMemory → Prop} {E : XaCodecMemory → Prop}
    (h : XfMmLive addr size₀ M s.pool) (hpos : 0 < size.toNat) (hsize : 32 ∣ size.toNat)
    (hQ : ∀ pool p, XfMmLive addr size₀ (xfMmTaken p size + M) pool → Q p { s with pool }) :
    Ends (xfMemAlloc size) Q E s := by
  obtain ⟨pool, p, halloc, hlive⟩ := h.alloc hpos hsize
  exact (ends_update (by rw [halloc]; rfl)).2 (hQ pool p hlive)

lemma ends_xfMemFree {p : U32} {Q : Unit → XaCodecMemory → Prop} {E : XaCodecMemory → Prop}
    (h : XfMmLive addr size₀ ({(p, size)} + M) s.pool)
    (hQ : ∀ pool, XfMmLive addr size₀ M pool → Q ⟨⟩ { s with pool }) :
    Ends (xfMemFree p size) Q E s := by
  obtain ⟨pool, hfree, hlive⟩ := h.free
  exact (ends_update (by rw [hfree]; rfl)).2 (hQ pool hlive)

lemma toNat_pos_of_ne (hne : size ≠ 0) : 0 < size.toNat := by
  by_contra hzero
  exact hne (BitVec.eq_of_toNat_eq (by simpa using hzero))

/-- The buffer `b` of the base has changed, and what it named is lost. -/
def XaReplaced (addr size₀ n : U32) (M : Multiset (U32 × U32)) (b : XaSlot) (s t : XaCodecMemory) :
    Prop :=
  ∃ pool buf, t = s.withSlot b pool buf ∧ XaOwns addr size₀ n (M + (s.slot b).taken) t

/-- A buffer of the base is allocated: whatever it named before goes to the others, in any case. -/
lemma xmalloc_ends (h : XaOwns addr size₀ n M s) :
    Ends (xmalloc b size align) (fun _ => XaReplaced addr size₀ n M b s)
      (XaReplaced addr size₀ n M b s)
      s := by
  let P := XaReplaced addr size₀ n M b s
  have hdone (pool : XfMmPool) (buf : XfMmBuffer)
      (hlive : XfMmLive addr size₀ (buf.taken + (M + s.blocks n)) pool) : P
        (s.withSlot b pool buf) :=
    ⟨pool, buf, rfl, h.withSlot hlive⟩
  have hbuf (pool : XfMmPool) (buf : XfMmBuffer)
      (hlive : XfMmLive addr size₀ (buf.taken + (M + s.blocks n)) pool) :
      Ends (do
        let s ← Prog.get
        Prog.check ((s.slot b).addr &&& (align - 1#32) = 0#32)) (fun _ => P) P
        (s.withSlot b pool buf) := by
    simp only [ends_bind, ends_get, ends_check]
    exact ⟨fun _ => hdone pool buf hlive, fun _ => hdone pool buf hlive⟩
  rw [xmalloc, ends_bind, xfMmAllocBuffer, ends_bind]
  by_cases hsize : xfMm size ≠ 0
  · rw [if_pos hsize, ends_bind]
    refine ends_xfMemAlloc h.live (toNat_pos_of_ne hsize) (dvd_xfMm size) fun pool p hlive => ?_
    simp only [ends_bind, ends_modify, ends_check]
    constructor
    · intro hp
      have hstate : XaCodecMemory.setSlot (XaCodecMemory.setSlot { s with pool } b
          fun buf => { buf with addr := p }) b (fun buf => { buf with size := xfMm size }) =
          s.withSlot b pool ⟨p, xfMm size⟩ := by
        simp only [XaCodecMemory.setSlot, XaCodecMemory.withSlot, Function.update_self,
          Function.update_idem]
      rw [hstate]
      exact hbuf pool ⟨p, xfMm size⟩ hlive
    · intro hp
      obtain rfl : p = 0 := by simpa using hp
      rw [xfMmTaken_null] at hlive
      refine hdone pool ⟨0, (s.slot b).size⟩ ?_
      rw [XfMmBuffer.taken, xfMmTaken_null]
      exact hlive
  · rw [if_neg hsize]
    simp only [ends_modify]
    have hstate : XaCodecMemory.setSlot (XaCodecMemory.setSlot s b
        fun buf => { buf with addr := 0 }) b (fun buf => { buf with size := xfMm size }) =
        s.withSlot b s.pool ⟨0, xfMm size⟩ := by
      simp only [XaCodecMemory.setSlot, XaCodecMemory.withSlot, Function.update_self,
        Function.update_idem]
    rw [hstate]
    refine hbuf s.pool ⟨0, xfMm size⟩ ?_
    rw [XfMmBuffer.taken, xfMmTaken_null, zero_add]
    exact h.live

/-- The buffer of the input port has changed, and what it was is lost. -/
structure XaInputReplaced (addr size₀ n : U32) (M : Multiset (U32 × U32)) (s t : XaCodecMemory) :
    Prop where
  postinit : t.postinit = s.postinit
  owns : XaOwns addr size₀ n (M + xfMmTaken s.buffer s.length) t

/-- The input port is initialized: whatever its buffer was before goes to the others, in any case.
-/
lemma xfInputPortInit_ends (h : XaOwns addr size₀ n M s) (hsize : 32 ∣ size.toNat) :
    Ends (xfInputPortInit size) (fun _ => XaInputReplaced addr size₀ n M s)
      (XaInputReplaced addr size₀ n M s) s := by
  rw [xfInputPortInit, ends_bind]
  have hblocks (pool : XfMmPool) (buffer length : U32) (created : Bool) :
      M + xfMmTaken s.buffer s.length +
        XaCodecMemory.blocks n { s with pool, buffer, length, created } =
      xfMmTaken buffer length + (M + s.blocks n) := by
    simp only [XaCodecMemory.blocks]
    abel
  have hdone (pool : XfMmPool) (buffer : U32)
      (hlive : XfMmLive addr size₀ (xfMmTaken buffer size + (M + s.blocks n)) pool) :
      XaInputReplaced addr size₀ n M s { s with pool, buffer, length := size, created := true } :=
    ⟨rfl, by rw [hblocks]; exact hlive, h.codec, fun _ => rfl⟩
  by_cases hne : size ≠ 0
  · rw [if_pos hne, ends_bind]
    refine ends_xfMemAlloc h.live (toNat_pos_of_ne hne) hsize fun pool p hlive => ?_
    simp only [ends_bind, ends_modify, ends_check]
    constructor
    · intro hp
      exact hdone pool p hlive
    · intro hp
      obtain rfl : p = 0 := by simpa using hp
      rw [xfMmTaken_null, zero_add] at hlive
      refine ⟨rfl, ?_, h.codec, fun hbuffer => absurd rfl hbuffer⟩
      rw [hblocks pool 0 s.length s.created, xfMmTaken_null, zero_add]
      exact hlive
  · rw [if_neg hne]
    simp only [ends_modify]
    refine hdone s.pool 0 ?_
    rw [xfMmTaken_null, zero_add]
    exact h.live

/-! ## Memory tables -/

lemma ends_xaApi {answer : XaAnswer} {Q : U32 → XaCodecMemory → Prop} {E : XaCodecMemory → Prop} :
    Ends (xaApi answer) Q E s ↔ (answer.fatal = false → Q answer.value s) ∧
      (answer.fatal = true → E s) := by
  simp only [xaApi, ends_bind, ends_check, ends_pure, Bool.not_eq_true', Bool.not_eq_false']

/-- The codec owns what it names, but for the blocks `E`, and there are none exactly when `c`. -/
def XaLoses (addr size₀ n : U32) (M : Multiset (U32 × U32)) (s : XaCodecMemory) (c : Prop)
    (t : XaCodecMemory) : Prop :=
  t.postinit = s.postinit ∧ ∃ E, XaOwns addr size₀ n (M + E) t ∧ (E = 0 ↔ c)

/-- Nothing is lost where nothing is done. -/
lemma XaOwns.loses (h : XaOwns addr size₀ n M s) {c : Prop} (hc : c) :
    XaLoses addr size₀ n M s c s :=
  ⟨rfl, 0, by rw [add_zero]; exact h, ⟨fun _ => hc, fun _ => rfl⟩⟩

/-- Persistent memory loses what was in its place. -/
lemma XaReplaced.loses {i : U32} (ht : XaReplaced addr size₀ n M .persist s s')
    (hanswers : m.Answers i)
    (htype : (m.api .getMemInfoType i).value = 0#32) :
    XaLoses addr size₀ n M s (m.Answers i → XaPlaceFree m i s) s' := by
  obtain ⟨pool, buf, rfl, howns⟩ := ht
  refine ⟨rfl, _, howns, xfMmTaken_eq_zero.trans ?_⟩
  constructor
  · intro hnull _
    exact ⟨fun _ => hnull, fun hinput => by simp [htype] at hinput⟩
  · intro hfree
    exact (hfree hanswers).1 htype

/-- An input buffer loses what was in its place. -/
lemma XaInputReplaced.loses {i : U32} (ht : XaInputReplaced addr size₀ n M s s')
    (hanswers : m.Answers i)
    (htype : (m.api .getMemInfoType i).value = 2#32) :
    XaLoses addr size₀ n M s (m.Answers i → XaPlaceFree m i s) s' := by
  refine ⟨ht.postinit, _, ht.owns, xfMmTaken_eq_zero.trans ?_⟩
  constructor
  · intro hnull _
    exact ⟨fun hpersist => by simp [htype] at hpersist, fun _ => hnull⟩
  · intro hfree
    exact (hfree hanswers).2 htype

/-- One memory table loses a block exactly when it takes the place of one. -/
lemma xaBaseMemtab_ends (i : U32) (h : XaOwns addr size₀ n M s)
    (haligned : m.Answers i → XaInputAligned m i s) :
    let P := XaLoses addr size₀ n M s (m.Answers i → XaPlaceFree m i s)
    Ends (xaBaseMemtab m i) (fun _ => P) P s := by
  intro P
  rw [xaBaseMemtab]
  simp only [ends_bind, ends_xaApi]
  refine ⟨fun htype => ?_, fun htype => ?_⟩
  swap
  · exact h.loses fun hanswers => by simp [hanswers.1] at htype
  refine ⟨fun hsize => ?_, fun hsize => ?_⟩
  swap
  · exact h.loses fun hanswers => by simp [hanswers.2.1] at hsize
  refine ⟨fun halign => ?_, fun halign => ?_⟩
  swap
  · exact h.loses fun hanswers => by simp [hanswers.2.2] at halign
  have hanswers : m.Answers i := ⟨htype, hsize, halign⟩
  have hptr {t : XaCodecMemory} (hP : P t) :
      ((m.api .setMemPtr i).fatal = false → P t) ∧ ((m.api .setMemPtr i).fatal = true → P t) :=
    ⟨fun _ => hP, fun _ => hP⟩
  by_cases h1 : (m.api .getMemInfoType i).value = 1#32
  · -- scratch memory
    have hP : P s := h.loses fun _ => ⟨fun h0 => by simp [h1] at h0, fun h2 => by simp [h1] at h2⟩
    rw [if_pos h1]
    simp only [ends_bind, ends_check, ends_xaApi, ends_pure]
    exact ⟨fun _ => ⟨fun _ => hptr hP, fun _ => hP⟩, fun _ => hP⟩
  · rw [if_neg h1]
    by_cases h0 : (m.api .getMemInfoType i).value = 0#32
    · -- persistent memory
      rw [if_pos h0]
      rw [ends_bind]
      refine (xmalloc_ends h).mono (fun _ t ht => ?_) fun t ht => ht.loses hanswers h0
      simp only [ends_bind, ends_xaApi, ends_pure]
      exact hptr (ht.loses hanswers h0)
    · rw [if_neg h0]
      by_cases h2 : (m.api .getMemInfoType i).value = 2#32
      · -- an input buffer
        rw [if_pos (.inl h2), xaCodecMemtab, if_pos h2, ends_bind]
        refine (xfInputPortInit_ends h (haligned hanswers h2)).mono (fun _ t ht => ?_)
          fun t ht => ht.loses hanswers h2
        by_cases hne : (m.api .getMemInfoSize i).value ≠ 0
        · rw [if_pos hne]
          simp only [ends_bind, ends_xaApi, ends_pure]
          exact hptr (ht.loses hanswers h2)
        · rw [if_neg hne, ends_pure]
          exact ht.loses hanswers h2
      · have hP : P s := h.loses fun _ => ⟨fun h0' => absurd h0' h0, fun h2' => absurd h2' h2⟩
        split
        · rw [xaCodecMemtab, if_neg h2, ends_check]
          exact ⟨fun _ => hP, fun _ => hP⟩
        · exact hP

/-- The memory tables lose blocks exactly when one of them takes the place of one. -/
lemma xaBaseMemtabs_ends (k : ℕ) (i : U32) (h : XaOwns addr size₀ n M s)
    (haligned : XaEachMemtab XaInputAligned m k i s) :
    let P := XaLoses addr size₀ n M s (XaEachMemtab XaPlaceFree m k i s)
    Ends (xaBaseMemtabs m k i) (fun _ => P) P s := by
  induction k generalizing i M s with
  | zero => exact h.loses trivial
  | succ k ih =>
    intro P
    obtain ⟨hfirst, hrest⟩ := haligned
    rw [xaBaseMemtabs, ends_bind]
    rcases (xaBaseMemtab_ends i h hfirst).cases with
      ⟨_, t, hrun, hpost, E, howns, hE⟩ | ⟨t, hrun, hpost, E, howns, hE⟩
    · rw [ends_of_ok hrun]
      rw [wp_of_ok hrun] at hrest
      have hstep (u : XaCodecMemory)
          (hu : XaLoses addr size₀ n (M + E) t (XaEachMemtab XaPlaceFree m k (i + 1#32) t) u) : P
            u := by
        obtain ⟨hpost', E', howns', hE'⟩ := hu
        refine ⟨hpost'.trans hpost, E + E', by rw [← add_assoc]; exact howns', ?_⟩
        rw [add_eq_zero, hE, hE', XaEachMemtab, wp_of_ok hrun]
      exact (ih _ howns hrest).mono (fun _ => hstep) hstep
    · rw [ends_of_error hrun]
      refine ⟨hpost, E, howns, hE.trans ?_⟩
      rw [XaEachMemtab, wp_of_error hrun, and_true]

/-! ## Commands -/

/-- The parameters take no memory, and all of them are set unless the plugin refuses one. -/
lemma xaBaseSetParams_ends (k : ℕ) (i : U32) :
    Ends (xaBaseSetParams m k i)
      (fun _ t => t = s ∧ ∀ j < k, (m.api .setConfigParam (i + BitVec.ofNat 32 j)).fatal = false)
      (fun t => t = s ∧ ¬∀ j < k, (m.api .setConfigParam (i + BitVec.ofNat 32 j)).fatal = false)
      s := by
  induction k generalizing i with
  | zero => exact ⟨rfl, fun j hj => absurd hj (Nat.not_lt_zero j)⟩
  | succ k ih =>
    have hnext (j : ℕ) : i + 1#32 + BitVec.ofNat 32 j = i + BitVec.ofNat 32 (j + 1) := by
      rw [add_assoc, BitVec.ofNat_add, add_comm (1#32)]
    have hzero : i + BitVec.ofNat 32 0 = i := BitVec.add_zero i
    rw [xaBaseSetParams]
    simp only [ends_bind, ends_xaApi]
    refine ⟨fun hfirst => (ih (i + 1#32)).mono (fun _ t ht => ⟨ht.1, ?_⟩) fun t ht => ⟨ht.1, ?_⟩,
      fun hfirst => ⟨trivial, fun hall => ?_⟩⟩
    · intro j hj
      cases j with
      | zero => rw [hzero]; exact hfirst
      | succ j => rw [← hnext]; exact ht.2 j (Nat.lt_of_succ_lt_succ hj)
    · intro hall
      refine ht.2 fun j hj => ?_
      rw [hnext]
      exact hall (j + 1) (Nat.succ_lt_succ hj)
    · have := hall 0 (Nat.succ_pos k)
      rw [hzero, hfirst] at this
      cases this

/-- A command loses blocks exactly when one of its memory tables takes the place of one. -/
lemma xaBaseSetParam_ends (h : XaOwns addr size₀ n M s)
    (haligned : m.Starts → s.postinit = false → XaEachMemtab XaInputAligned m m.memtabs 0#32 s) :
    let P := fun t => ∃ E, XaOwns addr size₀ n (M + E) t ∧
      (E = 0 ↔ (m.Starts → s.postinit = false → XaEachMemtab XaPlaceFree m m.memtabs 0#32 s))
    Ends (xaBaseSetParam m) (fun _ => P) P s := by
  intro P
  have hkeep (hno : ¬(m.Starts ∧ s.postinit = false)) : P s :=
    ⟨0, by rw [add_zero]; exact h,
      ⟨fun _ hstarts hpost => absurd ⟨hstarts, hpost⟩ hno, fun _ => rfl⟩⟩
  rw [xaBaseSetParam]
  simp only [ends_bind, ends_check, decide_eq_true_eq, decide_eq_false_iff_not]
  refine ⟨fun hlength => (xaBaseSetParams_ends _ _).mono (fun _ t ht => ?_) fun t ht => ?_,
    fun hlength => hkeep fun hstarts => hlength hstarts.1.1⟩
  · obtain ⟨rfl, hparams⟩ := ht
    simp only [BitVec.zero_add] at hparams
    rw [ends_bind, ends_get]
    by_cases hpost : t.postinit = false
    · rw [if_pos (by rw [hpost]; rfl), xaBasePostinit]
      simp only [ends_bind, ends_xaApi]
      refine ⟨fun hinit => ⟨fun hnum => ?_, fun hnum => hkeep fun hstarts => ?_⟩,
        fun hinit => hkeep fun hstarts => ?_⟩
      · have hstarts : m.Starts := ⟨hlength, hparams, hinit, hnum⟩
        have hdone (u : XaCodecMemory) (post : Bool)
            (hu : XaLoses addr size₀ n M t (XaEachMemtab XaPlaceFree m m.memtabs 0#32 t) u) :
            P { u with postinit := post } := by
          obtain ⟨-, E, howns, hE⟩ := hu
          exact ⟨E, ⟨howns.live, howns.codec, howns.created⟩,
            hE.trans ⟨fun hfit _ _ => hfit, fun hfit => hfit hstarts hpost⟩⟩
        exact (xaBaseMemtabs_ends m.memtabs 0#32 h (haligned hstarts hpost)).mono
          (fun _ u hu => hdone u _ hu) fun u hu => hdone u u.postinit hu
      · simp [hstarts.1.2.2.2] at hnum
      · simp [hstarts.1.2.2.1] at hinit
    · rw [if_neg (by simpa using hpost), ends_pure]
      exact hkeep fun hstarts => hpost hstarts.2
  · obtain ⟨rfl, hparams⟩ := ht
    simp only [BitVec.zero_add] at hparams
    exact hkeep fun hstarts => hparams hstarts.1.2.1

/-- The commands lose blocks exactly when a memory table takes the place of one. -/
lemma xaSetParamCalls_ends (h : XaOwns addr size₀ n M s)
    (haligned : XaEachCall XaInputAligned ms s) :
    Ends (xaSetParamCalls ms)
      (fun _ t => ∃ E, XaOwns addr size₀ n (M + E) t ∧ (E = 0 ↔ XaEachCall XaPlaceFree ms s))
      (fun _ => False) s := by
  induction ms generalizing M s with
  | nil => exact ⟨0, by rw [add_zero]; exact h, ⟨fun _ => trivial, fun _ => rfl⟩⟩
  | cons m ms ih =>
    obtain ⟨hfirst, hrest⟩ := haligned
    rw [xaSetParamCalls, ends_bind]
    have hcall := xaBaseSetParam_ends h hfirst
    have hcall' : Ends (Prog.orElse (xaBaseSetParam m) (pure ⟨⟩)) (fun _ t => ∃ E,
        XaOwns addr size₀ n (M + E) t ∧
          (E = 0 ↔ (m.Starts → s.postinit = false → XaEachMemtab XaPlaceFree m m.memtabs 0#32 s)))
        (fun _ => False) s := ends_orElse.2 (hcall.mono (fun _ _ => id) fun _ => id)
    rcases hcall'.cases with ⟨_, t, hrun, E, howns, hE⟩ | ⟨_, -, hfalse⟩
    · rw [ends_of_ok hrun]
      rw [wp_of_ok hrun] at hrest
      refine (ih howns hrest).mono (fun _ u hu => ?_) fun _ => id
      obtain ⟨E', howns', hE'⟩ := hu
      refine ⟨E + E', by rw [← add_assoc]; exact howns', ?_⟩
      rw [add_eq_zero, hE, hE', XaEachCall, wp_of_ok hrun]
    · exact hfalse.elim

/-! ## Creation and destruction -/

/-- A buffer of the base is released. -/
lemma xfMmFreeBuffer_ends {Q : Unit → XaCodecMemory → Prop} {E : XaCodecMemory → Prop}
    (h : XfMmLive addr size₀ ((s.slot b).taken + M) s.pool)
    (hQ : ∀ pool, XfMmLive addr size₀ M pool → Q ⟨⟩ { s with pool }) :
    Ends (xfMmFreeBuffer b) Q E s := by
  rw [xfMmFreeBuffer, ends_bind, ends_get]
  rw [XfMmBuffer.taken] at h
  by_cases hne : (s.slot b).addr ≠ 0
  · rw [if_pos hne]
    rw [xfMmTaken_of_ne hne] at h
    exact ends_xfMemFree h hQ
  · rw [if_neg hne, ends_pure]
    rw [not_not.1 hne, xfMmTaken_null, zero_add] at h
    exact hQ s.pool h

/-- The base releases what it names. -/
lemma xaBaseDestroy_ends {E : XaCodecMemory → Prop} (hcodec : s.codec ≠ 0)
    (h : XfMmLive addr size₀ (M + (xfMmTaken s.codec n +
      ((s.slot .api).taken + (s.slot .memTabs).taken + (s.slot .persist).taken))) s.pool) :
    Ends (xaBaseDestroy n) (fun _ t => XfMmLive addr size₀ M t.pool) E s := by
  rw [xfMmTaken_of_ne hcodec] at h
  have horder : M + ({(s.codec, n)} +
      ((s.slot .api).taken + (s.slot .memTabs).taken + (s.slot .persist).taken)) =
      (s.slot .persist).taken + ((s.slot .memTabs).taken + ((s.slot .api).taken +
        ({(s.codec, n)} + M))) := by abel
  rw [horder] at h
  rw [xaBaseDestroy, ends_bind]
  refine xfMmFreeBuffer_ends h fun pool₁ h₁ => ?_
  rw [ends_bind]
  refine xfMmFreeBuffer_ends h₁ fun pool₂ h₂ => ?_
  rw [ends_bind]
  refine xfMmFreeBuffer_ends h₂ fun pool₃ h₃ => ?_
  rw [ends_bind, ends_get]
  exact ends_xfMemFree h₃ fun pool₄ h₄ => h₄

/-- A codec that is destroyed releases what it names. -/
lemma xaAudioCodecDestroy_ends {sizeof : U32} {E : XaCodecMemory → Prop}
    (h : XaOwns addr size₀ (xfMm sizeof) M s) :
    Ends (xaAudioCodecDestroy sizeof) (fun _ t => XfMmLive addr size₀ M t.pool) E s := by
  have hlive := h.live
  rw [XaCodecMemory.blocks, ← add_assoc] at hlive
  rw [xaAudioCodecDestroy, ends_bind, xfInputPortDestroy, ends_bind, ends_get]
  by_cases hbuffer : s.buffer ≠ 0
  · rw [xfMmTaken_of_ne hbuffer, add_comm] at hlive
    rw [if_pos (h.created hbuffer), ends_bind, if_pos hbuffer, ends_bind]
    refine ends_xfMemFree hlive fun pool hpool => ?_
    simp only [ends_modify]
    exact xaBaseDestroy_ends h.codec hpool
  · rw [not_not.1 hbuffer, xfMmTaken_null, add_zero] at hlive
    by_cases hcreated : s.created = true
    · rw [if_pos hcreated, ends_bind, if_neg hbuffer]
      simp only [ends_modify, ends_pure]
      exact xaBaseDestroy_ends h.codec hlive
    · rw [if_neg hcreated, ends_pure]
      exact xaBaseDestroy_ends h.codec hlive

/-- Before the memory tables nothing takes the place of a block. -/
lemma xaBasePreinit_ends (h : XaOwns addr size₀ n M s) (hapi : (s.slot .api).addr = 0)
    (hmemTabs : (s.slot .memTabs).addr = 0) :
    let P := fun t => XaOwns addr size₀ n M t ∧ t.buffer = s.buffer
    Ends (xaBasePreinit pre) (fun _ => P) P s := by
  intro P
  have hslot {t : XaCodecMemory} (ht : P t) (b : XaSlot) (hb : (t.slot b).addr = 0)
      (u : XaCodecMemory)
      (hu : XaReplaced addr size₀ n M b t u) : P u := by
    obtain ⟨pool, buf, rfl, howns⟩ := hu
    rw [XfMmBuffer.taken, hb, xfMmTaken_null, add_zero] at howns
    exact ⟨howns, ht.2⟩
  have hstart : P s := ⟨h, rfl⟩
  rw [xaBasePreinit]
  simp only [ends_bind, ends_get, ends_check, ends_xaApi]
  refine ⟨fun _ => ⟨fun _ => ?_, fun _ => hstart⟩, fun _ => hstart⟩
  refine (xmalloc_ends h).mono (fun _ t ht => ?_) (hslot hstart .api hapi)
  have hP := hslot hstart .api hapi t ht
  have hmemTabs' : (t.slot .memTabs).addr = 0 := by
    obtain ⟨pool, buf, rfl, -⟩ := ht
    have hne : XaSlot.memTabs ≠ XaSlot.api := by decide
    exact (congrArg XfMmBuffer.addr (Function.update_of_ne hne buf s.slot)).trans hmemTabs
  simp only [ends_bind, ends_xaApi]
  refine ⟨fun _ => ⟨fun _ => ?_, fun _ => hP⟩, fun _ => hP⟩
  split
  · rw [ends_bind]
    refine (xmalloc_ends hP.1).mono (fun _ u hu => ?_) (hslot hP .memTabs hmemTabs')
    have hP' := hslot hP .memTabs hmemTabs' u hu
    simp only [ends_bind, ends_xaApi, ends_pure]
    exact ⟨fun _ => hP', fun _ => hP'⟩
  · exact hP

/-- A codec that is created owns what it names, and one that is not has taken nothing. -/
lemma xaAudioCodecFactory_ends {sizeof : U32} (pre : XaPreinitCmd → XaAnswer)
    (h : XfMmLive addr size₀ L pool)
    (hsizeof : xfMm sizeof ≠ 0) :
    Ends (xaAudioCodecFactory pre sizeof) (fun _ => XaOwns addr size₀ (xfMm sizeof) L)
      (fun t => XfMmLive addr size₀ L t.pool) (.reset pool 0) := by
  rw [xaAudioCodecFactory, xaBaseFactory, ends_bind]
  refine ends_xfMemAlloc (s := .reset pool 0) h (toNat_pos_of_ne hsizeof) (dvd_xfMm sizeof)
    fun pool' p hlive => ?_
  simp only [ends_bind, ends_check, ends_modify, ends_orElse]
  constructor
  · intro hp
    have hp' : p ≠ 0 := by simpa using hp
    have howns : XaOwns addr size₀ (xfMm sizeof) L (.reset pool' p) := by
      refine ⟨?_, hp', fun hbuffer => absurd rfl hbuffer⟩
      simp only [XaCodecMemory.blocks, XaCodecMemory.reset, XfMmBuffer.taken,
        xfMmTaken_null, add_zero]
      rw [add_comm]
      exact hlive
    refine (xaBasePreinit_ends howns rfl rfl).mono (fun _ _ => And.left) fun t ht => ?_
    obtain ⟨howns', hbuffer⟩ := ht
    have hlive' := howns'.live
    rw [XaCodecMemory.blocks, hbuffer, XaCodecMemory.reset, xfMmTaken_null, add_zero] at hlive'
    exact (xaBaseDestroy_ends howns'.codec hlive').mono (fun _ _ => id) fun _ => id
  · intro hp
    obtain rfl : p = 0 := by simpa using hp
    rw [xfMmTaken_null, zero_add] at hlive
    exact hlive

/-- The whole life of a codec. -/
lemma xaCodecLife_ends {sizeof : U32} (h : XfMmLive addr size₀ L pool) (hsizeof : xfMm sizeof ≠ 0)
    (haligned : XaEachReached XaInputAligned pre ms sizeof pool) :
    Ends (xaCodecLife pre ms sizeof)
      (fun _ t => ∃ E, XfMmLive addr size₀ (E + L) t.pool ∧
        (E = 0 ↔ XaEachReached XaPlaceFree pre ms sizeof pool)) (fun _ => False)
        (.reset pool 0) := by
  rw [xaCodecLife, ends_orElse, ends_bind]
  rcases (xaAudioCodecFactory_ends pre h hsizeof).cases with ⟨_, t, hrun, howns⟩ | ⟨t, hrun, hlive⟩
  · rw [XaEachReached, wp_of_ok hrun] at haligned
    rw [ends_of_ok hrun, ends_bind]
    refine (xaSetParamCalls_ends howns haligned).mono (fun _ u hu => ?_) fun _ hfalse => hfalse.elim
    obtain ⟨E, howns', hE⟩ := hu
    refine (xaAudioCodecDestroy_ends howns').mono (fun _ v hv => ⟨E, ?_, ?_⟩) fun _ => id
    · rw [add_comm]
      exact hv
    · rw [hE, XaEachReached, wp_of_ok hrun]
  · rw [ends_of_error hrun, ends_pure]
    refine ⟨0, ?_, fun _ => ?_, fun _ => rfl⟩
    · rw [zero_add]
      exact hlive
    · rw [XaEachReached, wp_of_error hrun]
      trivial

/-- The life of a codec gives back the free bytes exactly when no memory table takes the place of a
block. -/
lemma xaGivesBack_iff {sizeof : U32} (h : XfMmLive addr size₀ L pool) (hsizeof : xfMm sizeof ≠ 0)
    (haligned : XaEachReached XaInputAligned pre ms sizeof pool) :
    XaGivesBack pre ms sizeof pool ↔ XaEachReached XaPlaceFree pre ms sizeof pool := by
  rcases (xaCodecLife_ends h hsizeof haligned).cases with ⟨_, t, hrun, E, hlive,
    hE⟩ | ⟨_, -, hfalse⟩
  · rw [← hE, ← h.freeBytes_eq_iff hlive]
    constructor
    · rintro ⟨u, hrun', hfree⟩
      rw [hrun] at hrun'
      cases hrun'
      exact hfree
    · intro hfree
      exact ⟨t, hrun, hfree⟩
  · exact hfalse.elim

/-- A codec that lives on the pool of an allocator in use gives back the free bytes when no memory
table that is reached takes the place of a block and the input buffers have sizes that the allocator
can deal with; with such sizes it does so only then. -/
theorem xaCodecLife_exact {sizeof : U32} {pool₀ : XfMmPool} {used : XfMmState}
    (haddr : 32 ∣ addr.toNat) (hsize : 32 ∣ size.toNat) (hpos : 0 < size.toNat)
    (hwrap : addr.toNat + size.toNat ≤ 2 ^ 32) (hinit : xfMmInit pool₀ addr size = some (some pool))
    (hrun : Relation.ReflTransGen XfMmStep ⟨pool, []⟩ used) (hsizeof : xfMm sizeof ≠ 0)
    (pre : XaPreinitCmd → XaAnswer) (ms : List XaSetParam) :
    (XaEachReached XaPlaceFree pre ms sizeof used.pool →
      XaEachReached XaInputAligned pre ms sizeof used.pool → XaGivesBack pre ms sizeof used.pool) ∧
    (XaEachReached XaInputAligned pre ms sizeof used.pool → XaGivesBack pre ms sizeof used.pool →
      XaEachReached XaPlaceFree pre ms sizeof used.pool) := by
  have hlive := XfMmLive.of_run haddr hsize hpos hwrap hinit hrun
  constructor
  · intro hfree haligned
    exact (xaGivesBack_iff hlive hsizeof haligned).2 hfree
  · intro haligned hback
    exact (xaGivesBack_iff hlive hsizeof haligned).1 hback

/-- The answers of a plugin with a structure of 32 bytes. -/
def preSmall : XaPreinitCmd → XaAnswer
  | .getApiSize => ⟨false, 32#32⟩
  | _ => ⟨false, 0#32⟩

/-- A command without parameters, the plugin asking for `n` tables of 32 bytes of persistent memory.
-/
def setParamPersist (n : U32) : XaSetParam where
  length := 0
  api
    | .getNMemtabs, _ => ⟨false, n⟩
    | .getMemInfoSize, _ => ⟨false, 32#32⟩
    | .getMemInfoAlignment, _ => ⟨false, 4#32⟩
    | _, _ => ⟨false, 0#32⟩

/-- An allocator with 1024 bytes. -/
def poolSmall : XfMmPool := ((xfMmInit xfMmRawPool 4096#32 1024#32).bind id).getD xfMmRawPool

lemma xfMmInit_small : xfMmInit xfMmRawPool 4096#32 1024#32 = some (some poolSmall) := rfl

/-- The codec after its creation, and after its first table of persistent memory. -/
lemma factory_small : ∃ t, xaAudioCodecFactory preSmall 256#32 (.reset poolSmall 0) = .ok ⟨⟩ t ∧
    t.postinit = false ∧ (t.slot .persist).addr = 0 ∧
      ∃ u, xaBaseMemtab (setParamPersist 2) 0#32 t = .ok ⟨⟩ u ∧ (u.slot .persist).addr ≠ 0 :=
  ⟨_, rfl, rfl, rfl, _, rfl, by decide⟩

/-- A plugin that asks for persistent memory only does not ask for input buffers. -/
lemma setParamPersist_aligned (k : ℕ) (i : U32) (s : XaCodecMemory) :
    XaEachMemtab XaInputAligned (setParamPersist n) k i s := by
  induction k generalizing i s with
  | zero => trivial
  | succ k ih =>
    have htype : (0#32 : U32) ≠ 2#32 := by decide
    refine ⟨fun _ hinput => absurd hinput htype, ?_⟩
    exact wp_mono wp_trivial (fun _ t _ => ih _ t) fun _ => id

lemma setParamPersist_reached (pool : XfMmPool) :
    XaEachReached XaInputAligned pre [setParamPersist n] 256#32 pool :=
  wp_mono wp_trivial (fun _ t _ => ⟨fun _ _ => setParamPersist_aligned _ _ t, wp_trivial⟩)
    fun _ => id

/-- A codec with one table of persistent memory. -/
theorem xaCodecLife_exact_persist :
    xfMmInit xfMmRawPool 4096#32 1024#32 = some (some poolSmall) ∧
      XaGivesBack preSmall [setParamPersist 1] 256#32 poolSmall := by
  have hrun₀ : Relation.ReflTransGen XfMmStep ⟨poolSmall, []⟩ ⟨poolSmall, []⟩ := .refl
  refine ⟨xfMmInit_small,
    (xaCodecLife_exact (by decide) (by decide) (by decide) (by decide) xfMmInit_small
    hrun₀ (by decide) preSmall [setParamPersist 1]).1 ?_ (setParamPersist_reached poolSmall)⟩
  obtain ⟨t, hrun, -, hpersist, -⟩ := factory_small
  rw [XaEachReached, wp_of_ok hrun]
  have hone : (setParamPersist 1).memtabs = 1 := rfl
  refine ⟨fun _ _ => ?_, wp_trivial⟩
  rw [hone]
  have htype : ((setParamPersist 1).api .getMemInfoType 0#32).value ≠ 2#32 := by decide
  exact ⟨fun _ => ⟨fun _ => hpersist, fun hinput => absurd hinput htype⟩, wp_trivial⟩

/-- A codec with two tables of persistent memory, of which the first is never released. -/
theorem xaCodecLife_exact_twice :
    xfMmInit xfMmRawPool 4096#32 1024#32 = some (some poolSmall) ∧
      ¬XaGivesBack preSmall [setParamPersist 2] 256#32 poolSmall := by
  refine ⟨xfMmInit_small, fun hback => ?_⟩
  have hrun₀ : Relation.ReflTransGen XfMmStep ⟨poolSmall, []⟩ ⟨poolSmall, []⟩ := .refl
  have hlive := XfMmLive.of_run (by decide) (by decide) (by decide) (by decide) xfMmInit_small hrun₀
  have hfree := (xaGivesBack_iff hlive (by decide) (setParamPersist_reached poolSmall)).1 hback
  obtain ⟨t, hrun, hpost, -, u, htable, hne⟩ := factory_small
  rw [XaEachReached, wp_of_ok hrun] at hfree
  have htwo : (setParamPersist 2).memtabs = 2 := rfl
  have hstarts : (setParamPersist 2).Starts :=
    ⟨by decide, fun k hk => absurd hk (Nat.not_lt_zero k), rfl, rfl⟩
  have htables := hfree.1 hstarts hpost
  rw [htwo] at htables
  have hsecond := htables.2
  rw [wp_of_ok htable] at hsecond
  exact hne ((hsecond.1 ⟨rfl, rfl, rfl⟩).1 rfl)

end Hikey.LocalPool
