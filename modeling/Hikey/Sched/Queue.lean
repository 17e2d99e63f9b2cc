import Hikey.Foundation.Run
import Hikey.Foundation.Window
import Hikey.Sched.Shape

/-!
# The scheduler is a priority queue with a moving clock

A run of the scheduler is compared with the list of its queued tasks in the order in which they were
put, each with its deadline.  As long as all deadlines lie less than half the range of the
timestamps ahead of the scheduler's timestamp, the comparison of timestamps is the order of the
forward distances, and the tree keeps the tasks sorted by it, first-in first-out among equal
deadlines (`XfSchedOk`).
-/

namespace Hikey

open RbTree

/-- Forward distance of a deadline from the scheduler's timestamp, modulo `2 ^ 32`. -/
def xfSchedAhead (sched : XfSched) (d : U32) : ℕ := (d - xfSchedTimestamp sched).toNat

/-- The tasks of a list with the timestamps that the scheduler's memory holds for them. -/
def xfSchedEntries (sched : XfSched) (L : List U32) : List (U32 × U32) :=
  L.map fun x => (x, xfTaskTimestamp sched x)

/-- The tree holds the queued tasks `Q`, listed with their deadlines in the order of their arrival:
all of them inside the window, sorted by distance and first-in first-out at equal deadlines. -/
structure XfSchedOk (sched : XfSched) (Q : List (U32 × U32)) (L : List U32) : Prop
    extends XfSchedShape sched L where
  perm : (xfSchedEntries sched L).Perm Q
  window : ∀ e ∈ Q, xfSchedAhead sched e.2 < 2 ^ 31
  sorted : (xfSchedEntries sched L).Pairwise fun e e' =>
    xfSchedAhead sched e.2 ≤ xfSchedAhead sched e'.2
  fifo : ∀ d, (xfSchedEntries sched L).filter (fun e => e.2 = d) = Q.filter fun e => e.2 = d

variable {sched sched' : XfSched} {Q : List (U32 × U32)} {L : List U32} {t dts : U32}

/-! ## Timestamps inside the window -/

lemma xfSchedEntries_congr (h : ∀ x ∈ L, xfTaskTimestamp sched' x = xfTaskTimestamp sched x) :
    xfSchedEntries sched' L = xfSchedEntries sched L :=
  List.map_congr_left fun x hx => by rw [h x hx]

/-- The scheduler's timestamp is even: its last bit is the black colour of the sentinel. -/
lemma XfSchedShape.even (h : XfSchedShape sched L) : 2 ∣ (xfSchedTimestamp sched).toNat := by
  obtain ⟨T, hT, -⟩ := h.holds
  have hnull : (sched none).color &&& 1#32 = 0#32 := by simpa [isBlack] using hT.null
  have := congrArg BitVec.toNat hnull
  rw [BitVec.toNat_and, show (1#32).toNat = 2 ^ 1 - 1 from rfl,
    Nat.and_two_pow_sub_one_eq_mod] at this
  exact Nat.dvd_of_mod_eq_zero (by simpa [xfSchedTimestamp] using this)

/-- The distance of a stored timestamp is even. -/
lemma XfSchedShape.even_ahead (h : XfSchedShape sched L) (d : U32) :
    2 ∣ xfSchedAhead sched (d &&& ~~~1#32) := by
  have := h.even
  have := (xfSchedTimestamp sched).isLt
  rw [xfSchedAhead, BitVec.toNat_sub, toNat_and_not_one]
  omega

/-- The distance of a new deadline. -/
lemma XfSchedShape.ahead_new (h : XfSchedShape sched L) (hdts : dts.toNat < 2 ^ 31) :
    xfSchedAhead sched ((xfSchedTimestamp sched + dts) &&& ~~~1#32) = dts.toNat / 2 * 2 := by
  have := h.even
  have := (xfSchedTimestamp sched).isLt
  rw [xfSchedAhead, BitVec.toNat_sub, toNat_and_not_one, BitVec.toNat_add]
  omega

/-- The comparison of a new timestamp with a stored one compares their distances. -/
lemma XfSchedShape.before_iff (h : XfSchedShape sched L) (hdts : dts.toNat < 2 ^ 31) {x : U32}
    (hx : xfSchedAhead sched (xfTaskTimestamp sched x) < 2 ^ 31) :
    xfTimestampBefore (xfSchedTimestamp sched + dts) (xfTaskTimestamp sched x) ↔
      xfSchedAhead sched ((xfSchedTimestamp sched + dts) &&& ~~~1#32) <
        xfSchedAhead sched (xfTaskTimestamp sched x) := by
  have hnew : (xfSchedTimestamp sched + dts - xfSchedTimestamp sched).toNat = dts.toNat := by
    rw [BitVec.add_comm, BitVec.add_sub_cancel]
  have heven : 2 ∣ xfSchedAhead sched (xfTaskTimestamp sched x) := by
    have := h.even_ahead (xfTaskTimestamp sched x)
    rwa [xfTaskTimestamp, BitVec.and_assoc, BitVec.and_self] at this
  rw [xfTimestampBefore, msb_sub_iff (xfSchedTimestamp sched) (by decide)
    (by rw [hnew]; exact hdts) hx, hnew, h.ahead_new hdts]
  unfold xfSchedAhead at *
  omega

/-- Two deadlines at the same distance are equal. -/
lemma xfSchedAhead_inj {d d' : U32} (h : xfSchedAhead sched d = xfSchedAhead sched d') :
    d = d' := by
  have := BitVec.eq_of_toNat_eq h
  calc d = (d - xfSchedTimestamp sched) + xfSchedTimestamp sched := by abel
    _ = (d' - xfSchedTimestamp sched) + xfSchedTimestamp sched := by rw [this]
    _ = d' := by abel

namespace XfSchedOk

/-- A queued task is in the tree, with its deadline. -/
lemma mem_iff (h : XfSchedOk sched Q L) {e : U32 × U32} :
    e ∈ Q ↔ e.1 ∈ L ∧ xfTaskTimestamp sched e.1 = e.2 := by
  rw [← h.perm.mem_iff, xfSchedEntries, List.mem_map]
  constructor
  · rintro ⟨x, hx, rfl⟩
    exact ⟨hx, rfl⟩
  · rintro ⟨hx, hts⟩
    exact ⟨e.1, hx, by rw [hts]⟩

lemma mem_map_fst (h : XfSchedOk sched Q L) : t ∈ Q.map Prod.fst ↔ t ∈ L := by
  rw [List.mem_map]
  constructor
  · rintro ⟨e, he, rfl⟩
    exact (h.mem_iff.mp he).1
  · exact fun ht => ⟨(t, xfTaskTimestamp sched t), h.mem_iff.mpr ⟨ht, rfl⟩, rfl⟩

lemma nodup (h : XfSchedOk sched Q L) : (Q.map Prod.fst).Nodup := by
  refine ((h.perm.map Prod.fst).nodup_iff).mp ?_
  simpa [xfSchedEntries, Function.comp_def] using h.holds.nodup

lemma ahead_lt (h : XfSchedOk sched Q L) {x : U32} (hx : x ∈ L) :
    xfSchedAhead sched (xfTaskTimestamp sched x) < 2 ^ 31 :=
  h.window _ (h.mem_iff (e := (x, _)).mpr ⟨hx, rfl⟩)

/-! ## Entry points -/

/-- `xf_sched_put` of a task that is not queued, with a deadline inside the window. -/
lemma put (h : XfSchedOk sched Q L) (ht : t ∉ Q.map Prod.fst) (hdts : dts.toNat < 2 ^ 31) :
    ∃ sched' L', xfSchedPut sched t (xfSchedTimestamp sched + dts) = some sched' ∧
      XfSchedOk sched' (Q ++ [(t, (xfSchedTimestamp sched + dts) &&& ~~~1#32)]) L' ∧
      xfSchedTimestamp sched' = xfSchedTimestamp sched := by
  have htL : t ∉ L := fun hmem => ht (h.mem_map_fst.mpr hmem)
  have hbefore : ∀ x ∈ L,
      xfTimestampBefore (xfSchedTimestamp sched + dts) (xfTaskTimestamp sched x) ↔
        xfSchedAhead sched ((xfSchedTimestamp sched + dts) &&& ~~~1#32) <
          xfSchedAhead sched (xfTaskTimestamp sched x) :=
    fun x hx => h.before_iff hdts (h.ahead_lt hx)
  have hnew := h.ahead_new hdts
  have hsortedL : L.Pairwise fun x y => xfSchedAhead sched (xfTaskTimestamp sched x) ≤
      xfSchedAhead sched (xfTaskTimestamp sched y) := by
    have := h.sorted
    rwa [xfSchedEntries, List.pairwise_map] at this
  obtain ⟨sched', as, bs, hres, hL, hshape, hts, hnow, hsort⟩ :=
    h.toXfSchedShape.put htL (xfSchedTimestamp sched + dts)
  obtain ⟨has, hbs⟩ := hsort (hsortedL.imp_of_mem fun {x y} hx hy hxy hle => by
    simp only [Bool.not_eq_true', ← Bool.not_eq_true] at hle ⊢
    rw [hbefore y hy] at hle
    rw [hbefore x hx]
    omega)
  set d := (xfSchedTimestamp sched + dts) &&& ~~~1#32 with hd
  have hahead : ∀ d', xfSchedAhead sched' d' = xfSchedAhead sched d' := fun d' => by
    rw [xfSchedAhead, xfSchedAhead, hnow]
  have hold : ∀ x ∈ L, xfTaskTimestamp sched' x = xfTaskTimestamp sched x := fun x hx => by
    rw [hts, if_neg (fun hxt : x = t => htL (hxt ▸ hx))]
  have hasL : ∀ x ∈ as, x ∈ L := fun x hx => hL ▸ List.mem_append_left _ hx
  have hbsL : ∀ x ∈ bs, x ∈ L := fun x hx => hL ▸ List.mem_append_right _ hx
  have hleft : ∀ x ∈ as, xfSchedAhead sched (xfTaskTimestamp sched x) ≤ xfSchedAhead sched d :=
    fun x hx => by
      rw [has] at hx
      have := (List.mem_filter.mp hx).2
      rw [Bool.not_eq_true', ← Bool.not_eq_true, hbefore x (List.mem_of_mem_filter hx)] at this
      omega
  have hright : ∀ x ∈ bs, xfSchedAhead sched d < xfSchedAhead sched (xfTaskTimestamp sched x) :=
    fun x hx => by
      rw [hbs] at hx
      exact (hbefore x (List.mem_of_mem_filter hx)).mp (List.mem_filter.mp hx).2
  have hentries : xfSchedEntries sched' (as ++ t :: bs) =
      xfSchedEntries sched as ++ (t, d) :: xfSchedEntries sched bs := by
    have h1 := xfSchedEntries_congr fun x hx => hold x (hasL x hx)
    have h2 := xfSchedEntries_congr fun x hx => hold x (hbsL x hx)
    rw [← h1, ← h2]
    simp [xfSchedEntries, hts, hd]
  have hsplit : xfSchedEntries sched L = xfSchedEntries sched as ++ xfSchedEntries sched bs := by
    rw [hL]
    exact List.map_append
  refine ⟨sched', as ++ t :: bs, hres, ⟨hshape, ?_, fun e he => ?_, ?_, fun d' => ?_⟩, hnow⟩
  · rw [hentries]
    refine List.perm_middle.trans
      ((List.Perm.cons _ ?_).trans (List.perm_append_singleton _ _).symm)
    rw [← hsplit]
    exact h.perm
  · rw [hahead]
    rcases List.mem_append.mp he with he | he
    · exact h.window e he
    · rw [List.mem_singleton.mp he, hnew]
      omega
  · simp only [hahead]
    have hsorted := h.sorted
    rw [hsplit] at hsorted
    rw [hentries]
    simp only [List.pairwise_append, List.pairwise_cons, List.mem_cons] at hsorted ⊢
    have hleft' : ∀ e ∈ xfSchedEntries sched as, xfSchedAhead sched e.2 ≤ xfSchedAhead sched d :=
      fun e he => by
        obtain ⟨x, hx, rfl⟩ := List.mem_map.mp he
        exact hleft x hx
    have hright' : ∀ e ∈ xfSchedEntries sched bs, xfSchedAhead sched d ≤ xfSchedAhead sched e.2 :=
      fun e he => by
        obtain ⟨x, hx, rfl⟩ := List.mem_map.mp he
        exact (hright x hx).le
    refine ⟨hsorted.1, ⟨hright', hsorted.2.1⟩, fun e he e' he' => ?_⟩
    rcases he' with rfl | he'
    · exact hleft' e he
    · exact (hleft' e he).trans (hright' e' he')
  · have hfifo := h.fifo d'
    rw [hsplit, List.filter_append] at hfifo
    rw [hentries, List.filter_append, List.filter_append, ← hfifo]
    by_cases hd' : d = d'
    · -- the tasks behind the new one have later deadlines
      have hnil : (xfSchedEntries sched bs).filter (fun e => e.2 = d') = [] := by
        refine List.filter_eq_nil_iff.mpr fun e he => ?_
        obtain ⟨x, hx, rfl⟩ := List.mem_map.mp he
        have := hright x hx
        simp only [decide_eq_true_eq]
        rintro heq
        rw [heq, hd'] at this
        exact lt_irrefl _ this
      rw [hnil, List.append_nil, List.filter_cons_of_pos (by simpa using hd'), hnil]
      simp [hd']
    · rw [List.filter_cons_of_neg (by simpa using hd')]
      simp [hd']

/-- Removing a task from the queue. -/
lemma erase (h : XfSchedOk sched Q L) (n : U32) :
    (xfSchedEntries sched (L.erase n)).Perm (Q.filter fun e => e.1 ≠ n) ∧
      ((xfSchedEntries sched (L.erase n)).Pairwise fun e e' =>
        xfSchedAhead sched e.2 ≤ xfSchedAhead sched e'.2) ∧
      ∀ d, (xfSchedEntries sched (L.erase n)).filter (fun e => e.2 = d) =
        (Q.filter fun e => e.1 ≠ n).filter fun e => e.2 = d := by
  have herase : xfSchedEntries sched (L.erase n) =
      (xfSchedEntries sched L).filter fun e => e.1 ≠ n := by
    rw [h.holds.nodup.erase_eq_filter, xfSchedEntries, xfSchedEntries, List.filter_map]
    congr 1
    refine List.filter_congr fun x _ => ?_
    simp [bne, beq_eq_decide]
  rw [herase]
  refine ⟨h.perm.filter _, h.sorted.filter _, fun d => ?_⟩
  rw [List.filter_comm, h.fifo d, List.filter_comm]

/-- The first task of the tree is the one that a priority queue serves. -/
lemma earliest (h : XfSchedOk sched Q L) {n : U32} {rest : List U32} (hL : L = n :: rest) :
    ∃ as bs, Q = as ++ (n, xfTaskTimestamp sched n) :: bs ∧
      (Q.filter fun e => e.1 ≠ n) = as ++ bs ∧
      (∀ e ∈ as, xfSchedAhead sched (xfTaskTimestamp sched n) < xfSchedAhead sched e.2) ∧
      ∀ e ∈ bs, xfSchedAhead sched (xfTaskTimestamp sched n) ≤ xfSchedAhead sched e.2 := by
  set d := xfTaskTimestamp sched n with hd
  have hmem : (n, d) ∈ Q := h.mem_iff.mpr ⟨by simp [hL], hd.symm⟩
  have hmin : ∀ e ∈ Q, xfSchedAhead sched d ≤ xfSchedAhead sched e.2 := fun e he => by
    have hsorted := h.sorted
    rw [hL, xfSchedEntries, List.map_cons, List.pairwise_cons] at hsorted
    have he' := h.perm.mem_iff.mpr he
    rw [hL, xfSchedEntries, List.map_cons] at he'
    rcases List.mem_cons.mp he' with rfl | he'
    · exact le_rfl
    · exact hsorted.1 e he'
  obtain ⟨as, bs, rfl⟩ := List.append_of_mem hmem
  have hnd := h.nodup
  simp only [List.map_append, List.map_cons, List.nodup_append, List.nodup_cons] at hnd
  have hasn : ∀ e ∈ as, e.1 ≠ n := fun e he =>
    hnd.2.2 e.1 (List.mem_map_of_mem he) n (by simp)
  have hbsn : ∀ e ∈ bs, e.1 ≠ n := fun e he heq => hnd.2.1.1 (heq ▸ List.mem_map_of_mem he)
  refine ⟨as, bs, rfl, ?_, fun e he => lt_of_le_of_ne (hmin e (by simp [he])) fun heq => ?_,
    fun e he => hmin e (by simp [he])⟩
  · rw [List.filter_append, List.filter_cons_of_neg (by simp),
      List.filter_eq_self.mpr fun e he => by simpa using hasn e he,
      List.filter_eq_self.mpr fun e he => by simpa using hbsn e he]
  · -- a task with the same deadline that arrived before would be first in the tree
    have hed : e.2 = d := (xfSchedAhead_inj heq).symm
    have hfifo := h.fifo d
    rw [hL, xfSchedEntries, List.map_cons, List.filter_cons_of_pos (by simp [hd]),
      List.filter_append] at hfifo
    cases hf : as.filter (fun e => e.2 = d) with
    | nil =>
      exact List.filter_eq_nil_iff.mp hf e he (by simpa using hed)
    | cons e' es =>
      rw [hf, List.cons_append] at hfifo
      have he' : e' ∈ as := List.mem_of_mem_filter (p := fun e => e.2 = d) (by rw [hf]; simp)
      have := congrArg Prod.fst (List.cons.inj hfifo).1
      exact hasn e' he' this.symm

/-- `xf_sched_get` serves the earliest task and advances the timestamp to its deadline. -/
lemma get (h : XfSchedOk sched Q L) :
    (Q = [] ∧ xfSchedGet sched = some (sched, none)) ∨
      ∃ sched' L' n d as bs, Q = as ++ (n, d) :: bs ∧
        (∀ e ∈ as, xfSchedAhead sched d < xfSchedAhead sched e.2) ∧
        (∀ e ∈ bs, xfSchedAhead sched d ≤ xfSchedAhead sched e.2) ∧
        xfSchedGet sched = some (sched', some n) ∧ xfSchedTimestamp sched' = d ∧
        (Q.filter fun e => e.1 ≠ n) = as ++ bs ∧
        XfSchedOk sched' (Q.filter fun e => e.1 ≠ n) L' := by
  rcases h.toXfSchedShape.get with ⟨rfl, hres⟩ | ⟨n, rest, sched', hL, hres, hshape, hts, hnow⟩
  · exact Or.inl ⟨List.Perm.nil_eq h.perm |>.symm, hres⟩
  · obtain ⟨as, bs, hQ, hfilter, has, hbs⟩ := h.earliest hL
    obtain ⟨hperm, hsorted, hfifo⟩ := h.erase n
    have hrest : L.erase n = rest := by rw [hL, List.erase_cons_head]
    rw [hrest] at hperm hsorted hfifo
    have hentries : xfSchedEntries sched' rest = xfSchedEntries sched rest :=
      xfSchedEntries_congr fun x _ => hts x
    have hmin : ∀ e ∈ Q.filter (fun e => e.1 ≠ n),
        xfSchedAhead sched (xfTaskTimestamp sched n) ≤ xfSchedAhead sched e.2 := fun e he => by
      rw [hfilter] at he
      rcases List.mem_append.mp he with he | he
      · exact (has e he).le
      · exact hbs e he
    have hahead : ∀ e ∈ Q.filter (fun e => e.1 ≠ n), xfSchedAhead sched' e.2 =
        xfSchedAhead sched e.2 - xfSchedAhead sched (xfTaskTimestamp sched n) := fun e he => by
      rw [xfSchedAhead, hnow]
      exact toNat_sub_advance (hmin e he)
    refine Or.inr ⟨sched', rest, n, xfTaskTimestamp sched n, as, bs, hQ, has, hbs, hres, hnow,
      hfilter, ⟨hshape, by rwa [hentries], fun e he => ?_, ?_, fun d => by rw [hentries, hfifo]⟩⟩
    · rw [hahead e he]
      have := h.window e (List.mem_of_mem_filter he)
      omega
    · rw [hentries]
      refine hsorted.imp_of_mem fun {e e'} he he' hle => ?_
      rw [hahead e (hperm.mem_iff.mp he), hahead e' (hperm.mem_iff.mp he')]
      omega

/-- `xf_sched_cancel` of a queued task. -/
lemma cancel (h : XfSchedOk sched Q L) (ht : t ∈ Q.map Prod.fst) :
    ∃ sched', xfSchedCancel sched t = some sched' ∧
      XfSchedOk sched' (Q.filter fun e => e.1 ≠ t) (L.erase t) ∧
      xfSchedTimestamp sched' = xfSchedTimestamp sched := by
  have htL := h.mem_map_fst.mp ht
  obtain ⟨sched', hres, hshape, hts, hnow⟩ := h.toXfSchedShape.cancel htL
  obtain ⟨hperm, hsorted, hfifo⟩ := h.erase t
  have hentries : xfSchedEntries sched' (L.erase t) = xfSchedEntries sched (L.erase t) :=
    xfSchedEntries_congr fun x _ => hts x
  have hahead : ∀ d, xfSchedAhead sched' d = xfSchedAhead sched d := fun d => by
    rw [xfSchedAhead, xfSchedAhead, hnow]
  refine ⟨sched', hres, ⟨hshape, by rwa [hentries], fun e he => ?_, ?_,
    fun d => by rw [hentries, hfifo]⟩, hnow⟩
  · rw [hahead]
    exact h.window e (List.mem_of_mem_filter he)
  · simpa only [hentries, hahead] using hsorted

/-- Memory of tasks that are not queued may be written by anyone. -/
lemma write (h : XfSchedOk sched Q L) (hnull : sched' none = sched none)
    (hsame : ∀ x ∈ Q.map Prod.fst, sched' (some x) = sched (some x)) : XfSchedOk sched' Q L := by
  have hsame' : ∀ x ∈ L, sched' (some x) = sched (some x) :=
    fun x hx => hsame x (h.mem_map_fst.mpr hx)
  have hentries : xfSchedEntries sched' L = xfSchedEntries sched L :=
    xfSchedEntries_congr fun x hx => by rw [xfTaskTimestamp, hsame' x hx, xfTaskTimestamp]
  have hahead : ∀ d, xfSchedAhead sched' d = xfSchedAhead sched d := fun d => by
    rw [xfSchedAhead, xfSchedTimestamp, hnull, xfSchedAhead, xfSchedTimestamp]
  refine ⟨⟨h.holds.congr (by rw [hnull]) (by rw [hnull]) hsame',
    ?_⟩, by rw [hentries]; exact h.perm,
    fun e he => by rw [hahead]; exact h.window e he, ?_, fun d => by rw [hentries]; exact h.fifo d⟩
  · rw [rbCache, hnull]
    exact h.cache
  · simpa only [hentries, hahead] using h.sorted

end XfSchedOk

/-! ## Runs -/

/-- A scheduler in use: its memory, and the queued tasks with their deadlines in the order in which
they were put. -/
structure XfSchedState where
  sched : XfSched
  queue : List (U32 × U32)

/-- One step of a scheduler in use. -/
inductive XfSchedStep : XfSchedState → XfSchedState → Prop
  /-- `xf_sched_put` of a task that is not queued, less than half the range ahead. -/
  | put {sched sched' : XfSched} {Q : List (U32 × U32)} {t dts : U32} :
      t ∉ Q.map Prod.fst → dts.toNat < 2 ^ 31 →
        xfSchedPut sched t (xfSchedTimestamp sched + dts) = some sched' →
          XfSchedStep ⟨sched, Q⟩
            ⟨sched', Q ++ [(t, (xfSchedTimestamp sched + dts) &&& ~~~1#32)]⟩
  /-- `xf_sched_get`. -/
  | get {sched sched' : XfSched} {Q : List (U32 × U32)} {res : Option U32} :
      xfSchedGet sched = some (sched', res) →
        XfSchedStep ⟨sched, Q⟩ ⟨sched', Q.filter fun e => some e.1 ≠ res⟩
  /-- `xf_sched_cancel` of a queued task. -/
  | cancel {sched sched' : XfSched} {Q : List (U32 × U32)} {t : U32} :
      t ∈ Q.map Prod.fst → xfSchedCancel sched t = some sched' →
        XfSchedStep ⟨sched, Q⟩ ⟨sched', Q.filter fun e => e.1 ≠ t⟩
  /-- The memory of tasks that are not queued is written by their owners. -/
  | write {sched sched' : XfSched} {Q : List (U32 × U32)} :
      sched' none = sched none → (∀ x ∈ Q.map Prod.fst, sched' (some x) = sched (some x)) →
        XfSchedStep ⟨sched, Q⟩ ⟨sched', Q⟩

/-- What is promised of a scheduler in use.  `xf_sched_get` serves a task exactly when one is
queued: the one whose deadline is the least distance ahead, the first to arrive among those. -/
structure XfSchedSafe (s : XfSchedState) : Prop where
  head_cached : ∃ L, s.sched.Holds L ∧ L.Perm (s.queue.map Prod.fst) ∧ s.sched.rbCache = L.head?
  window : ∀ e ∈ s.queue,
    xfTaskTimestamp s.sched e.1 = e.2 ∧ xfSchedAhead s.sched e.2 < 2 ^ 31
  get_null : s.queue = [] → xfSchedGet s.sched = some (s.sched, none)
  get_earliest : s.queue ≠ [] → ∃ sched' n d as bs, s.queue = as ++ (n, d) :: bs ∧
    (∀ e ∈ as, xfSchedAhead s.sched d < xfSchedAhead s.sched e.2) ∧
    (∀ e ∈ bs, xfSchedAhead s.sched d ≤ xfSchedAhead s.sched e.2) ∧
    xfSchedGet s.sched = some (sched', some n) ∧ xfSchedTimestamp sched' = d ∧
    XfSchedStep s ⟨sched', as ++ bs⟩
  put_returns : ∀ t dts : U32, t ∉ s.queue.map Prod.fst → dts.toNat < 2 ^ 31 →
    (xfSchedPut s.sched t (xfSchedTimestamp s.sched + dts)).isSome
  cancel_returns : ∀ t ∈ s.queue.map Prod.fst, (xfSchedCancel s.sched t).isSome
  forward : ∀ s', XfSchedStep s s' →
    (xfSchedTimestamp s'.sched - xfSchedTimestamp s.sched).toNat < 2 ^ 31

variable {s s' : XfSchedState}

/-- One step keeps the invariant and moves the timestamp forward, if at all. -/
lemma XfSchedOk.step (h : XfSchedOk s.sched s.queue L) (hstep : XfSchedStep s s') :
    (∃ L', XfSchedOk s'.sched s'.queue L') ∧
      (xfSchedTimestamp s'.sched - xfSchedTimestamp s.sched).toNat < 2 ^ 31 := by
  cases hstep with
  | put ht hdts hres =>
    obtain ⟨sched', L', hres', hok, hnow⟩ := h.put ht hdts
    obtain rfl := Option.some.inj (hres.symm.trans hres')
    exact ⟨⟨L', hok⟩, by rw [hnow]; simp⟩
  | get hres =>
    rcases h.get with ⟨hQ, hres'⟩ | ⟨sched', L', n, d, as, bs, hQ, -, -, hres', hnow, -, hok⟩
    · obtain ⟨rfl, rfl⟩ := Prod.mk.inj (Option.some.inj (hres.symm.trans hres'))
      exact ⟨⟨L, by simpa using h⟩, by simp⟩
    · obtain ⟨rfl, rfl⟩ := Prod.mk.inj (Option.some.inj (hres.symm.trans hres'))
      refine ⟨⟨L', by simpa using hok⟩, ?_⟩
      rw [hnow]
      exact h.window (n, d) (by rw [hQ]; simp)
  | cancel ht hres =>
    obtain ⟨sched', hres', hok, hnow⟩ := h.cancel ht
    obtain rfl := Option.some.inj (hres.symm.trans hres')
    exact ⟨⟨_, hok⟩, by rw [hnow]; simp⟩
  | write hnull hsame =>
    refine ⟨⟨L, h.write hnull hsame⟩, ?_⟩
    simp [xfSchedTimestamp, hnull]

/-- The invariant makes a scheduler safe. -/
lemma XfSchedOk.safe (h : XfSchedOk s.sched s.queue L) : XfSchedSafe s := by
  refine ⟨⟨L, h.holds, ?_, h.cache⟩, fun e he => ⟨(h.mem_iff.mp he).2, h.window e he⟩, fun hQ => ?_,
    fun hQ => ?_, fun t dts ht hdts => ?_, fun t ht => ?_, fun s' hstep => (h.step hstep).2⟩
  · have := h.perm.map Prod.fst
    simpa [xfSchedEntries, Function.comp_def] using this
  · rcases h.get with ⟨-, hres⟩ | ⟨sched', L', n, d, as, bs, hQ', -⟩
    · exact hres
    · simp [hQ] at hQ'
  · rcases h.get with ⟨hQ', -⟩ | ⟨sched', L', n, d, as, bs, hQ', has, hbs, hres, hnow, hfilter, -⟩
    · exact absurd hQ' hQ
    · refine ⟨sched', n, d, as, bs, hQ', has, hbs, hres, hnow, ?_⟩
      rw [← hfilter]
      simpa using XfSchedStep.get (Q := s.queue) hres
  · obtain ⟨sched', L', hres, -⟩ := h.put ht hdts
    rw [hres]
    rfl
  · obtain ⟨sched', hres, -⟩ := h.cancel ht
    rw [hres]
    rfl

/-- The scheduler over whole runs, the timestamps wrapping around as they may: every state reached
from `xf_sched_init` is safe. -/
theorem xfSched_run (sched : XfSched)
    (hrun : Relation.ReflTransGen XfSchedStep ⟨xfSchedInit sched, []⟩ s) : XfSchedSafe s := by
  have hinit : ∃ L, XfSchedOk (xfSchedInit sched) [] L :=
    ⟨[], xfSchedShape_init sched, .nil, by simp, .nil, fun d => rfl⟩
  obtain ⟨L, h⟩ := run_invariant (fun s => ∃ L, XfSchedOk s.sched s.queue L)
    (fun s s' ⟨L, h⟩ hstep => (h.step hstep).1) hinit hrun
  exact h.safe

/-- The memory of the tasks before the start. -/
def blankTasks : XfSched := fun _ => ⟨none, none, none, 0⟩

/-- The timestamps wrap around between the second task and the next three: two of these have the
same deadline, and the third one is cancelled. -/
theorem xfSched_run_wrap :
    ∃ s, Relation.ReflTransGen XfSchedStep ⟨xfSchedInit blankTasks, []⟩ s ∧
      s.queue = [(4, 12)] ∧ xfSchedTimestamp s.sched = 12 ∧ XfSchedSafe s := by
  have h₀ := Relation.ReflTransGen.refl (r := XfSchedStep) (a := ⟨xfSchedInit blankTasks, []⟩)
  have h₁ := h₀.tail (@XfSchedStep.put _ _ _ 1 0x7ffffffe (by decide) (by decide)
    (Option.some_get rfl).symm)
  have h₂ := h₁.tail (.get (Option.some_get rfl).symm)
  have h₃ := h₂.tail (@XfSchedStep.put _ _ _ 2 0x7ffffffe (by decide) (by decide)
    (Option.some_get rfl).symm)
  have h₄ := h₃.tail (.get (Option.some_get rfl).symm)
  have h₅ := h₄.tail (@XfSchedStep.put _ _ _ 3 16 (by decide) (by decide)
    (Option.some_get rfl).symm)
  have h₆ := h₅.tail (@XfSchedStep.put _ _ _ 4 16 (by decide) (by decide)
    (Option.some_get rfl).symm)
  have h₇ := h₆.tail (@XfSchedStep.put _ _ _ 5 8 (by decide) (by decide)
    (Option.some_get rfl).symm)
  have h₈ := h₇.tail (.cancel (t := 5) (by decide) (Option.some_get rfl).symm)
  -- the first of the tasks with the same deadline is served
  have h₉ := h₈.tail (.get (Option.some_get rfl).symm)
  exact ⟨_, h₉, by decide, by decide, xfSched_run _ h₉⟩

end Hikey
