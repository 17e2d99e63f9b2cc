import Hikey.Sched.Basic

/-!
# The shape of the scheduler queue

Whatever the timestamps are, the scheduler is a well-formed tree whose cached node is its first one
(`XfSchedShape`).  This module says what the entry points do to the in-order list of the tasks; the
order of the list is the business of the next module.
-/

namespace Hikey

open RbTree

variable {sched : XfSched} {L : List U32} {t x : U32}

/-- The tasks in the scheduler, in order; the head is cached. -/
structure XfSchedShape (sched : XfSched) (L : List U32) : Prop where
  holds : sched.Holds L
  cache : sched.rbCache = L.head?

/-! ## Timestamps -/

/-- Rebalancing keeps all timestamps. -/
lemma xfTaskTimestamp_of_frame {sched' : XfSched} (h : Frame L sched sched') (x : U32) :
    xfTaskTimestamp sched' x = xfTaskTimestamp sched x := by
  rw [xfTaskTimestamp, xfTaskTimestamp, h.and_not_one]

@[simp] lemma xfTaskTimestamp_setCache (k : RbIdx U32) :
    xfTaskTimestamp (sched.setCache k) x = xfTaskTimestamp sched x := by
  simp [xfTaskTimestamp, setCache]

@[simp] lemma xfTaskTimestamp_setSched (ts : U32) :
    xfTaskTimestamp (xfSchedTimestampSet sched ts) x = xfTaskTimestamp sched x := by
  simp [xfTaskTimestamp, xfSchedTimestampSet]

lemma xfTaskTimestamp_set (ts : U32) : xfTaskTimestamp (xfTaskTimestampSet sched t ts) x =
    if x = t then ts &&& ~~~1#32 else xfTaskTimestamp sched x := by
  unfold xfTaskTimestamp xfTaskTimestampSet
  by_cases h : x = t <;> simp [h]

/-! ## Entry points -/

/-- `xf_sched_init` empties the queue. -/
lemma xfSchedShape_init (sched : XfSched) : XfSchedShape (xfSchedInit sched) [] :=
  ⟨holds_rbInit sched, by simp [rbCache, xfSchedInit, rbInit]⟩

/-- `xf_sched_put` links the task in somewhere; where the comparison with the queued tasks is a
sorted one, the place is determined by it. -/
lemma XfSchedShape.put (h : XfSchedShape sched L) (ht : t ∉ L) (ts : U32) :
    ∃ sched' as bs, xfSchedPut sched t ts = some sched' ∧ L = as ++ bs ∧
      XfSchedShape sched' (as ++ t :: bs) ∧
      (∀ x, xfTaskTimestamp sched' x =
        if x = t then ts &&& ~~~1#32 else xfTaskTimestamp sched x) ∧
      xfSchedTimestamp sched' = xfSchedTimestamp sched ∧
      ((L.Pairwise fun x y => !xfTimestampBefore ts (xfTaskTimestamp sched y) →
          !xfTimestampBefore ts (xfTaskTimestamp sched x)) →
        as = L.filter (fun x => !xfTimestampBefore ts (xfTaskTimestamp sched x)) ∧
        bs = L.filter (fun x => xfTimestampBefore ts (xfTaskTimestamp sched x))) := by
  set s₁ := xfTaskTimestampSet sched t ts with hs₁
  have hts : ∀ x ∈ L, xfTaskTimestamp s₁ x = xfTaskTimestamp sched x := fun x hx => by
    rw [hs₁, xfTaskTimestamp_set, if_neg (fun hxt : x = t => ht (hxt ▸ hx))]
  have hholds₁ : Holds s₁ L := h.holds.setColor ht ts
  obtain ⟨P, hP, hlist, hpos, hlen, hsort⟩ := hholds₁.insertPos
    (fun p => !xfTimestampBefore ts (xfTaskTimestamp s₁ p)) (n := t)
  have htP : t ∉ (P.fill .nil).toList := by simpa [← hlist] using ht
  have hcache₁ : s₁.rbCache = L.head? := by
    rw [← h.cache, hs₁]
    simp [rbCache, xfTaskTimestampSet]
  -- the cached node after the link has been written
  set cached : RbIdx U32 := if P.parent = none ∨ (P.isRight = false ∧ P.parent = s₁.rbCache)
    then some t else s₁.rbCache with hcached
  have hhead : cached = (P.before ++ t :: P.after).head? := by
    rw [hcached, hcache₁, hlist]
    cases P with
    | top => simp
    | left c p r up =>
      have hp : p ∉ up.before := by
        have := hP.nodup
        simp only [TreePath.toList_fill, TreePath.before_left, TreePath.after_left,
          ColorTree.toList_nil, List.append_nil, List.nodup_append, List.mem_cons] at this
        exact fun hmem => this.2.2 p hmem p (Or.inl rfl) rfl
      cases hb : up.before with
      | nil => simp [TreePath.isRight, hb]
      | cons y ys =>
        have hne : p ≠ y := fun hpy => hp (by simp [hb, hpy])
        simp [TreePath.isRight, hb, hne]
    | right c l p up => simp [TreePath.isRight]
  obtain ⟨sched', T', hres, hT', hlist', hf⟩ :=
    rbInsert_spec (x := t) (hP.setCache cached) htP hlen
  have hput : xfSchedPut sched t ts = some sched' := by
    rw [xfSchedPut, ← hs₁]
    have hcached' : (if P.parent = none ∨ (P.isRight = false ∧ P.parent = (s₁.attach P t).rbCache)
        then (s₁.attach P t).setCache t else s₁.attach P t) = (s₁.setCache cached).attach P t := by
      have hcache : (s₁.attach P t).rbCache = s₁.rbCache := by
        cases P <;> simp [attach, rbCache]
      rw [← setCache_attach, hcache, hcached]
      split
      · rfl
      · rw [← hcache, setCache_rbCache]
    simp only [hpos, Option.bind_eq_bind, Option.bind_some, hcached', hres]
  refine ⟨sched', P.before, P.after, hput, hlist, ⟨⟨T', hT', hlist'⟩, ?_⟩, fun x => ?_, ?_,
    fun hsorted => ?_⟩
  · rw [hf.cache, ← hhead]
    simp [rbCache, setCache]
  · rw [xfTaskTimestamp_of_frame hf, xfTaskTimestamp_setCache, hs₁, xfTaskTimestamp_set]
  · rw [xfSchedTimestamp, hf.null]
    simp [hs₁, xfTaskTimestampSet, setCache, xfSchedTimestamp]
  · have hsame : ∀ x ∈ L, (!xfTimestampBefore ts (xfTaskTimestamp s₁ x)) =
        !xfTimestampBefore ts (xfTaskTimestamp sched x) := fun x hx => by rw [hts x hx]
    obtain ⟨h1, h2⟩ := hsort (hsorted.imp_of_mem fun {x y} hx hy hxy => by
      rw [hsame x hx, hsame y hy]
      exact hxy)
    refine ⟨h1.trans (List.filter_congr hsame), h2.trans (List.filter_congr fun x hx => ?_)⟩
    rw [hts x hx, Bool.not_not]

/-- `xf_sched_get` takes the head, if there is one. -/
lemma XfSchedShape.get (h : XfSchedShape sched L) :
    (L = [] ∧ xfSchedGet sched = some (sched, none)) ∨
      ∃ n rest sched', L = n :: rest ∧ xfSchedGet sched = some (sched', some n) ∧
        XfSchedShape sched' rest ∧ (∀ x, xfTaskTimestamp sched' x = xfTaskTimestamp sched x) ∧
        xfSchedTimestamp sched' = xfTaskTimestamp sched n := by
  cases L with
  | nil =>
    refine Or.inl ⟨rfl, ?_⟩
    rw [xfSchedGet, h.cache]
    rfl
  | cons n rest =>
    obtain ⟨s₁, k, hres, hholds, hf, hhead⟩ :=
      h.holds.delete (n := n) (by simp) (length_lt_rbFuel h.holds.nodup).le
    have hk := hhead rest rfl
    rw [List.erase_cons_head] at hholds
    have hts : ∀ x, xfTaskTimestamp (s₁.setCache k) x = xfTaskTimestamp sched x := fun x => by
      rw [xfTaskTimestamp_setCache, xfTaskTimestamp_of_frame hf]
    refine Or.inr ⟨n, rest, xfSchedTimestampSet (s₁.setCache k) (xfTaskTimestamp (s₁.setCache k) n),
      rfl, ?_, ⟨?_, ?_⟩, fun x => ?_, ?_⟩
    · rw [xfSchedGet, h.cache]
      simp only [List.head?_cons, hres, Option.bind_eq_bind, Option.bind_some]
      rfl
    · obtain ⟨T, hT, hlist⟩ := hholds.setCache k
      refine ⟨T, ⟨⟨hT.links.congr fun x hx => ?_, ?_, hT.nodup, ?_⟩, hT.balanced⟩, hlist⟩
      · simp [SameNode, isBlack, xfSchedTimestampSet]
      · simpa [rbRoot, xfSchedTimestampSet] using hT.root
      · have : xfTaskTimestamp (s₁.setCache k) n &&& ~~~1#32 &&& 1#32 = 0#32 := by
          rw [BitVec.and_assoc]
          simp
        rw [isBlack, xfSchedTimestampSet, setColor_color, if_pos rfl, this]
        rfl
    · rw [← hk]
      simp [rbCache, xfSchedTimestampSet, setCache]
    · rw [xfTaskTimestamp_setSched, hts]
    · have : xfTaskTimestamp sched n &&& ~~~1#32 = xfTaskTimestamp sched n := by
        rw [xfTaskTimestamp, BitVec.and_assoc, BitVec.and_self]
      rw [xfSchedTimestamp, xfSchedTimestampSet, setColor_color, if_pos rfl, hts, this]

/-- `xf_sched_cancel` removes a queued task. -/
lemma XfSchedShape.cancel (h : XfSchedShape sched L) (ht : t ∈ L) :
    ∃ sched', xfSchedCancel sched t = some sched' ∧ XfSchedShape sched' (L.erase t) ∧
      (∀ x, xfTaskTimestamp sched' x = xfTaskTimestamp sched x) ∧
      xfSchedTimestamp sched' = xfSchedTimestamp sched := by
  obtain ⟨s₁, k, hres, hholds, hf, hhead⟩ :=
    h.holds.delete ht (length_lt_rbFuel h.holds.nodup).le
  have hcache : s₁.rbCache = L.head? := hf.cache.trans h.cache
  have hts := xfTaskTimestamp_of_frame hf
  have hnow : xfSchedTimestamp s₁ = xfSchedTimestamp sched := hf.null
  rw [xfSchedCancel, hres]
  simp only [Option.bind_eq_bind, Option.bind_some]
  by_cases hfirst : some t = s₁.rbCache
  · rw [if_pos hfirst]
    obtain ⟨rest, rfl⟩ := List.head?_eq_some_iff.mp (hcache.symm.trans hfirst.symm)
    refine ⟨_, rfl, ⟨hholds.setCache k, ?_⟩, fun x => ?_, ?_⟩
    · rw [List.erase_cons_head, ← hhead rest rfl]
      simp [rbCache, setCache]
    · rw [xfTaskTimestamp_setCache, hts]
    · rw [← hnow]
      simp [xfSchedTimestamp, setCache]
  · rw [if_neg hfirst]
    refine ⟨_, rfl, ⟨hholds, hcache.trans ?_⟩, hts, hnow⟩
    cases L with
    | nil => simp at ht
    | cons y ys =>
      have hne : y ≠ t := fun hyt => hfirst (by rw [hcache, hyt]; rfl)
      rw [List.erase_cons_tail (by simpa using hne)]
      rfl

end Hikey
