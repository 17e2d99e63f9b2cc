import Hikey.Mem.FreeBytes

/-!
# Best fit

`xf_mm_alloc` on every pool that a run of the allocator reaches.  The pool is memory of the program,
so it does not start at the null pointer.
-/

namespace Hikey

variable {addr size n : U32} {pool₀ pool : XfMmPool} {s : XfMmState}

/-- A free block of the pool: it is in the block-length map. -/
def XfMmFreeBlock (pool : XfMmPool) (b : U32) : Prop := ∃ L, pool.lMap.Holds L ∧ b ∈ L

lemma XfMmOk.freeBlock_iff {live : List (U32 × U32)} {L A : List U32} (h : XfMmOk pool live L A)
    (b : U32) : XfMmFreeBlock pool b ↔ b ∈ L := by
  constructor
  · rintro ⟨L', hL', hb⟩
    rwa [hL'.unique h.lHolds] at hb
  · intro hb
    exact ⟨L, h.lHolds, hb⟩

/-- In every reachable state the allocation of a positive multiple of 32 bytes fails exactly when no
free block is that long; otherwise it returns the last bytes of a shortest free block that is. -/
theorem xfMmAlloc_bestFit (haddr : 32 ∣ addr.toNat) (hsize : 32 ∣ size.toNat)
    (hpos : 0 < size.toNat) (hwrap : addr.toNat + size.toNat ≤ 2 ^ 32) (hnull : addr ≠ 0)
    (hinit : xfMmInit pool₀ addr size = some (some pool))
    (hrun : Relation.ReflTransGen XfMmStep ⟨pool, []⟩ s) (hn : 0 < n.toNat)
    (hn32 : 32 ∣ n.toNat) :
    ∃ pool' p, xfMmAlloc s.pool n = some (pool', p) ∧
      (p = 0 ↔ ∀ b, XfMmFreeBlock s.pool b → (xfMmBlockLength s.pool.lMap b).toNat < n.toNat) ∧
      (p ≠ 0 → ∃ b, XfMmFreeBlock s.pool b ∧
        n.toNat ≤ (xfMmBlockLength s.pool.lMap b).toNat ∧
        (∀ x, XfMmFreeBlock s.pool x → n.toNat ≤ (xfMmBlockLength s.pool.lMap x).toNat →
          (xfMmBlockLength s.pool.lMap b).toNat ≤ (xfMmBlockLength s.pool.lMap x).toNat) ∧
        p.toNat + n.toNat = b.toNat + (xfMmBlockLength s.pool.lMap b).toNat) := by
  obtain ⟨pool₁, hinit', hinv⟩ := xfMmInit_spec pool₀ haddr hsize hpos hwrap
  obtain rfl : pool = pool₁ := Option.some.inj (Option.some.inj (hinit.symm.trans hinit'))
  obtain ⟨haddr', -, -, L, A, hok⟩ := run_invariant _ XfMmInv.step hinv hrun
  have hzero : 0 ∉ L := hok.zero_notMem (haddr' ▸ hnull)
  simp only [hok.freeBlock_iff]
  rcases xfMmAlloc_spec hok hzero hn
    hn32 with ⟨hres, hless⟩ | ⟨b, hb, hge, hmin, pool', L', A', hres, -⟩
  · refine ⟨s.pool, 0, hres, ⟨fun _ => hless, fun _ => rfl⟩, ?_⟩
    intro h
    exact absurd rfl h
  · obtain ⟨-, -, -, -, hle⟩ := hok.block hb
    have hwrap' := hok.wrap
    have hsub : (xfMmBlockLength s.pool.lMap b - n).toNat =
        (xfMmBlockLength s.pool.lMap b).toNat - n.toNat := BitVec.toNat_sub_of_le hge
    have hp : (b + (xfMmBlockLength s.pool.lMap b - n)).toNat =
        b.toNat + ((xfMmBlockLength s.pool.lMap b).toNat - n.toNat) := by
      rw [BitVec.toNat_add, hsub, Nat.mod_eq_of_lt (by omega)]
    have hb0 : b.toNat ≠ 0 := fun h => hzero (by
      rw [← BitVec.eq_of_toNat_eq (x := b) (y := 0) (by simpa using h)]
      exact hb)
    refine ⟨pool', _, hres, ⟨fun h => ?_, fun h => ?_⟩, fun _ => ⟨b, hb, hge, hmin, ?_⟩⟩
    · -- the returned pointer is not null
      have := congrArg BitVec.toNat h
      rw [hp] at this
      exact absurd (show b.toNat = 0 by simp at this; omega) hb0
    · exact absurd (h b hb) (Nat.not_lt.2 hge)
    · rw [hp]
      omega

/-- The first allocation from a pool of two blocks. -/
theorem xfMmAlloc_bestFit_first : ∃ pool, xfMmInit xfMmRawPool 32#32 64#32 = some (some pool) ∧
    ∃ pool' p, xfMmAlloc pool 32#32 = some (pool', p) ∧
      (p = 0 ↔ ∀ b, XfMmFreeBlock pool b → (xfMmBlockLength pool.lMap b).toNat < 32) := by
  obtain ⟨pool, hinit, -⟩ : ∃ pool, xfMmInit xfMmRawPool 32#32 64#32 = some (some pool) ∧
      XfMmInv 32#32 64#32 ⟨pool, []⟩ :=
    xfMmInit_spec xfMmRawPool (by decide) (by decide) (by decide) (by decide)
  obtain ⟨pool', p, hres, hnull, -⟩ := xfMmAlloc_bestFit (n := 32#32) (by decide) (by decide)
    (by decide) (by decide) (by decide) hinit .refl (by decide) (by decide)
  exact ⟨pool, hinit, pool', p, hres, hnull⟩

end Hikey
