import Hikey.Mem.BestFit

/-!
# Gaps

The blocks of the maps are the gaps between the live allocations: a range of bytes that no live
allocation touches lies in one block, since no two blocks are adjacent.  So an allocation fails only
where no gap is long enough, whatever has been allocated and released before.
-/

namespace Hikey

/-- The `n` bytes from `a` on are in the pool, and no live allocation has one of them. -/
def XfMmGap (addr size : U32) (live : List (U32 × U32)) (a n : ℕ) : Prop :=
  addr.toNat ≤ a ∧ a + n ≤ addr.toNat + size.toNat ∧
    ∀ r ∈ live, Disjoint (Set.Ico a (a + n)) (xfMmRegion r)

variable {addr size n : U32} {pool₀ pool : XfMmPool} {s : XfMmState}

section Blocks

variable {live : List (U32 × U32)} {L A : List U32}

/-- A gap lies in one block. -/
lemma XfMmOk.block_of_gap (h : XfMmOk pool live L A) {a m : ℕ} (hm : 0 < m)
    (hgap : XfMmGap pool.addr pool.size live a m) :
    ∃ b ∈ L, b.toNat ≤ a ∧ a + m ≤ b.toNat + (xfMmBlockLength pool.lMap b).toNat := by
  obtain ⟨hlow, hhigh, hfree⟩ := hgap
  refine exists_interval_of_cover (F := {b | b ∈ L}) (s := fun b => b.toNat)
    (e := fun b => b.toNat + (xfMmBlockLength pool.lMap b).toNat) (by omega)
    (fun x hx y hy hxy => h.apart_blocks hx hy hxy) (fun x hx y hy => h.separated x hx y hy) ?_
  intro k hak hkm
  obtain ⟨r, hr, hkr⟩ := (h.tiles.cover k).1 ⟨by omega, by omega⟩
  rcases List.mem_append.1 hr with hblock | hlive
  · obtain ⟨b, hb, rfl⟩ := List.mem_map.1 hblock
    exact ⟨b, hb, hkr⟩
  · exact absurd hkr (Set.disjoint_left.1 (hfree r hlive) ⟨hak, hkm⟩)

/-- A block is a gap. -/
lemma XfMmOk.gap_of_block (h : XfMmOk pool live L A) {b : U32} (hb : b ∈ L) :
    XfMmGap pool.addr pool.size live b.toNat (xfMmBlockLength pool.lMap b).toNat := by
  obtain ⟨-, -, -, hlow, hhigh⟩ := h.block hb
  have hapart := (List.pairwise_append.1 h.tiles.disjoint).2.2
  exact ⟨hlow, hhigh, fun r hr => hapart _ (mem_xfMmFreeRegions pool.lMap hb) r hr⟩

end Blocks

lemma XfMmGap.mono {live : List (U32 × U32)} {a m m' : ℕ} (hgap : XfMmGap addr size live a m')
    (hle : m ≤ m') : XfMmGap addr size live a m := by
  obtain ⟨hlow, hhigh, hfree⟩ := hgap
  refine ⟨hlow, by omega, fun r hr => (hfree r hr).mono_left ?_⟩
  exact Set.Ico_subset_Ico_right (by omega)

/-- In every reachable state the allocation of a positive multiple of 32 bytes returns, and it fails
exactly when no range of so many bytes of the pool is outside of all live allocations. -/
theorem xfMmAlloc_null_iff_no_gap (haddr : 32 ∣ addr.toNat) (hsize : 32 ∣ size.toNat)
    (hpos : 0 < size.toNat) (hwrap : addr.toNat + size.toNat ≤ 2 ^ 32) (hnull : addr ≠ 0)
    (hinit : xfMmInit pool₀ addr size = some (some pool))
    (hrun : Relation.ReflTransGen XfMmStep ⟨pool, []⟩ s) (hn : 0 < n.toNat)
    (hn32 : 32 ∣ n.toNat) :
    ∃ pool' p, xfMmAlloc s.pool n = some (pool', p) ∧
      (p = 0 ↔ ¬∃ a, XfMmGap addr size s.live a n.toNat) := by
  obtain ⟨pool₁, hinit', hinv⟩ := xfMmInit_spec pool₀ haddr hsize hpos hwrap
  obtain rfl : pool = pool₁ := Option.some.inj (Option.some.inj (hinit.symm.trans hinit'))
  have hreach := run_invariant _ XfMmInv.step hinv hrun
  obtain ⟨rfl, rfl, -, L, A, hok⟩ := hreach
  have hzero : 0 ∉ L := hok.zero_notMem hnull
  rcases xfMmAlloc_spec hok hzero hn hn32 with ⟨hres, hless⟩ |
    ⟨b, hb, hge, -, pool', L', A', hres, haddr', hsize', -, hok'⟩
  · refine ⟨s.pool, 0, hres, fun _ => ?_, fun _ => rfl⟩
    rintro ⟨a, hgap⟩
    obtain ⟨b, hb, hba, hab⟩ := hok.block_of_gap hn hgap
    have := hless b hb
    omega
  · refine ⟨pool', _, hres, fun hp => ?_, fun hno => ?_⟩
    · -- an allocation lies in the pool, and the pool is not at the null pointer
      have hle := (hok'.region_le (List.mem_append_right _ List.mem_cons_self)).1
      rw [haddr', hp] at hle
      exact absurd (BitVec.eq_of_toNat_eq (by simpa using hle)) hnull
    · exact absurd ⟨_, (hok.gap_of_block hb).mono hge⟩ hno

/-- A pool of two blocks: one of them is allocated and released, and then both of them are one gap
again. -/
theorem xfMmAlloc_null_iff_no_gap_two_blocks :
    ∃ pool pool₁ pool₂ pool₃ p₁ p₃, xfMmInit xfMmRawPool 32#32 64#32 = some (some pool) ∧
      xfMmAlloc pool 32#32 = some (pool₁, p₁) ∧ p₁ ≠ 0 ∧ xfMmFree pool₁ p₁ 32#32 = some pool₂ ∧
      xfMmAlloc pool₂ 64#32 = some (pool₃, p₃) ∧ p₃ ≠ 0 := by
  obtain ⟨pool, hinit, hinv⟩ : ∃ pool, xfMmInit xfMmRawPool 32#32 64#32 = some (some pool) ∧
      XfMmInv 32#32 64#32 ⟨pool, []⟩ :=
    xfMmInit_spec xfMmRawPool (by decide) (by decide) (by decide) (by decide)
  have hempty (n : ℕ) (hn : n ≤ 64) : ∃ a, XfMmGap 32#32 64#32 [] a n :=
    ⟨32, le_rfl, Nat.add_le_add_left hn 32, fun r hr => absurd hr List.not_mem_nil⟩
  obtain ⟨pool₁, p₁, hres₁, hiff₁⟩ := xfMmAlloc_null_iff_no_gap (n := 32#32) (by decide) (by decide)
    (by decide) (by decide) (by decide) hinit .refl (by decide) (by decide)
  have hp₁ : p₁ ≠ 0 := fun hzero => hiff₁.1 hzero (hempty 32 (by decide))
  have halloc : XfMmStep ⟨pool, []⟩ ⟨pool₁, if p₁ = 0 then [] else [(p₁, 32#32)]⟩ :=
    .alloc (by decide) (by decide) hres₁
  rw [if_neg hp₁] at halloc
  have hinv₁ := XfMmInv.step _ _ hinv halloc
  obtain ⟨pool₂, hres₂, -⟩ := hinv₁.free List.mem_cons_self
  have hfree : XfMmStep ⟨pool₁, [(p₁, 32#32)]⟩ ⟨pool₂, [(p₁, 32#32)].erase (p₁, 32#32)⟩ :=
    .free List.mem_cons_self hres₂
  rw [List.erase_cons_head] at hfree
  have hrun : Relation.ReflTransGen XfMmStep ⟨pool, []⟩ ⟨pool₂, []⟩ := .tail (.single halloc) hfree
  obtain ⟨pool₃, p₃, hres₃, hiff₃⟩ := xfMmAlloc_null_iff_no_gap (n := 64#32) (by decide) (by decide)
    (by decide) (by decide) (by decide) hinit hrun (by decide) (by decide)
  exact ⟨pool, pool₁, pool₂, pool₃, p₁, p₃, hinit, hres₁, hp₁, hres₂, hres₃,
    fun hzero => hiff₃.1 hzero (hempty 64 (by decide))⟩

end Hikey
