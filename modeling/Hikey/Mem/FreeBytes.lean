import Hikey.Mem.Operations

/-!
# The free bytes of an allocator

The free bytes of a pool are those of the blocks in its maps.  `XfMmLive M pool` says that the pool
is in use, with exactly the allocations `M` live: an allocation adds to `M`, a release takes from
it, and the free bytes are the bytes of the pool outside of `M`.  Two states of one pool have the
same free bytes only if no allocation has been added (`XfMmLive.freeBytes_eq_iff`).
-/

namespace Hikey

namespace RbTree

universe u

variable {ι : Type u} {t : RbTree ι}

/-- The memory below a node determines the labels of the tree there. -/
lemma Links.toList_eq {T T' : ColorTree ι} {p p' : RbIdx ι} (h : Links t p T) (h' : Links t p' T')
    (hroot : T.root = T'.root) : T.toList = T'.toList := by
  induction T generalizing p p' T' with
  | nil =>
    cases T' with
    | nil => rfl
    | node c' l' x' r' => cases hroot
  | node c l x r ihl ihr =>
    cases T' with
    | nil => cases hroot
    | node c' l' x' r' =>
      obtain rfl : x = x' := Option.some.inj hroot
      obtain ⟨⟨-, hleft, hright, -⟩, hl, hr⟩ := h
      obtain ⟨⟨-, hleft', hright', -⟩, hl', hr'⟩ := h'
      simp only [ColorTree.toList]
      rw [ihl hl hl' (hleft.symm.trans hleft'), ihr hr hr' (hright.symm.trans hright')]

/-- A tree holds one list only. -/
lemma Holds.unique {xs ys : List ι} (h : Holds t xs) (h' : Holds t ys) : xs = ys := by
  obtain ⟨T, hT, rfl⟩ := h
  obtain ⟨T', hT', rfl⟩ := h'
  exact hT.links.toList_eq hT'.links (hT.root.symm.trans hT'.root)

end RbTree

/-- The bytes of the blocks in the block-length map. -/
def xfMmFreeBytes (pool : XfMmPool) : Set ℕ :=
  {a | ∃ L, pool.lMap.Holds L ∧ ∃ b ∈ L, a ∈ xfMmRegion (b, xfMmBlockLength pool.lMap b)}

/-- The pool from `addr` on with `size` bytes is in use, and the allocations `M` are live. -/
def XfMmLive (addr size : U32) (M : Multiset (U32 × U32)) (pool : XfMmPool) : Prop :=
  ∃ live : List (U32 × U32), (live : Multiset (U32 × U32)) = M ∧ XfMmInv addr size ⟨pool, live⟩

/-- An allocation as a multiset; the null pointer is none. -/
def xfMmTaken (p n : U32) : Multiset (U32 × U32) := if p = 0 then 0 else {(p, n)}

@[simp] lemma xfMmTaken_null (n : U32) : xfMmTaken 0 n = 0 := if_pos rfl

lemma xfMmTaken_of_ne {p : U32} (hp : p ≠ 0) (n : U32) : xfMmTaken p n = {(p, n)} := if_neg hp

lemma xfMmTaken_eq_zero {p n : U32} : xfMmTaken p n = 0 ↔ p = 0 := by
  constructor
  · intro h
    by_contra hp
    rw [xfMmTaken_of_ne hp] at h
    exact Multiset.singleton_ne_zero _ h
  · rintro rfl
    exact xfMmTaken_null n

variable {addr size n p : U32} {M M' : Multiset (U32 × U32)} {pool pool' : XfMmPool}

namespace XfMmLive

/-- A pool after a run of the allocator. -/
lemma of_run {pool₀ : XfMmPool} {s : XfMmState} (haddr : 32 ∣ addr.toNat) (hsize : 32 ∣ size.toNat)
    (hpos : 0 < size.toNat) (hwrap : addr.toNat + size.toNat ≤ 2 ^ 32)
    (hinit : xfMmInit pool₀ addr size = some (some pool))
    (hrun : Relation.ReflTransGen XfMmStep ⟨pool, []⟩ s) : XfMmLive addr size s.live s.pool := by
  obtain ⟨pool', hinit', hinv⟩ := xfMmInit_spec pool₀ haddr hsize hpos hwrap
  obtain rfl : pool = pool' := Option.some.inj (Option.some.inj (hinit.symm.trans hinit'))
  exact ⟨s.live, rfl, run_invariant _ XfMmInv.step hinv hrun⟩

/-- An allocation adds to the live ones, unless it fails. -/
lemma alloc (h : XfMmLive addr size M pool) (hpos : 0 < n.toNat) (hn : 32 ∣ n.toNat) :
    ∃ pool' p, xfMmAlloc pool n = some (pool', p) ∧ XfMmLive addr size
      (xfMmTaken p n + M) pool' := by
  obtain ⟨live, rfl, hinv⟩ := h
  obtain ⟨pool', p, halloc, hinv'⟩ := hinv.alloc hpos hn
  refine ⟨pool', p, halloc, _, ?_, hinv'⟩
  by_cases hp : p = 0
  · rw [if_pos hp, hp, xfMmTaken_null, zero_add]
  · rw [if_neg hp, xfMmTaken_of_ne hp, Multiset.singleton_add, Multiset.cons_coe]

/-- An allocation that fails leaves the pool as it is. -/
lemma eq_of_alloc_null (h : XfMmLive addr size M pool) (hpos : 0 < n.toNat) (hn : 32 ∣ n.toNat)
    (halloc : xfMmAlloc pool n = some (pool', 0)) : pool' = pool := by
  obtain ⟨live, -, haddr, -, hnull, L, A, hok⟩ := h
  by_cases haddr0 : pool.addr = 0
  · have hlive : live = [] := hnull.resolve_left fun hne => hne (haddr ▸ haddr0)
    have hres := xfMmAlloc_null n hok (fun x hx => ((hlive ▸ hok).eq_addr hx).trans haddr0) hn
    exact (Prod.mk.inj (Option.some.inj (halloc.symm.trans hres))).1
  · rcases xfMmAlloc_spec hok (hok.zero_notMem haddr0) hpos hn with ⟨hres, -⟩ |
      ⟨b, -, -, -, pool₁, L', A', hres, haddr', -, -, hok'⟩
    · exact (Prod.mk.inj (Option.some.inj (halloc.symm.trans hres))).1
    · have hp : b + (xfMmBlockLength pool.lMap b - n) = 0 :=
        (Prod.mk.inj (Option.some.inj (hres.symm.trans halloc))).2
      -- the null pointer is below the pool
      have hle := (hok'.region_le (List.mem_append_right _ List.mem_cons_self)).1
      rw [haddr', hp] at hle
      exact absurd (BitVec.eq_of_toNat_eq (by simpa using hle)) haddr0

/-- A live allocation is in the list of them, and the others are the rest of the list. -/
lemma coe_erase {live : List (U32 × U32)}
    (hlive : (live : Multiset (U32 × U32)) = {(p, n)} + M) :
    (p, n) ∈ live ∧ ((live.erase (p, n) : List (U32 × U32)) : Multiset (U32 × U32)) = M := by
  have hmem : (p, n) ∈ live := by
    rw [← Multiset.mem_coe, hlive]
    exact Multiset.mem_add.2 (.inl (Multiset.mem_singleton_self _))
  refine ⟨hmem, ?_⟩
  have hperm := Multiset.coe_eq_coe.2 (List.perm_cons_erase hmem)
  rw [hlive, ← Multiset.cons_coe, Multiset.singleton_add] at hperm
  exact ((Multiset.cons_inj_right _).1 hperm).symm

/-- The release of a live allocation. -/
lemma free (h : XfMmLive addr size ({(p, n)} + M) pool) :
    ∃ pool', xfMmFree pool p n = some pool' ∧ XfMmLive addr size M pool' := by
  obtain ⟨live, hlive, hinv⟩ := h
  obtain ⟨hmem, herase⟩ := coe_erase hlive
  obtain ⟨pool', hfree, hinv'⟩ := hinv.free hmem
  exact ⟨pool', hfree, _, herase, hinv'⟩

/-- The free bytes are those of the pool that no live allocation has. -/
lemma mem_freeBytes (h : XfMmLive addr size M pool) (a : ℕ) :
    a ∈ xfMmFreeBytes pool ↔
      a ∈ Set.Ico addr.toNat (addr.toNat + size.toNat) ∧ ∀ r ∈ M, a ∉ xfMmRegion r := by
  obtain ⟨live, rfl, rfl, rfl, -, L, A, hok⟩ := h
  have hapart := (List.pairwise_append.1 hok.tiles.disjoint).2.2
  constructor
  · rintro ⟨L', hholds, b, hb, ha⟩
    obtain rfl := hok.lHolds.unique hholds
    have hmem := mem_xfMmFreeRegions pool.lMap hb
    refine ⟨(hok.tiles.cover a).2 ⟨_, List.mem_append_left _ hmem, ha⟩, fun r hr hra => ?_⟩
    exact (hapart _ hmem r (Multiset.mem_coe.1 hr)).le_bot ⟨ha, hra⟩
  · rintro ⟨hin, hout⟩
    obtain ⟨r, hr, har⟩ := (hok.tiles.cover a).1 hin
    rcases List.mem_append.1 hr with hfree | hlive
    · obtain ⟨b, hb, rfl⟩ := List.mem_map.1 hfree
      exact ⟨L, hok.lHolds, b, hb, har⟩
    · exact absurd har (hout r (Multiset.mem_coe.2 hlive))

/-- A live allocation has bytes of the pool. -/
lemma exists_byte (h : XfMmLive addr size ({(p, n)} + M) pool) :
    ∃ a ∈ Set.Ico addr.toNat (addr.toNat + size.toNat), a ∈ xfMmRegion (p, n) ∧
      ∀ r ∈ M, a ∉ xfMmRegion r := by
  obtain ⟨live, hlive, rfl, rfl, -, L, A, hok⟩ := h
  obtain ⟨hmem, herase⟩ := coe_erase hlive
  have hpos : 0 < n.toNat := (hok.aligned _ (List.mem_append_right _ hmem)).2.2
  have ha : p.toNat ∈ xfMmRegion (p, n) := by
    simp only [xfMmRegion, Set.mem_Ico]
    omega
  have hperm : (xfMmFreeRegions pool.lMap L ++ live).Perm
      ((p, n) :: (xfMmFreeRegions pool.lMap L ++ live.erase (p, n))) :=
    ((List.perm_cons_erase hmem).append_left _).trans List.perm_middle
  refine ⟨p.toNat, (hok.tiles.cover _).2 ⟨_, List.mem_append_right _ hmem, ha⟩, ha, fun r hr => ?_⟩
  refine (hok.tiles.perm hperm).notMem ha (List.mem_append_right _ ?_)
  rw [← Multiset.mem_coe, herase]
  exact hr

/-- The free bytes are the same only if nothing has been added to the live allocations. -/
lemma freeBytes_eq_iff {E : Multiset (U32 × U32)} (h : XfMmLive addr size M pool)
    (h' : XfMmLive addr size (E + M) pool') : xfMmFreeBytes pool' = xfMmFreeBytes pool ↔ E = 0 := by
  constructor
  · intro heq
    by_contra hne
    obtain ⟨⟨p, n⟩, hmem⟩ := Multiset.exists_mem_of_ne_zero hne
    obtain ⟨E', rfl⟩ := Multiset.exists_cons_of_mem hmem
    have hsplit : (p, n) ::ₘ E' + M = {(p, n)} + (E' + M) := by
      rw [Multiset.cons_add, Multiset.singleton_add]
    have h'' := h'
    rw [hsplit] at h''
    obtain ⟨a, hin, ha, hout⟩ := h''.exists_byte
    -- the byte is free before, and not after
    have hfree : a ∈ xfMmFreeBytes pool :=
      (h.mem_freeBytes a).2 ⟨hin, fun r hr => hout r (Multiset.mem_add.2 (.inr hr))⟩
    rw [← heq, h'.mem_freeBytes] at hfree
    exact hfree.2 (p, n) (Multiset.mem_add.2 (.inl (Multiset.mem_cons_self _ _))) ha
  · rintro rfl
    rw [zero_add] at h'
    apply Set.ext
    intro a
    rw [h.mem_freeBytes, h'.mem_freeBytes]

end XfMmLive

end Hikey
