import Hikey.Foundation.Align
import Hikey.Mem.BestFit
import Hikey.Msg

/-!
# Shared buffers of the remote proxy (`XF_ALLOC` and `XF_FREE` in `core/xf-core.c`)

The remote proxy asks for a buffer of any length; the length is rounded up to the cache line in 32
bits before it reaches the allocator.  A run (`XfShmemStep`) consists of the two commands, a buffer
being freed with the length it was asked for, and of the writes of the proxy to its buffers.
-/

namespace Hikey

/-! ## The source -/

/-- `XF_ALIGNED`, with the value `a` of `XF_PROXY_ALIGNMENT`. -/
def xfAligned (a size : U32) : U32 := (size + a - 1) &&& ~~~(a - 1)

/-- `xf_shmem_enabled`. -/
def xfShmemEnabled (core : U32) : Bool := core = 0

/-- `xf_shmem_alloc`: the pool, the message, and whether there was memory. -/
def xfShmemAlloc (a : U32) (pool : XfMmPool) (m : XfMessage) :
    Option (XfMmPool × XfMessage × Bool) := do
  let (pool, p) ← xfMmAlloc pool (xfAligned a m.length)
  pure (pool, { m with buffer := p }, p ≠ 0)

/-- `xf_shmem_free`. -/
def xfShmemFree (a : U32) (pool : XfMmPool) (m : XfMessage) : Option XfMmPool :=
  xfMmFree pool m.buffer (xfAligned a m.length)

/-- `xf_proxy_alloc`: the pool and the response; `none` inside the result is `-EPERM`.  The result
of the allocation is not looked at. -/
def xfProxyAlloc (a core : U32) (pool : XfMmPool) (m : XfMessage) :
    Option (Option (XfMmPool × XfMessage)) :=
  if !xfShmemEnabled core then some none
  else do
    let (pool, m, _) ← xfShmemAlloc a pool m
    pure (some (pool, m))

/-- `xf_proxy_free`. -/
def xfProxyFree (a core : U32) (pool : XfMmPool) (m : XfMessage) :
    Option (Option (XfMmPool × XfMessage)) :=
  if !xfShmemEnabled core then some none
  else do
    let pool ← xfShmemFree a pool m
    pure (some (pool, m))

/-! ## Runs -/

/-- One step of the shared pool: a command whose response is not an error, or a write of the proxy.
The requests meet `ok`; a live buffer is kept with the length that the proxy asked for. -/
inductive XfShmemStep (a core : U32) (ok : XfMmPool → U32 → Prop) : XfMmState → XfMmState → Prop
  | alloc {pool pool' : XfMmPool} {live : List (U32 × U32)} {m response : XfMessage} :
      ok pool m.length → xfProxyAlloc a core pool m = some (some (pool', response)) →
        XfShmemStep a core ok ⟨pool, live⟩
          ⟨pool', if response.buffer = 0 then live else (response.buffer, m.length) :: live⟩
  | free {pool pool' : XfMmPool} {live : List (U32 × U32)} {m response : XfMessage} :
      (m.buffer, m.length) ∈ live → xfProxyFree a core pool m = some (some (pool', response)) →
        XfShmemStep a core ok ⟨pool, live⟩ ⟨pool', live.erase (m.buffer, m.length)⟩
  | write {pool : XfMmPool} {live : List (U32 × U32)} {lMap aMap : RbTree U32} :
      (lMap none = pool.lMap none ∧ aMap none = pool.aMap none) →
        (∀ x : U32, (∀ r ∈ live, x.toNat ∉ xfMmRegion r) →
          lMap (some x) = pool.lMap (some x) ∧ aMap (some x) = pool.aMap (some x)) →
          XfShmemStep a core ok ⟨pool, live⟩ ⟨{ pool with lMap, aMap }, live⟩

/-- A live buffer with the length that the allocator knows. -/
def xfAlignedRegion (a : U32) (r : U32 × U32) : U32 × U32 := (r.1, xfAligned a r.2)

/-- What the claimed use of the shared pool promises: the buffers lie inside the pool and apart from
each other, the pool keeps its invariant, and a response without a buffer leaves the pool unchanged.
-/
structure XfShmemSafe (a addr size : U32) (ok : XfMmPool → U32 → Prop) (s : XfMmState) : Prop where
  inside : ∀ r ∈ s.live, addr.toNat ≤ r.1.toNat ∧ r.1.toNat + r.2.toNat ≤ addr.toNat + size.toNat
  apart : s.live.Pairwise fun r r' => Disjoint (xfMmRegion r) (xfMmRegion r')
  bounds : s.pool.addr = addr ∧ s.pool.size = size
  maps : ∃ L A, XfMmOk s.pool
    ((s.live.map (xfAlignedRegion a)).filter fun r => 0 < r.2.toNat) L A
  alloc : ∀ m : XfMessage, ok s.pool m.length → ∃ pool p,
    xfProxyAlloc a 0 s.pool m = some (some (pool, { m with buffer := p })) ∧ (p = 0 → pool = s.pool)
  free : ∀ m : XfMessage, (m.buffer, m.length) ∈ s.live → ∃ pool,
    xfProxyFree a 0 s.pool m = some (some (pool, m))

/-- The lengths that the code is made for: the rounded length is a positive number of cache lines.
With no free block at all, every length is refused. -/
def XfShmemFits (a : U32) (pool : XfMmPool) (n : U32) : Prop :=
  (0 < n.toNat ∧ n.toNat ≤ 2 ^ 32 - a.toNat) ∨ ∀ b, ¬ XfMmFreeBlock pool b

variable {a addr size core n : U32} {pool₀ pool : XfMmPool} {s s' : XfMmState} {k : ℕ}

/-! ## Rounding -/

/-- A length is rounded up to a multiple of the cache line, as long as there is one. -/
lemma xfAligned_spec (ha : a.toNat = 2 ^ k) (hk : 5 ≤ k) (hn : 0 < n.toNat)
    (hle : n.toNat ≤ 2 ^ 32 - a.toNat) :
    n.toNat ≤ (xfAligned a n).toNat ∧ 32 ∣ (xfAligned a n).toNat ∧ 0 < (xfAligned a n).toNat := by
  have hpow : 0 < 2 ^ k := Nat.two_pow_pos k
  have halt := a.isLt
  have hsum : (n + a - 1).toNat = n.toNat + 2 ^ k - 1 := by
    rw [BitVec.toNat_sub, BitVec.toNat_add, ha]
    simp only [BitVec.ofNat_eq_ofNat, BitVec.toNat_ofNat]
    omega
  rw [xfAligned, toNat_and_not_sub_one _ ha, hsum]
  have hdiv := Nat.div_add_mod' (n.toNat + 2 ^ k - 1) (2 ^ k)
  have hmod := Nat.mod_lt (n.toNat + 2 ^ k - 1) hpow
  have h32 : 32 ∣ 2 ^ k := Nat.pow_dvd_pow 2 hk
  exact ⟨by omega, h32.mul_left _, by omega⟩

/-! ## The invariant -/

/-- The live buffers, as the allocator knows them. -/
def xfShmemLive (a : U32) (live : List (U32 × U32)) : Multiset (U32 × U32) :=
  (live : Multiset (U32 × U32)).map (xfAlignedRegion a)

/-- The allocator is in use with the rounded buffers, none of which has a length that cannot be
rounded. -/
def XfShmemInv (a addr size : U32) (s : XfMmState) : Prop :=
  XfMmLive addr size (xfShmemLive a s.live) s.pool ∧
    ∀ r ∈ s.live, 0 < r.2.toNat ∧ r.2.toNat ≤ 2 ^ 32 - a.toNat

/-- The live allocations may be listed in any order. -/
lemma XfMmOk.permLive {live live' : List (U32 × U32)} {L A : List U32} (h : XfMmOk pool live L A)
    (hp : live.Perm live') : XfMmOk pool live' L A := by
  have hp' := hp.append_left (xfMmFreeRegions pool.lMap L)
  exact { h with
    tiles := h.tiles.perm hp'
    aligned := fun r hr => h.aligned r (hp'.mem_iff.mpr hr) }

/-- Without a free block every request fails, whatever its length is. -/
lemma xfMmAlloc_of_full {L A : List U32} {live : List (U32 × U32)} (h : XfMmOk pool live L A)
    (hfull : ∀ b, ¬ XfMmFreeBlock pool b) (n : U32) : xfMmAlloc pool n = some (pool, 0) := by
  obtain ⟨T, hT, rfl⟩ := h.lHolds
  cases T with
  | node c l b r => exact absurd ((h.freeBlock_iff b).2 (by simp)) (hfull b)
  | nil =>
    have hroot : pool.lMap.rbRoot = none := hT.root
    rw [xfMmAlloc, xfMmFindBySize, hroot]
    rfl

namespace XfShmemInv

/-- A region inside its rounded region. -/
lemma region_subset (ha : a.toNat = 2 ^ k) (hk : 5 ≤ k) {r : U32 × U32} (hpos : 0 < r.2.toNat)
    (hle : r.2.toNat ≤ 2 ^ 32 - a.toNat) : xfMmRegion r ⊆ xfMmRegion (xfAlignedRegion a r) := by
  have hround := (xfAligned_spec ha hk hpos hle).1
  intro x hx
  simp only [xfMmRegion, xfAlignedRegion, Set.mem_Ico] at hx ⊢
  omega

/-- The allocation of a shared buffer. -/
lemma alloc (ha : a.toNat = 2 ^ k) (hk : 5 ≤ k) (h : XfShmemInv a addr size s) (m : XfMessage)
    (hfits : XfShmemFits a s.pool m.length) :
    ∃ pool p, xfMmAlloc s.pool (xfAligned a m.length) = some (pool, p) ∧ (p = 0 → pool = s.pool) ∧
      XfShmemInv a addr size ⟨pool, if p = 0 then s.live else (p, m.length) :: s.live⟩ := by
  obtain ⟨hlive, hlen⟩ := h
  rcases hfits with ⟨hpos, hle⟩ | hfull
  · obtain ⟨-, h32, hpos'⟩ := xfAligned_spec ha hk hpos hle
    obtain ⟨pool', p, halloc, hlive'⟩ := hlive.alloc hpos' h32
    refine ⟨pool', p, halloc, ?_, ?_⟩
    · rintro rfl
      exact hlive.eq_of_alloc_null hpos' h32 halloc
    · by_cases hp : p = 0
      · rw [hp, xfMmTaken_null, zero_add] at hlive'
        simp only [if_pos hp]
        exact ⟨hlive', hlen⟩
      · rw [xfMmTaken_of_ne hp, Multiset.singleton_add] at hlive'
        simp only [if_neg hp]
        refine ⟨hlive', fun r hr => ?_⟩
        rcases List.mem_cons.1 hr with rfl | hr
        · exact ⟨hpos, hle⟩
        · exact hlen r hr
  · obtain ⟨live, -, -, -, -, L, A, hok⟩ := id hlive
    exact ⟨s.pool, 0, xfMmAlloc_of_full hok hfull _, fun _ => rfl, hlive, hlen⟩

/-- The release of a live buffer. -/
lemma free (h : XfShmemInv a addr size s) {r : U32 × U32} (hr : r ∈ s.live) :
    ∃ pool, xfMmFree s.pool r.1 (xfAligned a r.2) = some pool ∧
      XfShmemInv a addr size ⟨pool, s.live.erase r⟩ := by
  obtain ⟨hlive, hlen⟩ := h
  have hsplit : xfShmemLive a s.live = {xfAlignedRegion a r} + xfShmemLive a (s.live.erase r) := by
    rw [xfShmemLive, Multiset.coe_eq_coe.2 (List.perm_cons_erase hr), ← Multiset.cons_coe,
      Multiset.map_cons, Multiset.singleton_add]
    rfl
  rw [hsplit] at hlive
  obtain ⟨pool, hfree, hlive'⟩ := hlive.free
  exact ⟨pool, hfree, hlive', fun r' hr' => hlen r' (List.mem_of_mem_erase hr')⟩

/-- The writes of the proxy. -/
lemma write (ha : a.toNat = 2 ^ k) (hk : 5 ≤ k) (h : XfShmemInv a addr size s)
    {lMap aMap : RbTree U32} (hnull : lMap none = s.pool.lMap none ∧ aMap none = s.pool.aMap none)
    (hsame : ∀ x : U32, (∀ r ∈ s.live, x.toNat ∉ xfMmRegion r) →
      lMap (some x) = s.pool.lMap (some x) ∧ aMap (some x) = s.pool.aMap (some x)) :
    XfShmemInv a addr size ⟨{ s.pool with lMap, aMap }, s.live⟩ := by
  obtain ⟨⟨live, hlive, hinv⟩, hlen⟩ := h
  refine ⟨⟨live, hlive, hinv.step _ _ (.write hnull ?_)⟩, hlen⟩
  intro x hx
  refine hsame x fun r hr hxr => ?_
  have hmem : xfAlignedRegion a r ∈ live := by
    rw [← Multiset.mem_coe, hlive]
    exact Multiset.mem_map_of_mem _ (Multiset.mem_coe.2 hr)
  exact hx _ hmem (region_subset ha hk (hlen r hr).1 (hlen r hr).2 hxr)

/-- What holds in every state with the invariant. -/
lemma safe (ha : a.toNat = 2 ^ k) (hk : 5 ≤ k) (h : XfShmemInv a addr size s) :
    XfShmemSafe a addr size (XfShmemFits a) s := by
  obtain ⟨⟨live, hlive, haddr, hsize, -, L, A, hok⟩, hlen⟩ := id h
  have hperm : live.Perm (s.live.map (xfAlignedRegion a)) := by
    rw [← Multiset.coe_eq_coe, hlive, xfShmemLive, Multiset.map_coe]
  have hok := hok.permLive hperm
  have hround := fun r hr => xfAligned_spec ha hk (hlen r hr).1 (hlen r hr).2
  refine ⟨fun r hr => ?_, ?_, ⟨haddr, hsize⟩, ⟨L, A, ?_⟩, fun m hm => ?_, fun m hm => ?_⟩
  · obtain ⟨hlo, hhi⟩ := hok.region_le
      (List.mem_append_right _ (List.mem_map_of_mem (f := xfAlignedRegion a) hr))
    have := (hround r hr).1
    simp only [xfAlignedRegion] at hlo hhi
    rw [← haddr, ← hsize]
    simp only
    omega
  · have hapart := List.pairwise_map.1 (List.pairwise_append.1 hok.tiles.disjoint).2.1
    refine hapart.imp_of_mem fun hr hr' hdisj => ?_
    exact hdisj.mono (region_subset ha hk (hlen _ hr).1 (hlen _ hr).2)
      (region_subset ha hk (hlen _ hr').1 (hlen _ hr').2)
  · rw [List.filter_eq_self.2]
    · exact hok
    · intro r hr
      obtain ⟨r', hr', rfl⟩ := List.mem_map.1 hr
      exact decide_eq_true (hround r' hr').2.2
  · obtain ⟨pool, p, halloc, hsame, -⟩ := h.alloc ha hk m hm
    exact ⟨pool, p, by simp [xfProxyAlloc, xfShmemEnabled, xfShmemAlloc, halloc], hsame⟩
  · obtain ⟨pool, hfree, -⟩ := h.free hm
    exact ⟨pool, by simp [xfProxyFree, xfShmemEnabled, xfShmemFree, hfree]⟩

/-- Every step with a length that the code is made for keeps the invariant. -/
lemma step (ha : a.toNat = 2 ^ k) (hk : 5 ≤ k) (s s' : XfMmState) (h : XfShmemInv a addr size s)
    (hstep : XfShmemStep a core (XfShmemFits a) s s') : XfShmemInv a addr size s' := by
  cases hstep with
  | @alloc pool pool' live m response hfits halloc =>
    obtain ⟨pool₁, p, hres, -, hinv⟩ := h.alloc ha hk m hfits
    by_cases hcore : xfShmemEnabled core
    · simp only [xfProxyAlloc, hcore, xfShmemAlloc, hres, Option.bind_eq_bind, Option.bind_some,
        Bool.not_true, Bool.false_eq_true, if_false, Option.pure_def, Option.some.injEq,
        Prod.mk.injEq] at halloc
      obtain ⟨rfl, rfl⟩ := halloc
      exact hinv
    · simp [xfProxyAlloc, hcore] at halloc
  | @free pool pool' live m response hmem hfree =>
    obtain ⟨pool₁, hres, hinv⟩ := h.free hmem
    by_cases hcore : xfShmemEnabled core
    · simp only [xfProxyFree, hcore, xfShmemFree, hres, Option.bind_eq_bind, Option.bind_some,
        Bool.not_true, Bool.false_eq_true, if_false, Option.pure_def, Option.some.injEq,
        Prod.mk.injEq] at hfree
      obtain ⟨rfl, rfl⟩ := hfree
      exact hinv
    · simp [xfProxyFree, hcore] at hfree
  | write hnull hsame => exact h.write ha hk hnull hsame

end XfShmemInv

/-- Every state that the two commands reach is safe, as long as the requested lengths can be rounded
up to a positive number. -/
theorem xfShmem_run {addr size a core : U32} {k : ℕ} (pool₀ : XfMmPool) (haddr : 32 ∣ addr.toNat)
    (hsize : 32 ∣ size.toNat) (hpos : 0 < size.toNat) (hwrap : addr.toNat + size.toNat ≤ 2 ^ 32)
    (ha : a.toNat = 2 ^ k) (hk : 5 ≤ k) :
    ∃ pool, xfMmInit pool₀ addr size = some (some pool) ∧
      ∀ s, Relation.ReflTransGen (XfShmemStep a core (XfShmemFits a)) ⟨pool, []⟩ s →
        XfShmemSafe a addr size (XfShmemFits a) s := by
  obtain ⟨pool, hinit, hinv⟩ := xfMmInit_spec pool₀ haddr hsize hpos hwrap
  refine ⟨pool, hinit, fun s hrun => ?_⟩
  have hstart : XfShmemInv a addr size ⟨pool, []⟩ := ⟨⟨[], rfl, hinv⟩, by simp⟩
  exact (run_invariant _ (XfShmemInv.step ha hk) hstart hrun).safe ha hk

/-- A pool of two blocks, shared with a core that has cache lines of 64 bytes. -/
theorem xfShmem_run_two_blocks :
    ∃ pool, xfMmInit xfMmRawPool 32#32 64#32 = some (some pool) ∧
      ∀ s, Relation.ReflTransGen (XfShmemStep 64#32 0#32 (XfShmemFits 64#32)) ⟨pool, []⟩ s →
        XfShmemSafe 64#32 32#32 64#32 (XfShmemFits 64#32) s :=
  xfShmem_run (k := 6) xfMmRawPool (by decide) (by decide) (by decide) (by decide)
    (by decide) (by decide)

/-- A block of length zero is never in the maps of a safe pool. -/
lemma not_safe_of_root {ok : XfMmPool → U32 → Prop} {b : U32} (hroot : s.pool.lMap.rbRoot = some b)
    (hlen : xfMmBlockLength s.pool.lMap b = 0) : ¬ XfShmemSafe a addr size ok s := by
  rintro ⟨-, -, -, ⟨L, A, hok⟩, -, -⟩
  obtain ⟨T, hT, rfl⟩ := id hok.lHolds
  cases T with
  | nil => exact absurd (hroot.symm.trans hT.root) (by simp)
  | node c l x r =>
    obtain rfl : b = x := Option.some.inj (hroot.symm.trans hT.root)
    have hpos := (hok.block (b := b) (by simp)).2.2.1
    rw [hlen] at hpos
    exact absurd hpos (by decide)

/-- A command for a buffer. -/
def xfShmemCommand (p n : U32) : XfMessage := ⟨.proxy 0, ⟨0, 0⟩, .other, n, p⟩

section Steps

variable {ok : XfMmPool → U32 → Prop} {live : List (U32 × U32)} {p : U32} {pool' : XfMmPool}

lemma XfShmemStep.of_alloc (hok : ok pool n) (h : xfMmAlloc pool (xfAligned a n) = some (pool', p))
    (hp : p ≠ 0) : XfShmemStep a 0#32 ok ⟨pool, live⟩ ⟨pool', (p, n) :: live⟩ := by
  have hproxy : xfProxyAlloc a 0#32 pool (xfShmemCommand 0 n) =
      some (some (pool', xfShmemCommand p n)) := by
    simp [xfProxyAlloc, xfShmemEnabled, xfShmemAlloc, xfShmemCommand, h]
  have hstep : XfShmemStep a 0#32 ok ⟨pool, live⟩ _ := .alloc hok hproxy
  rw [if_neg (show ¬ (xfShmemCommand p n).buffer = 0 from hp)] at hstep
  exact hstep

lemma XfShmemStep.of_free (hmem : (p, n) ∈ live)
    (h : xfMmFree pool p (xfAligned a n) = some pool') :
    XfShmemStep a 0#32 ok ⟨pool, live⟩ ⟨pool', live.erase (p, n)⟩ := by
  have hproxy : xfProxyFree a 0#32 pool (xfShmemCommand p n) =
      some (some (pool', xfShmemCommand p n)) := by
    simp [xfProxyFree, xfShmemEnabled, xfShmemFree, xfShmemCommand, h]
  exact .free hmem hproxy

end Steps

/-- A pool of one block.  A length that wraps is rounded to zero, and the response carries the end
of the block.  So does a request of zero bytes; freeing that buffer once the block has been handed
out leaves a block of length zero in the maps. -/
theorem xfShmem_not_safe : ∃ pool, xfMmInit xfMmRawPool 32#32 32#32 = some (some pool) ∧
    (∃ s, Relation.ReflTransGen (XfShmemStep 32#32 0#32 fun _ n => n = 0xFFFFFFFF#32) ⟨pool, []⟩ s ∧
      ¬ XfShmemSafe 32#32 32#32 32#32 (fun _ n => n = 0xFFFFFFFF#32) s) ∧
    ∃ s, Relation.ReflTransGen
      (XfShmemStep 32#32 0#32 fun _ n => n = 0#32 ∨ n = 32#32) ⟨pool, []⟩ s ∧
      ¬ XfShmemSafe 32#32 32#32 32#32 (fun _ n => n = 0#32 ∨ n = 32#32) s := by
  obtain ⟨pool, hinit, -⟩ : ∃ pool, xfMmInit xfMmRawPool 32#32 32#32 = some (some pool) ∧
      XfMmInv 32#32 32#32 ⟨pool, []⟩ :=
    xfMmInit_spec xfMmRawPool (by decide) (by decide) (by decide) (by decide)
  have heval : ((xfMmInit xfMmRawPool 32#32 32#32).bind id).bind (fun pool =>
      (xfMmAlloc pool 0#32).bind fun r => (xfMmAlloc r.1 32#32).bind fun r' =>
        (xfMmFree r'.1 64#32 0#32).map fun pool =>
          (r.2, r'.2, pool.lMap.rbRoot, xfMmBlockLength pool.lMap 64#32)) =
        some (64#32, 32#32, some 64#32, 0#32) := by
    decide +kernel
  simp only [hinit, Option.bind_some, id, Option.bind_eq_some_iff, Option.map_eq_some_iff,
    Prod.mk.injEq, Prod.exists] at heval
  obtain ⟨pool₁, _, halloc₁, pool₂, _, halloc₂, pool₃, hfree, rfl, rfl, hroot, hlen⟩ := heval
  refine ⟨pool, hinit, ⟨_, .single (.of_alloc rfl halloc₁ (by decide)), ?_⟩, ?_⟩
  · rintro ⟨hinside, -⟩
    exact absurd (hinside _ List.mem_cons_self).2 (by decide)
  · have hrun : Relation.ReflTransGen (XfShmemStep 32#32 0#32 fun _ n => n = 0#32 ∨ n = 32#32)
        ⟨pool, []⟩ ⟨pool₂, [(32#32, 32#32), (64#32, 0#32)]⟩ :=
      .tail (.single (.of_alloc (.inl rfl) halloc₁ (by decide)))
        (.of_alloc (.inr rfl) halloc₂ (by decide))
    exact ⟨_, hrun.tail (.of_free (n := 0#32) (by decide) hfree), not_safe_of_root hroot hlen⟩

end Hikey
