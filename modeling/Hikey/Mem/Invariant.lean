import Hikey.Foundation.Tiling
import Hikey.Mem.Search

/-!
# The invariant of the memory allocator

`XfMmCore` is what holds at every moment inside an entry point: both maps are sorted red-black
trees, and the blocks `F` together with the live allocations tile the pool.  `XfMmOk` is the
invariant between calls: both maps index the same blocks, and no two of them are adjacent.  Every
library call and every change of a block length is one lemma about `XfMmCore`.
-/

namespace Hikey

open RbTree

/-- The addresses of a region, a pair of start address and length. -/
def xfMmRegion (r : U32 × U32) : Set ℕ := Set.Ico r.1.toNat (r.1.toNat + r.2.toNat)

/-- The regions of the blocks `F`, with the lengths that the length map records. -/
def xfMmFreeRegions (lMap : RbTree U32) (F : List U32) : List (U32 × U32) :=
  F.map fun b => (b, xfMmBlockLength lMap b)

/-- Both maps are sorted, holding the blocks `L` and `A`, and the blocks `F` and the allocations
`live` tile the pool. -/
structure XfMmCore (pool : XfMmPool) (live : List (U32 × U32)) (L A F : List U32) : Prop where
  lHolds : pool.lMap.Holds L
  aHolds : pool.aMap.Holds A
  lSorted : L.Pairwise fun x y =>
    (xfMmBlockLength pool.lMap x).toNat ≤ (xfMmBlockLength pool.lMap y).toNat
  aSorted : A.Pairwise fun x y => x.toNat < y.toNat
  tiles : Tiles xfMmRegion (xfMmFreeRegions pool.lMap F ++ live)
    (Set.Ico pool.addr.toNat (pool.addr.toNat + pool.size.toNat))
  aligned : ∀ r ∈ xfMmFreeRegions pool.lMap F ++ live,
    32 ∣ r.1.toNat ∧ 32 ∣ r.2.toNat ∧ 0 < r.2.toNat
  wrap : pool.addr.toNat + pool.size.toNat ≤ 2 ^ 32

/-- The invariant between calls: the maps hold the same blocks, no two of them adjacent. -/
structure XfMmOk (pool : XfMmPool) (live : List (U32 × U32)) (L A : List U32) : Prop
    extends XfMmCore pool live L A L where
  perm : L.Perm A
  separated : ∀ x ∈ L, ∀ y ∈ L, x.toNat + (xfMmBlockLength pool.lMap x).toNat ≠ y.toNat

variable {pool : XfMmPool} {live live' : List (U32 × U32)} {L A F F' : List U32}
  {b n size : U32}

/-! ## Regions -/

/-- A region is the union of two adjacent ones. -/
lemma xfMmRegion_split (r r₁ r₂ : U32 × U32) (h : r.1.toNat = r₁.1.toNat)
    (h₂ : r₂.1.toNat = r₁.1.toNat + r₁.2.toNat) (hlen : r.2.toNat = r₁.2.toNat + r₂.2.toNat) :
    xfMmRegion r = xfMmRegion r₁ ∪ xfMmRegion r₂ ∧ Disjoint (xfMmRegion r₁) (xfMmRegion r₂) := by
  constructor
  · ext a
    simp only [xfMmRegion, Set.mem_union, Set.mem_Ico]
    omega
  · rw [Set.disjoint_left]
    intro a
    simp only [xfMmRegion, Set.mem_Ico]
    omega

lemma mem_xfMmFreeRegions (lMap : RbTree U32) (hb : b ∈ F) :
    (b, xfMmBlockLength lMap b) ∈ xfMmFreeRegions lMap F := List.mem_map.mpr ⟨b, hb, rfl⟩

lemma xfMmFreeRegions_congr {lMap lMap' : RbTree U32}
    (h : ∀ x ∈ F, xfMmBlockLength lMap' x = xfMmBlockLength lMap x) :
    xfMmFreeRegions lMap' F = xfMmFreeRegions lMap F :=
  List.map_congr_left fun x hx => by rw [h x hx]

namespace XfMmCore

/-- Every region of the tiling lies inside the pool. -/
lemma region_le (h : XfMmCore pool live L A F) {r : U32 × U32}
    (hr : r ∈ xfMmFreeRegions pool.lMap F ++ live) :
    pool.addr.toNat ≤ r.1.toNat ∧ r.1.toNat + r.2.toNat ≤ pool.addr.toNat + pool.size.toNat := by
  have hpos := (h.aligned r hr).2.2
  have h1 := (h.tiles.cover r.1.toNat).mpr ⟨r, hr, by simp only [xfMmRegion, Set.mem_Ico]; omega⟩
  have h2 := (h.tiles.cover (r.1.toNat + r.2.toNat - 1)).mpr
    ⟨r, hr, by simp only [xfMmRegion, Set.mem_Ico]; omega⟩
  simp only [Set.mem_Ico] at h1 h2
  omega

/-- Two different regions of the tiling lie apart. -/
lemma apart (h : XfMmCore pool live L A F) (r r' : U32 × U32) {rs : List (U32 × U32)}
    (hp : (xfMmFreeRegions pool.lMap F ++ live).Perm (r :: rs)) (hr' : r' ∈ rs) :
    r.1.toNat + r.2.toNat ≤ r'.1.toNat ∨ r'.1.toNat + r'.2.toNat ≤ r.1.toNat := by
  have hpos := (h.aligned r (hp.mem_iff.mpr (by simp))).2.2
  have hpos' := (h.aligned r' (hp.mem_iff.mpr (by simp [hr']))).2.2
  by_contra hcon
  have hmem : max r.1.toNat r'.1.toNat ∈ xfMmRegion r := by
    simp only [xfMmRegion, Set.mem_Ico]; omega
  refine (h.tiles.perm hp).notMem hmem hr' ?_
  simp only [xfMmRegion, Set.mem_Ico]
  omega

/-- Two different blocks lie apart. -/
lemma apart_blocks (h : XfMmCore pool live L A F) {x y : U32} (hx : x ∈ F) (hy : y ∈ F)
    (hxy : x ≠ y) :
    x.toNat + (xfMmBlockLength pool.lMap x).toNat ≤ y.toNat ∨
      y.toNat + (xfMmBlockLength pool.lMap y).toNat ≤ x.toNat := by
  have hp := (List.perm_cons_erase hx).map fun b => (b, xfMmBlockLength pool.lMap b)
  exact h.apart (x, _) (y, _) (hp.append_right live)
    (List.mem_append_left _ (mem_xfMmFreeRegions _ ((List.mem_erase_of_ne hxy.symm).mpr hy)))

/-- The blocks may be listed in any order. -/
lemma permBlocks (h : XfMmCore pool live L A F) (hp : F.Perm F') : XfMmCore pool live L A F' := by
  have hp' : (xfMmFreeRegions pool.lMap F ++ live).Perm (xfMmFreeRegions pool.lMap F' ++ live) :=
    (hp.map _).append_right _
  exact { h with tiles := h.tiles.perm hp', aligned :=
    fun r hr => h.aligned r (hp'.mem_iff.mpr hr) }

/-! ## Library calls -/

/-- A change of the length map that keeps all lengths. -/
lemma withLMap (h : XfMmCore pool live L A F) {lMap : RbTree U32} {L' : List U32}
    (hL : lMap.Holds L')
    (hlen : ∀ x, xfMmBlockLength lMap x = xfMmBlockLength pool.lMap x)
    (hsorted : L'.Pairwise fun x y =>
      (xfMmBlockLength pool.lMap x).toNat ≤ (xfMmBlockLength pool.lMap y).toNat) :
    XfMmCore { pool with lMap } live L' A F := by
  have hfree : xfMmFreeRegions lMap F = xfMmFreeRegions pool.lMap F :=
    xfMmFreeRegions_congr fun x _ => hlen x
  refine ⟨hL, h.aHolds, ?_, h.aSorted, ?_, ?_, h.wrap⟩
  · simpa [hlen] using hsorted
  · simpa [hfree] using h.tiles
  · simpa [hfree] using h.aligned

/-- Removing a block from the length map. -/
lemma deleteSize (h : XfMmCore pool live L A F) (hb : b ∈ L) :
    ∃ lMap, xfMmDeleteSize pool b = some { pool with lMap } ∧
      XfMmCore { pool with lMap } live (L.erase b) A F ∧
      ∀ x, xfMmBlockLength lMap x = xfMmBlockLength pool.lMap x := by
  obtain ⟨lMap, k, hres, hL, hf, -⟩ := h.lHolds.delete hb (length_lt_rbFuel h.lHolds.nodup).le
  have hlen := xfMmBlockLength_of_frame hf
  refine ⟨lMap, ?_, h.withLMap hL hlen (h.lSorted.erase b), hlen⟩
  rw [xfMmDeleteSize, hres]
  rfl

/-- Removing a block from the address map. -/
lemma deleteAddr (h : XfMmCore pool live L A F) (hb : b ∈ A) :
    ∃ aMap, xfMmDeleteAddr pool b = some { pool with aMap } ∧
      XfMmCore { pool with aMap } live L (A.erase b) F := by
  obtain ⟨aMap, k, hres, hA, -, -⟩ := h.aHolds.delete hb (length_lt_rbFuel h.aHolds.nodup).le
  refine ⟨aMap, ?_, { h with aHolds := hA, aSorted := h.aSorted.erase b }⟩
  rw [xfMmDeleteAddr, hres]
  rfl

/-- Adding a block to the length map, at the place of its length. -/
lemma insertSize (h : XfMmCore pool live L A F) (hb : b ∉ L)
    (hsize : xfMmBlockLength pool.lMap b = size) (heven : 2 ∣ size.toNat) :
    ∃ lMap L', xfMmInsertSize pool b size = some { pool with lMap } ∧ L'.Perm (b :: L) ∧
      XfMmCore { pool with lMap } live L' A F ∧
      ∀ x, xfMmBlockLength lMap x = xfMmBlockLength pool.lMap x := by
  have hless : ∀ x, xfMmBlockLengthLess pool.lMap x size ↔
      (xfMmBlockLength pool.lMap x).toNat < size.toNat := fun x => xfMmBlockLengthLess_iff heven
  obtain ⟨lMap, hres, hL, hf⟩ := h.lHolds.insertBy
    (fun x => xfMmBlockLengthLess pool.lMap x size) hb (h.lSorted.imp fun hxy hy => by
      rw [hless] at hy ⊢
      omega)
  have hlen := xfMmBlockLength_of_frame hf
  refine ⟨lMap, _, ?_, ?_, h.withLMap hL hlen ?_, hlen⟩
  · rw [xfMmInsertSize, hres]
    rfl
  · exact List.perm_middle.trans ((List.filter_append_perm _ L).cons b)
  · simp only [List.pairwise_append, List.pairwise_cons, List.mem_cons, List.mem_filter]
    refine ⟨h.lSorted.filter _, ⟨fun x hx => ?_, h.lSorted.filter _⟩, fun x hx y hy => ?_⟩
    · have : ¬ xfMmBlockLengthLess pool.lMap x size := by simpa using hx.2
      rw [hless] at this
      rw [hsize]
      omega
    · have hx' := (hless x).mp hx.2
      rcases hy with rfl | hy
      · rw [hsize]
        omega
      · have : ¬ xfMmBlockLengthLess pool.lMap y size := by simpa using hy.2
        rw [hless] at this
        omega

/-- Adding a block to the address map, at the place of its address. -/
lemma insertAddr (h : XfMmCore pool live L A F) (hb : b ∉ A) (hA : ∀ x ∈ A, x ∈ F) (hbF : b ∈ F) :
    ∃ aMap A', xfMmInsertAddr pool b = some { pool with aMap } ∧ A'.Perm (b :: A) ∧
      XfMmCore { pool with aMap } live L A' F := by
  have halign : ∀ x ∈ F, 32 ∣ x.toNat := fun x hx =>
    (h.aligned _ (List.mem_append_left live (mem_xfMmFreeRegions pool.lMap hx))).1
  have hless : ∀ x ∈ A, xfMmANode x < b ↔ x.toNat < b.toNat := fun x hx =>
    xfMmANode_lt_iff (halign x (hA x hx)) (halign b hbF)
  obtain ⟨aMap, hres, hA', -⟩ := h.aHolds.insertBy (fun x => xfMmANode x < b) hb
    (h.aSorted.imp_of_mem fun hx hy hxy hlt => by
      rw [decide_eq_true_iff, hless _ ‹_›] at hlt ⊢
      omega)
  refine ⟨aMap, _, ?_, ?_, { h with aHolds := hA', aSorted := ?_ }⟩
  · rw [xfMmInsertAddr, hres]
    rfl
  · exact List.perm_middle.trans ((List.filter_append_perm _ A).cons b)
  · simp only [List.pairwise_append, List.pairwise_cons, List.mem_cons, List.mem_filter]
    refine ⟨h.aSorted.filter _, ⟨fun x hx => ?_, h.aSorted.filter _⟩, fun x hx y hy => ?_⟩
    · have hle : ¬ x.toNat < b.toNat := by simpa [hless x hx.1] using hx.2
      have hne : x.toNat ≠ b.toNat := fun heq => hb (BitVec.eq_of_toNat_eq heq ▸ hx.1)
      omega
    · have hx' : x.toNat < b.toNat := by simpa [hless x hx.1] using hx.2
      rcases hy with rfl | hy
      · exact hx'
      · have : ¬ y.toNat < b.toNat := by simpa [hless y hy.1] using hy.2
        omega

/-- Writing the length of a block outside the length map; the regions have to be tiled anew. -/
lemma setColor (h : XfMmCore pool live L A F) {c : U32} (hb : b ∉ L)
    (htiles : Tiles xfMmRegion (xfMmFreeRegions (pool.lMap.setColor (some b) c) F' ++ live')
      (Set.Ico pool.addr.toNat (pool.addr.toNat + pool.size.toNat)))
    (haligned : ∀ r ∈ xfMmFreeRegions (pool.lMap.setColor (some b) c) F' ++ live',
      32 ∣ r.1.toNat ∧ 32 ∣ r.2.toNat ∧ 0 < r.2.toNat) :
    XfMmCore { pool with lMap := pool.lMap.setColor (some b) c } live' L A F' := by
  refine ⟨h.lHolds.setColor hb c, h.aHolds, ?_, h.aSorted, htiles, haligned, h.wrap⟩
  refine h.lSorted.imp_of_mem fun {x y} hx hy hxy => ?_
  rw [xfMmBlockLength_setColor, xfMmBlockLength_setColor, if_neg, if_neg]
  · exact hxy
  · rintro rfl
    exact hb hy
  · rintro rfl
    exact hb hx

/-- The regions after the length of the first block has been written. -/
lemma freeRegions_setColor {lMap : RbTree U32} {c : U32} (hb : b ∉ F) :
    xfMmFreeRegions (lMap.setColor (some b) c) (b :: F) =
      (b, c &&& ~~~1#32) :: xfMmFreeRegions lMap F := by
  have htail : xfMmFreeRegions (lMap.setColor (some b) c) F = xfMmFreeRegions lMap F :=
    xfMmFreeRegions_congr fun x hx => by
      rw [xfMmBlockLength_setColor, if_neg]
      rintro rfl
      exact hb hx
  rw [xfMmFreeRegions, List.map_cons, xfMmBlockLength_setColor, if_pos rfl]
  exact congrArg _ htail

/-- The bounds and the alignment of one block. -/
lemma block (h : XfMmCore pool live L A F) (hb : b ∈ F) :
    32 ∣ b.toNat ∧ 32 ∣ (xfMmBlockLength pool.lMap b).toNat ∧
      0 < (xfMmBlockLength pool.lMap b).toNat ∧ pool.addr.toNat ≤ b.toNat ∧
      b.toNat + (xfMmBlockLength pool.lMap b).toNat ≤ pool.addr.toNat + pool.size.toNat := by
  have hmem := List.mem_append_left live (mem_xfMmFreeRegions pool.lMap hb)
  obtain ⟨h1, h2, h3⟩ := h.aligned _ hmem
  obtain ⟨h4, h5⟩ := h.region_le hmem
  exact ⟨h1, h2, h3, h4, h5⟩

end XfMmCore

end Hikey
