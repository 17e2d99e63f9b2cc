import Hikey.Foundation.Run
import Hikey.Mem.Invariant

/-!
# Allocation, deallocation and runs of the memory allocator

`xfMmAlloc_spec` and `xfMmFree_spec` say that the two entry points return and keep the invariant.  A
run (`XfMmStep`) also contains the writes of the users: the memory of a live allocation may be
overwritten with anything, including what the allocator kept there before.
-/

namespace Hikey

open RbTree

variable {pool : XfMmPool} {live : List (U32 × U32)} {L A E : List U32} {b p size : U32}

/-! ## `xf_mm_alloc` -/

namespace XfMmCore

/-- Carving the tail off a block that is outside the length map. -/
lemma carve (h : XfMmCore pool live E A (b :: E)) (hb : b ∉ E) (hsize : 32 ∣ size.toNat)
    (hpos : 0 < size.toNat) (hlt : size.toNat < (xfMmBlockLength pool.lMap b).toNat) :
    XfMmCore { pool with lMap := xfMmBlockLengthSub pool.lMap b size }
      ((b + (xfMmBlockLength pool.lMap b - size), size) :: live) E A (b :: E) := by
  obtain ⟨hb32, hl32, -, -, hle⟩ := h.block (b := b) (by simp)
  have hwrap := h.wrap
  have hlen : (xfMmBlockLength pool.lMap b - size).toNat =
      (xfMmBlockLength pool.lMap b).toNat - size.toNat := BitVec.toNat_sub_of_le hlt.le
  have hstart : (b + (xfMmBlockLength pool.lMap b - size)).toNat =
      b.toNat + ((xfMmBlockLength pool.lMap b).toNat - size.toNat) := by
    rw [BitVec.toNat_add, hlen]
    omega
  have hcolor : (pool.lMap (some b)).color - size &&& ~~~1#32 =
      xfMmBlockLength pool.lMap b - size := by
    have := xfMmBlockLength_sub pool.lMap b b (show 2 ∣ size.toNat by omega)
    rwa [xfMmBlockLengthSub, xfMmBlockLength_setColor, if_pos rfl, if_pos rfl] at this
  have hregions : xfMmFreeRegions (xfMmBlockLengthSub pool.lMap b size) (b :: E) =
      (b, xfMmBlockLength pool.lMap b - size) :: xfMmFreeRegions pool.lMap E := by
    rw [xfMmBlockLengthSub, freeRegions_setColor hb, hcolor]
  refine h.setColor hb ?_ fun r hr => ?_
  · obtain ⟨hunion, hdisj⟩ := xfMmRegion_split (b, xfMmBlockLength pool.lMap b)
      (b, xfMmBlockLength pool.lMap b - size) (b + (xfMmBlockLength pool.lMap b - size), size) rfl
        (by simp only [hstart, hlen])
      (by simp only [hlen]; omega)
    have htiles := (tiles_split hunion hdisj).mp h.tiles
    rw [← xfMmBlockLengthSub, hregions]
    exact htiles.perm (List.Perm.cons _ List.perm_middle.symm)
  · rw [← xfMmBlockLengthSub, hregions] at hr
    simp only [List.cons_append, List.mem_cons, List.mem_append] at hr
    rcases hr with rfl | hr | rfl | hr
    · simp only [hlen]
      omega
    · exact h.aligned r (List.mem_append_left _ (List.mem_cons_of_mem _ hr))
    · simp only [hstart]
      omega
    · exact h.aligned r (by simp [hr])

/-- Handing out a whole block that is outside the length map. -/
lemma take (h : XfMmCore pool live E A (b :: E)) (hb : b ∉ E) (hsize : 32 ∣ size.toNat)
    (hlen : xfMmBlockLength pool.lMap b = size) :
    XfMmCore { pool with lMap := xfMmBlockLengthSub pool.lMap b size }
      ((b, size) :: live) E A E := by
  have hregions : xfMmFreeRegions (xfMmBlockLengthSub pool.lMap b size) E =
      xfMmFreeRegions pool.lMap E := by
    refine xfMmFreeRegions_congr fun x hx => ?_
    rw [xfMmBlockLength_sub _ _ _ (by omega), if_neg]
    rintro rfl
    exact hb hx
  have hp : (xfMmFreeRegions pool.lMap (b :: E) ++ live).Perm
      (xfMmFreeRegions pool.lMap E ++ (b, size) :: live) := by
    rw [xfMmFreeRegions, List.map_cons, hlen]
    exact List.perm_middle.symm
  refine h.setColor hb ?_ fun r hr => ?_
  · rw [← xfMmBlockLengthSub, hregions]
    exact h.tiles.perm hp
  · rw [← xfMmBlockLengthSub, hregions] at hr
    exact h.aligned r (hp.mem_iff.mpr hr)

end XfMmCore

/-- `xf_mm_alloc` fails when no block is long enough; otherwise it hands out the tail of a shortest
block that is. -/
lemma xfMmAlloc_spec (h : XfMmOk pool live L A) (hzero : 0 ∉ L) (hpos : 0 < size.toNat)
    (hsize : 32 ∣ size.toNat) :
    (xfMmAlloc pool size = some (pool, 0) ∧
        ∀ b ∈ L, (xfMmBlockLength pool.lMap b).toNat < size.toNat) ∨
      ∃ b ∈ L, size.toNat ≤ (xfMmBlockLength pool.lMap b).toNat ∧
        (∀ x ∈ L, size.toNat ≤ (xfMmBlockLength pool.lMap x).toNat →
          (xfMmBlockLength pool.lMap b).toNat ≤ (xfMmBlockLength pool.lMap x).toNat) ∧
        ∃ pool' L' A', xfMmAlloc pool size =
            some (pool', b + (xfMmBlockLength pool.lMap b - size)) ∧
          pool'.addr = pool.addr ∧ pool'.size = pool.size ∧ (∀ x ∈ L', x ∈ L) ∧
          XfMmOk pool' ((b + (xfMmBlockLength pool.lMap b - size), size) :: live) L' A' := by
  have hfind := xfMmFindBySize_spec h.lHolds size (by omega) h.lSorted
  have hless : ∀ x, xfMmBlockLengthLess pool.lMap x size ↔
      (xfMmBlockLength pool.lMap x).toNat < size.toNat :=
    fun x => xfMmBlockLengthLess_iff (by omega)
  cases hres : L.find? fun x => !xfMmBlockLengthLess pool.lMap x size with
  | none =>
    refine Or.inl ⟨?_, fun b hb => ?_⟩
    · rw [xfMmAlloc, hfind, hres]
      rfl
    · have := List.find?_eq_none.mp hres b hb
      rw [← hless]
      simpa using this
  | some b =>
    obtain ⟨hnotless, as, bs, hsplit, has⟩ := List.find?_eq_some_iff_append.mp hres
    have hb : b ∈ L := by rw [hsplit]; simp
    have hge : size.toNat ≤ (xfMmBlockLength pool.lMap b).toNat := by
      have : ¬ xfMmBlockLengthLess pool.lMap b size := by simpa using hnotless
      rw [hless] at this
      omega
    refine Or.inr ⟨b, hb, hge, fun x hx hxsize => ?_, ?_⟩
    · have hsorted := h.lSorted
      rw [hsplit] at hx hsorted
      simp only [List.pairwise_append, List.pairwise_cons] at hsorted
      rcases List.mem_append.mp hx with hx | hx
      · have : xfMmBlockLengthLess pool.lMap x size := by simpa using has x hx
        rw [hless] at this
        omega
      · rcases List.mem_cons.mp hx with rfl | hx
        · exact le_rfl
        · exact hsorted.2.1.1 x hx
    -- the block leaves the length map
    have hb0 : b ≠ 0 := fun h0 => hzero (h0 ▸ hb)
    have hnd := h.lHolds.nodup
    have hbE : b ∉ L.erase b := fun hmem => (hnd.mem_erase_iff.mp hmem).1 rfl
    obtain ⟨l₁, hdel, hcore, hlen⟩ := h.deleteSize hb
    have hcore := hcore.permBlocks (List.perm_cons_erase hb)
    have hsub : xfMmBlockLength (xfMmBlockLengthSub l₁ b size) b =
        xfMmBlockLength pool.lMap b - size := by
      rw [xfMmBlockLength_sub _ _ _ (by omega), if_pos rfl, hlen]
    rw [xfMmAlloc, hfind, hres]
    simp only [Option.bind_eq_bind, Option.bind_some, if_neg hb0, hdel, hsub]
    by_cases hexact : xfMmBlockLength pool.lMap b - size = 0
    · -- it is handed out as a whole, and leaves the address map as well
      have hlenb : xfMmBlockLength pool.lMap b = size := by
        have := congrArg BitVec.toNat hexact
        rw [BitVec.toNat_sub_of_le hge] at this
        exact BitVec.eq_of_toNat_eq (by simp at this; omega)
      have hbA : b ∈ A := h.perm.mem_iff.mp hb
      obtain ⟨a₁, hdelA, hcore'⟩ := (hcore.take hbE hsize ((hlen b).trans hlenb)).deleteAddr hbA
      simp only [if_pos hexact, hdelA, Option.bind_some]
      have hlen' : ∀ x ∈ L.erase b, xfMmBlockLength (xfMmBlockLengthSub l₁ b size) x =
          xfMmBlockLength pool.lMap x := fun x hx => by
        rw [xfMmBlockLength_sub _ _ _ (by omega), if_neg (fun hxb : x = b => hbE (hxb ▸ hx)), hlen]
      refine ⟨{ pool with lMap := xfMmBlockLengthSub l₁ b size, aMap := a₁ }, L.erase b, A.erase b,
        by rw [hexact, show b + 0 = b from BitVec.add_zero b]; rfl, rfl, rfl,
        fun x hx => List.mem_of_mem_erase hx, ⟨?_, h.perm.erase b, fun x hx y hy => ?_⟩⟩
      · rw [hexact]
        simpa using hcore'
      · rw [hlen' x hx]
        exact h.separated x (List.mem_of_mem_erase hx) y (List.mem_of_mem_erase hy)
    · -- its head stays a free block
      have hlt : size.toNat < (xfMmBlockLength l₁ b).toNat := by
        rw [hlen]
        refine lt_of_le_of_ne hge fun heq => hexact ?_
        rw [BitVec.eq_of_toNat_eq heq]
        exact BitVec.sub_self _
      have hcarve := hcore.carve hbE hsize hpos hlt
      have heven : 2 ∣ (xfMmBlockLength pool.lMap b - size).toNat := by
        have := (h.block hb).2.1
        rw [BitVec.toNat_sub_of_le hge]
        omega
      obtain ⟨l₃, L', hins, hL', hcore', hlen'⟩ := hcarve.insertSize hbE hsub heven
      simp only [if_neg hexact, hins, Option.bind_some]
      rw [hlen] at hcore' hcarve
      have hLL' : L'.Perm L := hL'.trans (List.perm_cons_erase hb).symm
      have hlen'' : ∀ x, xfMmBlockLength l₃ x =
          if x = b then xfMmBlockLength pool.lMap b - size else xfMmBlockLength pool.lMap x :=
        fun x => by rw [hlen', xfMmBlockLength_sub _ _ _ (by omega), hlen, hlen]
      refine ⟨_, L', A, rfl, rfl, rfl, fun x hx => hLL'.mem_iff.mp hx,
        ⟨hcore'.permBlocks hL'.symm, hLL'.trans h.perm, fun x hx y hy => ?_⟩⟩
      rw [hlen'']
      split
      · rename_i hxb
        subst hxb
        -- the address behind it is the start of the new allocation
        intro heq
        have hapart := (hcore'.permBlocks hL'.symm).apart
          (x + (xfMmBlockLength pool.lMap x - size), size) (y, _)
          List.perm_middle (List.mem_append_left _ (mem_xfMmFreeRegions _ hy))
        have hypos := ((hcore'.permBlocks hL'.symm).block hy).2.2.1
        have hble := h.block hb
        have hwrap := h.wrap
        simp only at hapart hypos
        rw [BitVec.toNat_add, Nat.mod_eq_of_lt] at hapart
        · omega
        · rw [BitVec.toNat_sub_of_le hge]
          omega
      · exact h.separated x (hLL'.mem_iff.mp hx) y (hLL'.mem_iff.mp hy)

/-! ## `xf_mm_free` -/

/-- In the middle of `xf_mm_free`: the block `b` is in the length map not any more or not yet, and
in the address map when `inA` holds. -/
structure XfMmPending (pool : XfMmPool) (live : List (U32 × U32)) (L A : List U32) (b : U32)
    (inA : Bool) : Prop extends XfMmCore pool live L A (b :: L) where
  fresh : b ∉ L
  perm : A.Perm (if inA then b :: L else L)
  separated : ∀ x ∈ L, ∀ y ∈ L, x.toNat + (xfMmBlockLength pool.lMap x).toNat ≠ y.toNat

namespace XfMmCore

variable {x : U32} {F : List U32}

/-- Joining the block `x` to the block `b` before it, which is outside the length map. -/
lemma join (h : XfMmCore pool live L A (b :: x :: F)) (hb : b ∉ L) (hbF : b ∉ F)
    (hlen : xfMmBlockLength pool.lMap x = size)
    (hadj : b.toNat + (xfMmBlockLength pool.lMap b).toNat = x.toNat) :
    XfMmCore { pool with lMap := xfMmBlockLengthAdd pool.lMap b size } live L A (b :: F) ∧
      (xfMmBlockLength (xfMmBlockLengthAdd pool.lMap b size) b).toNat =
        (xfMmBlockLength pool.lMap b).toNat + size.toNat := by
  obtain ⟨hb32, hl32, hlpos, hble, -⟩ := h.block (b := b) (by simp)
  obtain ⟨-, hx32, hxpos, -, hxle⟩ := h.block (b := x) (by simp)
  rw [hlen] at hx32 hxpos hxle
  have hwrap := h.wrap
  have hsize := pool.size.isLt
  have hadd := xfMmBlockLength_add pool.lMap b b (show 2 ∣ size.toNat by omega)
  rw [if_pos rfl] at hadd
  have hsum : (xfMmBlockLength pool.lMap b + size).toNat =
      (xfMmBlockLength pool.lMap b).toNat + size.toNat := by
    rw [BitVec.toNat_add]
    omega
  have hcolor : (pool.lMap (some b)).color + size &&& ~~~1#32 =
      xfMmBlockLength pool.lMap b + size := by
    rwa [xfMmBlockLengthAdd, xfMmBlockLength_setColor, if_pos rfl] at hadd
  have hregions : xfMmFreeRegions (xfMmBlockLengthAdd pool.lMap b size) (b :: F) =
      (b, xfMmBlockLength pool.lMap b + size) :: xfMmFreeRegions pool.lMap F := by
    rw [xfMmBlockLengthAdd, freeRegions_setColor hbF, hcolor]
  refine ⟨h.setColor hb ?_ fun r hr => ?_, by rw [hadd, hsum]⟩
  · obtain ⟨hunion, hdisj⟩ := xfMmRegion_split (b, xfMmBlockLength pool.lMap b + size)
      (b, xfMmBlockLength pool.lMap b) (x, size) rfl hadj.symm hsum
    rw [← xfMmBlockLengthAdd, hregions]
    refine (tiles_split hunion hdisj).mpr ?_
    rw [← hlen]
    exact h.tiles
  · rw [← xfMmBlockLengthAdd, hregions] at hr
    rcases List.mem_cons.mp hr with rfl | hr
    · simp only [hsum]
      omega
    · exact h.aligned r (List.mem_cons_of_mem _ (List.mem_cons_of_mem _ hr))

end XfMmCore

/-- Two block addresses are the same, or the machine words differ as numbers. -/
lemma add_eq_iff {a c : U32} {m : U32} (hc : c ≠ 0) (hle : a.toNat + m.toNat ≤ 2 ^ 32) :
    a + m = c ↔ a.toNat + m.toNat = c.toNat := by
  have hc' : c.toNat ≠ 0 := fun h => hc (BitVec.eq_of_toNat_eq (by simpa using h))
  have := c.isLt
  rw [← BitVec.toNat_inj, BitVec.toNat_add]
  omega

namespace XfMmPending

variable {n₀ n₁ : U32} {inA : Bool}

/-- The first part of `xf_mm_free`: a block that ends where the freed memory starts swallows it. -/
lemma mergeLeft (h : XfMmPending pool live L A p false)
    (hsize : xfMmBlockLength pool.lMap p = size)
    (hn₀ : IsNeighbour A n₀ (fun x => x.toNat < p.toNat) fun x n => x.toNat ≤ n.toNat) :
    ∃ lMap n₀' b inA L', xfMmMergeLeft pool n₀ p size =
        some ({ pool with lMap }, n₀', b, xfMmBlockLength lMap b) ∧
      XfMmPending { pool with lMap } live L' A b inA ∧ (n₀' ≠ 0 ↔ inA) ∧ (∀ x ∈ L', x ∈ L) ∧
      b.toNat ≤ p.toNat ∧ (inA → b.toNat < p.toNat) ∧
      b.toNat + (xfMmBlockLength lMap b).toNat = p.toNat + size.toNat ∧
      ∀ x ∈ L', x.toNat + (xfMmBlockLength lMap x).toNat ≠ b.toNat := by
  have hwrap := h.wrap
  have hperm : A.Perm L := by simpa using h.perm
  rcases hn₀ with ⟨rfl, hnone⟩ | ⟨hne, hnA, hlt, hclosest⟩
  · refine ⟨pool.lMap, 0, p, false, L, by simp [xfMmMergeLeft, hsize], h, by simp, fun x hx => hx,
      le_rfl, by simp, by rw [hsize], fun x hx heq => hnone x (hperm.mem_iff.mpr hx) ?_⟩
    have := (h.block (b := x) (by simp [hx])).2.2.1
    omega
  · have hnL : n₀ ∈ L := hperm.mem_iff.mp hnA
    have hp0 : p ≠ 0 := fun h0 => by simp [h0] at hlt
    obtain ⟨-, -, -, -, hnle⟩ := h.block (b := n₀) (by simp [hnL])
    have hadj := add_eq_iff hp0 (hnle.trans hwrap)
    have hE := List.perm_cons_erase hnL
    have hnE : n₀ ∉ L.erase n₀ := fun hmem => (h.lHolds.nodup.mem_erase_iff.mp hmem).1 rfl
    by_cases hmerge : n₀ + xfMmBlockLength pool.lMap n₀ = p
    · -- the left neighbour grows
      obtain ⟨l₁, hdel, hcore, hlen⟩ := h.deleteSize hnL
      have hcore := hcore.permBlocks ((hE.cons p).trans (List.Perm.swap n₀ p _))
      obtain ⟨hjoin, hlenb⟩ := hcore.join hnE hnE ((hlen p).trans hsize)
        (by rw [hlen]; exact hadj.mp hmerge)
      have hlen' : ∀ x ∈ L.erase n₀, xfMmBlockLength (xfMmBlockLengthAdd l₁ n₀ size) x =
          xfMmBlockLength pool.lMap x := fun x hx => by
        have hsize2 : 2 ∣ size.toNat := by
          have := (h.block (b := p) (by simp)).2.1
          rw [hsize] at this
          omega
        rw [xfMmBlockLength_add _ _ _ hsize2, if_neg (fun hxb : x = n₀ => hnE (hxb ▸ hx)), hlen]
      refine ⟨xfMmBlockLengthAdd l₁ n₀ size, n₀, n₀, true, L.erase n₀, ?_,
        ⟨hjoin, hnE, hperm.trans hE, fun x hx y hy => ?_⟩,
        ⟨fun _ => rfl, fun _ => hne⟩,
        fun x hx => List.mem_of_mem_erase hx, hlt.le, fun _ => hlt, ?_, fun x hx => ?_⟩
      · simp only [xfMmMergeLeft, if_pos hne, if_pos hmerge, hdel, Option.bind_eq_bind,
          Option.bind_some]
        rfl
      · rw [hlen' x hx]
        exact h.separated x (List.mem_of_mem_erase hx) y (List.mem_of_mem_erase hy)
      · rw [hlenb, hlen, ← hadj.mp hmerge, Nat.add_assoc]
      · rw [hlen' x hx]
        exact h.separated x (List.mem_of_mem_erase hx) n₀ hnL
    · refine ⟨pool.lMap, 0, p, false, L, by simp [xfMmMergeLeft, hmerge, hsize], h, by simp,
        fun x hx => hx, le_rfl, by simp, by rw [hsize], fun x hx heq => ?_⟩
      have hpos := (h.block (b := x) (by simp [hx])).2.2.1
      by_cases hxn : x = n₀
      · subst hxn
        exact hmerge (hadj.mpr heq)
      · have hle := hclosest x (hperm.mem_iff.mpr hx) (by omega)
        have hapart := h.apart_blocks (x := x) (y := n₀) (by simp [hx]) (by simp [hnL]) hxn
        have hne' : x.toNat ≠ n₀.toNat := fun heq' => hxn (BitVec.eq_of_toNat_eq heq')
        omega

/-- Exchanging the block `n₁` of the address map for the block `b` before it. -/
lemma replaceAddr (h : XfMmPending pool live L A b inA) (hinA : inA = false) (hn₁ : n₁ ∈ L)
    (hadj : b.toNat + (xfMmBlockLength pool.lMap b).toNat = n₁.toNat) :
    ∃ A', (pool.aMap.rbReplace (some n₁) (some b)).Holds A' ∧
      (A'.Pairwise fun x y => x.toNat < y.toNat) ∧ A'.Perm (b :: L.erase n₁) := by
  have hperm : A.Perm L := by simpa [hinA] using h.perm
  have hbpos := (h.block (b := b) (by simp)).2.2.1
  obtain ⟨as, bs, hsplit⟩ := List.append_of_mem (hperm.mem_iff.mpr hn₁)
  have hsorted := h.aSorted
  have hholds := h.aHolds
  have hbA : b ∉ as ++ n₁ :: bs := fun hb => h.fresh (hperm.mem_iff.mp (hsplit ▸ hb))
  rw [hsplit] at hsorted hholds hperm
  refine ⟨as ++ b :: bs, (hholds.replace hbA).1, ?_, ?_⟩
  · simp only [List.pairwise_append, List.pairwise_cons, List.mem_cons] at hsorted ⊢
    obtain ⟨has, ⟨hn₁bs, hbs⟩, hcross⟩ := hsorted
    have hbbs : ∀ y ∈ bs, b.toNat < y.toNat := fun y hy => by have := hn₁bs y hy; omega
    refine ⟨has, ⟨hbbs, hbs⟩, fun a ha y hy => ?_⟩
    rcases hy with rfl | hy
    · have hlt := hcross a ha n₁ (Or.inl rfl)
      have haL : a ∈ L := hperm.mem_iff.mp (by simp [ha])
      have hapart := h.apart_blocks (x := a) (y := y) (by simp [haL]) (by simp)
        fun hay => h.fresh (hay ▸ haL)
      have hapos := (h.block (b := a) (by simp [haL])).2.2.1
      omega
    · exact hcross a ha y (Or.inr hy)
  · have hE : (L.erase n₁).Perm (as ++ bs) :=
      (List.perm_cons n₁).mp ((List.perm_cons_erase hn₁).symm.trans
        (hperm.symm.trans List.perm_middle))
    exact List.perm_middle.trans (hE.symm.cons b)

/-- The second part of `xf_mm_free`: a block that starts where the freed memory ends is swallowed.
-/
lemma mergeRight (h : XfMmPending pool live L A b inA) (hn₀ : n₀ ≠ 0 ↔ inA)
    (hbp : b.toNat ≤ p.toNat) (hbp' : inA → b.toNat < p.toNat)
    (hend : b.toNat + (xfMmBlockLength pool.lMap b).toNat = p.toNat + size.toNat)
    (hsep : ∀ x ∈ L, x.toNat + (xfMmBlockLength pool.lMap x).toNat ≠ b.toNat)
    (hn₁ : IsNeighbour A n₁ (fun x => p.toNat ≤ x.toNat) fun x n => n.toNat ≤ x.toNat) :
    ∃ pool' n₁' inA' L' A', xfMmMergeRight pool n₀ n₁ b (xfMmBlockLength pool.lMap b) =
        some (pool', n₁', xfMmBlockLength pool'.lMap b) ∧
      pool'.addr = pool.addr ∧ pool'.size = pool.size ∧
      XfMmPending pool' live L' A' b inA' ∧ (n₀ = 0 ∧ n₁' = 0 ↔ inA' = false) ∧
      (∀ x ∈ L', x ∈ L) ∧
      ∀ x ∈ L', x.toNat + (xfMmBlockLength pool'.lMap x).toNat ≠ b.toNat ∧
        b.toNat + (xfMmBlockLength pool'.lMap b).toNat ≠ x.toNat := by
  have hwrap := h.wrap
  obtain ⟨-, -, hbpos, -, hble⟩ := h.block (b := b) (by simp)
  have hAL : ∀ x ∈ A, p.toNat ≤ x.toNat → x ∈ L := fun x hx hle => by
    have hx' := h.perm.mem_iff.mp hx
    cases inA with
    | false => simpa using hx'
    | true =>
      rcases List.mem_cons.mp (by simpa using hx') with rfl | hx'
      · have := hbp' rfl
        omega
      · exact hx'
  have hLA : ∀ x ∈ L, x ∈ A := fun x hx => h.perm.mem_iff.mpr (by cases inA <;> simp [hx])
  have hn₀' : n₀ = 0 ↔ inA = false := by
    rw [← not_iff_not, ← ne_eq n₀, hn₀]
    simp
  rcases hn₁ with ⟨rfl, hnone⟩ | ⟨hne, hnA, hle, hclosest⟩
  · refine ⟨pool, 0, inA, L, A, by simp [xfMmMergeRight], rfl, rfl, h, by simpa using hn₀',
      fun x hx => hx, fun x hx => ⟨hsep x hx, fun heq => hnone x (hLA x hx) ?_⟩⟩
    omega
  · have hnL : n₁ ∈ L := hAL n₁ hnA hle
    have hnb : b ≠ n₁ := fun hbn => h.fresh (hbn ▸ hnL)
    have hadj := add_eq_iff hne (hble.trans hwrap)
    by_cases hmerge : n₁ = b + xfMmBlockLength pool.lMap b
    · have hadj' := hadj.mp hmerge.symm
      have hE := List.perm_cons_erase hnL
      have hbE : b ∉ L.erase n₁ := fun hmem => h.fresh (List.mem_of_mem_erase hmem)
      have hnE : n₁ ∉ L.erase n₁ := fun hmem => (h.lHolds.nodup.mem_erase_iff.mp hmem).1 rfl
      obtain ⟨l₁, hdel, hcore, hlen⟩ := h.deleteSize hnL
      have hcore := hcore.permBlocks (hE.cons b)
      obtain ⟨hjoin, hlenb⟩ := hcore.join hbE hbE rfl (by rw [hlen]; exact hadj')
      have hlen' : ∀ x ∈ L.erase n₁,
          xfMmBlockLength (xfMmBlockLengthAdd l₁ b (xfMmBlockLength l₁ n₁)) x =
            xfMmBlockLength pool.lMap x := fun x hx => by
        have h2 : 2 ∣ (xfMmBlockLength l₁ n₁).toNat := by
          have := (h.block (b := n₁) (by simp [hnL])).2.1
          rw [hlen]
          omega
        rw [xfMmBlockLength_add _ _ _ h2, if_neg (fun hxb : x = b => hbE (hxb ▸ hx)), hlen]
      have hsep' : ∀ x ∈ L.erase n₁, ∀ y ∈ L.erase n₁,
          x.toNat + (xfMmBlockLength (xfMmBlockLengthAdd l₁ b (xfMmBlockLength l₁ n₁)) x).toNat ≠
            y.toNat := fun x hx y hy => by
        rw [hlen' x hx]
        exact h.separated x (List.mem_of_mem_erase hx) y (List.mem_of_mem_erase hy)
      have houter : ∀ x ∈ L.erase n₁,
          x.toNat + (xfMmBlockLength (xfMmBlockLengthAdd l₁ b (xfMmBlockLength l₁ n₁)) x).toNat ≠
              b.toNat ∧
            b.toNat + (xfMmBlockLength (xfMmBlockLengthAdd l₁ b (xfMmBlockLength l₁ n₁)) b).toNat ≠
              x.toNat := fun x hx => by
        have hx' := List.mem_of_mem_erase hx
        rw [hlen' x hx, hlenb, hlen, hlen]
        refine ⟨hsep x hx', ?_⟩
        have := h.separated n₁ hnL x hx'
        omega
      cases inA with
      | true =>
        -- the block is in the address map already
        obtain ⟨a₁, hdelA, hcoreA⟩ := hjoin.deleteAddr hnA
        refine ⟨{ pool with
            lMap := xfMmBlockLengthAdd l₁ b (xfMmBlockLength l₁ n₁), aMap := a₁ }, n₁, true,
          L.erase n₁, A.erase n₁, ?_, rfl, rfl, ⟨hcoreA, hbE, ?_, hsep'⟩,
          ⟨fun h0 => absurd h0.2 hne, nofun⟩, fun x hx => List.mem_of_mem_erase hx, houter⟩
        · simp only [xfMmMergeRight, if_pos hne, if_pos hmerge, hdel, Option.bind_eq_bind,
            Option.bind_some, if_pos (hn₀.mpr rfl), hdelA]
          rfl
        · have hp := (h.perm.trans (hE.cons b)).trans (List.Perm.swap n₁ b _)
          exact (List.perm_cons n₁).mp ((List.perm_cons_erase hnA).symm.trans hp)
      | false =>
        -- it takes the place of the right neighbour
        obtain ⟨A', hA', hsorted, hperm⟩ := h.replaceAddr rfl hnL hadj'
        refine ⟨{ pool with
            lMap := xfMmBlockLengthAdd l₁ b (xfMmBlockLength l₁ n₁),
            aMap := pool.aMap.rbReplace (some n₁) (some b) }, n₁, true, L.erase
            n₁, A', ?_, rfl, rfl,
          ⟨{ hjoin with aHolds := hA', aSorted := hsorted }, hbE, hperm, hsep'⟩,
            ⟨fun h0 => absurd h0.2 hne, nofun⟩,
          fun x hx => List.mem_of_mem_erase hx, houter⟩
        simp only [xfMmMergeRight, if_pos hne, if_pos hmerge, hdel, Option.bind_eq_bind,
          Option.bind_some, if_neg (show ¬ n₀ ≠ 0 by simpa using hn₀'.mpr rfl)]
        rfl
    · refine ⟨pool, 0, inA, L, A, by simp [xfMmMergeRight, hmerge], rfl, rfl, h,
        by simpa using hn₀', fun x hx => hx, fun x hx => ⟨hsep x hx, fun heq => ?_⟩⟩
      have hxn := hclosest x (hLA x hx) (by omega)
      have hnpos := (h.block (b := n₁) (by simp [hnL])).2.2.1
      have hapart := h.apart_blocks (x := b) (y := n₁) (by simp) (by simp [hnL]) hnb
      have hxn' : x.toNat = n₁.toNat := by omega
      exact hmerge (hadj.mpr (heq.trans hxn')).symm

end XfMmPending

/-- `xf_mm_free` of a live allocation returns it to the free blocks. -/
lemma xfMmFree_spec (h : XfMmOk pool live L A) (hzero : 0 ∉ L) (hp : (p, size) ∈ live) :
    ∃ pool' L' A', xfMmFree pool p size = some pool' ∧ pool'.addr = pool.addr ∧
      pool'.size = pool.size ∧ XfMmOk pool' (live.erase (p, size)) L' A' := by
  have hlive := List.perm_cons_erase hp
  obtain ⟨hp32, hs32, hpos⟩ := h.aligned (p, size) (List.mem_append_right _ hp)
  simp only at hp32 hs32 hpos
  have hperm₀ : (xfMmFreeRegions pool.lMap L ++ live).Perm
      ((p, size) :: (xfMmFreeRegions pool.lMap L ++ live.erase (p, size))) :=
    (hlive.append_left _).trans List.perm_middle
  have hfresh : p ∉ L := fun hpL => by
    have hapart := h.apart (p, size) (p, _) hperm₀
      (List.mem_append_left _ (mem_xfMmFreeRegions _ hpL))
    have := (h.block hpL).2.2.1
    simp only at hapart
    omega
  -- the memory becomes a block that is in neither map
  have hcolor : size &&& ~~~1#32 = size := and_not_one_of_even (by omega)
  have hregions : xfMmFreeRegions (pool.lMap.setColor (some p) size) (p :: L) =
      (p, size) :: xfMmFreeRegions pool.lMap L := by
    rw [XfMmCore.freeRegions_setColor hfresh, hcolor]
  have hlen : ∀ x ∈ L, xfMmBlockLength (pool.lMap.setColor (some p) size) x =
      xfMmBlockLength pool.lMap x := fun x hx => by
    rw [xfMmBlockLength_setColor, if_neg (fun hxp : x = p => hfresh (hxp ▸ hx))]
  have hlenp : xfMmBlockLength (pool.lMap.setColor (some p) size) p = size := by
    rw [xfMmBlockLength_setColor, if_pos rfl, hcolor]
  have h₀ : XfMmPending { pool with lMap := xfMmBlockInit pool.lMap p size }
      (live.erase (p, size)) L A p false := by
    refine ⟨h.setColor hfresh ?_ ?_, hfresh, h.perm.symm, fun x hx => ?_⟩
    · rw [hregions]
      exact h.tiles.perm hperm₀
    · rw [hregions]
      exact fun r hr => h.aligned r (hperm₀.mem_iff.mpr hr)
    · simp only [xfMmBlockInit]
      rw [hlen x hx]
      exact h.separated x hx
  have hAL : ∀ x ∈ A, x ∈ L := fun x hx => h.perm.mem_iff.mpr hx
  obtain ⟨n₀, n₁, hfind, hn₀, hn₁⟩ := xfMmFindByAddr_spec h₀.aHolds h₀.aSorted
    (fun x hx => (h.block (hAL x hx)).1) hp32 (fun h0 => hzero (hAL 0 h0))
  obtain ⟨l₁, n₀', b, inA, L₁, hleft, h₁, hn₀', hL₁, hbp, hbp', hend, hsep⟩ :=
    h₀.mergeLeft hlenp hn₀
  obtain ⟨pool₂, n₁', inA', L₂, A₂, hright, haddr, hsize, h₂, hinA, hL₂, houter⟩ :=
    h₁.mergeRight hn₀' hbp hbp' hend hsep hn₁
  -- the block enters the maps
  have hblock := h₂.block (b := b) (by simp)
  have hinsA : ∃ aMap A₃, (if n₀' = 0 ∧ n₁' = 0 then xfMmInsertAddr pool₂ b else pure pool₂) =
      some { pool₂ with aMap } ∧ A₃.Perm (b :: L₂) ∧
        XfMmCore { pool₂ with aMap } (live.erase (p, size)) L₂ A₃ (b :: L₂) := by
    cases inA' with
    | true =>
      refine ⟨pool₂.aMap, A₂, ?_, by simpa using h₂.perm, h₂.toXfMmCore⟩
      rw [if_neg (by rw [hinA]; simp)]
      rfl
    | false =>
      have hpermA : A₂.Perm L₂ := by simpa using h₂.perm
      obtain ⟨aMap, A₃, hres, hA₃, hcore⟩ := h₂.insertAddr
        (fun hb => h₂.fresh (hpermA.mem_iff.mp hb))
        (fun x hx => by simp [hpermA.mem_iff.mp hx]) (by simp)
      refine ⟨aMap, A₃, ?_, hA₃.trans (hpermA.cons b), hcore⟩
      rw [if_pos (by rw [hinA]), hres]
  obtain ⟨a₃, A₃, hresA, hA₃, h₃⟩ := hinsA
  obtain ⟨l₄, L₄, hresL, hL₄, h₄, hlen₄⟩ := h₃.insertSize h₂.fresh rfl
    (show 2 ∣ (xfMmBlockLength pool₂.lMap b).toNat by omega)
  refine ⟨{ pool₂ with lMap := l₄, aMap := a₃ }, L₄, A₃, ?_, haddr, hsize, h₄.permBlocks hL₄.symm,
    hL₄.trans hA₃.symm,
    fun x hx y hy => ?_⟩
  · have hinsert : ∀ k : XfMmPool → Option XfMmPool,
        (if n₀' = 0 ∧ n₁' = 0 then (xfMmInsertAddr pool₂ b).bind k
            else (pure pool₂ : Option XfMmPool).bind k) =
          k { pool₂ with aMap := a₃ } := fun k => by
      rw [← Option.bind_some (f := k), ← hresA]
      split <;> rfl
    simp only [xfMmFree, hfind, hleft, hright, Option.bind_eq_bind, Option.bind_some,
      hinsert, hresL]
  · rw [hlen₄]
    rcases List.mem_cons.mp (hL₄.mem_iff.mp hx) with rfl | hx
    · rcases List.mem_cons.mp (hL₄.mem_iff.mp hy) with rfl | hy
      · have := hblock.2.2.1
        simp only at this ⊢
        omega
      · exact (houter y hy).2
    · rcases List.mem_cons.mp (hL₄.mem_iff.mp hy) with rfl | hy
      · exact (houter x hx).1
      · exact h₂.separated x hx y hy

/-! ## Runs -/

/-- An allocator in use: the pool and the live allocations, each with the length it was requested
with. -/
structure XfMmState where
  pool : XfMmPool
  live : List (U32 × U32)

/-- One step of an allocator in use. -/
inductive XfMmStep : XfMmState → XfMmState → Prop
  /-- `xf_mm_alloc` with a positive multiple of the block size. -/
  | alloc {pool pool' : XfMmPool} {live : List (U32 × U32)} {size p : U32} :
      0 < size.toNat → 32 ∣ size.toNat → xfMmAlloc pool size = some (pool', p) →
        XfMmStep ⟨pool, live⟩ ⟨pool', if p = 0 then live else (p, size) :: live⟩
  /-- `xf_mm_free` of a live allocation. -/
  | free {pool pool' : XfMmPool} {live : List (U32 × U32)} {p size : U32} :
      (p, size) ∈ live → xfMmFree pool p size = some pool' →
        XfMmStep ⟨pool, live⟩ ⟨pool', live.erase (p, size)⟩
  /-- The users write to their allocations; only node records outside of these are safe. -/
  | write {pool : XfMmPool} {live : List (U32 × U32)} {lMap aMap : RbTree U32} :
      (lMap none = pool.lMap none ∧ aMap none = pool.aMap none) →
        (∀ x : U32, (∀ r ∈ live, x.toNat ∉ xfMmRegion r) →
          lMap (some x) = pool.lMap (some x) ∧ aMap (some x) = pool.aMap (some x)) →
          XfMmStep ⟨pool, live⟩ ⟨{ pool with lMap, aMap }, live⟩

/-- What a run keeps: the invariant, the bounds of the pool, and that a pool which contains the null
address hands out nothing. -/
def XfMmInv (addr size : U32) (s : XfMmState) : Prop :=
  s.pool.addr = addr ∧ s.pool.size = size ∧ (addr ≠ 0 ∨ s.live = []) ∧
    ∃ L A, XfMmOk s.pool s.live L A

/-- Above the null address no block is the null pointer. -/
lemma XfMmOk.zero_notMem (h : XfMmOk pool live L A) (haddr : pool.addr ≠ 0) : 0 ∉ L := fun h0 => by
  have hle := (h.block h0).2.2.2.1
  exact haddr (BitVec.eq_of_toNat_eq (by simpa using hle))

/-- Without live allocations the pool is one block. -/
lemma XfMmOk.eq_addr (h : XfMmOk pool [] L A) {x : U32} (hx : x ∈ L) : x = pool.addr := by
  have hcover := h.tiles.cover
  simp only [List.append_nil, Set.mem_Ico] at hcover
  have hblock : ∀ a, pool.addr.toNat ≤ a → a < pool.addr.toNat + pool.size.toNat →
      ∃ y ∈ L, y.toNat ≤ a ∧ a < y.toNat + (xfMmBlockLength pool.lMap y).toNat := fun a h1 h2 => by
    obtain ⟨r, hr, har⟩ := (hcover a).mp ⟨h1, h2⟩
    obtain ⟨y, hy, rfl⟩ := List.mem_map.mp hr
    exact ⟨y, hy, by simpa [xfMmRegion] using har⟩
  by_contra hne
  have hxb := h.block hx
  have hlt : pool.addr.toNat < x.toNat :=
    lt_of_le_of_ne hxb.2.2.2.1 fun heq => hne (BitVec.eq_of_toNat_eq heq.symm)
  -- the address before `x` belongs to a block that ends at `x`
  obtain ⟨y, hy, hyx, hxy⟩ := hblock (x.toNat - 1) (by omega) (by omega)
  have hyne : y ≠ x := fun heq => by
    subst heq
    omega
  have hapart := h.apart_blocks hy hx hyne
  have := h.separated y hy x hx
  omega

/-- When the only block is at the null address, allocation fails and changes nothing. -/
lemma xfMmAlloc_null (size : U32) (h : XfMmOk pool live L A) (hnull : ∀ x ∈ L, x = 0)
    (hsize : 32 ∣ size.toNat) : xfMmAlloc pool size = some (pool, 0) := by
  rw [xfMmAlloc, xfMmFindBySize_spec h.lHolds size (by omega) h.lSorted]
  cases hres : L.find? fun x => !xfMmBlockLengthLess pool.lMap x size with
  | none => rfl
  | some b =>
    simp only [Option.bind_eq_bind, Option.bind_some,
      if_pos (hnull b (List.mem_of_find?_eq_some hres))]
    rfl

/-- An aligned number passes the alignment check of `xf_mm_init`. -/
lemma and_blockSize_sub_one {a : U32} (h : 32 ∣ a.toNat) : a &&& (xfMmBlockSize - 1) = 0 := by
  refine BitVec.eq_of_toNat_eq ?_
  have : (xfMmBlockSize - 1).toNat = 2 ^ 5 - 1 := by decide
  rw [BitVec.toNat_and, this, Nat.and_two_pow_sub_one_eq_mod]
  simpa using Nat.mod_eq_zero_of_dvd h

/-- `xf_mm_init` establishes the invariant. -/
lemma xfMmInit_spec {addr : U32} (pool₀ : XfMmPool) (haddr : 32 ∣ addr.toNat)
    (hsize : 32 ∣ size.toNat) (hpos : 0 < size.toNat)
    (hwrap : addr.toNat + size.toNat ≤ 2 ^ 32) :
    ∃ pool, xfMmInit pool₀ addr size = some (some pool) ∧ XfMmInv addr size ⟨pool, []⟩ := by
  have h : XfMmOk ⟨addr, size, pool₀.lMap.rbInit, pool₀.aMap.rbInit⟩ [(addr, size)] [] [] := by
    refine ⟨⟨holds_rbInit _, holds_rbInit _, .nil, .nil, ?_, ?_, hwrap⟩, .nil, by simp⟩
    · exact tiles_cons.mpr ⟨subset_rfl, fun x => by simp [xfMmRegion], .nil⟩
    · simpa [xfMmFreeRegions] using ⟨haddr, hsize, hpos⟩
  obtain ⟨pool, L, A, hres, haddr', hsize', hok⟩ :=
    xfMmFree_spec h (by simp) (List.mem_singleton_self (addr, size))
  refine ⟨pool, ?_, haddr', hsize', Or.inr rfl, L, A, by simpa using hok⟩
  rw [xfMmInit, if_neg (by rw [and_blockSize_sub_one haddr]; simp),
    if_neg (by rw [and_blockSize_sub_one hsize]; simp)]
  simp only [hres, Option.bind_eq_bind, Option.bind_some]
  rfl

/-- Writes of the users do not reach the node records of free blocks. -/
lemma XfMmOk.write (h : XfMmOk pool live L A) {lMap aMap : RbTree U32}
    (hnull : lMap none = pool.lMap none ∧ aMap none = pool.aMap none)
    (hsame : ∀ x : U32, (∀ r ∈ live, x.toNat ∉ xfMmRegion r) →
      lMap (some x) = pool.lMap (some x) ∧ aMap (some x) = pool.aMap (some x)) :
    XfMmOk { pool with lMap, aMap } live L A := by
  have hfree : ∀ x ∈ L, ∀ r ∈ live, x.toNat ∉ xfMmRegion r := fun x hx r hr => by
    have hp := (List.perm_cons_erase hx).map fun b => (b, xfMmBlockLength pool.lMap b)
    have hpos := (h.block hx).2.2.1
    refine (h.tiles.perm (hp.append_right live)).notMem (a := (x, xfMmBlockLength pool.lMap x)) ?_
      (List.mem_append_right _ hr)
    simp only [xfMmRegion, Set.mem_Ico]
    omega
  have hlen : ∀ x ∈ L, xfMmBlockLength lMap x = xfMmBlockLength pool.lMap x := fun x hx => by
    rw [xfMmBlockLength, (hsame x (hfree x hx)).1, xfMmBlockLength]
  have hregions : xfMmFreeRegions lMap L = xfMmFreeRegions pool.lMap L := xfMmFreeRegions_congr hlen
  have hlHolds : lMap.Holds L := h.lHolds.congr (by rw [hnull.1]) (by rw [hnull.1]) fun x hx =>
    (hsame x (hfree x hx)).1
  have haHolds : aMap.Holds A := h.aHolds.congr (by rw [hnull.2]) (by rw [hnull.2]) fun x hx =>
    (hsame x (hfree x (h.perm.mem_iff.mpr hx))).2
  refine ⟨⟨hlHolds, haHolds, ?_, h.aSorted, ?_, ?_, h.wrap⟩, h.perm, ?_⟩
  · refine h.lSorted.imp_of_mem fun {x y} hx hy hxy => ?_
    simp only [hlen x hx, hlen y hy]
    exact hxy
  · rw [hregions]
    exact h.tiles
  · rw [hregions]
    exact h.aligned
  · intro x hx y hy
    simp only [hlen x hx]
    exact h.separated x hx y hy

/-- Both entry points return, and a step keeps the invariant. -/
lemma XfMmInv.alloc {addr size₀ : U32} {s : XfMmState} (h : XfMmInv addr size₀ s)
    (hpos : 0 < size.toNat) (hsize : 32 ∣ size.toNat) :
    ∃ pool' p, xfMmAlloc s.pool size = some (pool', p) ∧
      XfMmInv addr size₀ ⟨pool', if p = 0 then s.live else (p, size) :: s.live⟩ := by
  obtain ⟨haddr, hsize₀, hnull, L, A, hok⟩ := h
  by_cases haddr0 : s.pool.addr = 0
  · have hlive : s.live = [] := hnull.resolve_left fun hne => hne (haddr ▸ haddr0)
    have hres := xfMmAlloc_null size hok
      (fun x hx => ((hlive ▸ hok).eq_addr hx).trans haddr0) hsize
    exact ⟨s.pool, 0, hres, haddr, hsize₀, by simpa using hnull, L, A, by simpa using hok⟩
  · have hzero := hok.zero_notMem haddr0
    rcases xfMmAlloc_spec hok hzero hpos hsize with ⟨hres, -⟩ | ⟨b, hb, hge, -, pool', L', A', hres,
      haddr', hsize', -, hok'⟩
    · exact ⟨s.pool, 0, hres, haddr, hsize₀, by simpa using hnull, L, A, by simpa using hok⟩
    · have hp0 : b + (xfMmBlockLength s.pool.lMap b - size) ≠ 0 := fun h0 => by
        have hle := (hok'.region_le (List.mem_append_right _ (List.mem_cons_self))).1
        rw [haddr', h0] at hle
        exact haddr0 (BitVec.eq_of_toNat_eq (by simpa using hle))
      refine ⟨pool', _, hres, haddr'.trans haddr, hsize'.trans hsize₀, Or.inl (haddr ▸ haddr0), L',
        A', ?_⟩
      rw [if_neg hp0]
      exact hok'

lemma XfMmInv.free {addr size₀ : U32} {s : XfMmState} (h : XfMmInv addr size₀ s)
    (hp : (p, size) ∈ s.live) :
    ∃ pool', xfMmFree s.pool p size = some pool' ∧
      XfMmInv addr size₀ ⟨pool', s.live.erase (p, size)⟩ := by
  obtain ⟨haddr, hsize₀, hnull, L, A, hok⟩ := h
  have haddr0 : addr ≠ 0 := hnull.resolve_right fun hnil => by simp [hnil] at hp
  obtain ⟨pool', L', A', hres, haddr', hsize', hok'⟩ :=
    xfMmFree_spec hok (hok.zero_notMem (haddr ▸ haddr0)) hp
  exact ⟨pool', hres, haddr'.trans haddr, hsize'.trans hsize₀, Or.inl haddr0, L', A', hok'⟩

lemma XfMmInv.step {addr size₀ : U32} (s s' : XfMmState) (h : XfMmInv addr size₀ s)
    (hstep : XfMmStep s s') : XfMmInv addr size₀ s' := by
  cases hstep with
  | alloc hpos hsize hres =>
    obtain ⟨pool', p, hres', hinv⟩ := h.alloc hpos hsize
    obtain ⟨rfl, rfl⟩ := Prod.mk.inj (Option.some.inj (hres.symm.trans hres'))
    exact hinv
  | free hp hres =>
    obtain ⟨pool', hres', hinv⟩ := h.free hp
    obtain rfl := Option.some.inj (hres.symm.trans hres')
    exact hinv
  | write hnull hsame =>
    obtain ⟨haddr, hsize₀, hlive, L, A, hok⟩ := h
    exact ⟨haddr, hsize₀, hlive, L, A, hok.write hnull hsame⟩

/-- What is promised of an allocator over `[addr, addr + size)` in use: the two maps are sorted
trees over the same blocks, the blocks and the live allocations tile the pool, no two blocks are
adjacent, and both entry points return. -/
structure XfMmSafe (addr size : U32) (s : XfMmState) : Prop where
  addr_eq : s.pool.addr = addr
  size_eq : s.pool.size = size
  ok : ∃ L A, XfMmOk s.pool s.live L A
  alloc_returns : ∀ n : U32, 0 < n.toNat → 32 ∣ n.toNat → (xfMmAlloc s.pool n).isSome
  free_returns : ∀ p n : U32, (p, n) ∈ s.live → (xfMmFree s.pool p n).isSome

lemma XfMmInv.safe {addr size : U32} {s : XfMmState} (h : XfMmInv addr size s) :
    XfMmSafe addr size s := by
  refine ⟨h.1, h.2.1, h.2.2.2, fun n hn hn32 => ?_, fun p n hp => ?_⟩
  · obtain ⟨pool', p, hres, -⟩ := h.alloc hn hn32
    rw [hres]
    rfl
  · obtain ⟨pool', hres, -⟩ := h.free hp
    rw [hres]
    rfl

/-- The allocator over whole runs: `xf_mm_init` succeeds on every aligned pool that is not empty and
does not wrap, and every state reached from there is safe. -/
theorem xfMm_run {addr size : U32} (pool₀ : XfMmPool) (haddr : 32 ∣ addr.toNat)
    (hsize : 32 ∣ size.toNat) (hpos : 0 < size.toNat)
    (hwrap : addr.toNat + size.toNat ≤ 2 ^ 32) :
    ∃ pool, xfMmInit pool₀ addr size = some (some pool) ∧
      ∀ s, Relation.ReflTransGen XfMmStep ⟨pool, []⟩ s → XfMmSafe addr size s := by
  obtain ⟨pool, hinit, hinv⟩ := xfMmInit_spec pool₀ haddr hsize hpos hwrap
  exact ⟨pool, hinit, fun s hrun => (run_invariant _ XfMmInv.step hinv hrun).safe⟩

/-- The memory of an allocator that has not been initialised. -/
def xfMmRawPool : XfMmPool := ⟨0, 0, fun _ => ⟨none, none, none, 0⟩, fun _ => ⟨none, none, none, 0⟩⟩

/-- A pool of two blocks at address 32. -/
theorem xfMm_run_two_blocks : ∃ pool, xfMmInit xfMmRawPool 32#32 64#32 = some (some pool) ∧
    ∀ s, Relation.ReflTransGen XfMmStep ⟨pool, []⟩ s → XfMmSafe 32#32 64#32 s :=
  xfMm_run xfMmRawPool (by decide) (by decide) (by decide) (by decide)

end Hikey
