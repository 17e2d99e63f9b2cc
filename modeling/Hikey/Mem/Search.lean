import Hikey.Mem.Basic

/-!
# Block lengths and map searches of the memory allocator

The length of a block is the client part of a colour word, so rebalancing a map never changes it
(`xfMmBlockLength_of_frame`).  The three searches are specified on the in-order lists of the maps:
best fit is the first long enough block of the length map, the neighbours of an address are the last
block below it and the first one above it in the address map.
-/

namespace Hikey

open RbTree

variable {t t' : RbTree U32} {xs : List U32} {b x size addr : U32}

/-! ## Block lengths -/

/-- Rebalancing a map does not change the length of any block. -/
lemma xfMmBlockLength_of_frame (h : Frame xs t t') (b : U32) :
    xfMmBlockLength t' b = xfMmBlockLength t b := by
  rw [xfMmBlockLength, xfMmBlockLength, h.and_not_one]

/-- The length of a block after its colour word has been written. -/
lemma xfMmBlockLength_setColor (c : U32) :
    xfMmBlockLength (t.setColor (some b) c) x =
      if x = b then c &&& ~~~1#32 else xfMmBlockLength t x := by
  unfold xfMmBlockLength RbTree.setColor RbTree.modify
  by_cases h : x = b
  · simp [h]
  · simp [h]

/-- An even number keeps its value when the colour bit is cleared. -/
lemma and_not_one_of_even (h : 2 ∣ size.toNat) : size &&& ~~~1#32 = size := by
  refine BitVec.eq_of_toNat_eq ?_
  rw [toNat_and_not_one]
  omega

/-- Adding an even number to the colour word adds it to the block length. -/
lemma xfMmBlockLength_add (t : RbTree U32) (b x : U32) (h : 2 ∣ size.toNat) :
    xfMmBlockLength (xfMmBlockLengthAdd t b size) x =
      if x = b then xfMmBlockLength t b + size else xfMmBlockLength t x := by
  rw [xfMmBlockLengthAdd, xfMmBlockLength_setColor]
  congr 1
  refine BitVec.eq_of_toNat_eq ?_
  rw [xfMmBlockLength, toNat_and_not_one, BitVec.toNat_add, BitVec.toNat_add, toNat_and_not_one]
  omega

/-- Subtracting an even number from the colour word subtracts it from the block length. -/
lemma xfMmBlockLength_sub (t : RbTree U32) (b x : U32) (h : 2 ∣ size.toNat) :
    xfMmBlockLength (xfMmBlockLengthSub t b size) x =
      if x = b then xfMmBlockLength t b - size else xfMmBlockLength t x := by
  rw [xfMmBlockLengthSub, xfMmBlockLength_setColor]
  congr 1
  refine BitVec.eq_of_toNat_eq ?_
  rw [xfMmBlockLength, toNat_and_not_one, BitVec.toNat_sub, BitVec.toNat_sub, toNat_and_not_one]
  omega

/-- The colour bit does not disturb the comparison with an even size. -/
lemma xfMmBlockLengthLess_iff (h : 2 ∣ size.toNat) :
    xfMmBlockLengthLess t b size ↔ (xfMmBlockLength t b).toNat < size.toNat := by
  rw [xfMmBlockLengthLess, decide_eq_true_iff, BitVec.lt_def, xfMmBlockLength, toNat_and_not_one]
  omega

/-- The bias of the address map does not disturb the comparison of block addresses. -/
lemma xfMmANode_lt_iff (hb : 32 ∣ b.toNat) (ha : 32 ∣ addr.toNat) :
    xfMmANode b < addr ↔ b.toNat < addr.toNat := by
  have := b.isLt
  have := addr.isLt
  rw [xfMmANode, BitVec.lt_def, BitVec.toNat_add]
  simp only [BitVec.toNat_ofNat]
  omega

/-! ## Best fit -/

section Fit

variable {p : RbIdx U32} {s : ColorTree U32} {fuel : ℕ}

/-- The second loop of `xf_mm_find_by_size` finds the first long enough block of a subtree, if there
is one. -/
lemma xfMmFindBetter_spec {q : U32} (h : Links t p s) (hfuel : s.toList.length < fuel)
    (hsorted : s.toList.Pairwise fun x y =>
      xfMmBlockLengthLess t y size → xfMmBlockLengthLess t x size) :
    xfMmFindBetter t size fuel q s.root =
      some ((s.toList.find? fun x => !xfMmBlockLengthLess t x size).getD q) := by
  induction s generalizing p q fuel with
  | nil =>
    obtain ⟨fuel, rfl⟩ : ∃ f, fuel = f + 1 := ⟨fuel - 1, by omega⟩
    rfl
  | node c l x r ihl ihr =>
    obtain ⟨⟨-, hleft, hright, -⟩, hl, hr⟩ := h
    simp only [ColorTree.toList_node, List.length_append, List.length_cons] at hfuel
    simp only [ColorTree.toList_node, List.pairwise_append, List.pairwise_cons,
      List.mem_cons] at hsorted
    obtain ⟨hsl, ⟨hsx, hsr⟩, hslr⟩ := hsorted
    obtain ⟨fuel, rfl⟩ : ∃ f, fuel = f + 1 := ⟨fuel - 1, by omega⟩
    rw [ColorTree.root_node, xfMmFindBetter, hleft, hright, ColorTree.toList_node,
      List.find?_append, List.find?_cons]
    by_cases hx : xfMmBlockLengthLess t x size
    · have hnone : l.toList.find? (fun x => !xfMmBlockLengthLess t x size) = none :=
        List.find?_eq_none.mpr fun y hy => by simpa using hslr y hy x (Or.inl rfl) hx
      rw [if_neg (by simp [hx]), ihr hr (by omega) hsr, hnone]
      simp [hx]
    · rw [if_pos (by simp [hx]), ihl hl (by omega) hsl]
      simp only [hx, Bool.not_false]
      cases l.toList.find? (fun x => !xfMmBlockLengthLess t x size) <;> rfl

/-- The first loop of `xf_mm_find_by_size` stops at a long enough block, and the second one, run on
its left subtree, finds the first long enough block of the tree. -/
lemma xfMmFindLongEnough_spec {fuel' : ℕ} (h : Links t p s) (hfuel : s.toList.length < fuel)
    (hfuel' : s.toList.length < fuel')
    (hsorted : s.toList.Pairwise fun x y =>
      xfMmBlockLengthLess t y size → xfMmBlockLengthLess t x size) :
    ∃ res, xfMmFindLongEnough t size fuel s.root = some res ∧
      match res with
      | none => s.toList.find? (fun x => !xfMmBlockLengthLess t x size) = none
      | some q => xfMmFindBetter t size fuel' q (t (some q)).left =
          s.toList.find? (fun x => !xfMmBlockLengthLess t x size) ∧
            (s.toList.find? (fun x => !xfMmBlockLengthLess t x size)).isSome := by
  induction s generalizing p fuel with
  | nil =>
    obtain ⟨fuel, rfl⟩ : ∃ f, fuel = f + 1 := ⟨fuel - 1, by omega⟩
    exact ⟨none, rfl, rfl⟩
  | node c l x r ihl ihr =>
    obtain ⟨⟨-, hleft, hright, -⟩, hl, hr⟩ := h
    simp only [ColorTree.toList_node, List.length_append, List.length_cons] at hfuel hfuel'
    simp only [ColorTree.toList_node, List.pairwise_append, List.pairwise_cons,
      List.mem_cons] at hsorted
    obtain ⟨hsl, ⟨hsx, hsr⟩, hslr⟩ := hsorted
    obtain ⟨fuel, rfl⟩ : ∃ f, fuel = f + 1 := ⟨fuel - 1, by omega⟩
    rw [ColorTree.root_node, xfMmFindLongEnough, hright, ColorTree.toList_node,
      List.find?_append, List.find?_cons]
    by_cases hx : xfMmBlockLengthLess t x size
    · have hnone : l.toList.find? (fun x => !xfMmBlockLengthLess t x size) = none :=
        List.find?_eq_none.mpr fun y hy => by simpa using hslr y hy x (Or.inl rfl) hx
      rw [if_pos hx, hnone]
      simpa [hx] using ihr hr (by omega) (by omega) hsr
    · rw [if_neg hx]
      refine ⟨some x, rfl, ?_⟩
      simp only [hx, Bool.not_false]
      rw [hleft, xfMmFindBetter_spec hl (by omega) hsl]
      cases l.toList.find? (fun x => !xfMmBlockLengthLess t x size) <;> exact ⟨rfl, rfl⟩

end Fit

/-- `xf_mm_find_by_size` returns the first long enough block of the length map. -/
lemma xfMmFindBySize_spec {pool : XfMmPool} (h : pool.lMap.Holds xs) (size : U32)
    (hsize : 2 ∣ size.toNat)
    (hsorted : xs.Pairwise fun x y =>
      (xfMmBlockLength pool.lMap x).toNat ≤ (xfMmBlockLength pool.lMap y).toNat) :
    xfMmFindBySize pool size =
      some (xs.find? fun x => !xfMmBlockLengthLess pool.lMap x size) := by
  obtain ⟨T, hT, rfl⟩ := h
  have hlen := length_lt_rbFuel hT.nodup
  have hsorted' : T.toList.Pairwise fun x y =>
      xfMmBlockLengthLess pool.lMap y size → xfMmBlockLengthLess pool.lMap x size :=
    hsorted.imp fun hxy hy => by
      rw [xfMmBlockLengthLess_iff hsize] at hy ⊢
      omega
  obtain ⟨res, hres, hmatch⟩ := xfMmFindLongEnough_spec hT.links hlen hlen hsorted'
  rw [xfMmFindBySize, hT.root, hres]
  cases res with
  | none =>
    simp only at hmatch
    rw [hmatch]
    rfl
  | some q =>
    obtain ⟨hbetter, hsome⟩ := hmatch
    obtain ⟨b, hb⟩ := Option.isSome_iff_exists.mp hsome
    simp only [Option.bind_eq_bind, Option.bind_some, hbetter, hb]
    rfl

/-! ## Neighbours of an address -/

/-- The loop of `xf_mm_find_by_addr` on a subtree. -/
lemma xfMmFindNeighbours_spec {p : RbIdx U32} {s : ColorTree U32} {fuel : ℕ} {l r : Option U32}
    (h : Links t p s) (hfuel : s.toList.length < fuel)
    (hsorted : s.toList.Pairwise fun x y => xfMmANode y < addr → xfMmANode x < addr) :
    xfMmFindNeighbours t addr fuel s.root l r =
      some (((s.toList.filter fun x => xfMmANode x < addr).getLast?).or l,
        ((s.toList.filter fun x => !decide (xfMmANode x < addr)).head?).or r) := by
  induction s generalizing p fuel l r with
  | nil =>
    obtain ⟨fuel, rfl⟩ : ∃ f, fuel = f + 1 := ⟨fuel - 1, by omega⟩
    rfl
  | node c sl x sr ihl ihr =>
    obtain ⟨⟨-, hleft, hright, -⟩, hl, hr⟩ := h
    simp only [ColorTree.toList_node, List.length_append, List.length_cons] at hfuel
    simp only [ColorTree.toList_node, List.pairwise_append, List.pairwise_cons,
      List.mem_cons] at hsorted
    obtain ⟨hsl, ⟨hsx, hsr⟩, hslr⟩ := hsorted
    obtain ⟨fuel, rfl⟩ : ∃ f, fuel = f + 1 := ⟨fuel - 1, by omega⟩
    rw [ColorTree.root_node, xfMmFindNeighbours, hleft, hright, ColorTree.toList_node,
      List.filter_append, List.filter_append]
    by_cases hx : xfMmANode x < addr
    · have hnil : sl.toList.filter (fun x => !decide (xfMmANode x < addr)) = [] :=
        List.filter_eq_nil_iff.mpr fun y hy => by simp [hslr y hy x (Or.inl rfl) hx]
      rw [if_pos hx, ihr hr (by omega) hsr, hnil]
      simp only [hx, decide_true, List.filter_cons_of_pos, List.nil_append,
        List.getLast?_append, List.getLast?_cons]
      cases (sr.toList.filter fun x => decide (xfMmANode x < addr)).getLast? <;> simp [hx]
    · have hnil : sr.toList.filter (fun x => decide (xfMmANode x < addr)) = [] :=
        List.filter_eq_nil_iff.mpr fun y hy => by simpa using fun h => hx (hsx y hy h)
      rw [if_neg hx, ihl hl (by omega) hsl]
      simp only [hx, decide_false, Bool.not_false, List.filter_cons_of_pos, List.head?_append,
        List.head?_cons]
      rw [List.filter_cons_of_neg (by simp [hx]), hnil, List.append_nil]
      cases (sl.toList.filter fun x => !decide (xfMmANode x < addr)).head? <;> simp

/-- The last label below an address in a sorted list is the closest one. -/
lemma closest_below {A : List U32} {n : U32} (hA : A.Pairwise fun x y => x.toNat < y.toNat)
    (hn : A.getLast? = some n) : n ∈ A ∧ ∀ x ∈ A, x.toNat ≤ n.toNat := by
  obtain ⟨ys, rfl⟩ := List.getLast?_eq_some_iff.mp hn
  simp only [List.pairwise_append, List.mem_singleton] at hA
  refine ⟨by simp, fun x hx => ?_⟩
  rcases List.mem_append.mp hx with hx | hx
  · exact (hA.2.2 x hx n rfl).le
  · rw [List.mem_singleton.mp hx]

/-- The first label of a sorted list is the closest one from above. -/
lemma closest_above {A : List U32} {n : U32} (hA : A.Pairwise fun x y => x.toNat < y.toNat)
    (hn : A.head? = some n) : n ∈ A ∧ ∀ x ∈ A, n.toNat ≤ x.toNat := by
  obtain ⟨ys, rfl⟩ := List.head?_eq_some_iff.mp hn
  rw [List.pairwise_cons] at hA
  refine ⟨by simp, fun x hx => ?_⟩
  rcases List.mem_cons.mp hx with rfl | hx
  · exact le_rfl
  · exact (hA.1 x hx).le

/-- A neighbour `n` among the blocks `A` on the side `below` of an address; the null pointer when
there is no block on that side. -/
def IsNeighbour (A : List U32) (n : U32) (below : U32 → Prop) (closer : U32 → U32 → Prop) :
    Prop :=
  (n = 0 ∧ ∀ x ∈ A, ¬ below x) ∨ (n ≠ 0 ∧ n ∈ A ∧ below n ∧ ∀ x ∈ A, below x → closer x n)

/-- `xf_mm_find_by_addr` returns the closest blocks below and above an address. -/
lemma xfMmFindByAddr_spec {pool : XfMmPool} {A : List U32} (h : pool.aMap.Holds A)
    (hsorted : A.Pairwise fun x y => x.toNat < y.toNat) (haligned : ∀ x ∈ A, 32 ∣ x.toNat)
    (haddr : 32 ∣ addr.toNat) (hzero : 0 ∉ A) :
    ∃ n₀ n₁, xfMmFindByAddr pool addr = some (n₀, n₁) ∧
      IsNeighbour A n₀ (fun x => x.toNat < addr.toNat) (fun x n => x.toNat ≤ n.toNat) ∧
      IsNeighbour A n₁ (fun x => addr.toNat ≤ x.toNat) (fun x n => n.toNat ≤ x.toNat) := by
  obtain ⟨T, hT, rfl⟩ := h
  have hlen := length_lt_rbFuel hT.nodup
  have hsorted' : T.toList.Pairwise fun x y => xfMmANode y < addr → xfMmANode x < addr :=
    hsorted.imp_of_mem fun hx hy hxy hlt => by
      rw [xfMmANode_lt_iff (haligned _ ‹_›) haddr] at hlt ⊢
      omega
  have hlt : ∀ x ∈ T.toList, xfMmANode x < addr ↔ x.toNat < addr.toNat :=
    fun x hx => xfMmANode_lt_iff (haligned x hx) haddr
  rw [xfMmFindByAddr, hT.root, xfMmFindNeighbours_spec hT.links hlen hsorted']
  refine ⟨_, _, rfl, ?_, ?_⟩
  · cases hlast : (T.toList.filter fun x => xfMmANode x < addr).getLast? with
    | none =>
      refine Or.inl ⟨rfl, fun x hx hlt' => ?_⟩
      have hnil := List.getLast?_eq_none_iff.mp hlast
      exact List.filter_eq_nil_iff.mp hnil x hx (by simpa [hlt x hx] using hlt')
    | some n =>
      obtain ⟨hn, hmax⟩ := closest_below (hsorted.filter _) hlast
      obtain ⟨hnA, hnlt⟩ := List.mem_filter.mp hn
      refine Or.inr ⟨?_, hnA, by simpa [hlt n hnA] using hnlt, fun x hx hx' => ?_⟩
      · rintro rfl
        exact hzero hnA
      · exact hmax x (List.mem_filter.mpr ⟨hx, by simpa [hlt x hx] using hx'⟩)
  · cases hhead : (T.toList.filter fun x => !decide (xfMmANode x < addr)).head? with
    | none =>
      refine Or.inl ⟨rfl, fun x hx hle => ?_⟩
      have hnil := List.head?_eq_none_iff.mp hhead
      exact List.filter_eq_nil_iff.mp hnil x hx (by simpa [hlt x hx] using hle)
    | some n =>
      obtain ⟨hn, hmin⟩ := closest_above (hsorted.filter _) hhead
      obtain ⟨hnA, hnle⟩ := List.mem_filter.mp hn
      refine Or.inr ⟨?_, hnA, by simpa [hlt n hnA] using hnle, fun x hx hx' => ?_⟩
      · rintro rfl
        exact hzero hnA
      · exact hmin x (List.mem_filter.mpr ⟨hx, by simp [hlt x hx, hx']⟩)

end Hikey
