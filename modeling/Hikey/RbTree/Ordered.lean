import Hikey.RbTree.Remove

/-!
# Red-black trees as ordered lists

The clients of the library keep a tree sorted by a comparison of their own.  `Holds t xs` says that
`t` is a well-formed red-black tree with in-order list `xs`; the library operations and the search
loops that the clients write are specified in terms of that list.
-/

namespace Hikey

universe u

namespace RbTree

variable {ι : Type u} [DecidableEq ι] {t t' : RbTree ι} {xs ys : List ι} {x n m : ι} {fuel : ℕ}

/-- `t` is a well-formed red-black tree whose in-order list is `xs`. -/
def Holds (t : RbTree ι) (xs : List ι) : Prop := ∃ T, WellFormed t T ∧ T.toList = xs

omit [DecidableEq ι] in
lemma Holds.nodup (h : Holds t xs) : xs.Nodup := by
  obtain ⟨T, hT, rfl⟩ := h
  exact hT.nodup

/-! ## Client data in colour words -/

/-- Clearing the colour bit is shifting it out and back in. -/
lemma and_not_one (c : U32) : c &&& ~~~1#32 = (c >>> 1) <<< 1 := by
  ext i hi
  rw [BitVec.getElem_and, BitVec.getElem_not, BitVec.getElem_shiftLeft, BitVec.getElem_one]
  by_cases h : i = 0
  · simp [h]
  · have h1 : 1 + (i - 1) = i := by omega
    simp [h, h1, show ¬ i < 1 by omega, BitVec.getElem_ushiftRight, BitVec.getLsbD_eq_getElem hi]

/-- Clearing the colour bit rounds down to an even number. -/
lemma toNat_and_not_one (c : U32) : (c &&& ~~~1#32).toNat = c.toNat / 2 * 2 := by
  have := c.isLt
  rw [and_not_one, BitVec.toNat_shiftLeft, BitVec.toNat_ushiftRight, Nat.shiftLeft_eq,
    Nat.shiftRight_eq_div_pow]
  omega

omit [DecidableEq ι] in
/-- An operation keeps the client's part of every colour word. -/
lemma Frame.and_not_one (h : Frame xs t t') (i : RbIdx ι) :
    (t' i).color &&& ~~~1#32 = (t i).color &&& ~~~1#32 := by
  have hdata : (t' i).color >>> 1 = (t i).color >>> 1 := h.data i
  rw [Hikey.RbTree.and_not_one, Hikey.RbTree.and_not_one, hdata]

/-! ## Trees and lists -/

omit [DecidableEq ι] in
/-- A well-formed tree depends on the sentinel and on its own nodes only. -/
lemma WellFormed.congr {T : ColorTree ι} (h : WellFormed t T)
    (hnull : (t' none).left = (t none).left) (hcolor : (t' none).color = (t none).color)
    (hsame : ∀ x ∈ T.toList, t' (some x) = t (some x)) : WellFormed t' T := by
  refine ⟨⟨h.links.congr fun x hx => ?_, hnull.trans h.root, h.nodup, ?_⟩, h.balanced⟩
  · simp [SameNode, isBlack, hsame x hx]
  · have := h.null
    rwa [isBlack, hcolor]

omit [DecidableEq ι] in
/-- The list held by a tree depends on the sentinel and on the nodes in the list only. -/
lemma Holds.congr (h : Holds t xs) (hnull : (t' none).left = (t none).left)
    (hcolor : (t' none).color = (t none).color) (hsame : ∀ x ∈ xs, t' (some x) = t (some x)) :
    Holds t' xs := by
  obtain ⟨T, hT, rfl⟩ := h
  exact ⟨T, hT.congr hnull hcolor hsame, rfl⟩

/-- Writing the colour word of a node outside the tree. -/
lemma Holds.setColor (h : Holds t xs) (hx : x ∉ xs) (c : U32) :
    Holds (t.setColor (some x) c) xs := by
  refine h.congr (by simp [RbTree.setColor, modify]) (by simp [RbTree.setColor, modify])
    fun y hy => ?_
  rw [RbTree.setColor, modify, if_neg]
  rintro ⟨⟩
  exact hx hy

/-- Writing the cached node. -/
lemma WellFormed.setCache {T : ColorTree ι} (h : WellFormed t T) (c : RbIdx ι) :
    WellFormed (t.setCache c) T := by
  refine h.congr (by simp [RbTree.setCache]) (by simp [RbTree.setCache]) fun y hy => ?_
  rw [RbTree.setCache, RbTree.setR, modify, if_neg (by simp)]

lemma Holds.setCache (h : Holds t xs) (c : RbIdx ι) : Holds (t.setCache c) xs := by
  obtain ⟨T, hT, rfl⟩ := h
  exact ⟨T, hT.setCache c, rfl⟩

/-- Writing back the cached node. -/
lemma setCache_rbCache (t : RbTree ι) : t.setCache t.rbCache = t := by
  funext i
  unfold RbTree.setCache setR modify rbCache
  split
  · rename_i h
    subst h
    rfl
  · rfl

/-- The link of a new node and the cached node are written independently. -/
lemma setCache_attach (t : RbTree ι) (P : TreePath ι) (c k : RbIdx ι) :
    (t.attach P c).setCache k = (t.setCache k).attach P c := by
  cases P with
  | top => rfl
  | left _ p _ _ =>
    funext i
    unfold attach RbTree.setCache setL setR modify
    dsimp only
    split_ifs <;> rfl
  | right _ _ p _ =>
    funext i
    unfold attach RbTree.setCache setR modify
    dsimp only
    split_ifs with h1 h2
    · rw [h1] at h2
      cases h2
    all_goals rfl

/-- `rb_init` makes an empty tree. -/
lemma holds_rbInit (t : RbTree ι) : Holds t.rbInit [] :=
  ⟨.nil, ⟨⟨trivial, by simp [rbRoot, rbInit], by simp, by simp [rbInit]⟩, 0, .nil⟩, rfl⟩

/-- `rb_delete` removes a node from the list. -/
lemma Holds.delete (h : Holds t xs) (hn : n ∈ xs) (hfuel : xs.length ≤ fuel) :
    ∃ t' k, rbDelete fuel t (some n) = some (t', k) ∧ Holds t' (xs.erase n) ∧ Frame xs t t' ∧
      ∀ rest, xs = n :: rest → k = rest.head? := by
  obtain ⟨T, hT, rfl⟩ := h
  obtain ⟨t', k, T', hres, hT', hlist, hf, hhead⟩ := rbDelete_spec hT hn hfuel
  exact ⟨t', k, hres, ⟨T', hT', hlist⟩, hf, hhead⟩

/-- `rb_replace` puts a fresh node in the place of one of the list. -/
lemma Holds.replace {as bs : List ι} (h : Holds t (as ++ n :: bs)) (hm : m ∉ as ++ n :: bs) :
    Holds (t.rbReplace (some n) (some m)) (as ++ m :: bs) ∧
      Frame (m :: (as ++ n :: bs)) t (t.rbReplace (some n) (some m)) := by
  obtain ⟨T, hT, hlist⟩ := h
  obtain ⟨P, c, l, r, rfl⟩ := TreePath.exists_fill (t := T) (x := n) (by rw [hlist]; simp)
  rw [← hlist] at hm ⊢
  obtain ⟨hrep, hf⟩ := rbReplace_spec hT.toRepresents hm
  obtain ⟨k, hb⟩ := hT.balanced
  obtain ⟨d, j, hP, hs⟩ := TreePath.Balanced.of_fill hb
  have hs' : (ColorTree.node c l m r).Balanced d j := by
    cases hs with
    | red hl hr => exact .red hl hr
    | black hl hr => exact .black hl hr
  refine ⟨⟨_, ⟨hrep, hP.fill hs'⟩, ?_⟩, hf⟩
  have hnd := hT.nodup
  rw [hlist] at hnd
  simp only [TreePath.toList_fill, ColorTree.toList_node, List.append_assoc,
    List.cons_append] at hlist ⊢
  have hsplit : (P.before ++ l.toList) ++ n :: (r.toList ++ P.after) = as ++ n :: bs := by
    simpa using hlist
  have hnd' := hsplit ▸ hnd
  rw [List.nodup_middle, List.nodup_cons, List.mem_append] at hnd hnd'
  obtain ⟨h1, -, h2⟩ := (List.append_cons_inj_of_notMem (fun hn => hnd'.1 (Or.inl hn))
    (fun hn => hnd'.1 (Or.inr hn))).mp hsplit
  rw [← h1, ← h2, List.append_assoc]

/-! ## Inserting at a place found by comparison -/

/-- The loop by which clients look for the parent of a new node `n`, going right at the nodes where
`less` holds; it links `n` below the node where it stops, on the right if the last result says so.
-/
def insertPos (less : ι → Bool) : ℕ → RbTree ι → ι → RbIdx ι → Option (RbTree ι × RbIdx ι × Bool)
  | 0, _, _, _ => none
  | _ + 1, t, _, none => some (t, none, false)
  | fuel + 1, t, n, some x =>
    if less x then
      if (t (some x)).right = none then some (t.setR (some x) (some n), some x, true)
      else insertPos less fuel t n (t (some x)).right
    else
      if (t (some x)).left = none then some (t.setL (some x) (some n), some x, false)
      else insertPos less fuel t n (t (some x)).left

/-- Enough fuel for every loop over the nodes at 32-bit addresses. -/
def rbFuel : ℕ := 2 ^ 32 + 1

/-- Look for the place of `n`, link it there and call `rb_insert`. -/
def insertBy (t : RbTree U32) (less : U32 → Bool) (n : U32) : Option (RbTree U32) := do
  let (t', p, _) ← insertPos less rbFuel t n t.rbRoot
  rbInsert rbFuel t' (some n) p

/-- The loop stops at the end of the search path. -/
lemma insertPos_spec {less : ι → Bool} {P : TreePath ι} {s : ColorTree ι} {p : RbIdx ι}
    (h : Links t p s) (hs : s ≠ .nil) (hfuel : s.toList.length ≤ fuel) :
    insertPos less fuel t n s.root = some (t.attach (s.descend less P) (some n),
      (s.descend less P).parent, (s.descend less P).isRight) := by
  induction s generalizing p fuel P with
  | nil => exact absurd rfl hs
  | node c l x r ihl ihr =>
    obtain ⟨⟨-, hleft, hright, -⟩, hl, hr⟩ := h
    simp only [ColorTree.toList_node, List.length_append, List.length_cons] at hfuel
    obtain ⟨fuel, rfl⟩ : ∃ f, fuel = f + 1 := ⟨fuel - 1, by omega⟩
    rw [ColorTree.root_node, insertPos, ColorTree.descend, hleft, hright]
    by_cases hx : less x
    · rw [if_pos hx, if_pos hx]
      by_cases hnil : r = .nil
      · subst hnil
        rfl
      · rw [if_neg fun hroot => hnil (ColorTree.eq_nil_of_root hroot)]
        exact ihr hr hnil (by omega)
    · rw [if_neg hx, if_neg hx]
      by_cases hnil : l = .nil
      · subst hnil
        rfl
      · rw [if_neg fun hroot => hnil (ColorTree.eq_nil_of_root hroot)]
        exact ihl hl hnil (by omega)

/-- A duplicate-free list of 32-bit addresses is no longer than the fuel. -/
lemma length_lt_rbFuel {xs : List U32} (h : xs.Nodup) : xs.length < rbFuel := by
  have hmap : (xs.map BitVec.toFin).Nodup :=
    h.map fun a b hab => BitVec.eq_of_toFin_eq hab
  have hle := hmap.length_le_card
  rw [List.length_map, Fintype.card_fin] at hle
  unfold rbFuel
  omega

/-- The place that the loop finds: a free slot of the tree, and in a list in which the nodes where
`less` holds come first, the one between these and the others. -/
lemma Holds.insertPos {t : RbTree U32} {xs : List U32} {n : U32} (h : Holds t xs)
    (less : U32 → Bool) :
    ∃ P : TreePath U32, WellFormed t (P.fill .nil) ∧ xs = P.before ++ P.after ∧
      insertPos less rbFuel t n t.rbRoot = some (t.attach P (some n), P.parent, P.isRight) ∧
      P.length < rbFuel ∧
      ((xs.Pairwise fun x y => less y → less x) →
        P.before = xs.filter less ∧ P.after = xs.filter fun x => !less x) := by
  obtain ⟨T, hT, rfl⟩ := h
  have hlen := length_lt_rbFuel hT.nodup
  have hfill : (T.descend less .top).fill .nil = T := by simp
  have hlist : T.toList = (T.descend less .top).before ++ (T.descend less .top).after := by
    have := TreePath.toList_fill (T.descend less .top) .nil
    rw [hfill] at this
    simpa using this
  refine ⟨T.descend less .top, hfill.symm ▸ hT, hlist, ?_, ?_, fun hsorted => ?_⟩
  · rw [hT.root]
    by_cases hnil : T = .nil
    · subst hnil
      rfl
    · exact insertPos_spec (P := .top) hT.links hnil hlen.le
  · have hle := TreePath.length_le (T.descend less .top)
    have := congrArg List.length hlist
    rw [List.length_append] at this
    omega
  · have := ColorTree.before_after_descend (P := .top) hsorted
    simpa using this

/-- Inserting a fresh node into a list in which the nodes where `less` holds come first puts it
between these and the others. -/
lemma Holds.insertBy {t : RbTree U32} {xs : List U32} {n : U32} (h : Holds t xs)
    (less : U32 → Bool) (hn : n ∉ xs) (hsorted : xs.Pairwise fun x y => less y → less x) :
    ∃ t', t.insertBy less n = some t' ∧
      Holds t' (xs.filter less ++ n :: xs.filter fun x => !less x) ∧ Frame (n :: xs) t t' := by
  obtain ⟨P, hT, hlist, hpos, hlen, hsort⟩ := h.insertPos less (n := n)
  obtain ⟨hbefore, hafter⟩ := hsort hsorted
  obtain ⟨t', T', hres, hT', hlist', hf⟩ :=
    rbInsert_spec (x := n) hT (by simpa [← hlist] using hn) hlen
  refine ⟨t', ?_, ⟨T', hT', by rw [hlist', hbefore, hafter]⟩, hf.mono fun x hx => ?_⟩
  · rw [RbTree.insertBy, hpos]
    exact hres
  · rw [hlist]
    simp only [List.mem_append, List.mem_cons] at hx ⊢
    tauto

end RbTree

end Hikey
