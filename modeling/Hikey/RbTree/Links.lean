import Hikey.RbTree.Basic

/-!
# Trees in linked memory

`Links t p s` says that the memory `t` holds the coloured tree `s` with its root hanging below `p`;
`PathLinks t ch P` says that it holds the context `P` with `ch` as the child in the hole.  Together
they describe a tree cut open at any place (`links_fill_iff`), which is how the rebalancing loops
see it.
-/

namespace Hikey

universe u

/-- Whether a colour is black, as the colour bit of a node says it. -/
def Color.isBlack : Color → Bool
  | .red => false
  | .black => true

@[simp, grind =] lemma Color.isBlack_red : Color.red.isBlack = false := rfl

@[simp, grind =] lemma Color.isBlack_black : Color.black.isBlack = true := rfl

namespace RbTree

variable {ι : Type u} [DecidableEq ι] {t t' : RbTree ι}

/-! ## Reading after writing -/

section Accessors

variable (t : RbTree ι) (n p i : RbIdx ι) (c : U32)

@[simp, grind =] lemma setP_parent : (t.setP n p i).parent = if i = n then p else (t i).parent := by
  unfold setP modify; split <;> rfl

@[simp, grind =] lemma setP_left : (t.setP n p i).left = (t i).left := by
  unfold setP modify; split <;> rfl

@[simp, grind =] lemma setP_right : (t.setP n p i).right = (t i).right := by
  unfold setP modify; split <;> rfl

@[simp, grind =] lemma setP_color : (t.setP n p i).color = (t i).color := by
  unfold setP modify; split <;> rfl

@[simp, grind =] lemma setL_parent : (t.setL n p i).parent = (t i).parent := by
  unfold setL modify; split <;> rfl

@[simp, grind =] lemma setL_left : (t.setL n p i).left = if i = n then p else (t i).left := by
  unfold setL modify; split <;> rfl

@[simp, grind =] lemma setL_right : (t.setL n p i).right = (t i).right := by
  unfold setL modify; split <;> rfl

@[simp, grind =] lemma setL_color : (t.setL n p i).color = (t i).color := by
  unfold setL modify; split <;> rfl

@[simp, grind =] lemma setR_parent : (t.setR n p i).parent = (t i).parent := by
  unfold setR modify; split <;> rfl

@[simp, grind =] lemma setR_left : (t.setR n p i).left = (t i).left := by
  unfold setR modify; split <;> rfl

@[simp, grind =] lemma setR_right : (t.setR n p i).right = if i = n then p else (t i).right := by
  unfold setR modify; split <;> rfl

@[simp, grind =] lemma setR_color : (t.setR n p i).color = (t i).color := by
  unfold setR modify; split <;> rfl

@[simp, grind =] lemma setBlk_parent : (t.setBlk n i).parent = (t i).parent := by
  unfold setBlk modify; split <;> rfl

@[simp, grind =] lemma setBlk_left : (t.setBlk n i).left = (t i).left := by
  unfold setBlk modify; split <;> rfl

@[simp, grind =] lemma setBlk_right : (t.setBlk n i).right = (t i).right := by
  unfold setBlk modify; split <;> rfl

@[simp, grind =] lemma setRed_parent : (t.setRed n i).parent = (t i).parent := by
  unfold setRed modify; split <;> rfl

@[simp, grind =] lemma setRed_left : (t.setRed n i).left = (t i).left := by
  unfold setRed modify; split <;> rfl

@[simp, grind =] lemma setRed_right : (t.setRed n i).right = (t i).right := by
  unfold setRed modify; split <;> rfl

@[simp, grind =] lemma setColor_parent : (t.setColor n c i).parent = (t i).parent := by
  unfold setColor modify; split <;> rfl

@[simp, grind =] lemma setColor_left : (t.setColor n c i).left = (t i).left := by
  unfold setColor modify; split <;> rfl

@[simp, grind =] lemma setColor_right : (t.setColor n c i).right = (t i).right := by
  unfold setColor modify; split <;> rfl

@[simp, grind =] lemma setColor_color :
    (t.setColor n c i).color = if i = n then c else (t i).color := by
  unfold setColor modify; split <;> rfl

@[simp, grind =] lemma setP_isBlack : (t.setP n p).isBlack i = t.isBlack i := by simp [isBlack]

@[simp, grind =] lemma setL_isBlack : (t.setL n p).isBlack i = t.isBlack i := by simp [isBlack]

@[simp, grind =] lemma setR_isBlack : (t.setR n p).isBlack i = t.isBlack i := by simp [isBlack]

/-- Clearing the colour bit paints a node black. -/
@[simp, grind =] lemma setBlk_isBlack :
    (t.setBlk n).isBlack i = if i = n then true else t.isBlack i := by
  unfold isBlack setBlk modify
  split
  · have h : (t i).color &&& ~~~1#32 &&& 1#32 = 0#32 := by
      rw [BitVec.and_assoc]; simp
    simp only [h, beq_self_eq_true]
  · rfl

/-- Setting the colour bit paints a node red. -/
@[simp, grind =] lemma setRed_isBlack :
    (t.setRed n).isBlack i = if i = n then false else t.isBlack i := by
  unfold isBlack setRed modify
  split
  · have h : ((t i).color ||| 1#32) &&& 1#32 = 1#32 := by
      ext j hj
      simp only [BitVec.getElem_and, BitVec.getElem_or]
      cases (1#32)[j] <;> simp
    simp only [h]
    decide
  · rfl

end Accessors

/-! ## Subtrees -/

/-- The memory holds the tree `s`, with `p` as the parent of its root. -/
def Links (t : RbTree ι) : RbIdx ι → ColorTree ι → Prop
  | _, .nil => True
  | p, .node c l x r =>
    ((t (some x)).parent = p ∧ (t (some x)).left = l.root ∧ (t (some x)).right = r.root ∧
      t.isBlack (some x) = c.isBlack) ∧ Links t (some x) l ∧ Links t (some x) r

omit [DecidableEq ι] in
@[simp] lemma links_nil (p : RbIdx ι) : Links t p .nil := trivial

omit [DecidableEq ι] in
@[simp] lemma links_node (p : RbIdx ι) (c : Color) (l : ColorTree ι) (x : ι) (r : ColorTree ι) :
    Links t p (.node c l x r) ↔
      ((t (some x)).parent = p ∧ (t (some x)).left = l.root ∧ (t (some x)).right = r.root ∧
        t.isBlack (some x) = c.isBlack) ∧ Links t (some x) l ∧ Links t (some x) r := Iff.rfl

omit [DecidableEq ι] in
/-- The root of a subtree points back to its parent. -/
lemma Links.parent_root {p : RbIdx ι} {s : ColorTree ι} {x : ι} (h : Links t p s)
    (hx : s.root = some x) : (t (some x)).parent = p := by
  cases s with
  | nil => simp at hx
  | node c l y r => cases hx; exact h.1.1

omit [DecidableEq ι] in
/-- The colour bit at the root of a balanced subtree, the sentinel counting as black. -/
lemma Links.isBlack_root {p : RbIdx ι} {s : ColorTree ι} {c : Color} {n : ℕ} (h : Links t p s)
    (hs : s.Balanced c n) (hnull : t.isBlack none = true) : t.isBlack s.root = c.isBlack := by
  cases hs with
  | nil => exact hnull
  | red _ _ => exact h.1.2.2.2
  | black _ _ => exact h.1.2.2.2

/-- The links of one node are the same in two memories. -/
def SameNode (t t' : RbTree ι) (x : ι) : Prop :=
  (t' (some x)).left = (t (some x)).left ∧ (t' (some x)).right = (t (some x)).right ∧
    t'.isBlack (some x) = t.isBlack (some x)

/-- A subtree may be moved below another parent: only the parent link of its root changes. -/
lemma Links.move {p q : RbIdx ι} {s : ColorTree ι} (h : Links t p s) (hnd : s.toList.Nodup)
    (hsame : ∀ x ∈ s.toList, SameNode t t' x ∧
      (t' (some x)).parent = if some x = s.root then q else (t (some x)).parent) :
    Links t' q s := by
  induction s generalizing p q with
  | nil => trivial
  | node c l x r ihl ihr =>
    obtain ⟨⟨hp, hleft, hright, hc⟩, hl, hr⟩ := h
    obtain ⟨hndl, hndr, hdisj⟩ := List.nodup_append.mp hnd
    obtain ⟨hxr, hndr⟩ := List.nodup_cons.mp hndr
    have hxl : x ∉ l.toList := fun hx => hdisj x hx x (by simp) rfl
    obtain ⟨⟨h1, h2, h3⟩, h4⟩ := hsame x (by simp)
    refine ⟨⟨by simpa using h4, h1.trans hleft, h2.trans hright, h3.trans hc⟩, ?_, ?_⟩
    · refine ihl hl hndl fun y hy => ⟨(hsame y (by simp [hy])).1, ?_⟩
      rw [(hsame y (by simp [hy])).2, if_neg (by rintro ⟨⟩; exact hxl hy)]
      split
      · rename_i hroot
        exact hl.parent_root hroot.symm
      · rfl
    · refine ihr hr hndr fun y hy => ⟨(hsame y (by simp [hy])).1, ?_⟩
      rw [(hsame y (by simp [hy])).2, if_neg (by rintro ⟨⟩; exact hxr hy)]
      split
      · rename_i hroot
        exact hr.parent_root hroot.symm
      · rfl

omit [DecidableEq ι] in
/-- The links of a subtree depend on its own nodes only. -/
lemma Links.congr {p : RbIdx ι} {s : ColorTree ι} (h : Links t p s)
    (hsame : ∀ x ∈ s.toList,
      SameNode t t' x ∧ (t' (some x)).parent = (t (some x)).parent) : Links t' p s := by
  induction s generalizing p with
  | nil => trivial
  | node c l x r ihl ihr =>
    obtain ⟨⟨hp, hleft, hright, hc⟩, hl, hr⟩ := h
    obtain ⟨⟨h1, h2, h3⟩, h4⟩ := hsame x (by simp)
    exact ⟨⟨h4.trans hp, h1.trans hleft, h2.trans hright, h3.trans hc⟩,
      ihl hl fun y hy => hsame y (by simp [hy]), ihr hr fun y hy => hsame y (by simp [hy])⟩

/-! ## Contexts -/

/-- The memory holds the context `P`, and `ch` is the child link that leads into its hole. -/
def PathLinks (t : RbTree ι) : RbIdx ι → TreePath ι → Prop
  | ch, .top => (t none).left = ch
  | ch, .left c x r up =>
    ((t (some x)).parent = up.parent ∧ (t (some x)).left = ch ∧ (t (some x)).right = r.root ∧
      t.isBlack (some x) = c.isBlack) ∧ Links t (some x) r ∧ PathLinks t (some x) up
  | ch, .right c l x up =>
    ((t (some x)).parent = up.parent ∧ (t (some x)).left = l.root ∧ (t (some x)).right = ch ∧
      t.isBlack (some x) = c.isBlack) ∧ Links t (some x) l ∧ PathLinks t (some x) up

omit [DecidableEq ι] in
/-- A tree cut open at a place is a subtree in a context. -/
lemma links_fill_iff (P : TreePath ι) (s : ColorTree ι) :
    (Links t none (P.fill s) ∧ t.rbRoot = (P.fill s).root) ↔
      (Links t P.parent s ∧ PathLinks t s.root P) := by
  induction P generalizing s with
  | top => rfl
  | left c x r up ih =>
    rw [TreePath.fill_left, ih]
    simp only [links_node, PathLinks, ColorTree.root_node, TreePath.parent_left]
    tauto
  | right c l x up ih =>
    rw [TreePath.fill_right, ih]
    simp only [links_node, PathLinks, ColorTree.root_node, TreePath.parent_right]
    tauto

omit [DecidableEq ι] in
/-- The links of a context depend on its own nodes and on the root link only. -/
lemma PathLinks.congr {ch : RbIdx ι} {P : TreePath ι} (h : PathLinks t ch P)
    (hroot : t'.rbRoot = t.rbRoot)
    (hsame : ∀ x ∈ P.before ++ P.after,
      SameNode t t' x ∧ (t' (some x)).parent = (t (some x)).parent) : PathLinks t' ch P := by
  induction P generalizing ch with
  | top => exact hroot.trans h
  | left c x r up ih =>
    obtain ⟨⟨hp, hleft, hright, hc⟩, hr, hup⟩ := h
    obtain ⟨⟨h1, h2, h3⟩, h4⟩ := hsame x (by simp)
    exact ⟨⟨h4.trans hp, h1.trans hleft, h2.trans hright, h3.trans hc⟩,
      hr.congr fun y hy => hsame y (by simp [hy]),
      ih hup fun y hy => hsame y (by simp only [List.mem_append, TreePath.before_left,
        TreePath.after_left, List.mem_cons] at hy ⊢; tauto)⟩
  | right c l x up ih =>
    obtain ⟨⟨hp, hleft, hright, hc⟩, hl, hup⟩ := h
    obtain ⟨⟨h1, h2, h3⟩, h4⟩ := hsame x (by simp)
    exact ⟨⟨h4.trans hp, h1.trans hleft, h2.trans hright, h3.trans hc⟩,
      hl.congr fun y hy => hsame y (by simp [hy]),
      ih hup fun y hy => hsame y (by simp only [List.mem_append, TreePath.before_right,
        TreePath.after_right] at hy ⊢; tauto)⟩

/-- `replaceChild` writes one child link of the parent, or the root link. -/
lemma sameNode_replaceChild {g o n : RbIdx ι} {x : ι} (hx : g ≠ some x) :
    SameNode t (t.replaceChild g o n) x ∧
      (t.replaceChild g o n (some x)).parent = (t (some x)).parent := by
  have hx' : some x ≠ g := fun h => hx h.symm
  unfold replaceChild SameNode setRoot
  split_ifs <;> simp [hx']

/-- `replaceChild` redirects the link that leads into the hole of a context. -/
lemma PathLinks.replaceChild {o : ι} {n : RbIdx ι} {P : TreePath ι} (h : PathLinks t (some o) P)
    (hnd : (P.before ++ P.after).Nodup) (ho : o ∉ P.before ++ P.after) :
    PathLinks (t.replaceChild P.parent (some o) n) n P := by
  cases P with
  | top => simp [PathLinks, RbTree.replaceChild, setRoot]
  | left c x r up =>
    obtain ⟨⟨hp, hleft, hright, hc⟩, hr, hup⟩ := h
    have hne : ∀ y ∈ r.toList ++ (up.before ++ up.after), some x ≠ some y := by
      rintro y hy ⟨⟩
      simp only [TreePath.before_left, TreePath.after_left, List.nodup_append, List.nodup_cons,
        List.mem_append, List.mem_cons] at hnd hy
      grind
    have hwrite : t.replaceChild (TreePath.left c x r up).parent (some o) n =
        t.setL (some x) n := by simp [RbTree.replaceChild, hleft]
    refine ⟨by rw [hwrite]; simp [hp, hright, hc], ?_, ?_⟩
    · exact hr.congr fun y hy => sameNode_replaceChild (hne y (by simp [hy]))
    · refine hup.congr (by rw [hwrite]; simp [rbRoot]) fun y hy => ?_
      exact sameNode_replaceChild (hne y (by simp only [List.mem_append] at hy ⊢; tauto))
  | right c l x up =>
    obtain ⟨⟨hp, hleft, hright, hc⟩, hl, hup⟩ := h
    have hne : ∀ y ∈ l.toList ++ (up.before ++ up.after), some x ≠ some y := by
      rintro y hy ⟨⟩
      simp only [TreePath.before_right, TreePath.after_right, List.nodup_append, List.nodup_cons,
        List.mem_append, List.mem_cons] at hnd hy
      grind
    have hol : some o ≠ l.root := fun h =>
      ho (by simp [ColorTree.mem_toList_of_root h.symm])
    have hwrite : t.replaceChild (TreePath.right c l x up).parent (some o) n =
        t.setR (some x) n := by simp [RbTree.replaceChild, hleft, hol]
    refine ⟨by rw [hwrite]; simp [hp, hleft, hc], ?_, ?_⟩
    · exact hl.congr fun y hy => sameNode_replaceChild (hne y (by simp [hy]))
    · refine hup.congr (by rw [hwrite]; simp [rbRoot]) fun y hy => ?_
      exact sameNode_replaceChild (hne y (by simp only [List.mem_append] at hy ⊢; tauto))

/-! ## Whole trees -/

/-- The memory holds the tree `T` below the sentinel. -/
structure Represents (t : RbTree ι) (T : ColorTree ι) : Prop where
  links : Links t none T
  root : t.rbRoot = T.root
  nodup : T.toList.Nodup
  null : t.isBlack none = true

/-- A well-formed red-black tree: linked, duplicate-free and balanced with a black root. -/
structure WellFormed (t : RbTree ι) (T : ColorTree ι) : Prop extends Represents t T where
  balanced : ∃ n, T.Balanced .black n

omit [DecidableEq ι] in
/-- A represented tree can be cut open at any place. -/
lemma Represents.cut {P : TreePath ι} {s : ColorTree ι} (h : Represents t (P.fill s)) :
    Links t P.parent s ∧ PathLinks t s.root P :=
  (links_fill_iff P s).mp ⟨h.links, h.root⟩

omit [DecidableEq ι] in
/-- A subtree and a context that fit together are a represented tree. -/
lemma Represents.glue {P : TreePath ι} {s : ColorTree ι} (hs : Links t P.parent s)
    (hP : PathLinks t s.root P) (hnd : (P.fill s).toList.Nodup) (hnull : t.isBlack none = true) :
    Represents t (P.fill s) := by
  obtain ⟨h1, h2⟩ := (links_fill_iff P s).mpr ⟨hs, hP⟩
  exact ⟨h1, h2, hnd, hnull⟩

/-! ## What an operation leaves alone -/

/-- `t'` differs from `t` in links and colour bits of the nodes `xs` only: all other nodes, the
client's 31 bits of every colour word, the sentinel's colour word and the cached node are kept. -/
structure Frame (xs : List ι) (t t' : RbTree ι) : Prop where
  outside : ∀ x, x ∉ xs → t' (some x) = t (some x)
  data : ∀ i, t'.nodeData i = t.nodeData i
  cache : t'.rbCache = t.rbCache
  null : (t' none).color = (t none).color

namespace Frame

variable {xs : List ι}

omit [DecidableEq ι] in
lemma refl {l : List ι} (t : RbTree ι) : Frame l t t := ⟨fun _ _ => rfl, fun _ => rfl, rfl, rfl⟩

omit [DecidableEq ι] in
lemma trans {t'' : RbTree ι} (h : Frame xs t t') (h' : Frame xs t' t'') : Frame xs t t'' :=
  ⟨fun x hx => (h'.outside x hx).trans (h.outside x hx), fun i => (h'.data i).trans (h.data i),
    h'.cache.trans h.cache, h'.null.trans h.null⟩

omit [DecidableEq ι] in
lemma mono {l : List ι} (h : Frame xs t t') (hsub : ∀ x ∈ xs, x ∈ l) : Frame l t t' :=
  ⟨fun x hx => h.outside x fun hx' => hx (hsub x hx'), h.data, h.cache, h.null⟩

omit [DecidableEq ι] in
lemma fill {s : ColorTree ι} (h : Frame s.toList t t') (P : TreePath ι) :
    Frame (P.fill s).toList t t' := h.mono fun x hx => by simp [hx]

omit [DecidableEq ι] in
lemma isBlack_none (h : Frame xs t t') : t'.isBlack none = t.isBlack none := by
  rw [isBlack, isBlack, h.null]

/-- Writing the parent link of a node of `xs`, or of the sentinel. -/
lemma setP {n p : RbIdx ι} (h : Frame xs t t') (hn : ∀ x, n = some x → x ∈ xs) :
    Frame xs t (t'.setP n p) := by
  refine h.trans ⟨fun x hx => ?_, fun i => ?_, ?_, ?_⟩
  · rw [RbTree.setP, modify, if_neg (by rintro rfl; exact hx (hn x rfl))]
  · simp [nodeData]
  · simp [rbCache]
  · simp

/-- Writing the left link of a node of `xs`, or of the sentinel. -/
lemma setL {n p : RbIdx ι} (h : Frame xs t t') (hn : ∀ x, n = some x → x ∈ xs) :
    Frame xs t (t'.setL n p) := by
  refine h.trans ⟨fun x hx => ?_, fun i => ?_, ?_, ?_⟩
  · rw [RbTree.setL, modify, if_neg (by rintro rfl; exact hx (hn x rfl))]
  · simp [nodeData]
  · simp [rbCache]
  · simp

/-- Writing the right link of a node of `xs`. -/
lemma setR {n : ι} {p : RbIdx ι} (h : Frame xs t t') (hn : n ∈ xs) :
    Frame xs t (t'.setR (some n) p) := by
  refine h.trans ⟨fun x hx => ?_, fun i => ?_, ?_, ?_⟩
  · rw [RbTree.setR, modify, if_neg (by rintro ⟨⟩; exact hx hn)]
  · simp [nodeData]
  · simp [rbCache]
  · simp

/-- Painting a node of `xs` black. -/
lemma setBlk {n : ι} (h : Frame xs t t') (hn : n ∈ xs) : Frame xs t (t'.setBlk (some n)) := by
  refine h.trans ⟨fun x hx => ?_, fun i => ?_, ?_, ?_⟩
  · rw [RbTree.setBlk, modify, if_neg (by rintro ⟨⟩; exact hx hn)]
  · unfold nodeData RbTree.setBlk modify
    split
    · ext j hj
      simp only [BitVec.getElem_ushiftRight, BitVec.getLsbD_and, BitVec.getLsbD_not]
      have : (1#32).getLsbD (1 + j) = false := by simp [BitVec.getLsbD_one]
      rw [this]
      by_cases hlt : 1 + j < 32
      · simp [hlt]
      · simp [hlt, BitVec.getLsbD_of_ge (t' i).color (1 + j) (by omega)]
    · rfl
  · simp [rbCache]
  · simp [RbTree.setBlk, modify]

/-- Painting a node of `xs` red. -/
lemma setRed {n : ι} (h : Frame xs t t') (hn : n ∈ xs) : Frame xs t (t'.setRed (some n)) := by
  refine h.trans ⟨fun x hx => ?_, fun i => ?_, ?_, ?_⟩
  · rw [RbTree.setRed, modify, if_neg (by rintro ⟨⟩; exact hx hn)]
  · unfold nodeData RbTree.setRed modify
    split
    · ext j hj
      simp only [BitVec.getElem_ushiftRight, BitVec.getLsbD_or]
      have : (1#32).getLsbD (1 + j) = false := by simp [BitVec.getLsbD_one]
      simp [this]
    · rfl
  · simp [rbCache]
  · simp [RbTree.setRed, modify]

/-- Redirecting a child link of a node of `xs`, or the root link. -/
lemma replaceChild {g o n : RbIdx ι} (h : Frame xs t t') (hg : ∀ x, g = some x → x ∈ xs) :
    Frame xs t (t'.replaceChild g o n) := by
  unfold RbTree.replaceChild RbTree.setRoot
  split
  · exact h.setL (by simp)
  · rename_i hne
    obtain ⟨g, rfl⟩ := Option.ne_none_iff_exists'.mp hne
    split
    · exact h.setL hg
    · exact h.setR (hg g rfl)

end Frame

/-! ## Local surgery -/

omit [DecidableEq ι] in
/-- The labels of a subtree of a represented tree are distinct. -/
lemma Represents.nodup_sub {P : TreePath ι} {s : ColorTree ι} (h : Represents t (P.fill s)) :
    s.toList.Nodup := by
  have hnd := h.nodup
  rw [TreePath.toList_fill, List.nodup_append, List.nodup_append] at hnd
  exact hnd.1.2.1

omit [DecidableEq ι] in
/-- The context of a subtree does not notice what happens inside the subtree. -/
lemma PathLinks.of_frame {P : TreePath ι} {s : ColorTree ι} {ch : RbIdx ι}
    (h : PathLinks t ch P) (hnd : (P.fill s).toList.Nodup) (hf : Frame s.toList t t')
    (hroot : t'.rbRoot = t.rbRoot) : PathLinks t' ch P := by
  refine h.congr hroot fun x hx => ?_
  have hxs : x ∉ s.toList := by
    simp only [TreePath.toList_fill, List.nodup_append, List.mem_append] at hnd hx
    grind
  simp [SameNode, isBlack, hf.outside x hxs]

omit [DecidableEq ι] in
/-- Changing links and colours inside a subtree, with the same root. -/
lemma Represents.rewire {P : TreePath ι} {s s' : ColorTree ι} (h : Represents t (P.fill s))
    (hs' : Links t' P.parent s') (hlist : s'.toList = s.toList) (hroots : s'.root = s.root)
    (hf : Frame s.toList t t') (hroot : t'.rbRoot = t.rbRoot) : Represents t' (P.fill s') := by
  have hnd := h.nodup
  refine .glue hs' ?_ (by simpa [hlist] using hnd) (hf.isBlack_none.trans h.null)
  rw [hroots]
  exact h.cut.2.of_frame hnd hf hroot

/-- Rebuilding a subtree from the nodes `xs` and then redirecting the link from above to its new
root. -/
lemma Represents.rebuild {P : TreePath ι} {s : ColorTree ι} {o : ι} {xs : List ι}
    (h : Represents t (P.fill s)) (s' : ColorTree ι) (ho : s.root = some o)
    (hs' : Links t' P.parent s')
    (hnd' : (P.fill s').toList.Nodup) (hf : Frame xs t t')
    (hxs : ∀ x ∈ xs, x ∉ P.before ++ P.after) (hroot : t'.rbRoot = t.rbRoot) :
    Represents (t'.replaceChild P.parent (some o) s'.root) (P.fill s') := by
  have hnd := h.nodup
  have hos := ColorTree.mem_toList_of_root ho
  have hpath : PathLinks t' (some o) P := by
    refine ho ▸ h.cut.2.congr hroot fun x hx => ?_
    simp [SameNode, isBlack, hf.outside x fun hx' => hxs x hx' hx]
  simp only [TreePath.toList_fill, List.nodup_append, List.mem_append] at hnd hnd'
  have hndP : (P.before ++ P.after).Nodup := by
    simp only [List.nodup_append]
    grind
  have hoP : o ∉ P.before ++ P.after := by
    simp only [List.mem_append]
    grind
  have hf' := hf.mono (l := P.before ++ P.after ++ xs) fun x hx => by simp [hx]
  refine .glue ?_ (hpath.replaceChild hndP hoP) ?_
    ((hf'.replaceChild fun x hx => ?_).isBlack_none.trans h.null)
  · refine hs'.congr fun x hx => sameNode_replaceChild fun hpx => ?_
    have := TreePath.mem_of_parent hpx
    simp only [List.mem_append] at this
    grind
  · simp only [TreePath.toList_fill, List.nodup_append, List.mem_append]
    exact hnd'
  · have := TreePath.mem_of_parent hx
    simp only [List.mem_append] at this ⊢
    tauto

/-- Rotating a subtree and then redirecting the link from above to its new root. -/
lemma Represents.rotate {P : TreePath ι} {s s' : ColorTree ι} {o : ι}
    (h : Represents t (P.fill s)) (ho : s.root = some o) (hs' : Links t' P.parent s')
    (hlist : s'.toList = s.toList) (hf : Frame s.toList t t') (hroot : t'.rbRoot = t.rbRoot) :
    Represents (t'.replaceChild P.parent (some o) s'.root) (P.fill s') ∧
      Frame (P.fill s).toList t (t'.replaceChild P.parent (some o) s'.root) := by
  have hnd := h.nodup
  refine ⟨h.rebuild s' ho hs' (by simpa [hlist] using hnd) hf (fun x hx hxP => ?_) hroot,
    (hf.fill P).replaceChild fun x hx => ?_⟩
  · simp only [TreePath.toList_fill, List.nodup_append, List.mem_append] at hnd hxP
    grind
  · have := TreePath.mem_of_parent hx
    simp only [TreePath.toList_fill, List.mem_append] at this ⊢
    tauto

end RbTree

end Hikey
