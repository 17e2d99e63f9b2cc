import Hikey.RbTree.Delete

/-!
# `rb_replace` and `rb_delete`

`rb_delete` is read as two steps.  The in-order neighbour `m` of the removed node `n` has at most
one child; it is cut out and takes the place of `n` (`deleteReplace_spec`).  What is left is a hole
with a subtree that may be one black node short, and the loop of the previous module repairs it
(`Represents.repairHole`).
-/

namespace Hikey

universe u

namespace RbTree

variable {ι : Type u} [DecidableEq ι] {t t' : RbTree ι}

/-! ## Writes that commute -/

lemma setP_setR (t : RbTree ι) (a b c d : RbIdx ι) :
    (t.setR a b).setP c d = (t.setP c d).setR a b := by
  funext i
  unfold setP setR modify
  split_ifs <;> rfl

lemma setP_setL (t : RbTree ι) (a b c d : RbIdx ι) :
    (t.setL a b).setP c d = (t.setP c d).setL a b := by
  funext i
  unfold setP setL modify
  split_ifs <;> rfl

/-- Parent links may be written before or after a child link is redirected. -/
lemma setP_replaceChild (t : RbTree ι) (g o n a b : RbIdx ι) :
    (t.replaceChild g o n).setP a b = (t.setP a b).replaceChild g o n := by
  unfold replaceChild setRoot
  split_ifs with h1 h2 h3 h3 <;> first
    | exact setP_setL t _ _ _ _
    | exact setP_setR t _ _ _ _
    | simp_all

lemma setP_setBlk (t : RbTree ι) (a b c : RbIdx ι) :
    (t.setBlk c).setP a b = (t.setP a b).setBlk c := by
  funext i
  unfold setP setBlk modify
  split_ifs <;> rfl

lemma setP_setRed (t : RbTree ι) (a b c : RbIdx ι) :
    (t.setRed c).setP a b = (t.setP a b).setRed c := by
  funext i
  unfold setP setRed modify
  split_ifs <;> rfl

/-! ## Taking the place of a node -/

/-- The writes by which `m` takes over the links and the colour of a node. -/
def takePlace (t : RbTree ι) (m p l r : RbIdx ι) (black : Bool) : RbTree ι :=
  let t := ((((t.setP m p).setL m l).setR m r).setP l m).setP r m
  if black then t.setBlk m else t.setRed m

section TakePlace

variable (t : RbTree ι) (m p l r i : RbIdx ι) (b : Bool)

@[simp, grind =] lemma takePlace_parent : (t.takePlace m p l r b i).parent =
    if i = r then m else if i = l then m else if i = m then p else (t i).parent := by
  cases b <;> simp [takePlace]

@[simp, grind =] lemma takePlace_left :
    (t.takePlace m p l r b i).left = if i = m then l else (t i).left := by
  cases b <;> simp [takePlace]

@[simp, grind =] lemma takePlace_right :
    (t.takePlace m p l r b i).right = if i = m then r else (t i).right := by
  cases b <;> simp [takePlace]

@[simp, grind =] lemma takePlace_isBlack :
    (t.takePlace m p l r b).isBlack i = if i = m then b else t.isBlack i := by
  cases b <;> simp [takePlace]

end TakePlace

/-- `rb_replace` is a takeover followed by the redirection of the link from above. -/
lemma rbReplace_eq (t : RbTree ι) (n m : RbIdx ι) :
    t.rbReplace n m = (t.takePlace m (t n).parent (t n).left (t n).right (t.isBlack n)).replaceChild
      (t n).parent n m := by
  unfold rbReplace takePlace
  cases t.isBlack n <;>
    simp [setP_replaceChild, setP_setBlk, setP_setRed]

section Replace

variable {P Q : TreePath ι} {c cm : Color} {l r ml : ColorTree ι} {n m : ι}

/-- A fresh node `m` with the links and the colour of `n` takes the place of `n`. -/
lemma Represents.substitute (h : Represents t (P.fill (.node c l n r)))
    (hm : m ∉ (P.fill (.node c l n r)).toList)
    (hf : Frame (m :: (l.toList ++ r.toList)) t t') (hroot : t'.rbRoot = t.rbRoot)
    (hnode : (t' (some m)).parent = P.parent ∧ (t' (some m)).left = l.root ∧
      (t' (some m)).right = r.root ∧ t'.isBlack (some m) = c.isBlack)
    (hl : ∀ x ∈ l.toList, SameNode t t' x ∧
      (t' (some x)).parent = if some x = l.root then some m else (t (some x)).parent)
    (hr : ∀ x ∈ r.toList, SameNode t t' x ∧
      (t' (some x)).parent = if some x = r.root then some m else (t (some x)).parent) :
    Represents (t'.replaceChild P.parent (some n) (some m)) (P.fill (.node c l m r)) := by
  obtain ⟨_, hll, hlr⟩ := h.cut.1
  have hnd := h.nodup
  simp only [TreePath.toList_fill, ColorTree.toList_node, List.nodup_append, List.nodup_cons,
    List.mem_append, List.mem_cons] at hnd hm
  refine h.rebuild (.node c l m r) rfl ⟨hnode, hll.move (by tauto) hl, hlr.move (by tauto) hr⟩
    ?_ hf (fun x hx hxP => ?_) hroot
  · simp only [TreePath.toList_fill, ColorTree.toList_node, List.nodup_append, List.nodup_cons,
      List.mem_append, List.mem_cons]
    grind
  · simp only [List.mem_cons, List.mem_append] at hx hxP
    grind

/-- A fresh node `m` takes the place of `n`. -/
lemma Represents.takePlace (h : Represents t (P.fill (.node c l n r)))
    (hm : m ∉ (P.fill (.node c l n r)).toList) :
    Represents ((t.takePlace (some m) P.parent l.root r.root c.isBlack).replaceChild
      P.parent (some n)
        (some m)) (P.fill (.node c l m r)) ∧
      Frame (m :: (l.toList ++ r.toList)) t
        (t.takePlace (some m) P.parent l.root r.root c.isBlack) := by
  have hnd := h.nodup
  have hm' := hm
  simp only [TreePath.toList_fill, ColorTree.toList_node, List.nodup_append, List.nodup_cons,
    List.mem_append, List.mem_cons] at hnd hm'
  let xs := m :: (l.toList ++ r.toList)
  have hmxs : m ∈ xs := by simp [xs]
  have hmxs' : ∀ x, some m = some x → x ∈ xs := by simp [xs]
  have hlxs : ∀ x, l.root = some x → x ∈ xs := by grind
  have hrxs : ∀ x, r.root = some x → x ∈ xs := by grind
  have hf := (((((Frame.refl t).setP (p := P.parent) hmxs').setL (p := l.root) hmxs').setR
    (p := r.root) hmxs).setP (p := some m) hlxs).setP (p := some m) hrxs |>.paint c.isBlack hmxs
  refine ⟨h.substitute hm hf ?_ ?_ (fun x hx => ?_) fun x hx => ?_, hf⟩
  · simp [rbRoot]
  · simp
    grind
  · simp [SameNode]
    grind
  · simp [SameNode]
    grind

/-- `rb_replace` puts a fresh node in the place of a node of the tree. -/
theorem rbReplace_spec (h : Represents t (P.fill (.node c l n r)))
    (hm : m ∉ (P.fill (.node c l n r)).toList) :
    Represents (t.rbReplace (some n) (some m)) (P.fill (.node c l m r)) ∧
      Frame (m :: (P.fill (.node c l n r)).toList) t (t.rbReplace (some n) (some m)) := by
  obtain ⟨⟨hp, hleft, hright, hc⟩, -, -⟩ := h.cut.1
  obtain ⟨hrep, hf⟩ := h.takePlace hm
  rw [rbReplace_eq, hp, hleft, hright, hc]
  refine ⟨hrep, (hf.mono fun x hx => ?_).replaceChild fun x hx => ?_⟩
  · simp only [List.mem_cons, List.mem_append, TreePath.toList_fill, ColorTree.toList_node] at hx ⊢
    tauto
  · have := TreePath.mem_of_parent hx
    simp only [List.mem_append, List.mem_cons, TreePath.toList_fill] at this ⊢
    tauto

/-- `rb_delete` with the predecessor `m` a child of `n`: `m` keeps its left child. -/
lemma deleteReplace_child (h : Represents t (P.fill (.node c (.node cm ml m .nil) n r))) :
    (deleteReplace t (some n) (some m) ml.root).2 = some m ∧
      Represents ((deleteReplace t (some n) (some m) ml.root).1.replaceChild P.parent (some n)
        (some m)) (P.fill (.node c ml m r)) ∧
      Frame (m :: r.toList) t (deleteReplace t (some n) (some m) ml.root).1 := by
  obtain ⟨⟨hp, hleft, hright, hc⟩, ⟨⟨hmp, hml, hmr, hmc⟩, hlml, -⟩, hlr⟩ := h.cut.1
  have hnd := h.nodup
  simp only [TreePath.toList_fill, ColorTree.toList_node, List.nodup_append, List.nodup_cons,
    List.mem_append, List.mem_cons, ColorTree.toList_nil, List.nodup_nil] at hnd
  let xs := m :: r.toList
  have hmxs : m ∈ xs := by simp [xs]
  have hmxs' : ∀ x, some m = some x → x ∈ xs := by simp [xs]
  have hrxs : ∀ x, r.root = some x → x ∈ xs := by grind
  have hf := ((((Frame.refl t).setP (p := P.parent) hmxs').setR (p := r.root) hmxs).setP
    (p := some m) hrxs).paint c.isBlack hmxs
  have heq : deleteReplace t (some n) (some m) ml.root =
      (if c.isBlack then (((t.setP (some m) P.parent).setR (some m) r.root).setP r.root
          (some m)).setBlk (some m)
        else (((t.setP (some m) P.parent).setR (some m) r.root).setP r.root (some m)).setRed
          (some m), some m) := by
    simp [deleteReplace, hp, hleft, hright, hc, hmp]
  rw [heq]
  refine ⟨rfl, h.rebuild (.node c ml m r) rfl ⟨?_, hlml.congr fun x hx => ?_,
    hlr.move (by tauto) fun x hx => ?_⟩ ?_ hf (fun x hx hxP => ?_) ?_, hf⟩
  · cases c <;> (simp; grind)
  · cases c <;> (simp [SameNode]; grind)
  · cases c <;> (simp [SameNode]; grind)
  · simp only [TreePath.toList_fill, ColorTree.toList_node, List.nodup_append, List.nodup_cons,
      List.mem_append, List.mem_cons]
    grind
  · simp only [xs, List.mem_cons, List.mem_append] at hx hxP
    grind
  · cases c <;> simp [rbRoot]

/-- Cutting the predecessor `m` of `n` out of the left subtree, when it is not a child of `n`. -/
lemma Represents.cutOut {cq : Color} {lq : ColorTree ι} {q : ι} {up : TreePath ι}
    (hQ : Q = .right cq lq q up)
    (h : Represents t (P.fill (.node c (Q.fill (.node cm ml m .nil)) n r))) :
    (t (some m)).parent = some q ∧ (t (some m)).left = ml.root ∧
      Represents ((t.setR (some q) ml.root).setP ml.root (some q))
        (P.fill (.node c (Q.fill ml) n r)) := by
  have h' : Represents t ((Q.append (.left c n r P)).fill (.node cm ml m .nil)) := by simpa using h
  have hnd := h'.nodup
  obtain ⟨⟨⟨hmp, hml, hmr, hmc⟩, hlml, -⟩, hpath⟩ := h'.cut
  set P' := Q.append (.left c n r P) with hP'
  have hparent : P'.parent = some q := by simp [hP', hQ, TreePath.append]
  simp only [TreePath.toList_fill, ColorTree.toList_node, List.nodup_append, List.nodup_cons,
    List.mem_append, List.mem_cons, ColorTree.toList_nil, List.nodup_nil] at hnd
  have hne : (t (some q)).left ≠ some m := by
    have hql : (t (some q)).left = lq.root := by
      rw [hP', hQ] at hpath
      exact hpath.1.2.1
    rw [hql]
    intro hm
    have : m ∈ P'.before := by simp [hP', hQ, TreePath.append, ColorTree.mem_toList_of_root hm]
    grind
  have hf : Frame ml.toList t (t.setP ml.root (some q)) := (Frame.refl t).setP (by grind)
  have hrep := h'.rebuild ml rfl
    (hlml.move (by tauto) fun x hx => by simp [SameNode, hparent])
    (by simp only [TreePath.toList_fill, List.nodup_append, List.mem_append]; grind)
    hf (fun x hx hxP => by simp only [List.mem_append] at hxP; grind)
    (by simp [rbRoot])
  have hwrite : (t.setP ml.root (some q)).replaceChild P'.parent (some m) ml.root =
      (t.setR (some q) ml.root).setP ml.root (some q) := by
    rw [setP_setR]
    simp [RbTree.replaceChild, hparent, hne.symm]
  rw [hwrite, hP', TreePath.fill_append, TreePath.fill_left] at hrep
  exact ⟨hmp.trans hparent, hml, hrep⟩

/-- `rb_delete` takes the in-order predecessor `m` of `n` out of the left subtree and puts it in the
place of `n`. -/
lemma deleteReplace_spec
    (h : Represents t (P.fill (.node c (Q.fill (.node cm ml m .nil)) n r))) (hQ : Q.after = []) :
    Represents ((deleteReplace t (some n) (some m) ml.root).1.replaceChild P.parent
      (some n) (some m))
        (P.fill (.node c (Q.fill ml) m r)) ∧
      (deleteReplace t (some n) (some m) ml.root).2 = (Q.append (.left c m r P)).parent ∧
      Frame (P.fill (.node c (Q.fill (.node cm ml m .nil)) n r)).toList t
        (deleteReplace t (some n) (some m) ml.root).1 := by
  obtain ⟨⟨hp, hleft, hright, hc⟩, -, -⟩ := h.cut.1
  have hnd := h.nodup
  cases hQc : Q with
  | top =>
    subst hQc
    obtain ⟨hpar, hrep, hf⟩ := deleteReplace_child h
    refine ⟨hrep, hpar, hf.mono fun x hx => ?_⟩
    simp only [List.mem_cons, TreePath.fill_top, TreePath.toList_fill, ColorTree.toList_node,
      List.mem_append] at hx ⊢
    tauto
  | left cq x rq up => simp [hQc] at hQ
  | right cq lq q up =>
    rw [← hQc]
    obtain ⟨hmp, hml, h1⟩ := Represents.cutOut hQc h
    have hroots : (Q.fill ml).root = (Q.fill (.node cm ml m .nil)).root :=
      TreePath.root_fill (by simp [hQc]) _ _
    simp only [TreePath.toList_fill, ColorTree.toList_node, List.nodup_append, List.nodup_cons,
      List.mem_append, List.mem_cons, ColorTree.toList_nil, hQ] at hnd
    have hm : m ∉ (P.fill (.node c (Q.fill ml) n r)).toList := by
      simp only [TreePath.toList_fill, ColorTree.toList_node, List.mem_append, List.mem_cons, hQ]
      grind
    obtain ⟨hrep, hf⟩ := h1.takePlace hm
    have hnq : q ≠ n := by
      have : q ∈ Q.before := by simp [hQc]
      grind
    have heq : deleteReplace t (some n) (some m) ml.root =
        (((t.setR (some q) ml.root).setP ml.root (some q)).takePlace (some m) P.parent
          (Q.fill ml).root r.root c.isBlack, some q) := by
      simp [deleteReplace, takePlace, hp, hleft, hright, hc, hml, hmp, hnq, hroots]
    rw [heq]
    refine ⟨hrep, by simp [hQc, TreePath.append],
      (((Frame.refl t).setR ?_).setP fun x hx => ?_).trans
      (hf.mono fun x hx => ?_)⟩
    · simp [hQc]
    · simp [ColorTree.mem_toList_of_root hx]
    · simp only [List.mem_cons, List.mem_append, TreePath.toList_fill, hQ,
        ColorTree.toList_node] at hx ⊢
      tauto

/-- What is left of `rb_delete` once the in-order neighbour has taken its place: the removed
position was a node of colour `c` whose only child was `s`. -/
lemma Represents.repairHole (fuel : ℕ) {k : ℕ} {d : Color} {s : ColorTree ι}
    (h : Represents t (P.fill s))
    (hs : (ColorTree.node c s m .nil).Balanced d k) (hP : P.Balanced d k) (htop : P ≠ .top)
    (hfuel : P.length ≤ fuel) :
    Repaired (P.fill s).toList t
      (if c.isBlack then
        if s.root = none then rbDeleteRebalance fuel t none P.parent else some (t.setBlk s.root)
      else some t) := by
  cases hs with
  | red hs hnil =>
    obtain @⟨⟩ := hnil
    exact ⟨t, _, rfl, ⟨h, hP.of_red.fill hs⟩, rfl, .refl t⟩
  | black hs hnil =>
    obtain @⟨⟩ := hnil
    cases hs with
    | nil => exact deleteBalances fuel h .nil hP htop hfuel
    | @red a b x _ ha hb =>
      have hf : Frame (ColorTree.node .red a x b).toList t (t.setBlk (some x)) :=
        (Frame.refl t).setBlk (by simp)
      obtain ⟨⟨hp, hl, hr, hc⟩, hla, hlb⟩ := h.cut.1
      have hnd := h.nodup_sub
      simp only [ColorTree.toList_node, List.nodup_append, List.nodup_cons, List.mem_cons] at hnd
      refine ⟨_, P.fill (.node .black a x b), rfl, ⟨h.rewire ⟨?_, ?_, ?_⟩ (by simp) rfl hf
        (by simp [rbRoot]), hP.fill (.black ha hb)⟩, by simp, hf.fill P⟩
      · simp [hp, hl, hr]
      · exact hla.congr fun y hy => by simp [SameNode, show y ≠ x by grind]
      · exact hlb.congr fun y hy => by simp [SameNode, show y ≠ x by grind]

end Replace

/-! ## `rb_delete` -/

omit [DecidableEq ι] in
/-- Following the right links leads to the last node of a subtree; it has no right child. -/
lemma rbRightmost_spec (fuel : ℕ) {p : RbIdx ι} {s : ColorTree ι} (h : Links t p s)
    (hs : s ≠ .nil) (hfuel : s.toList.length ≤ fuel) :
    ∃ (Q : TreePath ι) (c : Color) (l : ColorTree ι) (m : ι), s = Q.fill (.node c l m .nil) ∧
      Q.after = [] ∧ rbRightmost fuel t s.root = some (some m) := by
  induction s generalizing p fuel with
  | nil => exact absurd rfl hs
  | node c l x r ihl ihr =>
    obtain ⟨⟨-, -, hright, -⟩, -, hr⟩ := h
    simp only [ColorTree.toList_node, List.length_append, List.length_cons] at hfuel
    obtain ⟨fuel, rfl⟩ : ∃ f, fuel = f + 1 := ⟨fuel - 1, by omega⟩
    rw [ColorTree.root_node, rbRightmost, hright]
    by_cases hnil : r = .nil
    · subst hnil
      exact ⟨.top, c, l, x, rfl, rfl, by simp⟩
    · obtain ⟨Q, c', l', m, hQr, hQ, hres⟩ := ihr fuel hr hnil (by omega)
      refine ⟨Q.append (.right c l x .top), c', l', m, by simp [hQr], by simp [hQ], ?_⟩
      rw [if_neg fun hroot => hnil (ColorTree.eq_nil_of_root hroot), hres]

omit [DecidableEq ι] in
/-- The removed label splits the in-order list. -/
lemma erase_toList [BEq ι] [LawfulBEq ι] (as bs : List ι) {n : ι} (h : (as ++ n :: bs).Nodup) :
    (as ++ n :: bs).erase n = as ++ bs := by
  have hn : n ∉ as := fun hn => by
    rw [List.nodup_append] at h
    exact h.2.2 n hn n (by simp) rfl
  rw [List.erase_append_right _ hn, List.erase_cons_head]

omit [DecidableEq ι] in
/-- Where the removed label is the first one. -/
lemma eq_nil_of_head {as bs rest : List ι} {n : ι} (h : (as ++ n :: bs).Nodup)
    (heq : as ++ n :: bs = n :: rest) : as = [] ∧ bs = rest := by
  cases as with
  | nil => exact ⟨rfl, (List.cons.inj heq).2⟩
  | cons a as =>
    obtain ⟨rfl, -⟩ := List.cons.inj heq
    simp at h

section Delete

variable {fuel : ℕ} {P : TreePath ι} {c : Color} {l r : ColorTree ι} {n : ι}

/-- A removal: the result is a well-formed tree without `n`; nothing outside the tree is touched,
and when `n` was the first node the returned node is the new first one. -/
def Removed (T : ColorTree ι) (t : RbTree ι) (n : ι) (res : Option (RbTree ι × RbIdx ι)) : Prop :=
  ∃ t' k T', res = some (t', k) ∧ WellFormed t' T' ∧ T'.toList = T.toList.erase n ∧
    Frame T.toList t t' ∧ ∀ rest, T.toList = n :: rest → k = rest.head?

/-- `rb_delete` of a node with a left child. -/
lemma removed_of_left (h : WellFormed t (P.fill (.node c l n r))) (hl : l ≠ .nil)
    (hfuel : (P.fill (.node c l n r)).toList.length ≤ fuel) :
    Removed (P.fill (.node c l n r)) t n (rbDelete fuel t (some n)) := by
  obtain ⟨⟨hp, hleft, -, -⟩, hll, -⟩ := h.toRepresents.cut.1
  obtain ⟨Q, cm, ml, m, rfl, hQ, hm⟩ := rbRightmost_spec fuel hll hl (by
    simp only [TreePath.toList_fill, ColorTree.toList_node, List.length_append,
      List.length_cons] at hfuel ⊢
    omega)
  have hnd := h.nodup
  have h' : Represents t ((Q.append (.left c n r P)).fill (.node cm ml m .nil)) := by
    simpa using h.toRepresents
  obtain ⟨⟨-, hml, -, hmc⟩, -, -⟩ := h'.cut.1
  obtain ⟨hrep, hpar, hf⟩ := deleteReplace_spec h.toRepresents hQ
  have hf' := hf.replaceChild (g := P.parent) (o := some n) (n := some m) fun x hx => by
    have := TreePath.mem_of_parent hx
    simp only [TreePath.toList_fill, List.mem_append] at this ⊢
    tauto
  obtain ⟨k, hb⟩ := h.balanced
  obtain ⟨d, j, hP, hs⟩ := TreePath.Balanced.of_fill (P := Q.append (.left c n r P))
    (t := .node cm ml m .nil) (by simpa using hb)
  have hP' : (Q.append (.left c m r P)).Balanced d j := hP.append fun c' n' hleft => by
    cases hleft with
    | redLeft hr hup => exact .redLeft hr hup
    | blackLeft hr hup => exact .blackLeft hr hup
  have hlist : (P.fill (.node c (Q.fill ml) m r)).toList =
      (P.fill (.node c (Q.fill (.node cm ml m .nil)) n r)).toList.erase n := by
    simp only [TreePath.toList_fill, ColorTree.toList_node, hQ, ColorTree.toList_nil,
      List.append_nil, List.append_assoc, List.cons_append, List.nil_append] at hnd ⊢
    have := erase_toList (P.before ++ (Q.before ++ (ml.toList ++ [m]))) (r.toList ++ P.after)
      (n := n) (by simpa using hnd)
    simp only [List.append_assoc, List.cons_append, List.nil_append] at this
    rw [this]
  have hrepair := Represents.repairHole (P := Q.append (.left c m r P)) fuel
    (by simpa using hrep) hs hP' (fun htop => by cases Q <;> simp [TreePath.append] at htop) (by
      have hle := TreePath.length_le (Q.append (.left c m r P))
      simp only [TreePath.before_append, TreePath.after_append, TreePath.before_left,
        TreePath.after_left, List.length_append, List.length_cons, TreePath.toList_fill,
        ColorTree.toList_node] at hle hfuel
      omega)
  obtain ⟨t', T', hres, hwf, hxs, hf''⟩ := hrepair
  refine ⟨t', some m, T', ?_, hwf, ?_, hf'.trans (hf''.mono fun x hx => ?_), fun rest hrest => ?_⟩
  · have hroot : (Q.fill (.node cm ml m .nil)).root ≠ none := fun hnone =>
      hl (ColorTree.eq_nil_of_root hnone)
    simp only [rbDelete, hleft, hroot, ne_eq, not_false_eq_true, if_true, hm, hml, hp, hmc,
      deleteAdjust, Option.bind_eq_bind, Option.bind_some]
    rw [hpar, hres]
    rfl
  · rw [hxs, ← hlist]
    simp
  · rw [TreePath.fill_append, TreePath.fill_left, hlist] at hx
    exact List.mem_of_mem_erase hx
  · have hsplit : (P.fill (.node c (Q.fill (.node cm ml m .nil)) n r)).toList =
        (P.before ++ (Q.fill (.node cm ml m .nil)).toList) ++ n :: (r.toList ++ P.after) := by simp
    rw [hsplit] at hrest hnd
    have hnil := (eq_nil_of_head hnd hrest).1
    exact absurd (ColorTree.eq_nil_of_toList (List.append_eq_nil_iff.mp hnil).2) hl

/-- `rb_delete` of a node with a right child only, which is a red leaf. -/
lemma removed_of_right (h : WellFormed t (P.fill (.node c .nil n r))) (hr : r ≠ .nil)
    (hfuel : (P.fill (.node c .nil n r)).toList.length ≤ fuel) :
    Removed (P.fill (.node c .nil n r)) t n (rbDelete fuel t (some n)) := by
  obtain ⟨k, hb⟩ := h.balanced
  obtain ⟨d, j, hP, hs⟩ := TreePath.Balanced.of_fill hb
  have hnd := h.nodup
  obtain ⟨m, rfl, rfl, hP⟩ : ∃ m, r = .node .red .nil m .nil ∧ c = .black ∧
    P.Balanced .black 1 := by
    cases hs with
    | red hl hr' =>
      cases hl
      exact absurd hr'.eq_nil hr
    | black hl hr' =>
      cases hl
      cases hr' with
      | nil => exact absurd rfl hr
      | red h1 h2 =>
        cases h1
        cases h2
        exact ⟨_, rfl, rfl, hP⟩
  obtain ⟨⟨hp, hleft, hright, hc⟩, -, ⟨hmp, hml, hmr, hmc⟩, -, -⟩ := h.toRepresents.cut.1
  simp only [ColorTree.root_node, ColorTree.root_nil, Color.isBlack_black, Color.isBlack_red] at *
  obtain ⟨fuel, rfl⟩ : ∃ f, fuel = f + 1 := ⟨fuel - 1, by simp at hfuel; omega⟩
  have hmem : m ∈ (P.fill (.node .black .nil n (.node .red .nil m .nil))).toList := by simp
  have hf : Frame [m] t ((((t.setP (some m) P.parent).setL (some m) none).setP none (some m)).setBlk
      (some m)) :=
    ((((Frame.refl t).setP (by simp)).setL (by simp)).setP (by simp)).setBlk (by simp)
  have hrep := h.toRepresents.rebuild (.node .black .nil m .nil) rfl ⟨by simp [hmr], trivial,
    trivial⟩ (by
      simp only [TreePath.toList_fill, ColorTree.toList_node, ColorTree.toList_nil,
        List.nodup_append, List.nodup_cons, List.mem_append, List.mem_cons] at hnd ⊢
      grind) hf (by
      simp only [TreePath.toList_fill, ColorTree.toList_node, ColorTree.toList_nil,
        List.nodup_append, List.nodup_cons, List.mem_append, List.mem_cons] at hnd ⊢
      grind) (by simp [rbRoot])
  have hf' := (hf.mono (l := (P.fill (.node .black .nil n (.node .red .nil m .nil))).toList)
    (by simp)).replaceChild (g := P.parent) (o := some n) (n := some m) fun x hx => by
      have := TreePath.mem_of_parent hx
      simp only [TreePath.toList_fill, List.mem_append] at this ⊢
      tauto
  refine ⟨_, some m, P.fill (.node .black .nil m .nil), ?_, ⟨hrep, hP.fill (.black .nil .nil)⟩, ?_,
    hf', fun rest hrest => ?_⟩
  · have hnp : n ≠ m := by
      rintro rfl
      simp [List.nodup_append] at hnd
    simp [rbDelete, hleft, hright, rbLeftmost, hml, hmp, hp, hmc, deleteReplace, hc,
      deleteAdjust]
  · simp only [TreePath.toList_fill, ColorTree.toList_node, ColorTree.toList_nil, List.nil_append,
      List.append_assoc, List.cons_append] at hnd ⊢
    rw [erase_toList _ _ hnd]
  · simp only [TreePath.toList_fill, ColorTree.toList_node, ColorTree.toList_nil, List.nil_append,
      List.append_assoc, List.cons_append] at hnd hrest
    rw [← (eq_nil_of_head hnd hrest).2]
    rfl

/-- `rb_delete` of a leaf. -/
lemma removed_of_leaf (h : WellFormed t (P.fill (.node c .nil n .nil)))
    (hfuel : (P.fill (.node c .nil n .nil)).toList.length ≤ fuel) :
    Removed (P.fill (.node c .nil n .nil)) t n (rbDelete fuel t (some n)) := by
  obtain ⟨⟨hp, hleft, hright, hc⟩, -, -⟩ := h.toRepresents.cut.1
  obtain ⟨k, hb⟩ := h.balanced
  obtain ⟨d, j, hP, hs⟩ := TreePath.Balanced.of_fill hb
  have hnd := h.nodup
  have hhead : ∀ rest, (P.fill (.node c .nil n .nil)).toList = n :: rest →
      P.parent = rest.head? := fun rest hrest => by
    simp only [TreePath.toList_fill, ColorTree.toList_node, ColorTree.toList_nil, List.nil_append,
      List.append_assoc, List.cons_append] at hnd hrest
    obtain ⟨hbefore, hafter⟩ := eq_nil_of_head hnd hrest
    rw [← hafter, TreePath.head?_after hbefore]
  have hlist : (P.fill (.node c .nil n .nil)).toList.erase n = (P.fill .nil).toList := by
    simp only [TreePath.toList_fill, ColorTree.toList_node, ColorTree.toList_nil, List.nil_append,
      List.append_assoc, List.cons_append] at hnd ⊢
    exact erase_toList _ _ hnd
  by_cases htop : P = .top
  · subst htop
    refine ⟨t.setRoot none, none, .nil, by simp [rbDelete, hleft, hright, hp],
      ⟨⟨trivial, by simp [rbRoot, setRoot], by simp, ?_⟩, 0, .nil⟩, hlist.symm,
      (Frame.refl t).setL (by simp), hhead⟩
    simpa [setRoot] using h.null
  · have hparent : P.parent ≠ none := fun hnone => htop (TreePath.eq_top_of_parent hnone)
    have hndP : (P.fill .nil).toList.Nodup := hlist ▸ hnd.erase n
    have hrep := h.toRepresents.rebuild .nil rfl trivial hndP (Frame.refl (l := []) t) (by simp)
      rfl
    have hf := (Frame.refl (l := (P.fill (.node c .nil n .nil)).toList) t).replaceChild
      (g := P.parent) (o := some n) (n := none) fun x hx => by
        have := TreePath.mem_of_parent hx
        simp only [TreePath.toList_fill, List.mem_append] at this ⊢
        tauto
    obtain ⟨t', T', hres, hwf, hxs, hf'⟩ := Represents.repairHole (m := n) fuel hrep hs hP
      htop (by
        have hle := TreePath.length_le P
        simp only [TreePath.toList_fill, List.length_append] at hfuel
        omega)
    refine ⟨t', P.parent, T', ?_, hwf, hxs.trans hlist.symm,
      hf.trans (hf'.mono fun x hx => ?_), hhead⟩
    · simp only [rbDelete, hleft, hright, hp, ColorTree.root_nil, ne_eq,
        not_true_eq_false, if_false,
        hparent, deleteAdjust, if_true, hc, Option.bind_eq_bind]
      simp only [ColorTree.root_nil, if_true] at hres
      rw [hres]
      rfl
    · rw [← hlist] at hx
      exact List.mem_of_mem_erase hx

end Delete

/-- `rb_delete` of a node of a well-formed tree. -/
theorem rbDelete_spec {fuel : ℕ} {T : ColorTree ι} {n : ι} (h : WellFormed t T)
    (hn : n ∈ T.toList) (hfuel : T.toList.length ≤ fuel) :
    Removed T t n (rbDelete fuel t (some n)) := by
  obtain ⟨P, c, l, r, rfl⟩ := TreePath.exists_fill hn
  by_cases hl : l = .nil
  · subst hl
    by_cases hr : r = .nil
    · subst hr
      exact removed_of_leaf h hfuel
    · exact removed_of_right h hr hfuel
  · exact removed_of_left h hl hfuel

end RbTree

end Hikey
