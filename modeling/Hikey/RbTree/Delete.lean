import Hikey.RbTree.Insert

/-!
# `rb_delete` and `rb_replace` keep a red-black tree

`__rb_delete_rebalance` is treated like the insertion loop: one lemma per rotation, one lemma for
the tests `test3_l` and `test3_r`, and an induction up the context of the subtree whose black height
is one too small (`deleteBalances`).  `rb_delete` itself is read as two steps: the in-order
neighbour `m` of the removed node is cut out (it has at most one child), and takes the removed
node's place.
-/

namespace Hikey

universe u

namespace RbTree

variable {ι : Type u} [DecidableEq ι] {t t' : RbTree ι}

/-! ## Rotations -/

section Rotations

variable {q : RbIdx ι} {c : Color} {s₀ sl sr a b : ColorTree ι} {p s y : ι}

/-- `case2_l` lifts the red right sibling `s` over `p`. -/
lemma links_deleteCase2l (h : Links t q (.node .black s₀ p (.node .red sl s sr)))
    (hnd : (ColorTree.node .black s₀ p (.node .red sl s sr)).toList.Nodup) :
    Links (deleteCase2l t (some p) (some s) q) q (.node .black (.node .red s₀ p sl) s sr) := by
  simp only [links_node, ColorTree.root_node] at h
  obtain ⟨⟨hpp, hpl, hpr, hpc⟩, hs₀, ⟨hsp, hsl, hsr, hsc⟩, hl, hr⟩ := h
  simp only [ColorTree.toList_node, List.nodup_append, List.nodup_cons, List.mem_append,
    List.mem_cons] at hnd
  refine ⟨?_, ⟨?_, hs₀.congr fun x hx => ?_, hl.move (by grind) fun x hx => ?_⟩,
    hr.congr fun x hx => ?_⟩
  all_goals (simp [SameNode, deleteCase2l]; grind)

/-- `case2_r` lifts the red left sibling `s` over `p`. -/
lemma links_deleteCase2r (h : Links t q (.node .black (.node .red sl s sr) p s₀))
    (hnd : (ColorTree.node .black (.node .red sl s sr) p s₀).toList.Nodup) :
    Links (deleteCase2r t (some p) (some s) q) q (.node .black sl s (.node .red sr p s₀)) := by
  simp only [links_node, ColorTree.root_node] at h
  obtain ⟨⟨hpp, hpl, hpr, hpc⟩, ⟨⟨hsp, hsl, hsr, hsc⟩, hl, hr⟩, hs₀⟩ := h
  simp only [ColorTree.toList_node, List.nodup_append, List.nodup_cons, List.mem_append,
    List.mem_cons] at hnd
  refine ⟨?_, hl.congr fun x hx => ?_, ?_, hr.move (by grind) fun x hx => ?_,
    hs₀.congr fun x hx => ?_⟩
  all_goals (simp [SameNode, deleteCase2r]; grind)

/-- `case5_l` lifts the red inner nephew `y` over `s` and `p`; it inherits the colour of `p`. -/
lemma links_deleteCase5l (h : Links t q (.node c s₀ p (.node .black (.node .red a y b) s sr)))
    (hnd : (ColorTree.node c s₀ p (.node .black (.node .red a y b) s sr)).toList.Nodup) :
    Links (deleteCase5l t (some p) (some s) (some y) q) q
      (.node c (.node .black s₀ p a) y (.node .black b s sr)) := by
  simp only [links_node, ColorTree.root_node] at h
  obtain ⟨⟨hpp, hpl, hpr, hpc⟩, hs₀, ⟨hsp, hsl, hsr, hsc⟩, ⟨⟨hyp, hyl, hyr, hyc⟩, ha, hb⟩, hr⟩ := h
  simp only [ColorTree.toList_node, List.nodup_append, List.nodup_cons, List.mem_append,
    List.mem_cons] at hnd
  refine ⟨?_, ⟨?_, hs₀.congr fun x hx => ?_, ha.move (by grind) fun x hx => ?_⟩, ?_,
    hb.move (by grind) fun x hx => ?_, hr.congr fun x hx => ?_⟩
  all_goals cases c <;> (simp [SameNode, deleteCase5l, hpc]; grind)

/-- `case5_r` lifts the red inner nephew `y` over `s` and `p`. -/
lemma links_deleteCase5r (h : Links t q (.node c (.node .black sl s (.node .red a y b)) p s₀))
    (hnd : (ColorTree.node c (.node .black sl s (.node .red a y b)) p s₀).toList.Nodup) :
    Links (deleteCase5r t (some p) (some s) (some y) q) q
      (.node c (.node .black sl s a) y (.node .black b p s₀)) := by
  simp only [links_node, ColorTree.root_node] at h
  obtain ⟨⟨hpp, hpl, hpr, hpc⟩, ⟨⟨hsp, hsl, hsr, hsc⟩, hl, ⟨hyp, hyl, hyr, hyc⟩, ha, hb⟩, hs₀⟩ := h
  simp only [ColorTree.toList_node, List.nodup_append, List.nodup_cons, List.mem_append,
    List.mem_cons] at hnd
  refine ⟨?_, ⟨?_, hl.congr fun x hx => ?_, ha.move (by grind) fun x hx => ?_⟩, ?_,
    hb.move (by grind) fun x hx => ?_, hs₀.congr fun x hx => ?_⟩
  all_goals cases c <;> (simp [SameNode, deleteCase5r, hpc]; grind)

/-- `case6_l` lifts the right sibling `s` over `p`; its red right child becomes black. -/
lemma links_deleteCase6l (h : Links t q (.node c s₀ p (.node .black sl s (.node .red a y b))))
    (hnd : (ColorTree.node c s₀ p (.node .black sl s (.node .red a y b))).toList.Nodup) :
    Links (deleteCase6l t (some p) (some s) sl.root (some y) q) q
      (.node c (.node .black s₀ p sl) s (.node .black a y b)) := by
  simp only [links_node, ColorTree.root_node] at h
  obtain ⟨⟨hpp, hpl, hpr, hpc⟩, hs₀, ⟨hsp, hsl, hsr, hsc⟩, hl, ⟨hyp, hyl, hyr, hyc⟩, ha, hb⟩ := h
  simp only [ColorTree.toList_node, List.nodup_append, List.nodup_cons, List.mem_append,
    List.mem_cons] at hnd
  refine ⟨?_, ⟨?_, hs₀.congr fun x hx => ?_, hl.move (by grind) fun x hx => ?_⟩, ?_,
    ha.congr fun x hx => ?_, hb.congr fun x hx => ?_⟩
  all_goals cases c <;> (simp [SameNode, deleteCase6l, hpc]; grind)

/-- `case6_r` lifts the left sibling `s` over `p`; its red left child becomes black. -/
lemma links_deleteCase6r (h : Links t q (.node c (.node .black (.node .red a y b) s sr) p s₀))
    (hnd : (ColorTree.node c (.node .black (.node .red a y b) s sr) p s₀).toList.Nodup) :
    Links (deleteCase6r t (some p) (some s) (some y) sr.root q) q
      (.node c (.node .black a y b) s (.node .black sr p s₀)) := by
  simp only [links_node, ColorTree.root_node] at h
  obtain ⟨⟨hpp, hpl, hpr, hpc⟩, ⟨⟨hsp, hsl, hsr, hsc⟩, ⟨⟨hyp, hyl, hyr, hyc⟩, ha, hb⟩, hr⟩, hs₀⟩ :=
    h
  simp only [ColorTree.toList_node, List.nodup_append, List.nodup_cons, List.mem_append,
    List.mem_cons] at hnd
  refine ⟨?_, ⟨?_, ha.congr fun x hx => ?_, hb.congr fun x hx => ?_⟩, ?_,
    hr.move (by grind) fun x hx => ?_, hs₀.congr fun x hx => ?_⟩
  all_goals cases c <;> (simp [SameNode, deleteCase6r, hpc]; grind)

/-- `case3` and `case4` repaint the black sibling, and possibly `p`. -/
lemma links_setRed_right (h : Links t q (.node c s₀ p (.node .black sl s sr)))
    (hnd : (ColorTree.node c s₀ p (.node .black sl s sr)).toList.Nodup) :
    Links (t.setRed (some s)) q (.node c s₀ p (.node .red sl s sr)) ∧
      Links ((t.setRed (some s)).setBlk (some p)) q (.node .black s₀ p (.node .red sl s sr)) := by
  simp only [links_node, ColorTree.root_node] at h
  obtain ⟨⟨hpp, hpl, hpr, hpc⟩, hs₀, ⟨hsp, hsl, hsr, hsc⟩, hl, hr⟩ := h
  simp only [ColorTree.toList_node, List.nodup_append, List.nodup_cons, List.mem_append,
    List.mem_cons] at hnd
  constructor
  · refine ⟨?_, hs₀.congr fun x hx => ?_, ?_, hl.congr fun x hx => ?_, hr.congr fun x hx => ?_⟩
    all_goals (simp [SameNode]; grind)
  · refine ⟨?_, hs₀.congr fun x hx => ?_, ?_, hl.congr fun x hx => ?_, hr.congr fun x hx => ?_⟩
    all_goals (simp [SameNode]; grind)

/-- The mirror image of `links_setRed_right`. -/
lemma links_setRed_left (h : Links t q (.node c (.node .black sl s sr) p s₀))
    (hnd : (ColorTree.node c (.node .black sl s sr) p s₀).toList.Nodup) :
    Links (t.setRed (some s)) q (.node c (.node .red sl s sr) p s₀) ∧
      Links ((t.setRed (some s)).setBlk (some p)) q (.node .black (.node .red sl s sr) p s₀) := by
  simp only [links_node, ColorTree.root_node] at h
  obtain ⟨⟨hpp, hpl, hpr, hpc⟩, ⟨⟨hsp, hsl, hsr, hsc⟩, hl, hr⟩, hs₀⟩ := h
  simp only [ColorTree.toList_node, List.nodup_append, List.nodup_cons, List.mem_append,
    List.mem_cons] at hnd
  constructor
  · refine ⟨?_, ⟨?_, hl.congr fun x hx => ?_, hr.congr fun x hx => ?_⟩, hs₀.congr fun x hx => ?_⟩
    all_goals (simp [SameNode]; grind)
  · refine ⟨?_, ⟨?_, hl.congr fun x hx => ?_, hr.congr fun x hx => ?_⟩, hs₀.congr fun x hx => ?_⟩
    all_goals (simp [SameNode]; grind)

end Rotations

section Frames

variable {xs : List ι} {p s y : ι} {sl sr g : RbIdx ι}

lemma Frame.paint (h : Frame xs t t') (b : Bool) (hp : p ∈ xs) :
    Frame xs t (if b then t'.setBlk (some p) else t'.setRed (some p)) := by
  cases b
  · exact h.setRed hp
  · exact h.setBlk hp

lemma frame_deleteCase2l (hp : p ∈ xs) (hs : s ∈ xs)
    (hc : ∀ x, (t (some s)).left = some x → x ∈ xs) :
    Frame xs t (deleteCase2l t (some p) (some s) g) := by
  have hp' : ∀ x, some p = some x → x ∈ xs := by simp [hp]
  have hs' : ∀ x, some s = some x → x ∈ xs := by simp [hs]
  have h1 := (((Frame.refl t).setP (p := g) hs').setL (p := some p) hs').setBlk hs
  exact (((h1.setP hp').setR hp).setRed hp).setP hc

lemma frame_deleteCase2r (hp : p ∈ xs) (hs : s ∈ xs)
    (hc : ∀ x, (t (some s)).right = some x → x ∈ xs) :
    Frame xs t (deleteCase2r t (some p) (some s) g) := by
  have hp' : ∀ x, some p = some x → x ∈ xs := by simp [hp]
  have hs' : ∀ x, some s = some x → x ∈ xs := by simp [hs]
  have h1 := (((Frame.refl t).setP (p := g) hs').setR (p := some p) hs).setBlk hs
  exact (((h1.setP hp').setL hp').setRed hp).setP hc

lemma frame_deleteCase5l (hp : p ∈ xs) (hs : s ∈ xs) (hy : y ∈ xs)
    (hcl : ∀ x, (t (some y)).left = some x → x ∈ xs)
    (hcr : ∀ x, (t (some y)).right = some x → x ∈ xs) :
    Frame xs t (deleteCase5l t (some p) (some s) (some y) g) := by
  have hp' : ∀ x, some p = some x → x ∈ xs := by simp [hp]
  have hs' : ∀ x, some s = some x → x ∈ xs := by simp [hs]
  have hy' : ∀ x, some y = some x → x ∈ xs := by simp [hy]
  have h1 := (((Frame.refl t).setP (p := g) hy').setL (p := some p) hy').setR (p := some s) hy
  have h2 := (((h1.paint (t.isBlack (some p)) hy).setP (p := some y) hp').setR
    (p := (t (some y)).left) hp).setBlk hp
  exact (((h2.setP hcl).setP hs').setL hs').setP hcr

lemma frame_deleteCase5r (hp : p ∈ xs) (hs : s ∈ xs) (hy : y ∈ xs)
    (hcl : ∀ x, (t (some y)).left = some x → x ∈ xs)
    (hcr : ∀ x, (t (some y)).right = some x → x ∈ xs) :
    Frame xs t (deleteCase5r t (some p) (some s) (some y) g) := by
  have hp' : ∀ x, some p = some x → x ∈ xs := by simp [hp]
  have hs' : ∀ x, some s = some x → x ∈ xs := by simp [hs]
  have hy' : ∀ x, some y = some x → x ∈ xs := by simp [hy]
  have h1 := (((Frame.refl t).setP (p := g) hy').setL (p := some s) hy').setR (p := some p) hy
  have h2 := (((h1.paint (t.isBlack (some p)) hy).setP (p := some y) hp').setL
    (p := (t (some y)).right) hp').setBlk hp
  exact (((h2.setP hcr).setP hs').setR hs).setP hcl

lemma frame_deleteCase6l (hp : p ∈ xs) (hs : s ∈ xs) (hy : y ∈ xs)
    (hsl : ∀ x, sl = some x → x ∈ xs) :
    Frame xs t (deleteCase6l t (some p) (some s) sl (some y) g) := by
  have hp' : ∀ x, some p = some x → x ∈ xs := by simp [hp]
  have hs' : ∀ x, some s = some x → x ∈ xs := by simp [hs]
  have h1 := ((Frame.refl t).setP (p := g) hs').setL (p := some p) hs'
  have h2 : Frame xs t (if t.isBlack (some p) then (t.setP (some s) g).setL (some s) (some p)
      else ((t.setP (some s) g).setL (some s) (some p)).setRed (some s)) := by
    split
    · exact h1
    · exact h1.setRed hs
  exact ((((h2.setP hp').setR hp).setBlk hp).setP hsl).setBlk hy

lemma frame_deleteCase6r (hp : p ∈ xs) (hs : s ∈ xs) (hy : y ∈ xs)
    (hsr : ∀ x, sr = some x → x ∈ xs) :
    Frame xs t (deleteCase6r t (some p) (some s) (some y) sr g) := by
  have hp' : ∀ x, some p = some x → x ∈ xs := by simp [hp]
  have hs' : ∀ x, some s = some x → x ∈ xs := by simp [hs]
  have h1 := ((Frame.refl t).setP (p := g) hs').setR (p := some p) hs
  have h2 : Frame xs t (if t.isBlack (some p) then (t.setP (some s) g).setR (some s) (some p)
      else ((t.setP (some s) g).setR (some s) (some p)).setRed (some s)) := by
    split
    · exact h1
    · exact h1.setRed hs
  exact ((((h2.setP hp').setL hp').setBlk hp).setP hsr).setBlk hy

end Frames

/-! ## One round of the loop -/

/-- The outcome of a round below `p`, a node of colour `c` whose other subtree has black height
`k + 1`: the tree is repaired, or `p` is black and the subtree below `up` has become one too small.
-/
inductive RoundOk (c : Color) (xs : List ι) (t : RbTree ι) (up : TreePath ι) (p : ι) (k : ℕ) :
    DeleteRound ι → Prop
  | done {t' : RbTree ι} : Repaired xs t (some t') → RoundOk c xs t up p k (.done t')
  | up {t' : RbTree ι} {s' : ColorTree ι} : c = .black → Represents t' (up.fill s') →
      s'.root = some p → s'.Balanced .black (k + 1) → (up.fill s').toList = xs →
      Frame xs t t' → RoundOk c xs t up p k (.up t')

section Rounds

variable {P : TreePath ι} {c d : Color} {s₀ sl sr sib : ColorTree ι} {p s : ι} {k : ℕ}

/-- `test3_l` and the cases behind it. -/
lemma deleteTest3l_ok (h : Represents t (P.fill (.node c s₀ p (.node .black sl s sr))))
    (hs₀ : s₀.Balanced .black k) (hs : (ColorTree.node .black sl s sr).Balanced .black (k + 1))
    (hup : P.Balanced c (c.height (k + 1))) :
    RoundOk c (P.fill (.node c s₀ p (.node .black sl s sr))).toList t P p k
      (deleteTest3l t (some p) (some s) P.parent) := by
  obtain ⟨cl, cr, hl, hr⟩ := hs.children
  have hlinks := h.cut.1
  have hnd := h.nodup_sub
  obtain ⟨⟨_, _, _, hpc⟩, _, ⟨_, hsl, hsr, _⟩, hll, hlr⟩ := h.cut.1
  unfold deleteTest3l
  simp only [hsl, hsr, hll.isBlack_root hl h.null, hlr.isBlack_root hr h.null, hpc]
  cases cr with
  | red =>
    obtain @⟨⟩ | @⟨a, b, y, _, ha, hb⟩ := hr
    simp only [ColorTree.root_node]
    refine .done (h.repaired rfl (links_deleteCase6l hlinks hnd) (by simp) ?_
      (by simp only [deleteCase6l, rbRoot]; split <;> simp)
        (hup.fill (.node (.black hs₀ hl) (.black ha hb))))
    exact frame_deleteCase6l (by simp) (by simp) (by simp) (by grind)
  | black =>
    cases cl with
    | red =>
      obtain @⟨⟩ | @⟨a, b, y, _, ha, hb⟩ := hl
      obtain ⟨⟨_, hyl, hyr, _⟩, _, _⟩ := hll
      simp only [ColorTree.root_node]
      refine .done (h.repaired rfl (links_deleteCase5l hlinks hnd) (by simp) ?_
        (by simp only [deleteCase5l, rbRoot]; split <;> simp)
        (hup.fill (.node (.black hs₀ ha) (.black hb hr))))
      exact frame_deleteCase5l (by simp) (by simp) (by simp) (by rw [hyl]; grind)
        (by rw [hyr]; grind)
    | black =>
      obtain ⟨h1, h2⟩ := links_setRed_right hlinks hnd
      have hf : Frame (ColorTree.node c s₀ p (.node .black sl s sr)).toList t (t.setRed (some s)) :=
        (Frame.refl t).setRed (by simp)
      cases c with
      | black =>
        exact .up rfl (h.rewire h1 (by simp) rfl hf (by simp [rbRoot])) rfl
          (.black hs₀ (.red hl hr)) (by simp) (hf.fill P)
      | red =>
        have hf' := hf.setBlk (n := p) (by simp)
        exact .done ⟨_, _, rfl, ⟨h.rewire h2 (by simp) rfl hf' (by simp [rbRoot]),
          hup.of_red.fill (.black hs₀ (.red hl hr))⟩, by simp, hf'.fill P⟩

/-- `test3_r` and the cases behind it. -/
lemma deleteTest3r_ok (h : Represents t (P.fill (.node c (.node .black sl s sr) p s₀)))
    (hs₀ : s₀.Balanced .black k) (hs : (ColorTree.node .black sl s sr).Balanced .black (k + 1))
    (hup : P.Balanced c (c.height (k + 1))) :
    RoundOk c (P.fill (.node c (.node .black sl s sr) p s₀)).toList t P p k
      (deleteTest3r t (some p) (some s) P.parent) := by
  obtain ⟨cl, cr, hl, hr⟩ := hs.children
  have hlinks := h.cut.1
  have hnd := h.nodup_sub
  obtain ⟨⟨_, _, _, hpc⟩, ⟨⟨_, hsl, hsr, _⟩, hll, hlr⟩, _⟩ := h.cut.1
  unfold deleteTest3r
  simp only [hsl, hsr, hll.isBlack_root hl h.null, hlr.isBlack_root hr h.null, hpc]
  cases cl with
  | red =>
    obtain @⟨⟩ | @⟨a, b, y, _, ha, hb⟩ := hl
    simp only [ColorTree.root_node]
    refine .done (h.repaired rfl (links_deleteCase6r hlinks hnd) (by simp) ?_
      (by simp only [deleteCase6r, rbRoot]; split <;> simp)
        (hup.fill (.node (.black ha hb) (.black hr hs₀))))
    exact frame_deleteCase6r (by simp) (by simp) (by simp) (by grind)
  | black =>
    cases cr with
    | red =>
      obtain @⟨⟩ | @⟨a, b, y, _, ha, hb⟩ := hr
      obtain ⟨⟨_, hyl, hyr, _⟩, _, _⟩ := hlr
      simp only [ColorTree.root_node]
      refine .done (h.repaired rfl (links_deleteCase5r hlinks hnd) (by simp) ?_
        (by simp only [deleteCase5r, rbRoot]; split <;> simp)
        (hup.fill (.node (.black hl ha) (.black hb hs₀))))
      exact frame_deleteCase5r (by simp) (by simp) (by simp) (by rw [hyl]; grind)
        (by rw [hyr]; grind)
    | black =>
      obtain ⟨h1, h2⟩ := links_setRed_left hlinks hnd
      have hf : Frame (ColorTree.node c (.node .black sl s sr) p s₀).toList t (t.setRed (some s)) :=
        (Frame.refl t).setRed (by simp)
      cases c with
      | black =>
        exact .up rfl (h.rewire h1 (by simp) rfl hf (by simp [rbRoot])) rfl
          (.black (.red hl hr) hs₀) (by simp) (hf.fill P)
      | red =>
        have hf' := hf.setBlk (n := p) (by simp)
        exact .done ⟨_, _, rfl, ⟨h.rewire h2 (by simp) rfl hf' (by simp [rbRoot]),
          hup.of_red.fill (.black (.red hl hr) hs₀)⟩, by simp, hf'.fill P⟩

omit [DecidableEq ι] in
/-- A round below a red node always ends the repair. -/
lemma RoundOk.of_red {xs : List ι} {P' : TreePath ι} {p' : ι} {k' : ℕ} {r : DeleteRound ι}
    (h : RoundOk .red xs t' P' p' k' r) (hf : Frame xs t t') : RoundOk c xs t P p k r := by
  cases h with
  | done h => exact .done (h.of_frame hf)
  | up hc => cases hc

/-- A round with the short subtree on the left. -/
lemma deleteRound_left (h : Represents t (P.fill (.node c s₀ p sib))) (hs₀ : s₀.Balanced .black k)
    (hsib : sib.Balanced d (k + 1)) (hc : c = .red → d = .black)
    (hup : P.Balanced c (c.height (k + 1))) :
    RoundOk c (P.fill (.node c s₀ p sib)).toList t P p k (deleteRound t s₀.root (some p)) := by
  obtain ⟨sl, s, sr, rfl⟩ := hsib.exists_node
  have hlinks := h.cut.1
  obtain ⟨⟨hpp, hpl, hpr, _⟩, hls, ⟨hsp, hsl, _, hsc⟩, _, _⟩ := h.cut.1
  unfold deleteRound
  simp only [hpp, hpl, hpr, ColorTree.root_node, hsc, if_true]
  cases d with
  | black => exact deleteTest3l_ok h hs₀ hsib hup
  | red =>
    obtain rfl : c = .black := by cases c with
      | red => cases hc rfl
      | black => rfl
    obtain @⟨⟩ | @⟨_, _, _, _, hl, hr⟩ := hsib
    obtain ⟨y, a, b, rfl⟩ : ∃ y a b, sl = .node .black a y b := by
      obtain ⟨a, y, b, rfl⟩ := hl.exists_node
      exact ⟨y, a, b, rfl⟩
    obtain ⟨h1, hf⟩ := h.rotate rfl (links_deleteCase2l hlinks h.nodup_sub) (by simp)
      (frame_deleteCase2l (by simp) (by simp) (by rw [hsl]; grind)) (by simp [deleteCase2l, rbRoot])
    have hleft := h1.cut.1.2.1.1.2.1
    simp only [ColorTree.root_node] at h1 hf hleft
    have htest := deleteTest3l_ok (P := .left .black s sr P) h1 hs₀ hl (.blackLeft hr hup)
    have hxs : (P.fill (.node .black (.node .red s₀ p (.node .black a y b)) s sr)).toList =
        (P.fill (.node .black s₀ p (.node .red (.node .black a y b) s sr))).toList := by simp
    rw [TreePath.fill_left, hxs] at htest
    simpa [hsl, hleft] using htest.of_red hf

/-- A round with the short subtree on the right. -/
lemma deleteRound_right (h : Represents t (P.fill (.node c sib p s₀)))
    (hs₀ : s₀.Balanced .black k) (hsib : sib.Balanced d (k + 1)) (hc : c = .red → d = .black)
    (hup : P.Balanced c (c.height (k + 1))) :
    RoundOk c (P.fill (.node c sib p s₀)).toList t P p k (deleteRound t s₀.root (some p)) := by
  obtain ⟨sl, s, sr, rfl⟩ := hsib.exists_node
  have hlinks := h.cut.1
  have hnd := h.nodup_sub
  simp only [ColorTree.toList_node, List.nodup_append, List.nodup_cons, List.mem_append,
    List.mem_cons] at hnd
  obtain ⟨⟨hpp, hpl, hpr, _⟩, ⟨⟨hsp, _, hsr, hsc⟩, _, _⟩, hls⟩ := h.cut.1
  have hne : s₀.root ≠ some s := fun hs => by grind
  unfold deleteRound
  simp only [hpp, hpl, ColorTree.root_node, hsc, if_neg hne]
  cases d with
  | black => exact deleteTest3r_ok h hs₀ hsib hup
  | red =>
    obtain rfl : c = .black := by cases c with
      | red => cases hc rfl
      | black => rfl
    obtain @⟨⟩ | @⟨_, _, _, _, hl, hr⟩ := hsib
    obtain ⟨y, a, b, rfl⟩ : ∃ y a b, sr = .node .black a y b := by
      obtain ⟨a, y, b, rfl⟩ := hr.exists_node
      exact ⟨y, a, b, rfl⟩
    have hne' : s₀.root ≠ some y := fun hy => by
      simp only [ColorTree.toList_node, List.mem_append, List.mem_cons] at hnd
      grind
    obtain ⟨h1, hf⟩ := h.rotate rfl (links_deleteCase2r hlinks h.nodup_sub) (by simp)
      (frame_deleteCase2r (by simp) (by simp) (by rw [hsr]; grind)) (by simp [deleteCase2r, rbRoot])
    have hleft := h1.cut.1.2.2.1.2.1
    simp only [ColorTree.root_node] at h1 hf hleft
    have htest := deleteTest3r_ok (P := .right .black sl s P) h1 hs₀ hr (.blackRight hl hup)
    have hxs : (P.fill (.node .black sl s (.node .red (.node .black a y b) p s₀))).toList =
        (P.fill (.node .black (.node .red sl s (.node .black a y b)) p s₀)).toList := by simp
    rw [TreePath.fill_right, hxs] at htest
    simpa [hsr, hleft, hne'] using htest.of_red hf

end Rounds

/-- `__rb_delete_rebalance` repairs every tree in which one subtree is one black node short. -/
lemma deleteBalances (fuel : ℕ) : ∀ {t : RbTree ι} {P : TreePath ι} {s : ColorTree ι} {k : ℕ},
    Represents t (P.fill s) → s.Balanced .black k → P.Balanced .black (k + 1) → P ≠ .top →
      P.length ≤ fuel →
        Repaired (P.fill s).toList t (rbDeleteRebalance fuel t s.root P.parent) := by
  induction fuel with
  | zero =>
    intro t P s k h hs hP htop hfuel
    cases P <;> simp_all [TreePath.length]
  | succ fuel ih =>
    intro t P s k h hs hP htop hfuel
    obtain ⟨c, p, up, hlen, hparent, hround⟩ : ∃ c p up, up.length ≤ fuel ∧ P.parent = some p ∧
        RoundOk c (P.fill s).toList t up p k (deleteRound t s.root (some p)) ∧
        up.Balanced c (c.height (k + 1)) := by
      cases hP with
      | top => exact absurd rfl htop
      | @redLeft p r up _ hr hup =>
        exact ⟨.red, p, up, by simpa [TreePath.length] using hfuel, rfl,
          deleteRound_left h hs hr (fun _ => rfl) hup, hup⟩
      | @redRight l p up _ hl hup =>
        exact ⟨.red, p, up, by simpa [TreePath.length] using hfuel, rfl,
          deleteRound_right h hs hl (fun _ => rfl) hup, hup⟩
      | @blackLeft p r up _ c' _ hr hup =>
        exact ⟨.black, p, up, by simpa [TreePath.length] using hfuel, rfl,
          deleteRound_left h hs hr (by simp) hup, hup⟩
      | @blackRight l p up _ c' _ hl hup =>
        exact ⟨.black, p, up, by simpa [TreePath.length] using hfuel, rfl,
          deleteRound_right h hs hl (by simp) hup, hup⟩
    rw [hparent, rbDeleteRebalance]
    obtain ⟨hround, hup⟩ := hround
    generalize deleteRound t s.root (some p) = r at hround ⊢
    cases hround with
    | done hdone => exact hdone
    | up hc h' hroot hs' hxs hf =>
      subst hc
      have hpp := h'.cut.1.parent_root hroot
      simp only [hpp]
      by_cases hnone : up.parent = none
      · rw [if_pos hnone]
        obtain rfl := TreePath.eq_top_of_parent hnone
        exact ⟨_, _, rfl, ⟨h', _, hs'⟩, hxs, hf⟩
      · rw [if_neg hnone]
        have := ih h' hs' hup (fun htop' => hnone (by rw [htop']; rfl)) hlen
        rw [hroot, hxs] at this
        exact this.of_frame hf

end RbTree

end Hikey
