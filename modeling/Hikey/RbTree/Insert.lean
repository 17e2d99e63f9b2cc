import Hikey.RbTree.Links

/-!
# `rb_insert` keeps a red-black tree

Each rotation of `__rb_insert_balance` is one lemma about a subtree (`links_insertCase4rl` and its
siblings).  `rbInsertBalance_spec` follows the loop up the context of the new node: before every
round the tree is balanced except that the red node may hang below a red parent.
-/

namespace Hikey

universe u

namespace RbTree

variable {ι : Type u} [DecidableEq ι] {t t' : RbTree ι}

/-! ## Rotations -/

section Rotations

variable {q : RbIdx ι} {s cl cr u : ColorTree ι} {n p g : ι}

/-- `case5_ll` lifts the red left child `p` over `g`. -/
lemma links_insertCase5ll (h : Links t q (.node .black (.node .red s p cr) g u))
    (hnd : (ColorTree.node .black (.node .red s p cr) g u).toList.Nodup) :
    Links (insertCase5ll t (some p) (some g) q) q (.node .black s p (.node .red cr g u)) := by
  simp only [links_node, ColorTree.root_node] at h
  obtain ⟨⟨hgp, hgl, hgr, hgc⟩, ⟨⟨hpp, hpl, hpr, hpc⟩, hs, hcr⟩, hu⟩ := h
  simp only [ColorTree.toList_node, List.nodup_append, List.nodup_cons, List.mem_append,
    List.mem_cons] at hnd
  refine ⟨?_, hs.congr fun x hx => ?_, ?_, hcr.move (by grind) fun x hx => ?_,
    hu.congr fun x hx => ?_⟩
  all_goals (simp [SameNode, insertCase5ll]; grind)

/-- `case5_rr` lifts the red right child `p` over `g`. -/
lemma links_insertCase5rr (h : Links t q (.node .black u g (.node .red cl p s)))
    (hnd : (ColorTree.node .black u g (.node .red cl p s)).toList.Nodup) :
    Links (insertCase5rr t (some p) (some g) q) q (.node .black (.node .red u g cl) p s) := by
  simp only [links_node, ColorTree.root_node] at h
  obtain ⟨⟨hgp, hgl, hgr, hgc⟩, hu, ⟨hpp, hpl, hpr, hpc⟩, hcl, hs⟩ := h
  simp only [ColorTree.toList_node, List.nodup_append, List.nodup_cons, List.mem_append,
    List.mem_cons] at hnd
  refine ⟨?_, ⟨?_, hu.congr fun x hx => ?_, hcl.move (by grind) fun x hx => ?_⟩,
    hs.congr fun x hx => ?_⟩
  all_goals (simp [SameNode, insertCase5rr]; grind)

/-- `case4_rl` lifts the red inner grandchild `n` over `p` and `g`. -/
lemma links_insertCase4rl
    (h : Links t q (.node .black (.node .red s p (.node .red cl n cr)) g u))
    (hnd : (ColorTree.node .black (.node .red s p (.node .red cl n cr)) g u).toList.Nodup) :
    Links (insertCase4rl t (some n) (some p) (some g) q) q
      (.node .black (.node .red s p cl) n (.node .red cr g u)) := by
  simp only [links_node, ColorTree.root_node] at h
  obtain ⟨⟨hgp, hgl, hgr, hgc⟩, ⟨⟨hpp, hpl, hpr, hpc⟩, hs, ⟨hnp, hnl, hnr, hnc⟩, hcl, hcr⟩, hu⟩ := h
  simp only [ColorTree.toList_node, List.nodup_append, List.nodup_cons, List.mem_append,
    List.mem_cons] at hnd
  refine ⟨?_, ⟨?_, hs.congr fun x hx => ?_, hcl.move (by grind) fun x hx => ?_⟩, ?_,
    hcr.move (by grind) fun x hx => ?_, hu.congr fun x hx => ?_⟩
  all_goals (simp [SameNode, insertCase4rl]; grind)

/-- `case4_lr` lifts the red inner grandchild `n` over `p` and `g`. -/
lemma links_insertCase4lr
    (h : Links t q (.node .black u g (.node .red (.node .red cl n cr) p s)))
    (hnd : (ColorTree.node .black u g (.node .red (.node .red cl n cr) p s)).toList.Nodup) :
    Links (insertCase4lr t (some n) (some p) (some g) q) q
      (.node .black (.node .red u g cl) n (.node .red cr p s)) := by
  simp only [links_node, ColorTree.root_node] at h
  obtain ⟨⟨hgp, hgl, hgr, hgc⟩, hu, ⟨hpp, hpl, hpr, hpc⟩, ⟨⟨hnp, hnl, hnr, hnc⟩, hcl, hcr⟩, hs⟩ := h
  simp only [ColorTree.toList_node, List.nodup_append, List.nodup_cons, List.mem_append,
    List.mem_cons] at hnd
  refine ⟨?_, ⟨?_, hu.congr fun x hx => ?_, hcl.move (by grind) fun x hx => ?_⟩, ?_,
    hcr.move (by grind) fun x hx => ?_, hs.congr fun x hx => ?_⟩
  all_goals (simp [SameNode, insertCase4lr]; grind)

/-- `case3` below a left red child `p`. -/
lemma links_insertCase3 {c c' : Color} {a b : ColorTree ι} {y : ι}
    (h : Links t q (.node .black (.node c s p cr) g (.node c' a y b)))
    (hnd : (ColorTree.node .black (.node c s p cr) g (.node c' a y b)).toList.Nodup) :
    Links (insertCase3 t (some p) (some y) (some g)) q
        (.node .red (.node .black s p cr) g (.node .black a y b)) ∧
      Links (insertCase3 t (some y) (some p) (some g)) q
        (.node .red (.node .black s p cr) g (.node .black a y b)) := by
  simp only [links_node, ColorTree.root_node] at h
  obtain ⟨⟨hgp, hgl, hgr, hgc⟩, ⟨⟨hpp, hpl, hpr, hpc⟩, hs, hcr⟩, ⟨hyp, hyl, hyr, hyc⟩, ha, hb⟩ := h
  simp only [ColorTree.toList_node, List.nodup_append, List.nodup_cons, List.mem_append,
    List.mem_cons] at hnd
  constructor
  · refine ⟨?_, ⟨?_, hs.congr fun x hx => ?_, hcr.congr fun x hx => ?_⟩, ?_,
      ha.congr fun x hx => ?_, hb.congr fun x hx => ?_⟩
    all_goals (simp [SameNode, insertCase3]; grind)
  · refine ⟨?_, ⟨?_, hs.congr fun x hx => ?_, hcr.congr fun x hx => ?_⟩, ?_,
      ha.congr fun x hx => ?_, hb.congr fun x hx => ?_⟩
    all_goals (simp [SameNode, insertCase3]; grind)

end Rotations

section Frames

variable {xs : List ι} {n p g y : ι} {gg : RbIdx ι}

lemma frame_insertCase5ll (hp : p ∈ xs) (hg : g ∈ xs)
    (hcr : ∀ x, (t (some p)).right = some x → x ∈ xs) :
    Frame xs t (insertCase5ll t (some p) (some g) gg) := by
  have hp' : ∀ x, some p = some x → x ∈ xs := by simp [hp]
  have hg' : ∀ x, some g = some x → x ∈ xs := by simp [hg]
  exact ((((((Frame.refl t).setP hg').setL hg').setRed hg).setP hcr).setP hp').setR hp |>.setBlk hp

lemma frame_insertCase5rr (hp : p ∈ xs) (hg : g ∈ xs)
    (hcl : ∀ x, (t (some p)).left = some x → x ∈ xs) :
    Frame xs t (insertCase5rr t (some p) (some g) gg) := by
  have hp' : ∀ x, some p = some x → x ∈ xs := by simp [hp]
  have hg' : ∀ x, some g = some x → x ∈ xs := by simp [hg]
  exact ((((((Frame.refl t).setP hg').setR hg).setRed hg).setP hcl).setP hp').setL hp' |>.setBlk hp

lemma frame_insertCase4rl (hn : n ∈ xs) (hp : p ∈ xs) (hg : g ∈ xs)
    (hcl : ∀ x, (t (some n)).left = some x → x ∈ xs)
    (hcr : ∀ x, (t (some n)).right = some x → x ∈ xs) :
    Frame xs t (insertCase4rl t (some n) (some p) (some g) gg) := by
  have hn' : ∀ x, some n = some x → x ∈ xs := by simp [hn]
  have hp' : ∀ x, some p = some x → x ∈ xs := by simp [hp]
  have hg' : ∀ x, some g = some x → x ∈ xs := by simp [hg]
  have h1 := (((Frame.refl t).setP (p := gg) hn').setL (p := some p) hn').setR (p := some g) hn
  have h2 := ((h1.setBlk hn).setP (p := some n) hp').setR (p := (t (some n)).left) hp
  have h3 := (h2.setP (p := some p) hcl).setP (p := some n) hg'
  exact ((h3.setL hg').setRed hg).setP hcr

lemma frame_insertCase4lr (hn : n ∈ xs) (hp : p ∈ xs) (hg : g ∈ xs)
    (hcl : ∀ x, (t (some n)).left = some x → x ∈ xs)
    (hcr : ∀ x, (t (some n)).right = some x → x ∈ xs) :
    Frame xs t (insertCase4lr t (some n) (some p) (some g) gg) := by
  have hn' : ∀ x, some n = some x → x ∈ xs := by simp [hn]
  have hp' : ∀ x, some p = some x → x ∈ xs := by simp [hp]
  have hg' : ∀ x, some g = some x → x ∈ xs := by simp [hg]
  have h1 := (((Frame.refl t).setP (p := gg) hn').setL (p := some g) hn').setR (p := some p) hn
  have h2 := ((h1.setBlk hn).setP (p := some n) hp').setL (p := (t (some n)).right) hp'
  have h3 := (h2.setP (p := some p) hcr).setP (p := some n) hg'
  exact ((h3.setR hg).setRed hg).setP hcl

lemma frame_insertCase3 (hp : p ∈ xs) (hy : y ∈ xs) (hg : g ∈ xs) :
    Frame xs t (insertCase3 t (some p) (some y) (some g)) :=
  (((Frame.refl t).setBlk hp).setBlk hy).setRed hg

end Frames

/-! ## The rebalancing loop -/

/-- The round of `__rb_insert_balance` at a node `n` whose parent `p` is red. -/
lemma rbInsertBalance_succ {fuel : ℕ} {n p : RbIdx ι} (hp : p ≠ none) (hred : t.isBlack p = false) :
    rbInsertBalance (fuel + 1) t n p =
      let g := (t p).parent
      let u := if p = (t g).left then (t g).right else (t g).left
      if !t.isBlack u then
        rbInsertBalance fuel (insertCase3 t p u g) g (insertCase3 t p u g g).parent
      else
        let gg := (t g).parent
        if p = (t g).left then
          if n = (t p).left then some ((insertCase5ll t p g gg).replaceChild gg g p)
          else some ((insertCase4rl t n p g gg).replaceChild gg g n)
        else
          if n = (t p).right then some ((insertCase5rr t p g gg).replaceChild gg g p)
          else some ((insertCase4lr t n p g gg).replaceChild gg g n) := by
  rw [rbInsertBalance, if_neg hp, if_neg (by simp [hred])]

/-- A finished repair: the loop returns a well-formed tree with the labels `xs`. -/
def Repaired (xs : List ι) (t : RbTree ι) (r : Option (RbTree ι)) : Prop :=
  ∃ t' T, r = some t' ∧ WellFormed t' T ∧ T.toList = xs ∧ Frame xs t t'

omit [DecidableEq ι] in
lemma Repaired.of_frame {xs : List ι} {r : Option (RbTree ι)} (h : Repaired xs t' r)
    (hf : Frame xs t t') : Repaired xs t r := by
  obtain ⟨t'', T, hr, hwf, hxs, hf'⟩ := h
  exact ⟨t'', T, hr, hwf, hxs, hf.trans hf'⟩

/-- A rotation ends the repair when it leaves a subtree of the expected kind. -/
lemma Represents.repaired {P : TreePath ι} {s s' : ColorTree ι} {o : ι}
    (h : Represents t (P.fill s)) (ho : s.root = some o) (hs' : Links t' P.parent s')
    (hlist : s'.toList = s.toList) (hf : Frame s.toList t t') (hroot : t'.rbRoot = t.rbRoot)
    (hb : ∃ m, (P.fill s').Balanced .black m) :
    Repaired (P.fill s).toList t (some (t'.replaceChild P.parent (some o) s'.root)) := by
  obtain ⟨h1, h2⟩ := h.rotate ho hs' hlist hf hroot
  exact ⟨_, _, rfl, ⟨h1, hb⟩, by simp [hlist], h2⟩

/-- `case3` moves the red node one level of black nodes up. -/
lemma Represents.insertCase3 {up : TreePath ι} {s cr ul ur : ColorTree ι} {p g y : ι}
    {c c' : Color} (h : Represents t
    (up.fill (.node .black (.node c s p cr) g (.node c' ul y ur)))) :
    let s' := ColorTree.node .red (.node .black s p cr) g (.node .black ul y ur)
    (Represents (t.insertCase3 (some p) (some y) (some g)) (up.fill s') ∧
        Frame s'.toList t (t.insertCase3 (some p) (some y) (some g))) ∧
      Represents (t.insertCase3 (some y) (some p) (some g)) (up.fill s') ∧
        Frame s'.toList t (t.insertCase3 (some y) (some p) (some g)) := by
  intro s'
  obtain ⟨h1, h2⟩ := links_insertCase3 h.cut.1 h.nodup_sub
  have hf1 : Frame s'.toList t (t.insertCase3 (some p) (some y) (some g)) :=
    frame_insertCase3 (by simp [s']) (by simp [s']) (by simp [s'])
  have hf2 : Frame s'.toList t (t.insertCase3 (some y) (some p) (some g)) :=
    frame_insertCase3 (by simp [s']) (by simp [s']) (by simp [s'])
  exact ⟨⟨h.rewire h1 rfl rfl hf1 (by simp [RbTree.insertCase3, rbRoot]), hf1⟩,
    h.rewire h2 rfl rfl hf2 (by simp [RbTree.insertCase3, rbRoot]), hf2⟩

/-- The loop with the given fuel repairs every tree in which only the red node `x` may have a red
parent. -/
def InsertBalances (ι : Type u) [DecidableEq ι] (fuel : ℕ) : Prop :=
  ∀ {t : RbTree ι} {P : TreePath ι} {a b : ColorTree ι} {x : ι} {k : ℕ},
    Represents t (P.fill (.node .red a x b)) → P.Balanced .black k → a.Balanced .black k →
      b.Balanced .black k → P.length < fuel →
        Repaired (P.fill (.node .red a x b)).toList t (rbInsertBalance fuel t (some x) P.parent)

section Rounds

variable {fuel k : ℕ} {up : TreePath ι} {a b r u : ColorTree ι} {x p g : ι} {c : Color}

/-- The round for a left child of a left child. -/
lemma insertRound_ll (ih : InsertBalances ι fuel)
    (h : Represents t (up.fill (.node .black (.node .red (.node .red a x b) p r) g u)))
    (hup : up.Balanced .black (k + 1)) (ha : a.Balanced .black k) (hb : b.Balanced .black k)
    (hr : r.Balanced .black k) (hu : u.Balanced c k) (hfuel : up.length < fuel) :
    Repaired (up.fill (.node .black (.node .red (.node .red a x b) p r) g u)).toList t
      (rbInsertBalance (fuel + 1) t (some x) (some p)) := by
  have hlinks := h.cut.1
  have hnd := h.nodup_sub
  have ⟨⟨hgp, hgl, hgr, _⟩, ⟨⟨hpp, hpl, hpr, hpc⟩, _, _⟩, hlu⟩ := hlinks
  rw [rbInsertBalance_succ (by simp) (by simpa using hpc)]
  simp only [hpp, hgl, hgr, if_pos, hlu.isBlack_root hu h.null, hgp, hpl, ColorTree.root_node]
  cases c with
  | red =>
    obtain @⟨⟩ | @⟨ul, ur, y, _, hul, hur⟩ := hu
    obtain ⟨⟨h1, hf⟩, -⟩ := h.insertCase3
    have hparent : (t.insertCase3 (some p) (some y) (some g) (some g)).parent = up.parent := by
      simpa [RbTree.insertCase3] using hgp
    have := (ih h1 hup (.black (.red ha hb) hr) (.black hul hur) hfuel).of_frame (hf.fill up)
    simpa [hparent] using this
  | black =>
    simp only [Color.isBlack_black, Bool.not_true, Bool.false_eq_true, if_false]
    refine h.repaired rfl (links_insertCase5ll hlinks hnd) (by simp) ?_
      (by simp [insertCase5ll, rbRoot])
      (hup.fill (.black (.red ha hb) (.red hr hu)))
    exact frame_insertCase5ll (by simp) (by simp) (by rw [hpr]; grind)

/-- The round for a right child of a left child. -/
lemma insertRound_rl (ih : InsertBalances ι fuel)
    (h : Represents t (up.fill (.node .black (.node .red r p (.node .red a x b)) g u)))
    (hup : up.Balanced .black (k + 1)) (ha : a.Balanced .black k) (hb : b.Balanced .black k)
    (hr : r.Balanced .black k) (hu : u.Balanced c k) (hfuel : up.length < fuel) :
    Repaired (up.fill (.node .black (.node .red r p (.node .red a x b)) g u)).toList t
      (rbInsertBalance (fuel + 1) t (some x) (some p)) := by
  have hlinks := h.cut.1
  have hnd := h.nodup_sub
  have ⟨⟨hgp, hgl, hgr, _⟩, ⟨⟨hpp, hpl, hpr, hpc⟩, _, ⟨_, hxl, hxr, _⟩, _, _⟩, hlu⟩ := hlinks
  have hxr' : some x ≠ r.root := ColorTree.root_ne_of_notMem fun hx => by
    simp only [ColorTree.toList_node, List.nodup_append] at hnd
    grind
  rw [rbInsertBalance_succ (by simp) (by simpa using hpc)]
  simp only [hpp, hgl, hgr, if_pos, hlu.isBlack_root hu h.null, hgp, hpl, ColorTree.root_node,
    if_neg hxr']
  cases c with
  | red =>
    obtain @⟨⟩ | @⟨ul, ur, y, _, hul, hur⟩ := hu
    obtain ⟨⟨h1, hf⟩, -⟩ := h.insertCase3
    have hparent : (t.insertCase3 (some p) (some y) (some g) (some g)).parent = up.parent := by
      simpa [RbTree.insertCase3] using hgp
    have := (ih h1 hup (.black hr (.red ha hb)) (.black hul hur) hfuel).of_frame (hf.fill up)
    simpa [hparent] using this
  | black =>
    simp only [Color.isBlack_black, Bool.not_true, Bool.false_eq_true, if_false]
    refine h.repaired rfl (links_insertCase4rl hlinks hnd) (by simp) ?_
      (by simp [insertCase4rl, rbRoot])
      (hup.fill (.black (.red hr ha) (.red hb hu)))
    exact frame_insertCase4rl (by simp) (by simp) (by simp) (by rw [hxl]; grind)
      (by rw [hxr]; grind)

/-- The round for a left child of a right child. -/
lemma insertRound_lr (ih : InsertBalances ι fuel)
    (h : Represents t (up.fill (.node .black u g (.node .red (.node .red a x b) p r))))
    (hup : up.Balanced .black (k + 1)) (ha : a.Balanced .black k) (hb : b.Balanced .black k)
    (hr : r.Balanced .black k) (hu : u.Balanced c k) (hfuel : up.length < fuel) :
    Repaired (up.fill (.node .black u g (.node .red (.node .red a x b) p r))).toList t
      (rbInsertBalance (fuel + 1) t (some x) (some p)) := by
  have hlinks := h.cut.1
  have hnd := h.nodup_sub
  have ⟨⟨hgp, hgl, hgr, _⟩, hlu, ⟨⟨hpp, hpl, hpr, hpc⟩, ⟨⟨_, hxl, hxr, _⟩, _, _⟩, _⟩⟩ := hlinks
  have hpu : some p ≠ u.root := ColorTree.root_ne_of_notMem fun hp => by
    simp only [ColorTree.toList_node, List.nodup_append] at hnd
    grind
  have hxr' : some x ≠ r.root := ColorTree.root_ne_of_notMem fun hx => by
    simp only [ColorTree.toList_node, List.nodup_append] at hnd
    grind
  rw [rbInsertBalance_succ (by simp) (by simpa using hpc)]
  simp only [hpp, hgl, hgr, if_neg hpu, hlu.isBlack_root hu h.null, hgp, hpr, if_neg hxr']
  cases c with
  | red =>
    obtain @⟨⟩ | @⟨ul, ur, y, _, hul, hur⟩ := hu
    obtain ⟨-, h1, hf⟩ := h.insertCase3
    have hparent : (t.insertCase3 (some p) (some y) (some g) (some g)).parent = up.parent := by
      simpa [RbTree.insertCase3] using hgp
    have := (ih h1 hup (.black hul hur) (.black (.red ha hb) hr) hfuel).of_frame (hf.fill up)
    simpa [hparent] using this
  | black =>
    simp only [Color.isBlack_black, Bool.not_true, Bool.false_eq_true, if_false]
    refine h.repaired rfl (links_insertCase4lr hlinks hnd) (by simp) ?_
      (by simp [insertCase4lr, rbRoot])
      (hup.fill (.black (.red hu ha) (.red hb hr)))
    exact frame_insertCase4lr (by simp) (by simp) (by simp) (by rw [hxl]; grind)
      (by rw [hxr]; grind)

/-- The round for a right child of a right child. -/
lemma insertRound_rr (ih : InsertBalances ι fuel)
    (h : Represents t (up.fill (.node .black u g (.node .red r p (.node .red a x b)))))
    (hup : up.Balanced .black (k + 1)) (ha : a.Balanced .black k) (hb : b.Balanced .black k)
    (hr : r.Balanced .black k) (hu : u.Balanced c k) (hfuel : up.length < fuel) :
    Repaired (up.fill (.node .black u g (.node .red r p (.node .red a x b)))).toList t
      (rbInsertBalance (fuel + 1) t (some x) (some p)) := by
  have hlinks := h.cut.1
  have hnd := h.nodup_sub
  have ⟨⟨hgp, hgl, hgr, _⟩, hlu, ⟨⟨hpp, hpl, hpr, hpc⟩, _, _⟩⟩ := hlinks
  have hpu : some p ≠ u.root := ColorTree.root_ne_of_notMem fun hp => by
    simp only [ColorTree.toList_node, List.nodup_append] at hnd
    grind
  rw [rbInsertBalance_succ (by simp) (by simpa using hpc)]
  simp only [hpp, hgl, hgr, if_neg hpu, hlu.isBlack_root hu h.null, hgp, hpr,
    ColorTree.root_node, if_true]
  cases c with
  | red =>
    obtain @⟨⟩ | @⟨ul, ur, y, _, hul, hur⟩ := hu
    obtain ⟨-, h1, hf⟩ := h.insertCase3
    have hparent : (t.insertCase3 (some p) (some y) (some g) (some g)).parent = up.parent := by
      simpa [RbTree.insertCase3] using hgp
    have := (ih h1 hup (.black hul hur) (.black hr (.red ha hb)) hfuel).of_frame (hf.fill up)
    simpa [hparent] using this
  | black =>
    simp only [Color.isBlack_black, Bool.not_true, Bool.false_eq_true, if_false]
    refine h.repaired rfl (links_insertCase5rr hlinks hnd) (by simp) ?_
      (by simp [insertCase5rr, rbRoot])
      (hup.fill (.black (.red hu hr) (.red ha hb)))
    exact frame_insertCase5rr (by simp) (by simp) (by rw [hpl]; grind)

end Rounds

/-- Painting the root black ends the repair. -/
lemma repaired_setRoot {a b : ColorTree ι} {x : ι} {k : ℕ}
    (h : Represents t (.node .red a x b)) (ha : a.Balanced .black k) (hb : b.Balanced .black k) :
    Repaired (ColorTree.node .red a x b).toList t
      (some ((t.setBlk (some x)).setRoot (some x))) := by
  have hf : Frame (ColorTree.node .red a x b).toList t ((t.setBlk (some x)).setRoot (some x)) :=
    ((Frame.refl t).setBlk (by simp)).setL (by simp)
  obtain ⟨⟨hp, hl, hr, hc⟩, hla, hlb⟩ := h.links
  have hnd := h.nodup
  simp only [ColorTree.toList_node, List.nodup_append, List.nodup_cons, List.mem_cons] at hnd
  refine ⟨_, .node .black a x b, rfl, ⟨⟨⟨?_, ?_, ?_⟩, ?_, h.nodup, ?_⟩, _, .black ha hb⟩, rfl, hf⟩
  · simp [setRoot, hp, hl, hr]
  · exact hla.congr fun y hy => by simp [SameNode, setRoot, show y ≠ x by grind]
  · exact hlb.congr fun y hy => by simp [SameNode, setRoot, show y ≠ x by grind]
  · simp [rbRoot, setRoot]
  · exact hf.isBlack_none.trans h.null

/-- `__rb_insert_balance` repairs every tree in which only one red node may have a red parent. -/
lemma insertBalances (fuel : ℕ) : InsertBalances ι fuel := by
  induction fuel with
  | zero => intro t P a b x k h hP ha hb hfuel; omega
  | succ fuel ih =>
    intro t P a b x k h hP ha hb hfuel
    cases hP with
    | top => exact repaired_setRoot h ha hb
    | @blackLeft p r up _ c _ hr hup =>
      have hblack : t.isBlack (some p) = true := h.cut.2.1.2.2.2
      exact ⟨t, _, by simp [rbInsertBalance, hblack], ⟨h, hup.fill (.black (.red ha hb) hr)⟩, rfl,
        .refl t⟩
    | @blackRight l p up _ c _ hl hup =>
      have hblack : t.isBlack (some p) = true := h.cut.2.1.2.2.2
      exact ⟨t, _, by simp [rbInsertBalance, hblack], ⟨h, hup.fill (.black hl (.red ha hb))⟩, rfl,
        .refl t⟩
    | redLeft hr hup =>
      cases hup with
      | blackLeft hu hup =>
        exact insertRound_ll ih h hup ha hb hr hu (by simp only [TreePath.length] at hfuel; omega)
      | blackRight hu hup =>
        exact insertRound_lr ih h hup ha hb hr hu (by simp only [TreePath.length] at hfuel; omega)
    | redRight hl hup =>
      cases hup with
      | blackLeft hu hup =>
        exact insertRound_rl ih h hup ha hb hl hu (by simp only [TreePath.length] at hfuel; omega)
      | blackRight hu hup =>
        exact insertRound_rr ih h hup ha hb hl hu (by simp only [TreePath.length] at hfuel; omega)

/-! ## `rb_insert` -/

/-- The link that the callers of `rb_insert` write beforehand: `n` becomes the child in the hole. -/
def attach (t : RbTree ι) (P : TreePath ι) (n : RbIdx ι) : RbTree ι :=
  match P with
  | .top => t
  | .left _ p _ _ => t.setL (some p) n
  | .right _ _ p _ => t.setR (some p) n

/-- Attaching a node redirects the link that leads into the hole. -/
lemma PathLinks.attach {P : TreePath ι} {x : ι} (h : PathLinks t none P) (hP : P ≠ .top)
    (hnd : (P.before ++ P.after).Nodup) : PathLinks (t.attach P (some x)) (some x) P := by
  cases P with
  | top => exact absurd rfl hP
  | left c p r up =>
    obtain ⟨⟨hp, hleft, hright, hc⟩, hr, hup⟩ := h
    have hne : ∀ y ∈ r.toList ++ (up.before ++ up.after), y ≠ p := by
      rintro y hy rfl
      simp only [TreePath.before_left, TreePath.after_left, List.nodup_append, List.nodup_cons,
        List.mem_append, List.mem_cons] at hnd hy
      grind
    refine ⟨by simp [RbTree.attach, hp, hright, hc], hr.congr fun y hy => ?_,
      hup.congr (by simp [RbTree.attach, rbRoot]) fun y hy => ?_⟩
    · simp [SameNode, RbTree.attach, hne y (by simp [hy])]
    · simp [SameNode, RbTree.attach,
        hne y (by simp only [List.mem_append] at hy ⊢; tauto)]
  | right c l p up =>
    obtain ⟨⟨hp, hleft, hright, hc⟩, hl, hup⟩ := h
    have hne : ∀ y ∈ l.toList ++ (up.before ++ up.after), y ≠ p := by
      rintro y hy rfl
      simp only [TreePath.before_right, TreePath.after_right, List.nodup_append, List.nodup_cons,
        List.mem_append, List.mem_cons] at hnd hy
      grind
    refine ⟨by simp [RbTree.attach, hp, hleft, hc], hl.congr fun y hy => ?_,
      hup.congr (by simp [RbTree.attach, rbRoot]) fun y hy => ?_⟩
    · simp [SameNode, RbTree.attach, hne y (by simp [hy])]
    · simp [SameNode, RbTree.attach,
        hne y (by simp only [List.mem_append] at hy ⊢; tauto)]

/-- Writing the fields of a node outside a context does not disturb the context. -/
lemma PathLinks.modify {P : TreePath ι} {ch : RbIdx ι} {x : ι} {f : RbNode ι → RbNode ι}
    (h : PathLinks t ch P) (hx : x ∉ P.before ++ P.after) :
    PathLinks (t.modify (some x) f) ch P := by
  refine h.congr (by simp [rbRoot, RbTree.modify]) fun y hy => ?_
  have hne : y ≠ x := by rintro rfl; exact hx hy
  simp [SameNode, isBlack, RbTree.modify, hne]

/-- `rb_insert` of a fresh node into a free child slot: the tree stays well formed and gains exactly
that node, at the place of the slot. -/
theorem rbInsert_spec {fuel : ℕ} {P : TreePath ι} {x : ι} (h : WellFormed t (P.fill .nil))
    (hx : x ∉ (P.fill .nil).toList) (hfuel : P.length < fuel) :
    Repaired (P.before ++ x :: P.after) t
      (rbInsert fuel (t.attach P (some x)) (some x) P.parent) := by
  have hlist : (P.fill (.node .red .nil x .nil)).toList = P.before ++ x :: P.after := by simp
  have hmem : x ∈ P.before ++ x :: P.after := by simp
  have hmem' : ∀ y, some x = some y → y ∈ P.before ++ x :: P.after := by simp
  by_cases hP : P = .top
  · subst hP
    have hf : Frame [x] t ((((((t.setP (some x) none).setL (some x) none).setR (some x) none).setBlk
        (some x))).setRoot (some x)) :=
      (((((Frame.refl t).setP (by simp)).setL (by simp)).setR (by simp)).setBlk (by simp)).setL
        (by simp)
    refine ⟨_, .node .black .nil x .nil, by simp [rbInsert, attach],
      ⟨⟨⟨?_, trivial, trivial⟩, ?_, by simp, hf.isBlack_none.trans h.null⟩,
        _, .black .nil .nil⟩, by simp, hf⟩
    · simp [setRoot]
    · simp [rbRoot, setRoot]
  · obtain ⟨p, hp⟩ := Option.ne_none_iff_exists'.mp
      (fun hnone => hP (TreePath.eq_top_of_parent hnone) : P.parent ≠ none)
    have hpmem : p ∈ P.before ++ x :: P.after := by
      have := TreePath.mem_of_parent hp
      simp only [List.mem_append, List.mem_cons] at this ⊢
      tauto
    have hnd := h.nodup
    rw [TreePath.toList_fill, ColorTree.toList_nil, List.append_nil] at hnd hx
    have hf : Frame (P.before ++ x :: P.after) t (t.attach P (some x)) := by
      cases P with
      | top => exact absurd rfl hP
      | left c p' r up => cases hp; exact (Frame.refl t).setL (by simp)
      | right c l p' up => cases hp; exact (Frame.refl t).setR hpmem
    have hf' := ((((hf.setP (p := P.parent) hmem').setL (p := none) hmem').setR (p := none)
      hmem).setRed hmem)
    obtain ⟨n, hn⟩ := h.balanced
    obtain ⟨c, k, hPb, hnil⟩ := TreePath.Balanced.of_fill hn
    cases hnil
    have hrep : Represents ((((((t.attach P (some x)).setP (some x) P.parent).setL (some x)
        none).setR (some x) none)).setRed (some x)) (P.fill (.node .red .nil x .nil)) := by
      refine .glue ⟨by simp, trivial, trivial⟩ ?_ ?_ (hf'.isBlack_none.trans h.null)
      · exact (((((h.toRepresents.cut.2.attach hP hnd).modify hx).modify hx).modify hx).modify hx)
      · rw [hlist, List.nodup_middle]
        exact List.nodup_cons.mpr ⟨hx, hnd⟩
    have := (insertBalances fuel hrep hPb .nil .nil hfuel).of_frame (hlist ▸ hf')
    rw [hlist] at this
    simpa [rbInsert, hp] using this

end RbTree

end Hikey
