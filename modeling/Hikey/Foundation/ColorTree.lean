import Mathlib.Data.List.Nodup
import Mathlib.Tactic

/-!
# Coloured binary trees and their zippers

The abstract side of a red-black tree: finite binary trees whose nodes carry a colour and a label,
the contexts (`TreePath`) that say where a subtree hangs, and the two balance conditions.

`ColorTree.Balanced t c n` says that `t` has a root of colour `c`, black height `n` on every path
and no red node with a red child.  `TreePath.Balanced P c n` says that a hole of the context `P`
expects a subtree of colour `c` and black height `n`; filling the hole accordingly gives a balanced
tree with a black root (`TreePath.Balanced.fill`).

The order of the labels is a matter of the in-order list only: `TreePath.before` and
`TreePath.after` are the labels on the two sides of the hole, and `ColorTree.descend` is the search
path of a two-way decision.
-/

namespace Hikey

universe u

/-- The two colours of a red-black tree. -/
inductive Color
  | red
  | black
  deriving DecidableEq, Repr

/-- Binary trees with a colour and a label at every node. -/
inductive ColorTree (ι : Type u)
  | nil
  | node (c : Color) (l : ColorTree ι) (x : ι) (r : ColorTree ι)

/-- The black height above a node of this colour, `n` being the black height below it. -/
def Color.height : Color → ℕ → ℕ
  | .red, n => n
  | .black, n => n + 1

namespace ColorTree

variable {ι : Type u}

/-- The label of the root, if there is one. -/
def root : ColorTree ι → Option ι
  | nil => none
  | node _ _ x _ => some x

/-- The in-order list of the labels. -/
def toList : ColorTree ι → List ι
  | nil => []
  | node _ l x r => l.toList ++ x :: r.toList

/-- Repaint the root black. -/
def blacken : ColorTree ι → ColorTree ι
  | nil => nil
  | node _ l x r => node .black l x r

@[simp, grind =] lemma root_nil : (nil : ColorTree ι).root = none := rfl

@[simp, grind =] lemma root_node (c : Color) (l : ColorTree ι) (x : ι) (r : ColorTree ι) :
    (node c l x r).root = some x := rfl

@[simp, grind =] lemma toList_nil : (nil : ColorTree ι).toList = [] := rfl

@[simp, grind =] lemma toList_node (c : Color) (l : ColorTree ι) (x : ι) (r : ColorTree ι) :
    (node c l x r).toList = l.toList ++ x :: r.toList := rfl

@[simp, grind =] lemma toList_blacken (t : ColorTree ι) : t.blacken.toList = t.toList := by
  cases t <;> rfl

@[simp, grind =] lemma root_blacken (t : ColorTree ι) : t.blacken.root = t.root := by
  cases t <;> rfl

/-- The root of a tree is one of its labels. -/
@[grind →] lemma mem_toList_of_root {t : ColorTree ι} {x : ι} (h : t.root = some x) :
    x ∈ t.toList := by
  cases t with
  | nil => simp at h
  | node c l y r => simp_all

/-- A label that does not occur is not the root. -/
lemma root_ne_of_notMem {t : ColorTree ι} {x : ι} (h : x ∉ t.toList) : some x ≠ t.root :=
  fun hx => h (mem_toList_of_root hx.symm)

/-- A tree without a root is empty. -/
lemma eq_nil_of_root {t : ColorTree ι} (h : t.root = none) : t = nil := by
  cases t with
  | nil => rfl
  | node c l y r => simp at h

/-- A tree without labels is empty. -/
lemma eq_nil_of_toList {t : ColorTree ι} (h : t.toList = []) : t = nil := by
  cases t with
  | nil => rfl
  | node c l y r => simp at h

/-- Colour `c` at the root, black height `n` on every path, no red node with a red child. -/
inductive Balanced : ColorTree ι → Color → ℕ → Prop
  | nil : Balanced .nil .black 0
  | red {l r : ColorTree ι} {x : ι} {n : ℕ} :
      Balanced l .black n → Balanced r .black n → Balanced (node .red l x r) .red n
  | black {l r : ColorTree ι} {x : ι} {c₁ c₂ : Color} {n : ℕ} :
      Balanced l c₁ n → Balanced r c₂ n → Balanced (node .black l x r) .black (n + 1)

/-- A balanced subtree of black height zero with a black root is empty. -/
lemma Balanced.eq_nil {t : ColorTree ι} (h : t.Balanced .black 0) : t = .nil := by
  cases h; rfl

/-- A balanced subtree of positive black height has a root. -/
lemma Balanced.exists_node {t : ColorTree ι} {c : Color} {n : ℕ} (h : t.Balanced c (n + 1)) :
    ∃ l x r, t = .node c l x r := by
  cases h with
  | red hl hr => exact ⟨_, _, _, rfl⟩
  | black hl hr => exact ⟨_, _, _, rfl⟩

/-- A node over two black subtrees of the same black height. -/
lemma Balanced.node {c : Color} {l r : ColorTree ι} {x : ι} {n : ℕ} (hl : l.Balanced .black n)
    (hr : r.Balanced .black n) : (ColorTree.node c l x r).Balanced c (c.height n) := by
  cases c with
  | red => exact .red hl hr
  | black => exact .black hl hr

/-- The subtrees of a balanced black node. -/
lemma Balanced.children {l r : ColorTree ι} {x : ι} {n : ℕ}
    (h : (ColorTree.node .black l x r).Balanced .black (n + 1)) :
    ∃ c₁ c₂, l.Balanced c₁ n ∧ r.Balanced c₂ n := by
  cases h with
  | black hl hr => exact ⟨_, _, hl, hr⟩

/-- Painting the root of a balanced tree black keeps it balanced. -/
lemma Balanced.blacken {t : ColorTree ι} {c : Color} {n : ℕ} (h : t.Balanced c n) :
    ∃ m, t.blacken.Balanced .black m := by
  cases h with
  | nil => exact ⟨0, .nil⟩
  | red hl hr => exact ⟨_, .black hl hr⟩
  | black hl hr => exact ⟨_, .black hl hr⟩

end ColorTree

/-- The context of a subtree, read from the hole upwards. -/
inductive TreePath (ι : Type u)
  | top
  | left (c : Color) (x : ι) (r : ColorTree ι) (up : TreePath ι)
  | right (c : Color) (l : ColorTree ι) (x : ι) (up : TreePath ι)

namespace TreePath

variable {ι : Type u}

/-- The label directly above the hole. -/
def parent : TreePath ι → Option ι
  | top => none
  | left _ x _ _ => some x
  | right _ _ x _ => some x

/-- Whether the hole is a right child. -/
def isRight : TreePath ι → Bool
  | top => false
  | left _ _ _ _ => false
  | right _ _ _ _ => true

/-- Put a subtree into the hole. -/
def fill : TreePath ι → ColorTree ι → ColorTree ι
  | top, t => t
  | left c x r up, t => up.fill (.node c t x r)
  | right c l x up, t => up.fill (.node c l x t)

/-- The labels before the hole, in order. -/
def before : TreePath ι → List ι
  | top => []
  | left _ _ _ up => up.before
  | right _ l x up => up.before ++ (l.toList ++ [x])

/-- The labels after the hole, in order. -/
def after : TreePath ι → List ι
  | top => []
  | left _ x r up => x :: (r.toList ++ up.after)
  | right _ _ _ up => up.after

/-- The context whose hole is that of `Q`, `Q` being itself in the hole of `P`. -/
def append : TreePath ι → TreePath ι → TreePath ι
  | top, P => P
  | left c x r up, P => left c x r (up.append P)
  | right c l x up, P => right c l x (up.append P)

/-- The number of nodes above the hole. -/
def length : TreePath ι → ℕ
  | top => 0
  | left _ _ _ up => up.length + 1
  | right _ _ _ up => up.length + 1

@[simp, grind =] lemma parent_top : (top : TreePath ι).parent = none := rfl

@[simp, grind =] lemma parent_left (c : Color) (x : ι) (r : ColorTree ι) (up : TreePath ι) :
    (left c x r up).parent = some x := rfl

@[simp, grind =] lemma parent_right (c : Color) (l : ColorTree ι) (x : ι) (up : TreePath ι) :
    (right c l x up).parent = some x := rfl

@[simp] lemma fill_top (t : ColorTree ι) : (top : TreePath ι).fill t = t := rfl

@[simp] lemma fill_left (c : Color) (x : ι) (r : ColorTree ι) (up : TreePath ι) (t : ColorTree ι) :
    (left c x r up).fill t = up.fill (.node c t x r) := rfl

@[simp] lemma fill_right (c : Color) (l : ColorTree ι) (x : ι) (up : TreePath ι)
    (t : ColorTree ι) : (right c l x up).fill t = up.fill (.node c l x t) := rfl

@[simp, grind =] lemma before_top : (top : TreePath ι).before = [] := rfl

@[simp, grind =] lemma before_left (c : Color) (x : ι) (r : ColorTree ι) (up : TreePath ι) :
    (left c x r up).before = up.before := rfl

@[simp, grind =] lemma before_right (c : Color) (l : ColorTree ι) (x : ι) (up : TreePath ι) :
    (right c l x up).before = up.before ++ (l.toList ++ [x]) := rfl

@[simp, grind =] lemma after_top : (top : TreePath ι).after = [] := rfl

@[simp, grind =] lemma after_left (c : Color) (x : ι) (r : ColorTree ι) (up : TreePath ι) :
    (left c x r up).after = x :: (r.toList ++ up.after) := rfl

@[simp, grind =] lemma after_right (c : Color) (l : ColorTree ι) (x : ι) (up : TreePath ι) :
    (right c l x up).after = up.after := rfl

/-- The in-order list of a filled context. -/
@[simp] lemma toList_fill (P : TreePath ι) (t : ColorTree ι) :
    (P.fill t).toList = P.before ++ t.toList ++ P.after := by
  induction P generalizing t with
  | top => simp
  | left c x r up ih => simp [ih]
  | right c l x up ih => simp [ih]

/-- A context is no deeper than the number of labels it holds. -/
lemma length_le (P : TreePath ι) : P.length ≤ P.before.length + P.after.length := by
  induction P with
  | top => simp [length]
  | left c x r up ih => simp only [length, before_left, after_left, List.length_cons,
      List.length_append]; omega
  | right c l x up ih => simp only [length, before_right, after_right, List.length_cons,
      List.length_append, List.length_nil]; omega

@[simp] lemma fill_append (Q P : TreePath ι) (t : ColorTree ι) :
    (Q.append P).fill t = P.fill (Q.fill t) := by
  induction Q generalizing t with
  | top => rfl
  | left c x r up ih => exact ih _
  | right c l x up ih => exact ih _

@[simp] lemma before_append (Q P : TreePath ι) : (Q.append P).before = P.before ++ Q.before := by
  induction Q with
  | top => simp [append]
  | left c x r up ih => simpa [append] using ih
  | right c l x up ih => simp [append, ih]

@[simp] lemma after_append (Q P : TreePath ι) : (Q.append P).after = Q.after ++ P.after := by
  induction Q with
  | top => simp [append]
  | left c x r up ih => simp [append, ih]
  | right c l x up ih => simpa [append] using ih

/-- The parent of the hole is one of the labels of the context. -/
lemma mem_of_parent {P : TreePath ι} {x : ι} (h : P.parent = some x) :
    x ∈ P.before ++ P.after := by
  cases P <;> simp_all

/-- A context without a parent is the trivial one. -/
lemma eq_top_of_parent {P : TreePath ι} (h : P.parent = none) : P = top := by
  cases P <;> simp_all

/-- The hole expects a subtree of colour `c` and black height `n`. -/
inductive Balanced : TreePath ι → Color → ℕ → Prop
  | top {n : ℕ} : Balanced top .black n
  | redLeft {x : ι} {r : ColorTree ι} {up : TreePath ι} {n : ℕ} :
      r.Balanced .black n → Balanced up .red n → Balanced (left .red x r up) .black n
  | redRight {l : ColorTree ι} {x : ι} {up : TreePath ι} {n : ℕ} :
      l.Balanced .black n → Balanced up .red n → Balanced (right .red l x up) .black n
  | blackLeft {x : ι} {r : ColorTree ι} {up : TreePath ι} {c c' : Color} {n : ℕ} :
      r.Balanced c' n → Balanced up .black (n + 1) → Balanced (left .black x r up) c n
  | blackRight {l : ColorTree ι} {x : ι} {up : TreePath ι} {c c' : Color} {n : ℕ} :
      l.Balanced c' n → Balanced up .black (n + 1) → Balanced (right .black l x up) c n

/-- Exchanging the outer part of a context for one that expects the same subtrees. -/
lemma Balanced.append {Q P P' : TreePath ι} {c : Color} {n : ℕ} (h : (Q.append P).Balanced c n)
    (hP : ∀ c n, P.Balanced c n → P'.Balanced c n) : (Q.append P').Balanced c n := by
  induction Q generalizing c n with
  | top => exact hP c n h
  | left c x r up ih =>
    cases h with
    | redLeft hr hup => exact .redLeft hr (ih hup)
    | blackLeft hr hup => exact .blackLeft hr (ih hup)
  | right c l x up ih =>
    cases h with
    | redRight hl hup => exact .redRight hl (ih hup)
    | blackRight hl hup => exact .blackRight hl (ih hup)

/-- A hole that expects a red subtree also accepts a black one. -/
lemma Balanced.of_red {P : TreePath ι} {n : ℕ} (h : P.Balanced .red n) : P.Balanced .black n := by
  cases h with
  | blackLeft hr hup => exact .blackLeft hr hup
  | blackRight hl hup => exact .blackRight hl hup

/-- Filling a hole with a subtree of the expected kind gives a balanced tree with a black root. -/
lemma Balanced.fill {P : TreePath ι} {t : ColorTree ι} {c : Color} {n : ℕ}
    (hP : P.Balanced c n) (ht : t.Balanced c n) : ∃ m, (P.fill t).Balanced .black m := by
  induction hP generalizing t with
  | top => exact ⟨_, ht⟩
  | redLeft hr _ ih => exact ih (.red ht hr)
  | redRight hl _ ih => exact ih (.red hl ht)
  | blackLeft hr _ ih => exact ih (.black ht hr)
  | blackRight hl _ ih => exact ih (.black hl ht)

/-- Conversely, the hole of a balanced tree expects what fills it. -/
lemma Balanced.of_fill {P : TreePath ι} {t : ColorTree ι} {m : ℕ}
    (h : (P.fill t).Balanced .black m) : ∃ c n, P.Balanced c n ∧ t.Balanced c n := by
  induction P generalizing t with
  | top => exact ⟨_, _, .top, h⟩
  | left c x r up ih =>
    obtain ⟨c', n, hup, hnode⟩ := ih h
    cases hnode with
    | red hl hr => exact ⟨_, _, .redLeft hr hup, hl⟩
    | black hl hr => exact ⟨_, _, .blackLeft hr hup, hl⟩
  | right c l x up ih =>
    obtain ⟨c', n, hup, hnode⟩ := ih h
    cases hnode with
    | red hl hr => exact ⟨_, _, .redRight hl hup, hr⟩
    | black hl hr => exact ⟨_, _, .blackRight hl hup, hr⟩

/-- Below a proper context the root does not depend on what fills the hole. -/
lemma root_fill {P : TreePath ι} (hP : P ≠ top) (s s' : ColorTree ι) :
    (P.fill s).root = (P.fill s').root := by
  induction P generalizing s s' with
  | top => exact absurd rfl hP
  | left c x r up ih =>
    by_cases hup : up = top
    · subst hup; rfl
    · exact ih hup _ _
  | right c l x up ih =>
    by_cases hup : up = top
    · subst hup; rfl
    · exact ih hup _ _

/-- The label after a leftmost hole is its parent. -/
lemma head?_after {P : TreePath ι} (h : P.before = []) : P.after.head? = P.parent := by
  cases P <;> simp_all

/-- A tree can be cut open at each of its labels. -/
lemma exists_fill {t : ColorTree ι} {x : ι} (h : x ∈ t.toList) :
    ∃ (P : TreePath ι) (c : Color) (l r : ColorTree ι), t = P.fill (.node c l x r) := by
  induction t with
  | nil => simp at h
  | node c l y r ihl ihr =>
    rcases List.mem_append.mp h with hl | hr
    · obtain ⟨P, c', l', r', rfl⟩ := ihl hl
      exact ⟨P.append (.left c y r .top), c', l', r', by simp⟩
    · rcases List.mem_cons.mp hr with rfl | hr
      · exact ⟨.top, c, l, r, rfl⟩
      · obtain ⟨P, c', l', r', rfl⟩ := ihr hr
        exact ⟨P.append (.right c l y .top), c', l', r', by simp⟩

end TreePath

/-! ## Search paths -/

namespace ColorTree

variable {ι : Type u}

/-- The context reached from `P` by walking down `t` to an empty subtree, going right at the labels
where `d` holds and left at the others. -/
def descend (d : ι → Bool) : ColorTree ι → TreePath ι → TreePath ι
  | nil, P => P
  | node c l x r, P =>
    if d x then r.descend d (.right c l x P) else l.descend d (.left c x r P)

/-- Filling the end of a search path with the empty tree restores the tree that was searched. -/
@[simp] lemma fill_descend (d : ι → Bool) (t : ColorTree ι) (P : TreePath ι) :
    (t.descend d P).fill nil = P.fill t := by
  induction t generalizing P with
  | nil => rfl
  | node c l x r ihl ihr =>
    rw [descend]
    split
    · rw [ihr, TreePath.fill_right]
    · rw [ihl, TreePath.fill_left]

/-- When the labels where `d` holds come first, a search path separates them from the others. -/
lemma before_after_descend {d : ι → Bool} {t : ColorTree ι} {P : TreePath ι}
    (h : t.toList.Pairwise fun x y => d y → d x) :
    (t.descend d P).before = P.before ++ t.toList.filter d ∧
      (t.descend d P).after = t.toList.filter (fun x => !d x) ++ P.after := by
  induction t generalizing P with
  | nil => simp [descend]
  | node c l x r ihl ihr =>
    simp only [toList_node, List.pairwise_append, List.pairwise_cons, List.mem_cons] at h
    obtain ⟨hl, ⟨hx, hr⟩, hlr⟩ := h
    rw [descend]
    split
    · rename_i hdx
      have hall : ∀ y ∈ l.toList, d y := fun y hy => hlr y hy x (Or.inl rfl) hdx
      have hnone : l.toList.filter (fun y => !d y) = [] :=
        List.filter_eq_nil_iff.mpr fun y hy => by simp [hall y hy]
      obtain ⟨h1, h2⟩ := ihr (P := .right c l x P) hr
      rw [h1, h2]
      simp [hdx, List.filter_eq_self.mpr hall, hnone]
    · rename_i hdx
      have hall : ∀ y ∈ r.toList, d y = false := fun y hy => by
        simpa using fun h => hdx (hx y hy h)
      have hself : r.toList.filter (fun y => !d y) = r.toList :=
        List.filter_eq_self.mpr fun y hy => by simp [hall y hy]
      have hnone : r.toList.filter d = [] :=
        List.filter_eq_nil_iff.mpr fun y hy => by simp [hall y hy]
      obtain ⟨h1, h2⟩ := ihl (P := .left c x r P) hl
      rw [h1, h2]
      simp [hdx, hself, hnone]

end ColorTree

end Hikey
