import Hikey.RbTree.Ordered

/-!
# The entry points of the red-black tree library

What `rb_insert`, `rb_delete` and `rb_replace` promise their callers, for nodes of any type of
addresses and any amount of fuel that covers the tree.
-/

namespace Hikey

universe u

namespace RbTree

variable {ι : Type u} [DecidableEq ι] {t t' : RbTree ι} {T : ColorTree ι} {xs ys : List ι}

/-- The memory `t'` holds a well-formed tree with the in-order list `ys`; the client's part of every
colour word, the colour word of the sentinel and the cached node are those of `t`. -/
structure Updated (t t' : RbTree ι) (ys : List ι) : Prop where
  holds : Holds t' ys
  data : ∀ i, t'.nodeData i = t.nodeData i
  null : (t' none).color = (t none).color
  cache : t'.rbCache = t.rbCache

omit [DecidableEq ι] in
lemma Frame.updated (h : Frame xs t t') (hholds : Holds t' ys) : Updated t t' ys :=
  ⟨hholds, h.data, h.null, h.cache⟩

/-- Insertion of a new node at a free child slot whose parent has been linked to it, deletion of any
node, and replacement of any node by a fresh one: the tree stays well formed and its in-order list
differs by that node only.  When the first node is deleted, its successor is returned. -/
theorem rbTree_operations (h : WellFormed t T) :
    (∀ P x fuel, T = TreePath.fill P .nil → x ∉ T.toList → T.toList.length < fuel →
      T.toList = P.before ++ P.after ∧
        ∃ t', rbInsert fuel (t.attach P (some x)) (some x) P.parent = some t' ∧
          Updated t t' (P.before ++ x :: P.after)) ∧
    (∀ n fuel, n ∈ T.toList → T.toList.length ≤ fuel →
      ∃ t' k, rbDelete fuel t (some n) = some (t', k) ∧ Updated t t' (T.toList.erase n) ∧
        ∀ rest, T.toList = n :: rest → k = rest.head?) ∧
    ∀ as n bs m, T.toList = as ++ n :: bs → m ∉ T.toList →
      Updated t (t.rbReplace (some n) (some m)) (as ++ m :: bs) := by
  refine ⟨?_, ?_, ?_⟩
  · rintro P x fuel rfl hx hfuel
    have hlist : (P.fill .nil).toList = P.before ++ P.after := by simp
    have hlen := TreePath.length_le P
    rw [hlist, List.length_append] at hfuel
    obtain ⟨t', T', hres, hwf, hxs, hf⟩ := rbInsert_spec h hx (by omega : P.length < fuel)
    exact ⟨hlist, t', hres, hf.updated ⟨T', hwf, hxs⟩⟩
  · intro n fuel hn hfuel
    obtain ⟨t', k, T', hres, hwf, hxs, hf, hhead⟩ := rbDelete_spec h hn hfuel
    exact ⟨t', k, hres, hf.updated ⟨T', hwf, hxs⟩, hhead⟩
  · intro as n bs m hlist hm
    have hholds : Holds t (as ++ n :: bs) := ⟨T, h, hlist⟩
    obtain ⟨hreplaced, hf⟩ := hholds.replace (hlist ▸ hm)
    exact hf.updated hreplaced

/-- A tree with the nodes `0` and `1`, the root being `0`. -/
def pairTree : RbTree ℕ
  | none => ⟨none, some 0, some 0, 6#32⟩
  | some 0 => ⟨none, none, some 1, 8#32⟩
  | some _ => ⟨some 0, none, none, 11#32⟩

/-- The first of two nodes is deleted, and the second one is the new head. -/
theorem rbTree_operations_pair : ∃ t' k, rbDelete 2 pairTree (some 0) = some (t', k) ∧
    Updated pairTree t' [1] ∧ k = some 1 := by
  have h : WellFormed pairTree (.node .black .nil 0 (.node .red .nil 1 .nil)) := by
    refine ⟨⟨?_, rfl, by decide, rfl⟩, _, .black .nil (.red .nil .nil)⟩
    refine ⟨⟨rfl, rfl, rfl, rfl⟩, trivial, ⟨rfl, rfl, rfl, rfl⟩, trivial, trivial⟩
  obtain ⟨t', k, hres, hup, hk⟩ := (rbTree_operations h).2.1 0 2 (by decide) (by decide)
  exact ⟨t', k, hres, hup, hk [1] rfl⟩

end RbTree

end Hikey
