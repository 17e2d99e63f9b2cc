import Hikey.Foundation.Bytes
import Hikey.Foundation.ColorTree

/-!
# The intrusive red-black tree library (`core/util/rbtree.c`, `include/lib/rbtree.h`)

Nodes are linked by pointers.  `ι` is the type of node addresses and `RbIdx ι = Option ι` the type
`rb_idx_t`, with `none` standing for `&tree->root`, the sentinel that every tree carries and that
`RB_NULL` denotes.  A tree is the memory of all nodes, the sentinel included: the sentinel's `left`
is the root of the tree, its `right` is the client's cached node and its `color` word holds client
data above a black colour bit.

The least significant bit of a colour word is the colour (`1` is red), the upper 31 bits belong to
the client.

Loops run on a fuel argument and return `none` when it does not suffice; the specifications give
the amount of fuel that always does.
-/

namespace Hikey

universe u

/-- `rb_idx_t`: the address of a node, `none` being the sentinel of the tree. -/
abbrev RbIdx (ι : Type u) := Option ι

/-- `rb_node_t`. -/
structure RbNode (ι : Type u) where
  parent : RbIdx ι
  left : RbIdx ι
  right : RbIdx ι
  color : U32
  deriving DecidableEq

/-- `rb_tree_t` together with the memory of the nodes. -/
abbrev RbTree (ι : Type u) := RbIdx ι → RbNode ι

namespace RbTree

variable {ι : Type u} [DecidableEq ι]

/-! ## Accessors -/

/-- Rewrite one node of the memory. -/
def modify (t : RbTree ι) (n : RbIdx ι) (f : RbNode ι → RbNode ι) : RbTree ι :=
  fun i => if i = n then f (t i) else t i

/-- `RB_IS_BLACK`. -/
def isBlack (t : RbTree ι) (n : RbIdx ι) : Bool := (t n).color &&& 1#32 == 0#32

/-- `rb_node_data`: the client's 31 bits of the colour word. -/
def nodeData (t : RbTree ι) (n : RbIdx ι) : U32 := (t n).color >>> 1

/-- `RB_SET_P`. -/
def setP (t : RbTree ι) (n p : RbIdx ι) : RbTree ι := t.modify n fun m => { m with parent := p }

/-- `RB_SET_L`, `rb_set_left`. -/
def setL (t : RbTree ι) (n l : RbIdx ι) : RbTree ι := t.modify n fun m => { m with left := l }

/-- `RB_SET_R`, `rb_set_right`. -/
def setR (t : RbTree ι) (n r : RbIdx ι) : RbTree ι := t.modify n fun m => { m with right := r }

/-- The colour word itself; client code writes it. -/
def setColor (t : RbTree ι) (n : RbIdx ι) (c : U32) : RbTree ι :=
  t.modify n fun m => { m with color := c }

/-- `RB_SET_C_RB_BLK`. -/
def setBlk (t : RbTree ι) (n : RbIdx ι) : RbTree ι :=
  t.modify n fun m => { m with color := m.color &&& ~~~1#32 }

/-- `RB_SET_C_RB_RED`. -/
def setRed (t : RbTree ι) (n : RbIdx ι) : RbTree ι :=
  t.modify n fun m => { m with color := m.color ||| 1#32 }

/-- `RB_ROOT`, `rb_root`. -/
def rbRoot (t : RbTree ι) : RbIdx ι := (t none).left

/-- `RB_SET_ROOT`. -/
def setRoot (t : RbTree ι) (n : RbIdx ι) : RbTree ι := t.setL none n

/-- `rb_cache`. -/
def rbCache (t : RbTree ι) : RbIdx ι := (t none).right

/-- `rb_set_cache`. -/
def setCache (t : RbTree ι) (n : RbIdx ι) : RbTree ι := t.setR none n

/-- `rb_init`: only the colour bit of the sentinel's colour word is written. -/
def rbInit (t : RbTree ι) : RbTree ι :=
  (((t.setP none none).setL none none).setR none none).setBlk none

/-- Make `n` the child of `g` in place of `o`; the tests shared by `case5_xx`, `case2_x`, `case6_x`,
`adjust_parent` and `rb_replace`. -/
def replaceChild (t : RbTree ι) (g o n : RbIdx ι) : RbTree ι :=
  if g = none then t.setRoot n
  else if o = (t g).left then t.setL g n
  else t.setR g n

/-! ## `rb_insert` -/

/-- `case4_rl`: `n` is the right child of `p`, `p` the left child of `g`, `gg` the parent of `g`. -/
def insertCase4rl (t : RbTree ι) (n p g gg : RbIdx ι) : RbTree ι :=
  let cl := (t n).left
  let cr := (t n).right
  let t := (((t.setP n gg).setL n p).setR n g).setBlk n
  let t := (t.setP p n).setR p cl
  let t := t.setP cl p
  let t := ((t.setP g n).setL g cr).setRed g
  t.setP cr g

/-- `case4_lr`: the mirror image. -/
def insertCase4lr (t : RbTree ι) (n p g gg : RbIdx ι) : RbTree ι :=
  let cl := (t n).left
  let cr := (t n).right
  let t := (((t.setP n gg).setL n g).setR n p).setBlk n
  let t := (t.setP p n).setL p cr
  let t := t.setP cr p
  let t := ((t.setP g n).setR g cl).setRed g
  t.setP cl g

/-- `case5_ll`: `p` is the left child of `g`; it takes the place of `g`. -/
def insertCase5ll (t : RbTree ι) (p g gg : RbIdx ι) : RbTree ι :=
  let cr := (t p).right
  let t := ((t.setP g p).setL g cr).setRed g
  let t := t.setP cr g
  ((t.setP p gg).setR p g).setBlk p

/-- `case5_rr`: the mirror image. -/
def insertCase5rr (t : RbTree ι) (p g gg : RbIdx ι) : RbTree ι :=
  let cl := (t p).left
  let t := ((t.setP g p).setR g cl).setRed g
  let t := t.setP cl g
  ((t.setP p gg).setL p g).setBlk p

/-- `case3`: `p` and its sibling `u` become black, their parent `g` red. -/
def insertCase3 (t : RbTree ι) (p u g : RbIdx ι) : RbTree ι := ((t.setBlk p).setBlk u).setRed g

/-- `__rb_insert_balance`. -/
def rbInsertBalance : ℕ → RbTree ι → RbIdx ι → RbIdx ι → Option (RbTree ι)
  | 0, _, _, _ => none
  | fuel + 1, t, n, p =>
    if p = none then some ((t.setBlk n).setRoot n)
    else if t.isBlack p then some t
    else
      let g := (t p).parent
      let u := if p = (t g).left then (t g).right else (t g).left
      if !t.isBlack u then
        let t := insertCase3 t p u g
        rbInsertBalance fuel t g (t g).parent
      else
        let gg := (t g).parent
        if p = (t g).left then
          if n = (t p).left then some ((insertCase5ll t p g gg).replaceChild gg g p)
          else some ((insertCase4rl t n p g gg).replaceChild gg g n)
        else
          if n = (t p).right then some ((insertCase5rr t p g gg).replaceChild gg g p)
          else some ((insertCase4lr t n p g gg).replaceChild gg g n)

/-- `rb_insert`: the caller has made `n` a child of `p` already. -/
def rbInsert (fuel : ℕ) (t : RbTree ι) (n p : RbIdx ι) : Option (RbTree ι) :=
  if p = none then
    some (((((t.setP n p).setL n p).setR n p).setBlk n).setRoot n)
  else
    rbInsertBalance fuel ((((t.setP n p).setL n none).setR n none).setRed n) n p

/-! ## `rb_delete` -/

/-- `case2_l`: the red sibling `s`, right child of `p`, takes the place of `p`. -/
def deleteCase2l (t : RbTree ι) (p s g : RbIdx ι) : RbTree ι :=
  let c := (t s).left
  let t := ((t.setP s g).setL s p).setBlk s
  let t := ((t.setP p s).setR p c).setRed p
  t.setP c p

/-- `case2_r`: the mirror image. -/
def deleteCase2r (t : RbTree ι) (p s g : RbIdx ι) : RbTree ι :=
  let c := (t s).right
  let t := ((t.setP s g).setR s p).setBlk s
  let t := ((t.setP p s).setL p c).setRed p
  t.setP c p

/-- `case5_l`: `sl`, the red left child of the right sibling `s`, takes the place of `p`. -/
def deleteCase5l (t : RbTree ι) (p s sl g : RbIdx ι) : RbTree ι :=
  let cl := (t sl).left
  let cr := (t sl).right
  let black := t.isBlack p
  let t := ((t.setP sl g).setL sl p).setR sl s
  let t := if black then t.setBlk sl else t.setRed sl
  let t := ((t.setP p sl).setR p cl).setBlk p
  let t := t.setP cl p
  let t := (t.setP s sl).setL s cr
  t.setP cr s

/-- `case5_r`: the mirror image. -/
def deleteCase5r (t : RbTree ι) (p s sr g : RbIdx ι) : RbTree ι :=
  let cl := (t sr).left
  let cr := (t sr).right
  let black := t.isBlack p
  let t := ((t.setP sr g).setL sr s).setR sr p
  let t := if black then t.setBlk sr else t.setRed sr
  let t := ((t.setP p sr).setL p cr).setBlk p
  let t := t.setP cr p
  let t := (t.setP s sr).setR s cl
  t.setP cl s

/-- `case6_l`: the right sibling `s`, whose right child `sr` is red, takes the place of `p`. -/
def deleteCase6l (t : RbTree ι) (p s sl sr g : RbIdx ι) : RbTree ι :=
  let black := t.isBlack p
  let t := (t.setP s g).setL s p
  let t := if black then t else t.setRed s
  let t := ((t.setP p s).setR p sl).setBlk p
  let t := t.setP sl p
  t.setBlk sr

/-- `case6_r`: the mirror image. -/
def deleteCase6r (t : RbTree ι) (p s sl sr g : RbIdx ι) : RbTree ι :=
  let black := t.isBlack p
  let t := (t.setP s g).setR s p
  let t := if black then t else t.setRed s
  let t := ((t.setP p s).setL p sr).setBlk p
  let t := t.setP sr p
  t.setBlk sl

/-- The outcome of one round of `__rb_delete_rebalance`: finished, or `goto rebalance` with `n`
and `p` moved one level up (`case3`). -/
inductive DeleteRound (ι : Type u)
  | done (t : RbTree ι)
  | up (t : RbTree ι)

/-- `test3_l` and the cases it selects; `n` is the left child of `p`, the sibling `s` is black. -/
def deleteTest3l (t : RbTree ι) (p s g : RbIdx ι) : DeleteRound ι :=
  let sl := (t s).left
  let sr := (t s).right
  if !t.isBlack sr then .done ((deleteCase6l t p s sl sr g).replaceChild g p s)
  else if !t.isBlack sl then .done ((deleteCase5l t p s sl g).replaceChild g p sl)
  else if t.isBlack p then .up (t.setRed s)
  else .done ((t.setRed s).setBlk p)

/-- `test3_r` and the cases it selects. -/
def deleteTest3r (t : RbTree ι) (p s g : RbIdx ι) : DeleteRound ι :=
  let sl := (t s).left
  let sr := (t s).right
  if !t.isBlack sl then .done ((deleteCase6r t p s sl sr g).replaceChild g p s)
  else if !t.isBlack sr then .done ((deleteCase5r t p s sr g).replaceChild g p sr)
  else if t.isBlack p then .up (t.setRed s)
  else .done ((t.setRed s).setBlk p)

/-- One round of `__rb_delete_rebalance` for the child `n` of `p`. -/
def deleteRound (t : RbTree ι) (n p : RbIdx ι) : DeleteRound ι :=
  let g := (t p).parent
  if n = (t p).left then
    let s := (t p).right
    if t.isBlack s then deleteTest3l t p s g
    else
      let c := (t s).left
      let t := (deleteCase2l t p s g).replaceChild g p s
      if n = (t p).left then deleteTest3l t p c s else deleteTest3r t p c s
  else
    let s := (t p).left
    if t.isBlack s then deleteTest3r t p s g
    else
      let c := (t s).right
      let t := (deleteCase2r t p s g).replaceChild g p s
      if n = (t p).left then deleteTest3l t p c s else deleteTest3r t p c s

/-- `__rb_delete_rebalance`. -/
def rbDeleteRebalance : ℕ → RbTree ι → RbIdx ι → RbIdx ι → Option (RbTree ι)
  | 0, _, _, _ => none
  | fuel + 1, t, n, p =>
    match deleteRound t n p with
    | .done t => some t
    | .up t =>
      if (t p).parent = none then some t else rbDeleteRebalance fuel t p (t p).parent

/-- Follow the right links from `m` to the last node. -/
def rbRightmost : ℕ → RbTree ι → RbIdx ι → Option (RbIdx ι)
  | 0, _, _ => none
  | fuel + 1, t, m => if (t m).right = none then some m else rbRightmost fuel t (t m).right

/-- Follow the left links from `m` to the first node. -/
def rbLeftmost : ℕ → RbTree ι → RbIdx ι → Option (RbIdx ι)
  | 0, _, _ => none
  | fuel + 1, t, m => if (t m).left = none then some m else rbLeftmost fuel t (t m).left

/-- The last part of `rb_delete`: `adjust_parent` and the repair of the black height.  `o` is the
removed node, `p` its parent, `m` its replacement, `black` whether the vanished position was black,
`c` the subtree that moved up there and `par` its parent. -/
def deleteAdjust (fuel : ℕ) (t : RbTree ι) (o p m : RbIdx ι) (black : Bool) (c par : RbIdx ι) :
    Option (RbTree ι) :=
  let t := t.replaceChild p o m
  if black then
    if c = none then rbDeleteRebalance fuel t none par else some (t.setBlk c)
  else some t

/-- "Replace node N with M" of `rb_delete`: `m` is an in-order neighbour below `n` and `c` its only
child; the result is the memory and the parent of `c`. -/
def deleteReplace (t : RbTree ι) (n m c : RbIdx ι) : RbTree ι × RbIdx ι :=
  let p := (t n).parent
  let l := (t n).left
  let r := (t n).right
  let par := (t m).parent
  let black := t.isBlack n
  let res : RbTree ι × RbIdx ι :=
    if par ≠ n then
      let t := if c = (t m).left then t.setR par c else t.setL par c
      let t := t.setP c par
      let t := ((t.setP m p).setL m l).setR m r
      ((t.setP l m).setP r m, par)
    else if m = l then (((t.setP m p).setR m r).setP r m, m)
    else (((t.setP m p).setL m l).setP l m, m)
  (if black then res.1.setBlk m else res.1.setRed m, res.2)

/-- `rb_delete`: the tree without `n`, and the node that the caller may use as the new head. -/
def rbDelete (fuel : ℕ) (t : RbTree ι) (n : RbIdx ι) : Option (RbTree ι × RbIdx ι) :=
  let p := (t n).parent
  if (t n).left ≠ none then do
    let m ← rbRightmost fuel t (t n).left
    let c := (t m).left
    let (t', par) := deleteReplace t n m c
    let t'' ← deleteAdjust fuel t' n p m (t.isBlack m) c par
    pure (t'', m)
  else if (t n).right ≠ none then do
    let m ← rbLeftmost fuel t (t n).right
    let c := (t m).right
    let (t', par) := deleteReplace t n m c
    let t'' ← deleteAdjust fuel t' n p m (t.isBlack m) c par
    pure (t'', m)
  else if p = none then some (t.setRoot none, none)
  else do
    let t' ← deleteAdjust fuel t n p none (t.isBlack n) none p
    pure (t', p)

/-- `rb_replace`: put `n'` in the place of `n`. -/
def rbReplace (t : RbTree ι) (n n' : RbIdx ι) : RbTree ι :=
  let p := (t n).parent
  let l := (t n).left
  let r := (t n).right
  let black := t.isBlack n
  let t := ((t.setP n' p).setL n' l).setR n' r
  let t := if black then t.setBlk n' else t.setRed n'
  let t := t.replaceChild p n n'
  (t.setP l n').setP r n'

end RbTree

end Hikey
