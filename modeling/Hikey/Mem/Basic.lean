import Hikey.RbTree.Ordered

/-!
# The memory allocator (`core/xf-mem.c`)

A free block of memory starts with an `xf_mm_block_t`: a node of the block-length map `l_map`, whose
colour word carries the block length in its upper 31 bits, and 16 bytes further a node of the
block-address map `a_map`.  Both maps are kept here by block address, so `l_map` at `b` is the
memory of `b->l_node` and `a_map` at `b` that of `b->a_node`; the null pointer is the address `0`.

Blocks are placed at multiples of `sizeof(xf_mm_block_t) = 32`, so the node records of two blocks
never overlap.
-/

namespace Hikey

open RbTree (rbFuel)

/-- `xf_mm_pool_t`. -/
structure XfMmPool where
  addr : U32
  size : U32
  lMap : RbTree U32
  aMap : RbTree U32

/-- `sizeof(xf_mm_block_t)`. -/
def xfMmBlockSize : U32 := 32#32

/-- The address of `b->a_node`; the address map compares these biased pointers. -/
def xfMmANode (b : U32) : U32 := b + 16#32

/-! ## Block lengths -/

/-- `xf_mm_block_init`: the colour word is the length, so the colour bit is clear. -/
def xfMmBlockInit (lMap : RbTree U32) (b size : U32) : RbTree U32 := lMap.setColor (some b) size

/-- `xf_mm_block_length_less`: the colour bit is compared along. -/
def xfMmBlockLengthLess (lMap : RbTree U32) (b size : U32) : Bool := (lMap (some b)).color < size

/-- `xf_mm_block_length`. -/
def xfMmBlockLength (lMap : RbTree U32) (b : U32) : U32 := (lMap (some b)).color &&& ~~~1#32

/-- `xf_mm_block_length_add`: the memory, the new length being `xfMmBlockLength` of it. -/
def xfMmBlockLengthAdd (lMap : RbTree U32) (b size : U32) : RbTree U32 :=
  lMap.setColor (some b) ((lMap (some b)).color + size)

/-- `xf_mm_block_length_sub`. -/
def xfMmBlockLengthSub (lMap : RbTree U32) (b size : U32) : RbTree U32 :=
  lMap.setColor (some b) ((lMap (some b)).color - size)

/-! ## Searching the maps -/

/-- The first loop of `xf_mm_find_by_size`: go right until a block is long enough. -/
def xfMmFindLongEnough (lMap : RbTree U32) (size : U32) : ℕ → RbIdx U32 → Option (RbIdx U32)
  | 0, _ => none
  | _ + 1, none => some none
  | fuel + 1, some b =>
    if xfMmBlockLengthLess lMap b size then xfMmFindLongEnough lMap size fuel (lMap (some b)).right
    else some (some b)

/-- The second loop of `xf_mm_find_by_size`: look for a better match `t` than `p`. -/
def xfMmFindBetter (lMap : RbTree U32) (size : U32) : ℕ → U32 → RbIdx U32 → Option U32
  | 0, _, _ => none
  | _ + 1, p, none => some p
  | fuel + 1, p, some t =>
    if !xfMmBlockLengthLess lMap t size then
      xfMmFindBetter lMap size fuel t (lMap (some t)).left
    else xfMmFindBetter lMap size fuel p (lMap (some t)).right

/-- `xf_mm_find_by_size`: `none` inside the result is the null pointer. -/
def xfMmFindBySize (pool : XfMmPool) (size : U32) : Option (Option U32) := do
  match ← xfMmFindLongEnough pool.lMap size rbFuel pool.lMap.rbRoot with
  | none => pure none
  | some p => pure (some (← xfMmFindBetter pool.lMap size rbFuel p (pool.lMap (some p)).left))

/-- The loop of `xf_mm_find_by_addr`: the lower and the higher neighbour met so far. -/
def xfMmFindNeighbours (aMap : RbTree U32) (addr : U32) :
    ℕ → RbIdx U32 → Option U32 → Option U32 → Option (Option U32 × Option U32)
  | 0, _, _, _ => none
  | _ + 1, none, l, r => some (l, r)
  | fuel + 1, some p, l, r =>
    if xfMmANode p < addr then xfMmFindNeighbours aMap addr fuel (aMap (some p)).right (some p) r
    else xfMmFindNeighbours aMap addr fuel (aMap (some p)).left l (some p)

/-- `xf_mm_find_by_addr`: the two neighbours `n[0]` and `n[1]`, null when there is none. -/
def xfMmFindByAddr (pool : XfMmPool) (addr : U32) : Option (U32 × U32) := do
  let (l, r) ← xfMmFindNeighbours pool.aMap addr rbFuel pool.aMap.rbRoot none none
  pure (l.getD 0, r.getD 0)

/-- `xf_mm_insert_size`. -/
def xfMmInsertSize (pool : XfMmPool) (b size : U32) : Option XfMmPool := do
  let lMap ← pool.lMap.insertBy (fun p => xfMmBlockLengthLess pool.lMap p size) b
  pure { pool with lMap }

/-- `xf_mm_insert_addr`. -/
def xfMmInsertAddr (pool : XfMmPool) (b : U32) : Option XfMmPool := do
  let aMap ← pool.aMap.insertBy (fun p => xfMmANode p < b) b
  pure { pool with aMap }

/-- `rb_delete(&pool->l_map, &b->l_node)`. -/
def xfMmDeleteSize (pool : XfMmPool) (b : U32) : Option XfMmPool := do
  let (lMap, _) ← pool.lMap.rbDelete rbFuel (some b)
  pure { pool with lMap }

/-- `rb_delete(&pool->a_map, &b->a_node)`. -/
def xfMmDeleteAddr (pool : XfMmPool) (b : U32) : Option XfMmPool := do
  let (aMap, _) ← pool.aMap.rbDelete rbFuel (some b)
  pure { pool with aMap }

/-! ## Entry points -/

/-- `xf_mm_alloc`: the pool and the returned pointer. -/
def xfMmAlloc (pool : XfMmPool) (size : U32) : Option (XfMmPool × U32) := do
  match ← xfMmFindBySize pool size with
  | none => pure (pool, 0)
  | some b =>
    if b = 0 then pure (pool, 0)
    else
      let pool ← xfMmDeleteSize pool b
      let pool := { pool with lMap := xfMmBlockLengthSub pool.lMap b size }
      let size := xfMmBlockLength pool.lMap b
      if size = 0 then
        let pool ← xfMmDeleteAddr pool b
        pure (pool, b)
      else
        let pool ← xfMmInsertSize pool b size
        pure (pool, b + size)

/-- "Check if we can merge block to left neighbour": the pool, `n[0]`, the block and its size. -/
def xfMmMergeLeft (pool : XfMmPool) (n₀ addr size : U32) : Option (XfMmPool × U32 × U32 × U32) := do
  if n₀ ≠ 0 then
    if n₀ + xfMmBlockLength pool.lMap n₀ = addr then
      let pool ← xfMmDeleteSize pool n₀
      let pool := { pool with lMap := xfMmBlockLengthAdd pool.lMap n₀ size }
      pure (pool, n₀, n₀, xfMmBlockLength pool.lMap n₀)
    else pure (pool, 0, addr, size)
  else pure (pool, 0, addr, size)

/-- "Check if we can merge block to right neighbour": the pool, `n[1]` and the size of the block. -/
def xfMmMergeRight (pool : XfMmPool) (n₀ n₁ b size : U32) : Option (XfMmPool × U32 × U32) := do
  if n₁ ≠ 0 then
    if n₁ = b + size then
      let pool ← xfMmDeleteSize pool n₁
      let pool := { pool with
        lMap := xfMmBlockLengthAdd pool.lMap b (xfMmBlockLength pool.lMap n₁) }
      let size := xfMmBlockLength pool.lMap b
      if n₀ ≠ 0 then
        let pool ← xfMmDeleteAddr pool n₁
        pure (pool, n₁, size)
      else pure ({ pool with aMap := pool.aMap.rbReplace (some n₁) (some b) }, n₁, size)
    else pure (pool, 0, size)
  else pure (pool, 0, size)

/-- `xf_mm_free`. -/
def xfMmFree (pool : XfMmPool) (addr size : U32) : Option XfMmPool := do
  let pool := { pool with lMap := xfMmBlockInit pool.lMap addr size }
  let (n₀, n₁) ← xfMmFindByAddr pool addr
  let (pool, n₀, b, size) ← xfMmMergeLeft pool n₀ addr size
  let (pool, n₁, size) ← xfMmMergeRight pool n₀ n₁ b size
  let pool ← if n₀ = 0 ∧ n₁ = 0 then xfMmInsertAddr pool b else pure pool
  xfMmInsertSize pool b size

/-- `xf_mm_init`: `none` inside the result is `-EINVAL`. -/
def xfMmInit (pool : XfMmPool) (addr size : U32) : Option (Option XfMmPool) :=
  if addr &&& (xfMmBlockSize - 1) ≠ 0 then some none
  else if size &&& (xfMmBlockSize - 1) ≠ 0 then some none
  else do
    let pool := { addr, size, lMap := pool.lMap.rbInit, aMap := pool.aMap.rbInit }
    let pool ← xfMmFree pool addr size
    pure (some pool)

end Hikey
