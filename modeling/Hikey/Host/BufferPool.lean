import Hikey.Foundation.Align
import Hikey.Foundation.Run
import Hikey.Host.Accounted

/-!
# Pools of shared buffers (`proxy/xf-proxy.c`)

A pool is one block of shared memory that the DSP allocates, cut into buffers of one length, with a
structure of descriptors on the side.  The length of a buffer, that of the block and that of the
structure are computed in 32 bits.
-/

namespace Hikey

/-! ## The source -/

/-- The two kinds of host. -/
inductive XfHostAbi
  | ilp32
  | lp64
deriving DecidableEq

/-- The size of a pointer. -/
def XfHostAbi.ptr : XfHostAbi → ℕ
  | .ilp32 => 4
  | .lp64 => 8

/-- `offset_of(xf_pool_t, buffer)`: three pointers and two numbers. -/
def XfHostAbi.bufferOffset (abi : XfHostAbi) : ℕ := 3 * abi.ptr + 8

/-- `sizeof(xf_buffer_t)`: two pointers. -/
def XfHostAbi.bufferSize (abi : XfHostAbi) : ℕ := 2 * abi.ptr

/-- The argument of `xaf_malloc`, which is an `s32`. -/
def XfHostAbi.poolSize (abi : XfHostAbi) (number : U32) : U32 :=
  BitVec.ofNat 32 (abi.bufferOffset + number.toNat * abi.bufferSize)

/-- The buffers of a pool with their addresses; `number` and `length` are those of `xf_pool_t`.  C
says nothing about pointers beyond a block, so addresses do not wrap around. -/
structure XfBufferPool where
  links : XfPool
  address : ℕ → ℕ
  number : U32
  length : U32
  p : ℕ

/-- `XF_ALLOC`. -/
def xfAllocOpcode : U32 := 4

/-- `xf_proxy_buffer_alloc`; `dsp` is the buffer of the response to a request for some bytes, and
`none` is `NULL`. -/
def xfProxyBufferAlloc (env : XfCmdEnv) (dsp : U32 → Option ℕ) (length : U32) : Except ℤ ℕ :=
  let r := xfProxyCmdExec env
  if r < 0 then .error r
  else if env.opcode ≠ xfAllocOpcode then .error xfEBadFd
  else match dsp length with
    | none => .error xfENoMem
    | some p => .ok p

/-- `XF_PROXY_ALIGNMENT`. -/
def xfHostProxyAlignment : U32 := 64

/-- The aligned length of a buffer. -/
def xfPoolLength (length : U32) : U32 :=
  (length + xfHostProxyAlignment - 1) &&& ~~~(xfHostProxyAlignment - 1)

/-- The loop of `xf_pool_alloc` that sets the addresses and links of `number` buffers from the
buffer `b` on. -/
def xfPoolLineUp (length : ℕ) :
    ℕ → ℕ → ℕ → (ℕ → ℕ) × (ℕ → XfBufferLink) → (ℕ → ℕ) × (ℕ → XfBufferLink)
  | 0, _, _, buffer => buffer
  | number + 1, b, data, (address, link) =>
    xfPoolLineUp length number (b + 1) (data + length)
      (Function.update address b data, Function.update link b (.next (some (b + 1))))

/-- What becomes of `xf_pool_alloc`. -/
inductive XfPoolResult
  | error (r : ℤ)
  /-- The descriptors do not fit into the structure they are written to. -/
  | overflow
  | pool (p : XfBufferPool)

/-- `xf_pool_alloc`, with memory that holds `buffer`; `malloc` tells whether a structure of some
bytes is there, which it never is for a negative number of bytes. -/
def xfPoolAllocate (abi : XfHostAbi) (env : XfCmdEnv) (malloc : U32 → Bool) (dsp : U32 → Option ℕ)
    (buffer : (ℕ → ℕ) × (ℕ → XfBufferLink)) (number length : U32) : XfPoolResult :=
  if number = 0 then .error xfEInval
  else
    let length := xfPoolLength length
    let size := abi.poolSize number
    if !malloc size ∨ size.msb then .error xfENoMem
    else match xfProxyBufferAlloc env dsp (number * length) with
      | .error r => .error r
      | .ok p =>
        if size.toNat < abi.bufferOffset + number.toNat * abi.bufferSize then .overflow
        else
          let (address, link) := xfPoolLineUp length.toNat number.toNat 0 p buffer
          -- the last link is cut afterwards
          let link := Function.update link (number.toNat - 1) (.next none)
          .pool ⟨⟨number.toNat, some 0, link⟩, address, number, length, p⟩

/-- The length with which `xf_pool_free` gives the block back. -/
def xfPoolFreeLength (pool : XfBufferPool) : U32 := pool.length * pool.number

/-! ## Runs -/

/-- A pool and the buffers that are taken from it. -/
structure XfPoolRun where
  pool : XfBufferPool
  held : List ℕ

/-- A buffer is taken, or one that was taken is put back. -/
inductive XfPoolStep : XfPoolRun → XfPoolRun → Prop
  | get {s : XfPoolRun} {b : ℕ} {links : XfPool} :
      xfBufferGet s.pool.links = (some b, links) →
        XfPoolStep s ⟨{ s.pool with links := links }, b :: s.held⟩
  | empty {s : XfPoolRun} {links : XfPool} :
      xfBufferGet s.pool.links = (none, links) →
        XfPoolStep s ⟨{ s.pool with links := links }, s.held⟩
  | put {s : XfPoolRun} {b : ℕ} :
      b ∈ s.held → XfPoolStep s
        ⟨{ s.pool with links := xfBufferPut s.pool.links b }, s.held.erase b⟩

/-! ## What a pool is for -/

/-- The bytes of a buffer that was asked for with `length`. -/
def XfBufferPool.Byte (pool : XfBufferPool) (length : U32) (b x : ℕ) : Prop :=
  pool.address b ≤ x ∧ x < pool.address b + length.toNat

/-- The buffers lie apart in the block that was asked for, are handed out to one user at a time, and
the block is given back as it was asked for. -/
structure XfPoolExact (number length : U32) (s : XfPoolRun) : Prop where
  count : s.pool.number = number
  inside : ∀ b < number.toNat, ∀ x, s.pool.Byte length b x →
    s.pool.p ≤ x ∧ x < s.pool.p + (number * xfPoolLength length).toNat
  apart : ∀ b < number.toNat, ∀ c < number.toNat, ∀ x, s.pool.Byte length b x →
    s.pool.Byte length c x → b = c
  held : s.held.Nodup ∧ ∀ b ∈ s.held, b < number.toNat ∧ s.pool.links.link b = .pool
  get : ∀ b links, xfBufferGet s.pool.links = (some b, links) → b < number.toNat ∧ b ∉ s.held
  released : xfPoolFreeLength s.pool = number * xfPoolLength length

/-- Neither the length of a buffer nor that of the block nor that of the structure is too large for
its word. -/
def XfPoolFits (abi : XfHostAbi) (number length : U32) : Prop :=
  length.toNat ≤ 2 ^ 32 - 64 ∧ number.toNat * alignUp 64 length.toNat < 2 ^ 32 ∧
    abi.bufferOffset + number.toNat * abi.bufferSize < 2 ^ 31

/-! ## Lengths -/

lemma xfPoolLength_toNat (length : U32) :
    (xfPoolLength length).toNat = (length.toNat + 63) % 2 ^ 32 / 64 * 64 := by
  have hsum : (length + xfHostProxyAlignment - 1).toNat = (length.toNat + 63) % 2 ^ 32 := by
    rw [add_sub_assoc, BitVec.toNat_add]
    rfl
  rw [xfPoolLength, toNat_and_not_sub_one (k := 6) _ rfl, hsum]
  rfl

lemma xfPoolLength_eq {length : U32} (hlength : length.toNat ≤ 2 ^ 32 - 64) :
    (xfPoolLength length).toNat = alignUp 64 length.toNat := by
  rw [xfPoolLength_toNat, Nat.mod_eq_of_lt (by omega), alignUp]

/-- Near the end of the word the length of a buffer is rounded to 0. -/
lemma xfPoolLength_wraps {length : U32} (hlength : 2 ^ 32 - 64 < length.toNat) :
    (xfPoolLength length).toNat = 0 := by
  have hlt := length.isLt
  rw [xfPoolLength_toNat]
  omega

/-! ## The buffers of a new pool -/

/-- The loop puts the buffers behind each other and links each to the next. -/
lemma xfPoolLineUp_spec (length number b data : ℕ) (buffer : (ℕ → ℕ) × (ℕ → XfBufferLink)) :
    (∀ i, i < number → (xfPoolLineUp length number b data buffer).1 (b + i) = data + i * length ∧
      (xfPoolLineUp length number b data buffer).2 (b + i) = .next (some (b + i + 1))) ∧
    ∀ i < b, (xfPoolLineUp length number b data buffer).1 i = buffer.1 i ∧
      (xfPoolLineUp length number b data buffer).2 i = buffer.2 i := by
  induction number generalizing b data buffer with
  | zero => exact ⟨fun i hi => absurd hi (Nat.not_lt_zero i), fun i _ => ⟨rfl, rfl⟩⟩
  | succ number ih =>
    obtain ⟨address, link⟩ := buffer
    obtain ⟨hnew, hold⟩ := ih (b + 1) (data + length)
      (Function.update address b data, Function.update link b (.next (some (b + 1))))
    refine ⟨fun i hi => ?_, fun i hi => ?_⟩
    · cases i with
      | zero =>
        obtain ⟨haddress, hlink⟩ := hold b (Nat.lt_succ_self b)
        simp only [Function.update_self] at haddress hlink
        rw [xfPoolLineUp]
        exact ⟨by simpa using haddress, by simpa using hlink⟩
      | succ i =>
        obtain ⟨haddress, hlink⟩ := hnew i (by omega)
        have hi' : b + (i + 1) = b + 1 + i := by omega
        refine ⟨?_, ?_⟩
        · rw [xfPoolLineUp, hi', haddress, Nat.add_one_mul]
          omega
        · rw [xfPoolLineUp, hi', hlink]
    · obtain ⟨haddress, hlink⟩ := hold i (Nat.lt_succ_of_lt hi)
      simp only [Function.update_of_ne hi.ne] at haddress hlink
      exact ⟨haddress, hlink⟩

/-- What `xf_pool_alloc` says about a new pool. -/
structure XfPoolNew (number length : U32) (pool : XfBufferPool) : Prop where
  count : pool.number = number
  size : pool.length = xfPoolLength length
  address : ∀ b < number.toNat, pool.address b = pool.p + b * (xfPoolLength length).toNat
  free : pool.links.FreeList (List.range number.toNat)

/-- The links of a new pool are those of the model without memory. -/
lemma freeList_lineUp {number : ℕ} (hnumber : 0 < number) {link : ℕ → XfBufferLink}
    (hlink : ∀ i < number, link i = .next (some (i + 1))) :
    XfPool.FreeList ⟨number, some 0, Function.update link (number - 1) (.next none)⟩
      (List.range number) := by
  obtain ⟨k, rfl⟩ : ∃ k, number = k + 1 := ⟨number - 1, by omega⟩
  rw [List.range_eq_range']
  refine Chain.range' (fun j _ hj => ?_) ?_
  · have hne : j ≠ k := by omega
    simp only [XfPool.nextFree, Nat.add_sub_cancel, Function.update_of_ne hne, hlink j (by omega),
      XfBufferLink.nextFree_next]
  · simp only [XfPool.nextFree, Nat.add_sub_cancel, Nat.zero_add, Function.update_self,
      XfBufferLink.nextFree_next]

section Allocate

variable {abi : XfHostAbi} {env : XfCmdEnv} {malloc : U32 → Bool} {dsp : U32 → Option ℕ}
  {buffer : (ℕ → ℕ) × (ℕ → XfBufferLink)} {number length : U32} {pool : XfBufferPool}
    {s s' : XfPoolRun}

/-- A call that does not fail allocates the pool exactly if the size of the structure is a number of
its word. -/
lemma xfPoolAllocate_cases
    (hok : ∀ r, xfPoolAllocate abi env malloc dsp buffer number length ≠ .error r) :
    number ≠ 0 ∧
      ((2 ^ 31 ≤ abi.bufferOffset + number.toNat * abi.bufferSize ∧
        xfPoolAllocate abi env malloc dsp buffer number length = .overflow) ∨
      (abi.bufferOffset + number.toNat * abi.bufferSize < 2 ^ 31 ∧
        ∃ pool, xfPoolAllocate abi env malloc dsp buffer number length = .pool pool ∧
          XfPoolNew number length pool)) := by
  by_cases hnumber : number = 0
  · exact absurd (if_pos hnumber) (hok _)
  refine ⟨hnumber, ?_⟩
  have hpos : 0 < number.toNat := Nat.pos_of_ne_zero fun h => hnumber (BitVec.eq_of_toNat_eq h)
  simp only [xfPoolAllocate, hnumber, if_false] at hok ⊢
  split at hok
  · exact absurd rfl (hok _)
  rename_i hmalloc
  rw [if_neg hmalloc]
  have hmsb : (abi.poolSize number).toNat < 2 ^ 31 := by
    have hsign : (abi.poolSize number).msb = false := by
      cases hsign : (abi.poolSize number).msb with
      | false => rfl
      | true => exact absurd (.inr hsign) hmalloc
    have hlt := BitVec.msb_eq_false_iff_two_mul_lt.mp hsign
    omega
  have hsize : (abi.poolSize number).toNat =
      (abi.bufferOffset + number.toNat * abi.bufferSize) % 2 ^ 32 := BitVec.toNat_ofNat _ _
  generalize abi.bufferOffset + number.toNat * abi.bufferSize = size at hsize ⊢
  cases halloc : xfProxyBufferAlloc env dsp (number * xfPoolLength length) with
  | error r =>
    rw [halloc] at hok
    exact absurd rfl (hok r)
  | ok p =>
    by_cases hfits : size < 2 ^ 31
    · have hnot : ¬(abi.poolSize number).toNat < size := by omega
      simp only [hnot, if_false]
      refine .inr ⟨hfits, _, rfl, rfl, rfl, fun b hb => ?_, ?_⟩
      · have haddress :=
          ((xfPoolLineUp_spec (xfPoolLength length).toNat number.toNat 0 p buffer).1 b hb).1
        rwa [Nat.zero_add] at haddress
      · refine freeList_lineUp hpos fun i hi => ?_
        have hlink :=
          ((xfPoolLineUp_spec (xfPoolLength length).toNat number.toNat 0 p buffer).1 i hi).2
        rwa [Nat.zero_add] at hlink
    · have hover : (abi.poolSize number).toNat < size := by omega
      simp only [hover, if_true]
      exact .inl ⟨not_lt.mp hfits, trivial⟩

/-! ## The invariant of the runs -/

/-- Every buffer is free or taken, and a run does not touch the rest of the pool. -/
structure XfPoolInv (number length : U32) (s : XfPoolRun) : Prop where
  count : s.pool.number = number
  size : s.pool.length = xfPoolLength length
  address : ∀ b < number.toNat, s.pool.address b = s.pool.p + b * (xfPoolLength length).toNat
  free : ∃ l, s.pool.links.FreeList l ∧ (l ++ s.held).Perm (List.range number.toNat)
  owner : ∀ b ∈ s.held, s.pool.links.link b = .pool

lemma XfPoolNew.inv (hnew : XfPoolNew number length pool) : XfPoolInv number length ⟨pool, []⟩ :=
  ⟨hnew.count, hnew.size, hnew.address, ⟨_, hnew.free, by simp⟩, by simp⟩

/-- The head of the free buffers is marked as taken. -/
lemma xfBufferGet_link {p p' : XfPool} {b : ℕ} (hget : xfBufferGet p = (some b, p')) :
    p.free = some b ∧ p'.link = Function.update p.link b .pool := by
  unfold xfBufferGet at hget
  split at hget
  · rename_i c hfree
    obtain ⟨hb, rfl⟩ := Prod.mk.inj hget
    obtain rfl := Option.some.inj hb
    exact ⟨hfree, rfl⟩
  · cases (Prod.mk.inj hget).1

/-- The buffer that is taken is free, and not taken before. -/
lemma XfPoolInv.head (hinv : XfPoolInv number length s) {p' : XfPool} {b : ℕ}
    (hget : xfBufferGet s.pool.links = (some b, p')) :
    ∃ l, s.pool.links.FreeList (b :: l) ∧ (b :: l ++ s.held).Perm (List.range number.toNat) ∧
      b ∉ l ∧ b ∉ s.held := by
  obtain ⟨l, hl, hperm⟩ := hinv.free
  obtain ⟨hfree, -⟩ := xfBufferGet_link hget
  cases l with
  | nil => exact absurd (hfree.symm.trans hl) (by simp)
  | cons c l =>
    obtain rfl : b = c := Option.some.inj (hfree.symm.trans hl.1)
    have hnot := (List.nodup_cons.mp (hperm.nodup_iff.mpr List.nodup_range)).1
    exact ⟨l, hl, hperm, fun hmem => hnot (List.mem_append_left _ hmem),
      fun hmem => hnot (List.mem_append_right _ hmem)⟩

lemma XfPoolInv.step (hinv : XfPoolInv number length s) (hstep : XfPoolStep s s') :
    XfPoolInv number length s' := by
  obtain ⟨l, hl, hperm⟩ := hinv.free
  have hnodup : (l ++ s.held).Nodup := hperm.nodup_iff.mpr List.nodup_range
  cases hstep with
  | @get b links hget =>
    obtain ⟨-, hlink⟩ := xfBufferGet_link hget
    obtain ⟨l, hl, hperm, hb, hheld⟩ := hinv.head hget
    obtain ⟨links', hget', hl', -⟩ := XfPool.FreeList.get hl hb
    obtain rfl : links = links' := (Prod.mk.inj (hget.symm.trans hget')).2
    refine ⟨hinv.count, hinv.size, hinv.address, ⟨l, hl', List.perm_middle.trans hperm⟩,
      fun c hc => ?_⟩
    rw [hlink]
    rcases List.mem_cons.mp hc with rfl | hc
    · exact Function.update_self ..
    · have hne : c ≠ b := fun heq => hheld (heq ▸ hc)
      rw [Function.update_of_ne hne, hinv.owner c hc]
  | @empty links hget =>
    have hsame : links = s.pool.links := by
      unfold xfBufferGet at hget
      split at hget
      · cases (Prod.mk.inj hget).1
      · exact (Prod.mk.inj hget).2.symm
    subst hsame
    exact ⟨hinv.count, hinv.size, hinv.address, ⟨l, hl, hperm⟩, hinv.owner⟩
  | @put b hb =>
    have hnot : b ∉ l := fun hmem => (List.nodup_append'.mp hnodup).2.2 hmem hb
    refine ⟨hinv.count, hinv.size, hinv.address, ⟨b :: l, XfPool.FreeList.put hl hnot, ?_⟩,
      fun c hc => ?_⟩
    · exact perm_give hperm (List.perm_cons_erase hb)
    · have hne : c ≠ b := by
        rintro rfl
        exact (List.nodup_append'.mp hnodup).2.1.not_mem_erase hc
      have hother : (xfBufferPut s.pool.links b).link c = s.pool.links.link c := by
        simp only [xfBufferPut, Function.update_of_ne hne]
      exact hother.trans (hinv.owner c (List.mem_of_mem_erase hc))

/-- In the runs of a pool whose lengths fit their words the buffers are apart in the block. -/
lemma XfPoolInv.exact (hinv : XfPoolInv number length s) (hlength : length.toNat ≤ 2 ^ 32 - 64)
    (htotal : number.toNat * alignUp 64 length.toNat < 2 ^ 32) : XfPoolExact number length s := by
  obtain ⟨l, -, hperm⟩ := hinv.free
  have hnodup : (l ++ s.held).Nodup := hperm.nodup_iff.mpr List.nodup_range
  have heq := xfPoolLength_eq hlength
  have hle : length.toNat ≤ (xfPoolLength length).toNat := heq ▸ le_alignUp (by decide)
  have hrequest : (number * xfPoolLength length).toNat =
      number.toNat * (xfPoolLength length).toNat := by
    rw [BitVec.toNat_mul, heq, Nat.mod_eq_of_lt htotal]
  -- a buffer ends where the next one starts, or before
  have hnext (b c : ℕ) (hbc : b < c) :
      b * (xfPoolLength length).toNat + (xfPoolLength length).toNat ≤
        c * (xfPoolLength length).toNat := by
    rw [← Nat.succ_mul]
    exact Nat.mul_le_mul_right _ hbc
  refine ⟨hinv.count, fun b hb x hx => ?_, fun b hb c hc x hxb hxc => ?_,
    ⟨?_, fun b hb => ⟨?_, hinv.owner b hb⟩⟩,
    fun b links hget => ?_, ?_⟩
  · have haddress := hinv.address b hb
    have hlast := hnext b number.toNat hb
    obtain ⟨hlo, hhi⟩ := hx
    omega
  · have hb' := hinv.address b hb
    have hc' := hinv.address c hc
    obtain ⟨hlob, hhib⟩ := hxb
    obtain ⟨hloc, hhic⟩ := hxc
    rcases Nat.lt_trichotomy b c with hlt | heq' | hlt
    · have hstep := hnext b c hlt
      omega
    · exact heq'
    · have hstep := hnext c b hlt
      omega
  · exact (List.nodup_append'.mp hnodup).2.1
  · exact List.mem_range.mp (hperm.mem_iff.mp (List.mem_append_right l hb))
  · obtain ⟨l, -, hperm, -, hheld⟩ := hinv.head hget
    exact ⟨List.mem_range.mp (hperm.mem_iff.mp (List.mem_append_left _ List.mem_cons_self)), hheld⟩
  · rw [xfPoolFreeLength, hinv.size, hinv.count, BitVec.mul_comm]

/-- A new pool whose last buffer lies in the block has lengths that fit their words. -/
lemma XfPoolNew.fits (hnew : XfPoolNew number length pool) (hnumber : number ≠ 0)
    (hexact : XfPoolExact number length ⟨pool, []⟩) :
    length.toNat ≤ 2 ^ 32 - 64 ∧ number.toNat * alignUp 64 length.toNat < 2 ^ 32 := by
  have hpos : 0 < number.toNat := Nat.pos_of_ne_zero fun h => hnumber (BitVec.eq_of_toNat_eq h)
  by_cases hzero : length.toNat = 0
  · rw [hzero]
    have halign : alignUp 64 0 = 0 := rfl
    rw [halign]
    omega
  -- the last byte of the last buffer
  have hlast := hnew.address (number.toNat - 1) (by omega)
  have hbyte : pool.Byte length (number.toNat - 1)
      (pool.address (number.toNat - 1) + length.toNat - 1) :=
    ⟨by omega, by omega⟩
  obtain ⟨-, hhi⟩ := hexact.inside (number.toNat - 1) (by omega) _ hbyte
  have hend : (number.toNat - 1) * (xfPoolLength length).toNat + length.toNat ≤
      (number * xfPoolLength length).toNat := by
    simp only at hhi
    omega
  have hlength : length.toNat ≤ 2 ^ 32 - 64 := by
    by_contra hlarge
    have hwrap := xfPoolLength_wraps (not_le.mp hlarge)
    rw [BitVec.toNat_mul, hwrap, Nat.mul_zero, Nat.mul_zero] at hend
    omega
  refine ⟨hlength, ?_⟩
  have heq := xfPoolLength_eq hlength
  have hle := alignUp_le 64 length.toNat
  rw [BitVec.toNat_mul, heq] at hend
  obtain ⟨n, hn⟩ : ∃ n, number.toNat = n + 1 := ⟨number.toNat - 1, by omega⟩
  rw [hn, Nat.add_sub_cancel, Nat.add_one_mul] at hend
  rw [hn, Nat.add_one_mul]
  omega

/-- A pool that was allocated is what it is for in all its runs exactly if the lengths fit their
words. -/
theorem xfPool_exact_iff (abi : XfHostAbi) (env : XfCmdEnv) (malloc : U32 → Bool)
    (dsp : U32 → Option ℕ)
    (buffer : (ℕ → ℕ) × (ℕ → XfBufferLink)) (number length : U32)
    (hok : ∀ r, xfPoolAllocate abi env malloc dsp buffer number length ≠ .error r) :
    (∃ pool, xfPoolAllocate abi env malloc dsp buffer number length = .pool pool ∧
      ∀ s, Relation.ReflTransGen XfPoolStep ⟨pool, []⟩ s → XfPoolExact number length s) ↔
      XfPoolFits abi number length := by
  obtain ⟨hnumber, ⟨hlarge, hover⟩ | ⟨hsize, pool, hpool, hnew⟩⟩ := xfPoolAllocate_cases hok
  · constructor
    · rintro ⟨pool, hpool, -⟩
      cases hover.symm.trans hpool
    · rintro ⟨-, -, hsize⟩
      omega
  · constructor
    · rintro ⟨pool', hpool', hexact⟩
      obtain rfl : pool = pool' := XfPoolResult.pool.inj (hpool.symm.trans hpool')
      obtain ⟨hlength, htotal⟩ := hnew.fits hnumber (hexact _ .refl)
      exact ⟨hlength, htotal, hsize⟩
    · rintro ⟨hlength, htotal, -⟩
      refine ⟨pool, hpool, fun s hrun => ?_⟩
      exact (run_invariant (XfPoolInv number length) (fun _ _ hinv hstep => hinv.step hstep)
        hnew.inv hrun).exact
        hlength htotal

end Allocate

/-- A new pool of the 64-bit host, when everything succeeds. -/
def allocatedPool (number length : U32) : XfPoolResult :=
  xfPoolAllocate .lp64 (okCmd xfAllocOpcode) (fun _ => true) (fun _ => some 0x1000)
    (fun _ => 0, fun _ => .pool) number length

lemma allocatedPool_two (length : U32) (r : ℤ) : allocatedPool 2 length ≠ .error r := by
  intro h
  cases h

/-- Two buffers of 2 GiB and 64 bytes are asked for as a block of 128 bytes. -/
theorem xfPool_two_fails :
    (2 * xfPoolLength 0x80000040 = 128) ∧
      ¬∀ (abi : XfHostAbi) (env : XfCmdEnv) (malloc : U32 → Bool) (dsp : U32 → Option ℕ)
        (buffer : (ℕ → ℕ) × (ℕ → XfBufferLink)) (number length : U32),
        (∀ r, xfPoolAllocate abi env malloc dsp buffer number length ≠ .error r) →
          ∃ pool, xfPoolAllocate abi env malloc dsp buffer number length = .pool pool ∧
            ∀ s, Relation.ReflTransGen XfPoolStep ⟨pool, []⟩ s → XfPoolExact number length s := by
  refine ⟨by decide, fun h => ?_⟩
  obtain ⟨pool, hpool, hexact⟩ := h _ _ _ _ _ 2 0x80000040 (allocatedPool_two 0x80000040)
  obtain ⟨-, ⟨-, hover⟩ | ⟨-, pool', hpool', hnew⟩⟩ :=
    xfPoolAllocate_cases (allocatedPool_two 0x80000040)
  · cases hover.symm.trans hpool
  · obtain rfl : pool' = pool := XfPoolResult.pool.inj (hpool'.symm.trans hpool)
    exact absurd (hnew.fits (by decide) (hexact _ .refl)).2 (by decide)

/-- A pool of two buffers of 100 bytes. -/
theorem xfPool_exact_two :
    ∃ pool, allocatedPool 2 100 = .pool pool ∧
      ∀ s, Relation.ReflTransGen XfPoolStep ⟨pool, []⟩ s → XfPoolExact 2 100 s :=
  (xfPool_exact_iff _ _ _ _ _ 2 100 (allocatedPool_two 100)).mpr ⟨by decide, by decide, by decide⟩

end Hikey
