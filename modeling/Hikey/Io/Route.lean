import Hikey.Io.Output
import Hikey.Mem.Basic

/-!
# The memory of a routed port (`core/xf-io.c`, `core/xf-msg.c`, `include/xf-mm.h`)

A ROUTE command hands its number and its size of buffers to the memory allocator.  The pool of
messages is rounded up to the granularity of the allocator (`XF_MM`), the buffers are not.
`xfOutputPortRouteCalls` lists the calls of the allocator, failed ones included;
`xfOutputPortRoute_calls` connects them to what `xfOutputPortRoute` reports.
-/

namespace Hikey

/-- A call of the memory allocator: an allocation with its answer, or the release of a block. -/
inductive XfMemCall
  | alloc (size p : U32)
  | free (p size : U32)
deriving DecidableEq, Repr

/-- The size of a call. -/
def XfMemCall.size : XfMemCall → U32
  | .alloc size _ => size
  | .free _ size => size

/-- The block that a successful allocation returns. -/
def XfMemCall.allocated : XfMemCall → Option (U32 × U32)
  | .alloc size p => if p = 0#32 then none else some (p, size)
  | .free _ _ => none

/-- The block that a call releases. -/
def XfMemCall.freed : XfMemCall → Option (U32 × U32)
  | .alloc _ _ => none
  | .free p size => some (p, size)

/-- `XF_MM`. -/
def xfMm (size : U32) : U32 := (size + (xfMmBlockSize - 1#32)) &&& ~~~(xfMmBlockSize - 1#32)

/-- The size of a pool of `n` messages, with `sizeof(__xf_message_t)` given. -/
def xfMsgPoolSize (sizeof n : U32) : U32 := xfMm (sizeof * n)

/-- The calls of the loop of `xf_output_port_route` from index `i` on, and the index that failed. -/
def xfOutputPortRouteCallsLoop (length : U32) (alloc : U32 → U32) :
    ℕ → U32 → List XfMemCall × Option U32
  | 0, _ => ([], none)
  | k + 1, i =>
    if alloc i = 0#32 then ([.alloc length (alloc i)], some i)
    else
      let (calls, failed) := xfOutputPortRouteCallsLoop length alloc k (i + 1#32)
      (.alloc length (alloc i) :: calls, failed)

/-- The calls of `xf_output_port_route` for `n` buffers of `length` bytes. -/
def xfOutputPortRouteCalls (sizeof n length : U32) (alloc : U32 → U32) : List XfMemCall :=
  let size := xfMsgPoolSize sizeof (n + 1#32)
  .alloc size (alloc 0#32) ::
    if alloc 0#32 = 0#32 ∨ n + 1#32 = 0#32 then []
    else
      match xfOutputPortRouteCallsLoop length alloc n.toNat 1#32 with
      | (calls, none) => calls
      | (calls, some i) =>
        calls ++ ((List.range (i - 1#32).toNat).map fun j =>
          XfMemCall.free (alloc (BitVec.ofNat 32 (j + 1))) length).reverse ++
          [.free (alloc 0#32) size]

/-- The address of a block. -/
def XfBlock.addr : XfBlock → U32
  | .pool p _ => p
  | .buffer a _ => a

/-- The size with which a block is allocated and freed. -/
def XfBlock.size (sizeof : U32) : XfBlock → U32
  | .pool _ n => xfMsgPoolSize sizeof n
  | .buffer _ length => length

/-- The call behind a memory event. -/
def XfMemEvent.call (sizeof : U32) : XfMemEvent → XfMemCall
  | .alloc b => .alloc (b.size sizeof) b.addr
  | .free b => .free b.addr (b.size sizeof)

section Rounding

/-- Rounding down to the granularity. -/
lemma toNat_and_not (x : U32) : (x &&& ~~~(xfMmBlockSize - 1#32)).toNat = x.toNat / 32 * 32 := by
  have hsplit : x &&& ~~~(xfMmBlockSize - 1#32) = (x >>> 5) <<< 5 := by
    rw [show xfMmBlockSize - 1#32 = 31#32 from rfl]
    ext i hi
    interval_cases i <;> simp
  have hx := x.isLt
  rw [hsplit, BitVec.toNat_shiftLeft, BitVec.toNat_ushiftRight, Nat.shiftRight_eq_div_pow,
    Nat.shiftLeft_eq, Nat.mod_eq_of_lt (by omega)]

lemma dvd_xfMm (size : U32) : 32 ∣ (xfMm size).toNat := by
  rw [xfMm, toNat_and_not]
  exact Dvd.intro_left _ rfl

/-- The size of a pool is positive and holds the messages exactly when nothing wraps around. -/
lemma xfMsgPoolSize_iff {sizeof n : U32} (hsizeof : 0 < sizeof.toNat) :
    (0 < (xfMsgPoolSize sizeof (n + 1#32)).toNat ∧
      sizeof.toNat * (n.toNat + 1) ≤ (xfMsgPoolSize sizeof (n + 1#32)).toNat) ↔
      sizeof.toNat * (n.toNat + 1) + 31 < 2 ^ 32 := by
  have hsum : (xfMsgPoolSize sizeof (n + 1#32)).toNat =
      (sizeof.toNat * (n.toNat + 1) % 2 ^ 32 + 31) % 2 ^ 32 / 32 * 32 := by
    rw [xfMsgPoolSize, xfMm, toNat_and_not, BitVec.toNat_add, BitVec.toNat_mul, BitVec.toNat_add]
    simp [xfMmBlockSize]
  have hpos : 0 < sizeof.toNat * (n.toNat + 1) := Nat.mul_pos hsizeof (Nat.succ_pos _)
  rw [hsum]
  generalize sizeof.toNat * (n.toNat + 1) = k at hpos
  omega

end Rounding

section Loop

variable (id : XfMsgId) (length : U32) (alloc : U32 → U32)

/-- Both loops allocate the same buffers: `k'` of them, all that were asked for or all before the
first one that failed.  The items of the pool get the addresses of their buffers. -/
lemma routeLoop_spec (k i : ℕ) (hik : i + k < 2 ^ 32) (port : XfOutputPort)
    (mem : List XfMemEvent) : ∃ k' ≤ k,
    (xfOutputPortRouteLoop id length alloc k (BitVec.ofNat 32 i) port mem).2.2 =
      (xfOutputPortRouteCallsLoop length alloc k (BitVec.ofNat 32 i)).2 ∧
    (xfOutputPortRouteCallsLoop length alloc k (BitVec.ofNat 32 i)).2 =
      (if k' = k then none else some (BitVec.ofNat 32 (i + k'))) ∧
    (k' < k → alloc (BitVec.ofNat 32 (i + k')) = 0#32) ∧
    (∀ j < k', alloc (BitVec.ofNat 32 (i + j)) ≠ 0#32) ∧
    (xfOutputPortRouteLoop id length alloc k (BitVec.ofNat 32 i) port mem).2.1 = mem ++
      (List.range k').map (fun j => .alloc (.buffer (alloc (BitVec.ofNat 32 (i + j))) length)) ∧
    (xfOutputPortRouteCallsLoop length alloc k (BitVec.ofNat 32 i)).1 =
      (List.range k').map (fun j => .alloc length (alloc (BitVec.ofNat 32 (i + j)))) ++
        (if k' = k then [] else [.alloc length 0#32]) ∧
    (xfOutputPortRouteLoop id length alloc k (BitVec.ofNat 32 i) port mem).1.pool.p = port.pool.p ∧
    (xfOutputPortRouteLoop id length alloc k (BitVec.ofNat 32 i) port mem).1.pool.n = port.pool.n ∧
    (∀ j < i, (xfOutputPortRouteLoop id length alloc k (BitVec.ofNat 32 i) port mem).1.pool.item
      (BitVec.ofNat 32 j) = port.pool.item (BitVec.ofNat 32 j)) ∧
    ∀ j < k', ((xfOutputPortRouteLoop id length alloc k (BitVec.ofNat 32 i) port mem).1.pool.item
      (BitVec.ofNat 32 (i + j))).buffer = alloc (BitVec.ofNat 32 (i + j)) := by
  have hne : ∀ j < i, BitVec.ofNat 32 j ≠ BitVec.ofNat 32 i := fun j hj he => by
    have := congrArg BitVec.toNat he
    rw [BitVec.toNat_ofNat, BitVec.toNat_ofNat, Nat.mod_eq_of_lt (by omega),
      Nat.mod_eq_of_lt (by omega)] at this
    omega
  induction k generalizing i port mem with
  | zero => exact ⟨0, le_rfl, by simp [xfOutputPortRouteLoop, xfOutputPortRouteCallsLoop]⟩
  | succ k ih =>
    by_cases hnull : alloc (BitVec.ofNat 32 i) = 0#32
    · refine ⟨0, by omega, ?_⟩
      simp only [xfOutputPortRouteLoop, xfOutputPortRouteCallsLoop, if_pos hnull]
      simp only [Nat.add_zero, hnull, List.range_zero, List.map_nil, List.append_nil,
        List.nil_append]
      refine ⟨by simp, by simp, by simp, by simp, by simp, by simp, by simp, by simp, ?_, by simp⟩
      intro j hj
      exact Function.update_of_ne (hne j hj) _ _
    · have hsucc : BitVec.ofNat 32 i + 1#32 = BitVec.ofNat 32 (i + 1) := (BitVec.ofNat_add i 1).symm
      have hne' : ∀ j < i + 1, BitVec.ofNat 32 j ≠ BitVec.ofNat 32 (i + 1) := fun j hj he => by
        have := congrArg BitVec.toNat he
        rw [BitVec.toNat_ofNat, BitVec.toNat_ofNat, Nat.mod_eq_of_lt (by omega),
          Nat.mod_eq_of_lt (by omega)] at this
        omega
      simp only [xfOutputPortRouteLoop, xfOutputPortRouteCallsLoop, if_neg hnull, hsucc]
      obtain ⟨k', hk', hfail, hfailed, hzero, hok, hmem, hcalls, hp, hn, hitem, hbuffer⟩ :=
        ih (i + 1) (by omega) _ _ hne'
      have hshift : ∀ j, i + 1 + j = i + (j + 1) := fun j => by omega
      refine ⟨k' + 1, by omega, hfail, ?_, ?_, ?_, ?_, ?_, hp, hn, ?_, ?_⟩
      · rw [hfailed, hshift]
        exact if_congr (by omega) rfl rfl
      · intro hlt
        rw [← hshift]
        exact hzero (by omega)
      · intro j hj
        cases j with
        | zero => exact hnull
        | succ j =>
          rw [← hshift]
          exact hok j (by omega)
      · rw [hmem, List.range_succ_eq_map, List.map_cons, List.map_map, List.append_assoc]
        simp only [Nat.add_zero, List.singleton_append, Function.comp_def, hshift,
          Nat.succ_eq_add_one]
      · rw [hcalls, List.range_succ_eq_map, List.map_cons, List.map_map, List.cons_append]
        simp only [Nat.add_zero, Function.comp_def, hshift, Nat.succ_eq_add_one,
          Nat.add_right_cancel_iff]
      · intro j hj
        rw [hitem j (by omega)]
        exact Function.update_of_ne (hne j hj) _ _
      · intro j hj
        cases j with
        | zero =>
          have hself := hitem i (by omega)
          simp only [Nat.add_zero]
          rw [hself]
          simp [xfOutputPortItem]
        | succ j =>
          have hnext := hbuffer j (by omega)
          rw [hshift j] at hnext
          exact hnext

end Loop

/-- The call is not an allocation that failed. -/
def XfMemCall.done : XfMemCall → Bool
  | .alloc _ p => p ≠ 0#32
  | .free _ _ => true

section Route

variable {sizeof n length : U32} {alloc : U32 → U32}

/-- The buffers of the first `k` items. -/
def routeBuffers (length : U32) (alloc : U32 → U32) (k : ℕ) : List (U32 × U32) :=
  (List.range k).map fun j => (alloc (BitVec.ofNat 32 (j + 1)), length)

lemma allocated_map (length : U32) (alloc : U32 → U32) {k : ℕ}
    (h : ∀ j < k, alloc (BitVec.ofNat 32 (1 + j)) ≠ 0#32) :
    ((List.range k).map fun j => XfMemCall.alloc length (alloc (BitVec.ofNat 32 (1 + j)))).filterMap
      XfMemCall.allocated = routeBuffers length alloc k := by
  rw [List.filterMap_map, routeBuffers, ← List.filterMap_eq_map]
  refine List.filterMap_congr fun j hj => ?_
  have hne := h j (List.mem_range.1 hj)
  rw [Nat.add_comm] at hne
  simp [XfMemCall.allocated, Nat.add_comm 1 j, hne]

/-- A number of messages that is not zero has not wrapped around. -/
lemma toNat_succ_lt (hn : n + 1#32 ≠ 0#32) : n.toNat + 1 < 2 ^ 32 := by
  have hbound := n.isLt
  have hne : n.toNat ≠ 2 ^ 32 - 1 := fun he => hn (by
    rw [← BitVec.toNat_inj, BitVec.toNat_add, he]
    rfl)
  omega

variable (sizeof length) in
/-- What `xf_output_port_route` calls when the pool is there: the allocations of the buffers, all of
them, or those before the first that failed, and then everything is freed in the opposite order. -/
lemma xfOutputPortRouteCalls_eq (hp : alloc 0#32 ≠ 0#32) (hn : n + 1#32 ≠ 0#32) :
    ∃ k ≤ n.toNat, (∀ j < k, alloc (BitVec.ofNat 32 (1 + j)) ≠ 0#32) ∧
    xfOutputPortRouteCalls sizeof n length alloc =
      .alloc (xfMsgPoolSize sizeof (n + 1#32)) (alloc 0#32) ::
        ((List.range k).map (fun j => .alloc length (alloc (BitVec.ofNat 32 (1 + j)))) ++
          if k = n.toNat then [] else .alloc length 0#32 ::
            ((routeBuffers length alloc k).map fun b => XfMemCall.free b.1 b.2).reverse ++
              [.free (alloc 0#32) (xfMsgPoolSize sizeof (n + 1#32))]) := by
  have hlt := toNat_succ_lt hn
  obtain ⟨k, hk, -, hfailed, hzero, hok, -, hcalls, -⟩ := routeLoop_spec ⟨0#16, 0#16⟩ length alloc
    n.toNat 1 (by omega)
      (XfOutputPort.zero fun _ => ⟨.proxy 0, ⟨0#16, 0#16⟩, .other, 0#32, 0#32⟩) []
  refine ⟨k, hk, hok, ?_⟩
  rw [xfOutputPortRouteCalls, if_neg (by simp [hp, hn])]
  by_cases hkn : k = n.toNat
  · rw [if_pos hkn] at hfailed hcalls
    have heq : xfOutputPortRouteCallsLoop length alloc n.toNat (BitVec.ofNat 32 1) =
      (_, _) := Prod.ext hcalls hfailed
    rw [heq]
    simp [hkn]
  · rw [if_neg hkn] at hfailed hcalls
    have heq : xfOutputPortRouteCallsLoop length alloc n.toNat (BitVec.ofNat 32 1) =
      (_, _) := Prod.ext hcalls hfailed
    have hindex : (BitVec.ofNat 32 (1 + k) - BitVec.ofNat 32 1).toNat = k := by
      rw [Nat.add_comm, BitVec.ofNat_add, BitVec.add_sub_cancel, BitVec.toNat_ofNat,
        Nat.mod_eq_of_lt (by omega)]
    rw [heq]
    simp only [hindex, if_neg hkn]
    simp [routeBuffers, Function.comp_def]

/-- What holds of the calls of a ROUTE command: all sizes are positive multiples of the granularity,
the pool holds its messages, what is freed on failure is what was allocated, block by block, and so
is what a later UNROUTE frees. -/
structure XfRouteCallsOk (sizeof n length : U32) (alloc : U32 → U32) : Prop where
  sizes : ∀ c ∈ xfOutputPortRouteCalls sizeof n length alloc, 0 < c.size.toNat ∧ 32 ∣ c.size.toNat
  pool : sizeof.toNat * (n.toNat + 1) ≤ (xfMsgPoolSize sizeof (n + 1#32)).toNat
  cleanup : (xfOutputPortRouteCalls sizeof n length alloc).filterMap XfMemCall.freed = [] ∨
    (xfOutputPortRouteCalls sizeof n length alloc).filterMap XfMemCall.freed =
      ((xfOutputPortRouteCalls sizeof n length alloc).filterMap XfMemCall.allocated).reverse
  unroute : ∀ port id port' mem port'' mem',
    xfOutputPortRoute port id n length alloc = some (port', mem, true) →
    xfOutputPortUnroute port' = some (port'', mem') →
    ((mem'.map (XfMemEvent.call sizeof)).filterMap XfMemCall.freed).Perm
      ((xfOutputPortRouteCalls sizeof n length alloc).filterMap XfMemCall.allocated)

/-- The sizes are in order exactly when the size of the pool does not wrap around and no buffer of
another size than a positive multiple of the granularity is asked for. -/
lemma sizes_iff (hsizeof : 0 < sizeof.toNat) (alloc : U32 → U32) :
    ((∀ c ∈ xfOutputPortRouteCalls sizeof n length alloc,
        0 < c.size.toNat ∧ 32 ∣ c.size.toNat) ∧
      sizeof.toNat * (n.toNat + 1) ≤ (xfMsgPoolSize sizeof (n + 1#32)).toNat) ↔
    sizeof.toNat * (n.toNat + 1) + 31 < 2 ^ 32 ∧
      (n = 0#32 ∨ alloc 0#32 = 0#32 ∨ 0 < length.toNat ∧ 32 ∣ length.toNat) := by
  have hpool := xfMsgPoolSize_iff (n := n) hsizeof
  have hfirst : XfMemCall.alloc (xfMsgPoolSize sizeof (n + 1#32)) (alloc 0#32) ∈
      xfOutputPortRouteCalls sizeof n length alloc := by
    rw [xfOutputPortRouteCalls]
    exact List.mem_cons_self
  by_cases hp : alloc 0#32 = 0#32
  · have hcalls : xfOutputPortRouteCalls sizeof n length alloc =
        [.alloc (xfMsgPoolSize sizeof (n + 1#32)) (alloc 0#32)] := by
      rw [xfOutputPortRouteCalls, if_pos (.inl hp)]
    constructor
    · rintro ⟨hsizes, hexact⟩
      exact ⟨hpool.1 ⟨(hsizes _ hfirst).1, hexact⟩, .inr (.inl hp)⟩
    · rintro ⟨hproduct, -⟩
      obtain ⟨hpos, hexact⟩ := hpool.2 hproduct
      refine ⟨fun c hc => ?_, hexact⟩
      rw [hcalls, List.mem_singleton] at hc
      subst hc
      exact ⟨hpos, dvd_xfMm _⟩
  · -- the pool is there; without wrapping around, its number of messages is not zero
    have hnext : sizeof.toNat * (n.toNat + 1) + 31 < 2 ^ 32 → n + 1#32 ≠ 0#32 := by
      intro hproduct hzero
      have htoNat := congrArg BitVec.toNat hzero
      rw [BitVec.toNat_add, show (1#32).toNat = 1 from rfl,
        show (0#32).toNat = 0 from rfl] at htoNat
      have hn := n.isLt
      have hfull : n.toNat + 1 = 2 ^ 32 := by omega
      have hle := Nat.le_mul_of_pos_left (n.toNat + 1) hsizeof
      omega
    constructor
    · rintro ⟨hsizes, hexact⟩
      have hproduct := hpool.1 ⟨(hsizes _ hfirst).1, hexact⟩
      refine ⟨hproduct, ?_⟩
      by_cases hn : n = 0#32
      · exact .inl hn
      · obtain ⟨k, hk, hok, hcalls⟩ := xfOutputPortRouteCalls_eq sizeof length
          hp (hnext hproduct)
        have hnpos : 0 < n.toNat := Nat.pos_of_ne_zero fun h => hn (by
          rw [← BitVec.toNat_inj, h]
          rfl)
        have hbuffer : ∃ p, XfMemCall.alloc length p ∈
            xfOutputPortRouteCalls sizeof n length alloc := by
          rw [hcalls]
          cases k with
          | zero =>
            rw [if_neg (by omega)]
            exact ⟨0#32, by simp⟩
          | succ k =>
            refine ⟨alloc (BitVec.ofNat 32 (1 + 0)), ?_⟩
            refine List.mem_cons_of_mem _ (List.mem_append_left _ ?_)
            exact List.mem_map.2 ⟨0, by simp, rfl⟩
        obtain ⟨p, hmem⟩ := hbuffer
        exact .inr (.inr (hsizes _ hmem))
    · rintro ⟨hproduct, hlength⟩
      obtain ⟨hpos, hexact⟩ := hpool.2 hproduct
      refine ⟨fun c hc => ?_, hexact⟩
      obtain ⟨k, hk, hok, hcalls⟩ := xfOutputPortRouteCalls_eq sizeof length
        hp (hnext hproduct)
      have hpoolOk : 0 < (xfMsgPoolSize sizeof (n + 1#32)).toNat ∧
          32 ∣ (xfMsgPoolSize sizeof (n + 1#32)).toNat := ⟨hpos, dvd_xfMm _⟩
      have hbufferOk : 0 < n.toNat → 0 < length.toNat ∧ 32 ∣ length.toNat := fun hn =>
        (hlength.resolve_left fun h => by simp [h] at hn).resolve_left hp
      rw [hcalls, List.mem_cons, List.mem_append] at hc
      rcases hc with rfl | hc | hc
      · exact hpoolOk
      · obtain ⟨j, hj, rfl⟩ := List.mem_map.1 hc
        exact hbufferOk (by have := List.mem_range.1 hj; omega)
      · by_cases hkn : k = n.toNat
        · simp [hkn] at hc
        · rw [if_neg hkn, List.mem_append, List.mem_cons, List.mem_reverse,
            List.mem_singleton] at hc
          have hn : 0 < n.toNat := by omega
          rcases hc with (rfl | hc) | rfl
          · exact hbufferOk hn
          · obtain ⟨b, hb, rfl⟩ := List.mem_map.1 hc
            obtain ⟨j, -, rfl⟩ := List.mem_map.1 hb
            exact hbufferOk hn
          · exact hpoolOk

/-- What is freed on failure is what was allocated. -/
lemma cleanup_calls (sizeof n length : U32) (alloc : U32 → U32) :
    (xfOutputPortRouteCalls sizeof n length alloc).filterMap XfMemCall.freed = [] ∨
    (xfOutputPortRouteCalls sizeof n length alloc).filterMap XfMemCall.freed =
      ((xfOutputPortRouteCalls sizeof n length alloc).filterMap XfMemCall.allocated).reverse := by
  by_cases hstop : alloc 0#32 = 0#32 ∨ n + 1#32 = 0#32
  · left
    rw [xfOutputPortRouteCalls, if_pos hstop]
    rfl
  · rw [not_or] at hstop
    obtain ⟨k, hk, hok, hcalls⟩ := xfOutputPortRouteCalls_eq sizeof length
      hstop.1 hstop.2
    have hnone : ((List.range k).map fun j => XfMemCall.alloc length
        (alloc (BitVec.ofNat 32 (1 + j)))).filterMap XfMemCall.freed = [] := by
      rw [List.filterMap_map]
      simp [XfMemCall.freed, Function.comp_def]
    have hfrees : ∀ l : List (U32 × U32),
        (l.map fun b => XfMemCall.free b.1 b.2).filterMap XfMemCall.freed = l := fun l => by
      rw [List.filterMap_map]
      simp [XfMemCall.freed, Function.comp_def]
    have hfreesNone : ∀ l : List (U32 × U32),
        (l.map fun b => XfMemCall.free b.1 b.2).filterMap XfMemCall.allocated = [] := fun l => by
      rw [List.filterMap_map]
      simp [XfMemCall.allocated, Function.comp_def]
    by_cases hkn : k = n.toNat
    · left
      rw [hcalls, if_pos hkn, List.append_nil, List.filterMap_cons, hnone]
      rfl
    · right
      rw [hcalls, if_neg hkn]
      simp only [List.filterMap_cons, List.filterMap_append, hnone, allocated_map length alloc hok,
        List.filterMap_reverse, hfrees, hfreesNone]
      simp [XfMemCall.freed, XfMemCall.allocated, hstop.1]

/-- The buffers of a pool whose items know them. -/
lemma buffers_eq {pool : XfMsgPool} {k : ℕ}
    (h : ∀ j < k, (pool.item (BitVec.ofNat 32 (1 + j))).buffer = alloc (BitVec.ofNat 32 (1 + j))) :
    pool.buffers length k = (routeBuffers length alloc k).map fun b => .buffer b.1 b.2 := by
  rw [XfMsgPool.buffers, routeBuffers, List.map_map]
  refine List.map_congr_left fun j hj => ?_
  have hbuffer := h j (List.mem_range.1 hj)
  rw [Nat.add_comm] at hbuffer
  rw [hbuffer]
  rfl

/-- What `xf_output_port_route` reports as allocated and freed are its calls that did not fail; a
port that has been routed knows its blocks. -/
theorem xfOutputPortRoute_calls (sizeof : U32) {port port' : XfOutputPort} {id : XfMsgId}
    {mem : List XfMemEvent} {ok : Bool}
    (h : xfOutputPortRoute port id n length alloc = some (port', mem, ok)) :
    mem.map (XfMemEvent.call sizeof) =
      (xfOutputPortRouteCalls sizeof n length alloc).filter XfMemCall.done ∧
    (ok = true → port'.pool.n = n + 1#32 ∧ n + 1#32 ≠ 0#32 ∧ port'.pool.p = alloc 0#32 ∧
      port'.length = length ∧
      port'.pool.buffers length n.toNat =
        (routeBuffers length alloc n.toNat).map (fun b => .buffer b.1 b.2) ∧
      (xfOutputPortRouteCalls sizeof n length alloc).filterMap XfMemCall.allocated =
        (alloc 0#32, xfMsgPoolSize sizeof (n + 1#32)) :: routeBuffers length alloc n.toNat) := by
  by_cases hp : alloc 0#32 = 0#32
  · rw [xfOutputPortRoute, if_pos hp, Option.some.injEq] at h
    cases h
    rw [xfOutputPortRouteCalls, if_pos (.inl hp)]
    simp [XfMemCall.done, hp]
  by_cases hn : n + 1#32 = 0#32
  · rw [xfOutputPortRoute, if_neg hp, if_pos hn] at h
    simp at h
  obtain ⟨k, hk, hfail, hfailed, hzero, hok, hmem, hcalls, hpp, hpn, -, hbuffer⟩ :=
    routeLoop_spec id length alloc n.toNat 1 (by have := toNat_succ_lt hn; omega)
      { port with pool := { port.pool with p := alloc 0#32, n := n + 1#32 } }
      [.alloc (.pool (alloc 0#32) (n + 1#32))]
  have hlt := toNat_succ_lt hn
  have hdone : ∀ l : List ℕ, (∀ j ∈ l, alloc (BitVec.ofNat 32 (1 + j)) ≠ 0#32) →
      (l.map fun j => XfMemCall.alloc length (alloc (BitVec.ofNat 32 (1 + j)))).filter
        XfMemCall.done = l.map fun j => .alloc length (alloc (BitVec.ofNat 32 (1 + j))) := by
    intro l hl
    rw [List.filter_eq_self]
    intro c hc
    obtain ⟨j, hj, rfl⟩ := List.mem_map.1 hc
    simpa [XfMemCall.done] using hl j hj
  have hloop := hdone (List.range k) fun j hj => hok j (List.mem_range.1 hj)
  rw [xfOutputPortRoute, if_neg hp, if_neg hn] at h
  simp only at h
  generalize hR : xfOutputPortRouteLoop id length alloc n.toNat 1#32
    { port with pool := { port.pool with p := alloc 0#32, n := n + 1#32 } }
    [.alloc (.pool (alloc 0#32) (n + 1#32))] = R at h hfail hmem hpp hpn hbuffer
  obtain ⟨q, m, r⟩ := R
  simp only at h hfail hmem hpp hpn hbuffer
  rw [hfailed] at hfail
  by_cases hkn : k = n.toNat
  · rw [if_pos hkn] at hfail hfailed hcalls
    rw [List.append_nil] at hcalls
    subst hfail
    simp only [Option.some.injEq, Prod.mk.injEq] at h
    obtain ⟨rfl, rfl, rfl⟩ := h
    have heq : xfOutputPortRouteCalls sizeof n length alloc =
        .alloc (xfMsgPoolSize sizeof (n + 1#32)) (alloc 0#32) ::
          (List.range k).map fun j => .alloc length (alloc (BitVec.ofNat 32 (1 + j))) := by
      rw [xfOutputPortRouteCalls, if_neg (by simp [hp, hn])]
      have hpair : xfOutputPortRouteCallsLoop length alloc n.toNat 1#32 = (_, _) :=
        Prod.ext hcalls hfailed
      rw [hpair]
    refine ⟨?_, fun _ => ⟨hpn, hn, hpp, rfl, ?_, ?_⟩⟩
    · rw [heq, List.filter_cons_of_pos (by simp [XfMemCall.done, hp]), hloop, hmem]
      simp [XfMemEvent.call, XfBlock.size, XfBlock.addr, Function.comp_def]
    · refine buffers_eq fun j hj => ?_
      have hne : BitVec.ofNat 32 (1 + j) ≠ 0#32 := fun he => by
        have := congrArg BitVec.toNat he
        rw [BitVec.toNat_ofNat, Nat.mod_eq_of_lt (by omega)] at this
        simp at this
      simp only
      rw [Function.update_of_ne hne]
      exact hbuffer j (by omega)
    · rw [heq, ← hkn, ← allocated_map length alloc hok]
      simp [XfMemCall.allocated, hp]
  · rw [if_neg hkn] at hfail hfailed hcalls
    subst hfail
    have hindex : (BitVec.ofNat 32 (1 + k) - 1#32).toNat = k := by
      rw [Nat.add_comm, BitVec.ofNat_add, BitVec.add_sub_cancel, BitVec.toNat_ofNat,
        Nat.mod_eq_of_lt (by omega)]
    simp only [Option.some.injEq, Prod.mk.injEq] at h
    obtain ⟨rfl, rfl, rfl⟩ := h
    refine ⟨?_, by simp⟩
    have heq : xfOutputPortRouteCalls sizeof n length alloc =
        .alloc (xfMsgPoolSize sizeof (n + 1#32)) (alloc 0#32) ::
          ((List.range k).map (fun j => .alloc length (alloc (BitVec.ofNat 32 (1 + j)))) ++
            [.alloc length 0#32]) ++
          ((routeBuffers length alloc k).map fun b => XfMemCall.free b.1 b.2).reverse ++
            [.free (alloc 0#32) (xfMsgPoolSize sizeof (n + 1#32))] := by
      rw [xfOutputPortRouteCalls, if_neg (by simp [hp, hn])]
      have hpair : xfOutputPortRouteCallsLoop length alloc n.toNat 1#32 = (_, _) :=
        Prod.ext hcalls hfailed
      rw [hpair]
      simp only [hindex]
      simp [routeBuffers, Function.comp_def]
    have hfrees : ∀ l : List (U32 × U32), (l.map fun b => XfMemCall.free b.1 b.2).reverse.filter
        XfMemCall.done = (l.map fun b => XfMemCall.free b.1 b.2).reverse := fun l => by
      rw [List.filter_eq_self]
      intro c hc
      obtain ⟨b, -, rfl⟩ := List.mem_map.1 (List.mem_reverse.1 hc)
      rfl
    rw [heq, hmem, hindex, buffers_eq hbuffer]
    simp only [List.filter_append, List.filter_cons_of_pos (show XfMemCall.done
      (.alloc (xfMsgPoolSize sizeof (n + 1#32)) (alloc 0#32)) = true by simp [XfMemCall.done, hp]),
      hloop, hfrees]
    simp [XfMemCall.done, XfMemEvent.call, XfBlock.size, XfBlock.addr, Function.comp_def,
      List.map_reverse]
    rfl

/-- An UNROUTE frees what the ROUTE has allocated, with the same sizes. -/
lemma unroute_calls (sizeof : U32) {port port' port'' : XfOutputPort} {id : XfMsgId}
    {mem mem' : List XfMemEvent}
    (h : xfOutputPortRoute port id n length alloc = some (port', mem, true))
    (hun : xfOutputPortUnroute port' = some (port'', mem')) :
    ((mem'.map (XfMemEvent.call sizeof)).filterMap XfMemCall.freed).Perm
      ((xfOutputPortRouteCalls sizeof n length alloc).filterMap XfMemCall.allocated) := by
  obtain ⟨hn, hne, hp, hlength, hbuffers, hallocated⟩ := (xfOutputPortRoute_calls sizeof h).2 rfl
  rw [xfOutputPortUnroute, if_neg (by rw [hn]; exact hne), Option.some.injEq, Prod.mk.injEq] at hun
  obtain ⟨-, rfl⟩ := hun
  rw [hallocated, hn, BitVec.add_sub_cancel, hlength, hbuffers, hp]
  have hfreed : ((routeBuffers length alloc n.toNat).map fun b =>
      XfMemCall.free b.1 b.2).filterMap XfMemCall.freed = routeBuffers length alloc n.toNat := by
    rw [List.filterMap_map]
    simp [XfMemCall.freed, Function.comp_def]
  have hcalls : (((routeBuffers length alloc n.toNat).map fun b => XfBlock.buffer b.1 b.2).map
      XfMemEvent.free).map (XfMemEvent.call sizeof) =
        (routeBuffers length alloc n.toNat).map fun b => XfMemCall.free b.1 b.2 := by
    simp [XfMemEvent.call, XfBlock.size, XfBlock.addr, Function.comp_def]
  rw [List.map_append, List.filterMap_append, hcalls, hfreed]
  exact List.perm_append_singleton _ _

/-- The calls of a ROUTE command keep the terms of the allocator exactly when the size of the pool
does not wrap around and no buffer of another size than a positive multiple of the granularity is
asked for. -/
theorem xfOutputPortRoute_calls_ok_iff (sizeof n length : U32) (alloc : U32 → U32)
    (hsizeof : 0 < sizeof.toNat) :
    XfRouteCallsOk sizeof n length alloc ↔ sizeof.toNat * (n.toNat + 1) + 31 < 2 ^ 32 ∧
      (n = 0#32 ∨ alloc 0#32 = 0#32 ∨ 0 < length.toNat ∧ 32 ∣ length.toNat) := by
  rw [← sizes_iff hsizeof alloc]
  refine ⟨fun h => ⟨h.sizes, h.pool⟩, fun h => ⟨h.1, h.2, cleanup_calls _ _ _ _, ?_⟩⟩
  exact fun port id port' mem port'' mem' hroute hunroute => unroute_calls sizeof hroute hunroute

/-- Four buffers of 256 bytes, with messages of 64 bytes. -/
theorem xfOutputPortRoute_calls_ok_four :
    XfRouteCallsOk 64#32 4#32 256#32 (fun i => 0x1000#32 + 256#32 * i) :=
  (xfOutputPortRoute_calls_ok_iff _ _ _ _ (by decide)).2
    ⟨by decide, .inr (.inr ⟨by decide, by decide⟩)⟩

/-- A buffer of 100 bytes reaches the allocator with that size. -/
theorem xfOutputPortRoute_calls_odd_size :
    ¬ XfRouteCallsOk 64#32 1#32 100#32 (fun i => 0x1000#32 + 256#32 * i) := by
  rw [xfOutputPortRoute_calls_ok_iff _ _ _ _ (by decide)]
  decide

end Route

end Hikey
