import Hikey.Io.Route
import Hikey.Mem.FreeBytes

/-!
# A ROUTE command without enough memory (`xf_output_port_route` in `core/xf-io.c`)

The answers of the allocator are now those of a memory pool (`XfMmAnswers`).  When an allocation
fails, the blocks are freed again; the port keeps the messages that it has already enqueued, and the
pointer to the pool of messages.  `xfOutputPortRoute_undone_iff` says when nothing of this can be
seen.
-/

namespace Hikey

/-- The pool answers the calls, one after the other. -/
inductive XfMmAnswers : XfMmPool → List XfMemCall → XfMmPool → Prop
  | nil (pool : XfMmPool) : XfMmAnswers pool [] pool
  | alloc {pool pool' pool'' : XfMmPool} {size p : U32} {calls : List XfMemCall} :
      xfMmAlloc pool size = some (pool', p) → XfMmAnswers pool' calls pool'' →
        XfMmAnswers pool (.alloc size p :: calls) pool''
  | free {pool pool' pool'' : XfMmPool} {p size : U32} {calls : List XfMemCall} :
      xfMmFree pool p size = some pool' → XfMmAnswers pool' calls pool'' →
        XfMmAnswers pool (.free p size :: calls) pool''

/-- The call is an allocation. -/
def XfMemCall.isAlloc : XfMemCall → Bool
  | .alloc _ _ => true
  | .free _ _ => false

/-- The call fails and leaves everything as it was: the port but for the contents of its items, and
the free bytes of the memory pool; the messages are written inside the block that was allocated for
them. -/
structure XfRouteUndone (sizeof : U32) (port : XfOutputPort) (id : XfMsgId) (n length : U32)
    (alloc : U32 → U32) (pool : XfMmPool) : Prop where
  port : ∃ item mem, xfOutputPortRoute port id n length alloc =
    some ({ port with pool := { port.pool with item := item } }, mem, false)
  memory : ∃ pool', XfMmAnswers pool (xfOutputPortRouteCalls sizeof n length alloc) pool' ∧
    xfMmFreeBytes pool' = xfMmFreeBytes pool
  inside : alloc 0#32 ≠ 0#32 →
    sizeof.toNat * (n.toNat + 1) ≤ (xfMsgPoolSize sizeof (n + 1#32)).toNat

section Search

open RbTree

variable {t : RbTree U32} {p : RbIdx U32} {s : ColorTree U32} {fuel : ℕ} {size b q : U32}

/-- Whatever the size is, the second loop of `xf_mm_find_by_size` returns the given block or a long
enough one of the subtree. -/
lemma xfMmFindBetter_mem (h : Links t p s) (hres : xfMmFindBetter t size fuel q s.root = some b) :
    b = q ∨ b ∈ s.toList ∧ ¬ xfMmBlockLengthLess t b size := by
  induction s generalizing p q fuel with
  | nil =>
    cases fuel with
    | zero => cases hres
    | succ fuel => exact .inl (Option.some.inj hres).symm
  | node c l x r ihl ihr =>
    obtain ⟨⟨-, hleft, hright, -⟩, hl, hr⟩ := h
    cases fuel with
    | zero => cases hres
    | succ fuel =>
      rw [ColorTree.root_node, xfMmFindBetter, hleft, hright] at hres
      rw [ColorTree.toList_node]
      split at hres
      · next hx =>
        rcases ihl hl hres with rfl | ⟨hb, hless⟩
        · exact .inr ⟨by simp, by simpa using hx⟩
        · exact .inr ⟨by simp [hb], hless⟩
      · rcases ihr hr hres with rfl | ⟨hb, hless⟩
        · exact .inl rfl
        · exact .inr ⟨by simp [hb], hless⟩

/-- The first loop stops at a long enough block; its left subtree is part of the tree. -/
lemma xfMmFindLongEnough_mem (h : Links t p s)
    (hres : xfMmFindLongEnough t size fuel s.root = some (some b)) :
    b ∈ s.toList ∧ ¬ xfMmBlockLengthLess t b size ∧
      ∃ l, Links t (some b) l ∧ (t (some b)).left = l.root ∧ ∀ x ∈ l.toList, x ∈ s.toList := by
  induction s generalizing p fuel with
  | nil =>
    cases fuel with
    | zero => cases hres
    | succ fuel => cases hres
  | node c l x r ihl ihr =>
    obtain ⟨⟨-, hleft, hright, -⟩, hl, hr⟩ := h
    cases fuel with
    | zero => cases hres
    | succ fuel =>
      rw [ColorTree.root_node, xfMmFindLongEnough, hright] at hres
      rw [ColorTree.toList_node]
      split at hres
      · obtain ⟨hb, hless, l', hlinks, hroot, hsub⟩ := ihr hr hres
        exact ⟨by simp [hb], hless, l', hlinks, hroot, fun y hy => by simp [hsub y hy]⟩
      · next hx =>
        obtain rfl : x = b := Option.some.inj (Option.some.inj hres)
        exact ⟨by simp, hx, l, hl, hleft, fun y hy => by simp [hy]⟩

/-- The block that `xf_mm_find_by_size` returns is in the map and long enough, its colour bit being
counted along. -/
lemma xfMmFindBySize_mem {pool : XfMmPool} {L : List U32} (h : pool.lMap.Holds L)
    (hres : xfMmFindBySize pool size = some (some b)) :
    b ∈ L ∧ ¬ xfMmBlockLengthLess pool.lMap b size := by
  obtain ⟨T, hT, rfl⟩ := h
  rw [xfMmFindBySize, hT.root] at hres
  cases hfirst : xfMmFindLongEnough pool.lMap size rbFuel T.root with
  | none =>
    rw [hfirst] at hres
    cases hres
  | some found =>
    cases found with
    | none =>
      rw [hfirst] at hres
      cases hres
    | some q =>
      obtain ⟨hq, hless, l, hlinks, hroot, hsub⟩ := xfMmFindLongEnough_mem hT.links hfirst
      rw [hfirst] at hres
      simp only [Option.bind_eq_bind, Option.bind_some, hroot, Option.pure_def,
        Option.bind_eq_some_iff, Option.some.injEq] at hres
      obtain ⟨b', hbetter, rfl⟩ := hres
      rcases xfMmFindBetter_mem hlinks hbetter with rfl | ⟨hb, hless'⟩
      · exact ⟨hq, hless⟩
      · exact ⟨hsub _ hb, hless'⟩

end Search

/-! ## Allocations that fail -/

variable {sizeof n length size addr x : U32} {alloc : U32 → U32} {port : XfOutputPort}
  {id : XfMsgId}
  {pool pool' : XfMmPool} {M : Multiset (U32 × U32)}

/-- Of a block of an aligned length `l` with the colour bit `c`, the allocator hands out an address
that is not null: the end of what is left of the block, or two bytes before the block when the
colour bit has been cleared in the meantime. -/
lemma end_ne_zero {b l w : U32} (hb : 32 ∣ b.toNat) (hpos : 0 < b.toNat) (hl : l.toNat % 32 = 0)
    (hle : b.toNat + l.toNat < 2 ^ 32) (hw : w.toNat / 2 * 2 = l.toNat)
    (hsize : size.toNat ≤ l.toNat + 1) :
    b + ((w - size) &&& ~~~1#32) ≠ 0 := by
  intro h
  have h := congrArg BitVec.toNat h
  rw [BitVec.toNat_add, RbTree.toNat_and_not_one, BitVec.toNat_sub] at h
  have := size.isLt
  have := w.isLt
  simp only [BitVec.ofNat_eq_ofNat, BitVec.toNat_ofNat, Nat.zero_mod] at h
  omega

/-- An allocation of any size that fails leaves the pool as it is. -/
lemma XfMmLive.eq_of_alloc_null_of_lt (h : XfMmLive addr size M pool)
    (hwrap : addr.toNat + size.toNat < 2 ^ 32) (halloc : xfMmAlloc pool x = some (pool', 0)) :
    pool' = pool := by
  obtain ⟨live, -, haddr, hsize, hnull, L, A, hok⟩ := h
  simp only at haddr hsize hok
  rw [xfMmAlloc] at halloc
  cases hfind : xfMmFindBySize pool x with
  | none =>
    rw [hfind] at halloc
    cases halloc
  | some found =>
    rw [hfind] at halloc
    cases found with
    | none => exact (Prod.mk.inj (Option.some.inj halloc)).1.symm
    | some b =>
      simp only [Option.bind_eq_bind, Option.bind_some] at halloc
      by_cases hb0 : b = 0
      · rw [if_pos hb0] at halloc
        exact (Prod.mk.inj (Option.some.inj halloc)).1.symm
      · -- a block is found, and the answer is not the null pointer
        exfalso
        obtain ⟨hb, hless⟩ := xfMmFindBySize_mem hok.lHolds hfind
        obtain ⟨l₁, hdel, -, hlen⟩ := hok.deleteSize hb
        obtain ⟨hb32, hl32, -, -, hle⟩ := hok.block hb
        have hbpos : 0 < b.toNat := Nat.pos_of_ne_zero fun h0 => hb0 (BitVec.eq_of_toNat_eq h0)
        have hxle : x.toNat ≤ (xfMmBlockLength pool.lMap b).toNat + 1 := by
          rw [xfMmBlockLengthLess, decide_eq_true_iff, BitVec.lt_def] at hless
          rw [xfMmBlockLength, RbTree.toNat_and_not_one]
          omega
        have hcolor : (l₁ (some b)).color.toNat / 2 * 2 = (xfMmBlockLength pool.lMap b).toNat := by
          rw [← hlen, xfMmBlockLength, RbTree.toNat_and_not_one]
        rw [if_neg hb0, hdel] at halloc
        simp only [Option.bind_some] at halloc
        split at halloc
        · obtain ⟨pool₁, -, hres⟩ := Option.bind_eq_some_iff.1 halloc
          exact hb0 (Prod.mk.inj (Option.some.inj hres)).2
        · obtain ⟨pool₁, -, hres⟩ := Option.bind_eq_some_iff.1 halloc
          have hnull := (Prod.mk.inj (Option.some.inj hres)).2
          rw [xfMmBlockLengthSub, xfMmBlockLength_setColor, if_pos rfl] at hnull
          exact end_ne_zero hb32 hbpos (Nat.mod_eq_zero_of_dvd hl32)
            (by rw [← haddr, ← hsize] at hwrap; omega) hcolor hxle hnull

/-! ## The port -/

/-- The loop changes the pool of messages and enqueues the messages that have a buffer. -/
lemma xfOutputPortRouteLoop_port (id : XfMsgId) (length : U32) (alloc : U32 → U32) (k : ℕ) (i : U32)
    (port : XfOutputPort) (mem : List XfMemEvent) :
    ∃ item sent, (xfOutputPortRouteLoop id length alloc k i port mem).1 =
      { port with pool := { port.pool with item := item }, queue := port.queue ++ sent } ∧
      (sent = [] ↔ k = 0 ∨ alloc i = 0#32) := by
  induction k generalizing i port mem with
  | zero => exact ⟨port.pool.item, [], by simp [xfOutputPortRouteLoop], by simp⟩
  | succ k ih =>
    by_cases hnull : alloc i = 0#32
    · refine ⟨Function.update port.pool.item i (xfOutputPortItem id length (alloc i) port.pool.p i),
        [],
        ?_, by simp [hnull]⟩
      rw [xfOutputPortRouteLoop, if_pos hnull, List.append_nil]
    · rw [xfOutputPortRouteLoop, if_neg hnull]
      obtain ⟨item, sent, hport, -⟩ := ih (i + 1#32) _ (mem ++ [.alloc (.buffer (alloc i) length)])
      refine ⟨item, xfOutputPortItem id length (alloc i) port.pool.p i :: sent, ?_, by simp [hnull]⟩
      rw [hport]
      simp [xfMsgEnqueue]

/-- As long as no allocation fails, all calls of the loop are done. -/
lemma xfOutputPortRouteCallsLoop_done (length : U32) (alloc : U32 → U32) (k : ℕ) (i : U32)
    (h : (xfOutputPortRouteCallsLoop length alloc k i).2 = none) :
    ∀ c ∈ (xfOutputPortRouteCallsLoop length alloc k i).1, c.done = true := by
  induction k generalizing i with
  | zero => simp [xfOutputPortRouteCallsLoop]
  | succ k ih =>
    by_cases hnull : alloc i = 0#32
    · rw [xfOutputPortRouteCallsLoop, if_pos hnull] at h
      cases h
    · rw [xfOutputPortRouteCallsLoop, if_neg hnull] at h ⊢
      intro c hc
      rcases List.mem_cons.1 hc with rfl | hc
      · simp [XfMemCall.done, hnull]
      · exact ih (i + 1#32) h c hc

/-- An allocation that fails is the last one, and the calls of the memory allocator end with the
cleanup. -/
lemma xfOutputPortRouteCalls_of_first (hp : alloc 0#32 ≠ 0#32) (hn : n + 1#32 ≠ 0#32)
    (hn0 : n ≠ 0#32)
    (hfirst : alloc 1#32 = 0#32) : xfOutputPortRouteCalls sizeof n length alloc =
      [.alloc (xfMsgPoolSize sizeof (n + 1#32)) (alloc 0#32), .alloc length 0#32,
        .free (alloc 0#32) (xfMsgPoolSize sizeof (n + 1#32))] := by
  obtain ⟨k, hk⟩ : ∃ k, n.toNat = k + 1 :=
    ⟨n.toNat - 1, by have : n.toNat ≠ 0 := fun h => hn0 (BitVec.eq_of_toNat_eq h); omega⟩
  rw [xfOutputPortRouteCalls, if_neg (by simp [hp, hn]), hk, xfOutputPortRouteCallsLoop,
    if_pos hfirst]
  simp [hfirst]

/-- When the pool of messages is allocated and some buffer is not, the messages that have a buffer
stay in the queue. -/
lemma xfOutputPortRoute_port (hp : alloc 0#32 ≠ 0#32) (hn : n + 1#32 ≠ 0#32)
    (hfail : ∃ c ∈ xfOutputPortRouteCalls sizeof n length alloc, c.done = false)
    (port : XfOutputPort) (id : XfMsgId) :
    n ≠ 0#32 ∧ ∃ item sent mem, xfOutputPortRoute port id n length alloc =
      some ({ port with
        pool := ⟨alloc 0#32, n + 1#32, item⟩, queue := port.queue ++ sent }, mem, false) ∧
      (sent = [] ↔ alloc 1#32 = 0#32) := by
  -- the loop that lists the calls has failed
  have hloop : (xfOutputPortRouteCallsLoop length alloc n.toNat 1#32).2 ≠ none := by
    intro hnone
    obtain ⟨c, hc, hdone⟩ := hfail
    have hcalls := xfOutputPortRouteCallsLoop_done length alloc n.toNat 1#32 hnone
    rw [xfOutputPortRouteCalls, if_neg (by simp [hp, hn])] at hc
    generalize xfOutputPortRouteCallsLoop length alloc n.toNat 1#32 = R at hnone hcalls hc
    obtain ⟨calls, failed⟩ := R
    obtain rfl : failed = none := hnone
    rcases List.mem_cons.1 hc with rfl | hc
    · simp [XfMemCall.done, hp] at hdone
    · exact absurd (hcalls c hc) (by rw [hdone]; simp)
  have hn0 : n ≠ 0#32 := by
    rintro rfl
    exact hloop rfl
  have hpos : n.toNat ≠ 0 := fun h => hn0 (BitVec.eq_of_toNat_eq h)
  refine ⟨hn0, ?_⟩
  obtain ⟨-, -, hsame, -⟩ := routeLoop_spec id length alloc n.toNat 1
    (by have := toNat_succ_lt hn; omega)
      { port with pool := { port.pool with p := alloc 0#32, n := n + 1#32 } }
      [.alloc (.pool (alloc 0#32) (n + 1#32))]
  obtain ⟨item, sent, hport, hsent⟩ := xfOutputPortRouteLoop_port id length alloc n.toNat 1#32
    { port with pool := { port.pool with p := alloc 0#32, n := n + 1#32 } }
      [.alloc (.pool (alloc 0#32) (n + 1#32))]
  rw [xfOutputPortRoute, if_neg hp, if_neg hn]
  simp only
  generalize hR : xfOutputPortRouteLoop id length alloc n.toNat 1#32
    { port with pool := { port.pool with p := alloc 0#32, n := n + 1#32 } }
    [.alloc (.pool (alloc 0#32) (n + 1#32))] = R at hport
  obtain ⟨port', mem, failed⟩ := R
  obtain rfl : port' = _ := hport
  have hfailed : failed ≠ none := by
    intro hnone
    apply hloop
    rw [← hsame, hR, hnone]
  obtain ⟨i, rfl⟩ := Option.ne_none_iff_exists'.1 hfailed
  exact ⟨item, sent, _, rfl, by rw [hsent]; simp [hpos]⟩

/-! ## The memory -/

/-- Without memory for the pool of messages, nothing happens to the memory pool. -/
lemma XfMmLive.answers_null (h : XfMmLive addr size M pool)
    (hwrap : addr.toNat + size.toNat < 2 ^ 32)
    (hanswers : XfMmAnswers pool [.alloc x 0#32] pool') :
    XfMmAnswers pool [.alloc x 0#32] pool := by
  cases hanswers with
  | alloc halloc hrest =>
    have hsame := h.eq_of_alloc_null_of_lt hwrap halloc
    rw [hsame] at halloc
    exact .alloc halloc (.nil _)

/-- When the first buffer cannot be allocated, the cleanup gives the pool of messages back. -/
lemma XfMmLive.answers_cleanup {p : U32} (h : XfMmLive addr size M pool)
    (hwrap : addr.toNat + size.toNat < 2 ^ 32) (hp : p ≠ 0) (hpos : 0 < x.toNat) (hx : 32 ∣ x.toNat)
    (hanswers : XfMmAnswers pool [.alloc x p, .alloc length 0#32] pool') :
    ∃ pool'', XfMmAnswers pool [.alloc x p, .alloc length 0#32, .free p x] pool'' ∧
      xfMmFreeBytes pool'' = xfMmFreeBytes pool := by
  cases hanswers with
  | @alloc _ pool₁ _ _ _ _ halloc hrest =>
    cases hrest with
    | @alloc _ pool₂ _ _ _ _ hlength _ =>
      obtain ⟨pool₁', p', halloc', hlive⟩ := h.alloc hpos hx
      obtain ⟨rfl, rfl⟩ := Prod.mk.inj (Option.some.inj (halloc.symm.trans halloc'))
      obtain rfl := hlive.eq_of_alloc_null_of_lt hwrap hlength
      rw [xfMmTaken_of_ne hp] at hlive
      obtain ⟨pool'', hfree, hlive'⟩ := hlive.free
      refine ⟨pool'', .alloc halloc (.alloc hlength (.free hfree (.nil _))), ?_⟩
      rw [← zero_add M] at hlive'
      exact (h.freeBytes_eq_iff hlive').2 rfl

/-- A ROUTE command that some allocation fails is undone in exactly two cases: there is no block for
the pool of messages and the port had none before, or there is none for the first buffer and the
port had a pool of messages of the same size at the same address before. -/
theorem xfOutputPortRoute_undone_iff {addr size sizeof n length : U32} {pool₀ pool pool₁ : XfMmPool}
    {s : XfMmState} (haddr : 32 ∣ addr.toNat) (hsize : 32 ∣ size.toNat) (hpos : 0 < size.toNat)
    (hwrap : addr.toNat + size.toNat < 2 ^ 32)
    (hinit : xfMmInit pool₀ addr size = some (some pool))
    (hrun : Relation.ReflTransGen XfMmStep ⟨pool, []⟩ s) (hsizeof : 0 < sizeof.toNat)
    (port : XfOutputPort) (id : XfMsgId) (alloc : U32 → U32)
    (hanswers : XfMmAnswers s.pool
      ((xfOutputPortRouteCalls sizeof n length alloc).filter XfMemCall.isAlloc) pool₁)
    (hfail : ∃ c ∈ xfOutputPortRouteCalls sizeof n length alloc, c.done = false) :
    XfRouteUndone sizeof port id n length alloc s.pool ↔
      (alloc 0#32 = 0#32 ∧ port.pool.p = 0#32) ∨
      (alloc 0#32 ≠ 0#32 ∧ alloc 1#32 = 0#32 ∧ port.pool.p = alloc 0#32 ∧ port.pool.n = n + 1#32 ∧
        sizeof.toNat * (n.toNat + 1) + 31 < 2 ^ 32) := by
  have hlive := XfMmLive.of_run haddr hsize hpos hwrap.le hinit hrun
  by_cases hp : alloc 0#32 = 0#32
  · -- no pool of messages
    have hcalls : xfOutputPortRouteCalls sizeof n length alloc =
        [.alloc (xfMsgPoolSize sizeof (n + 1#32)) 0#32] := by
      rw [xfOutputPortRouteCalls, if_pos (.inl hp), hp]
    constructor
    · rintro ⟨⟨item, mem, hroute⟩, -, -⟩
      rw [xfOutputPortRoute, if_pos hp, Option.some.injEq, Prod.mk.injEq] at hroute
      exact .inl ⟨hp, (congrArg (fun port : XfOutputPort => port.pool.p) hroute.1).symm⟩
    · rintro (⟨-, hnull⟩ | ⟨hne, -⟩)
      · refine ⟨⟨port.pool.item, [], ?_⟩, ⟨s.pool, ?_, rfl⟩, fun h => absurd hp h⟩
        · rw [xfOutputPortRoute, if_pos hp, ← hnull]
        · rw [hcalls] at hanswers ⊢
          exact hlive.answers_null hwrap hanswers
      · exact absurd hp hne
  · have hn : n + 1#32 ≠ 0#32 := by
      intro hn
      obtain ⟨c, hc, hdone⟩ := hfail
      rw [xfOutputPortRouteCalls, if_pos (.inr hn), List.mem_singleton] at hc
      subst hc
      simp [XfMemCall.done, hp] at hdone
    obtain ⟨hn0, item, sent, mem, hroute, hsent⟩ := xfOutputPortRoute_port hp hn hfail port id
    have hsizes := xfMsgPoolSize_iff (n := n) hsizeof
    constructor
    · rintro ⟨⟨item', mem', hroute'⟩, -, hinside⟩
      have hport := (Prod.mk.inj (Option.some.inj (hroute.symm.trans hroute'))).1
      have hqueue := congrArg XfOutputPort.queue hport
      have hpool := congrArg XfOutputPort.pool hport
      have hqueue : sent = [] := by simpa using hqueue
      simp only [XfMsgPool.mk.injEq] at hpool
      have hprod : 0 < sizeof.toNat * (n.toNat + 1) := Nat.mul_pos hsizeof (Nat.succ_pos _)
      have hle := hinside hp
      exact .inr ⟨hp, hsent.1 hqueue, hpool.1.symm, hpool.2.1.symm,
        hsizes.1 ⟨lt_of_lt_of_le hprod hle, hle⟩⟩
    · rintro (⟨hnull, -⟩ | ⟨-, hfirst, hpp, hpn, hlt⟩)
      · exact absurd hnull hp
      · obtain ⟨hposSize, hle⟩ := hsizes.2 hlt
        have hcalls : xfOutputPortRouteCalls sizeof n length alloc = _ :=
          xfOutputPortRouteCalls_of_first hp hn hn0 hfirst
        refine ⟨⟨item, mem, ?_⟩, ?_, fun _ => hle⟩
        · rw [hroute, hsent.2 hfirst, List.append_nil, ← hpp, ← hpn]
        · rw [hcalls] at hanswers ⊢
          exact hlive.answers_cleanup hwrap hp hposSize (dvd_xfMm _) hanswers

/-- The answers of a pool of 256 bytes: three messages of 64 bytes, one buffer of 64 bytes, and no
more. -/
def routeAnswers (i : U32) : U32 := if i = 0#32 then 96#32 else if i = 1#32 then 32#32 else 0#32

lemma exists_routeAnswers : ∃ pool pool₁, xfMmInit xfMmRawPool 32#32 256#32 = some (some pool) ∧
    XfMmAnswers pool
      ((xfOutputPortRouteCalls 64#32 2#32 64#32 routeAnswers).filter XfMemCall.isAlloc) pool₁ := by
  obtain ⟨pool, hinit, -⟩ : ∃ pool, xfMmInit xfMmRawPool 32#32 256#32 = some (some pool) ∧
      XfMmInv 32#32 256#32 ⟨pool, []⟩ :=
    xfMmInit_spec xfMmRawPool (by decide) (by decide) (by decide) (by decide)
  have heval : ((xfMmInit xfMmRawPool 32#32 256#32).bind id).bind (fun pool =>
      (xfMmAlloc pool 192#32).bind fun r => (xfMmAlloc r.1 64#32).bind fun r' =>
        (xfMmAlloc r'.1 64#32).map fun r'' => (r.2, r'.2, r''.2)) =
          some (96#32, 32#32, 0#32) := by
    decide +kernel
  simp only [hinit, Option.bind_some, id, Option.bind_eq_some_iff, Option.map_eq_some_iff,
    Prod.mk.injEq, Prod.exists] at heval
  obtain ⟨pool₁, _, halloc₁, pool₂, _, halloc₂, pool₃, _, halloc₃, rfl, rfl, rfl⟩ := heval
  exact ⟨pool, pool₃, hinit, .alloc halloc₁ (.alloc halloc₂ (.alloc halloc₃ (.nil _)))⟩

/-- An output port that has been initialised and never routed. -/
def xfFreshOutputPort : XfOutputPort :=
  xfOutputPortInit (.zero fun _ => ⟨.proxy 0, ⟨0, 0⟩, .other, 0, 0⟩) 64#32

lemma routeAnswers_fails :
    ∃ c ∈ xfOutputPortRouteCalls 64#32 2#32 64#32 routeAnswers, c.done = false := by
  decide +kernel

/-- Two messages for a port that has never been routed, with memory for one of their buffers. -/
theorem xfOutputPortRoute_undone_iff_two : ∃ pool, xfMmInit xfMmRawPool 32#32 256#32 = some
    (some pool) ∧
    (XfRouteUndone 64#32 xfFreshOutputPort ⟨0, 0⟩ 2#32 64#32 routeAnswers pool ↔
      (routeAnswers 0#32 = 0#32 ∧ xfFreshOutputPort.pool.p = 0#32) ∨
      (routeAnswers 0#32 ≠ 0#32 ∧ routeAnswers 1#32 = 0#32 ∧
        xfFreshOutputPort.pool.p = routeAnswers 0#32 ∧ xfFreshOutputPort.pool.n = 2#32 + 1#32 ∧
        (64#32).toNat * ((2#32).toNat + 1) + 31 < 2 ^ 32)) := by
  obtain ⟨pool, pool₁, hinit, hanswers⟩ := exists_routeAnswers
  exact ⟨pool, hinit,
    xfOutputPortRoute_undone_iff (s := ⟨pool, []⟩) (by decide) (by decide) (by decide)
    (by decide) hinit .refl (by decide) xfFreshOutputPort ⟨0, 0⟩ routeAnswers hanswers
    routeAnswers_fails⟩

/-- The second buffer cannot be allocated: the message of the first one stays in the queue, although
its buffer and the message itself have been freed. -/
theorem xfOutputPortRoute_not_undone : ∃ pool pool₁,
    xfMmInit xfMmRawPool 32#32 256#32 = some (some pool) ∧
    XfMmAnswers pool
      ((xfOutputPortRouteCalls 64#32 2#32 64#32 routeAnswers).filter XfMemCall.isAlloc) pool₁ ∧
    (∃ c ∈ xfOutputPortRouteCalls 64#32 2#32 64#32 routeAnswers, c.done = false) ∧
    ¬ XfRouteUndone 64#32 xfFreshOutputPort ⟨0, 0⟩ 2#32 64#32 routeAnswers pool := by
  obtain ⟨pool, pool₁, hinit, hanswers⟩ := exists_routeAnswers
  refine ⟨pool, pool₁, hinit, hanswers, routeAnswers_fails, ?_⟩
  rintro ⟨⟨item, mem, hroute⟩, -, -⟩
  have hlength : (xfOutputPortRoute xfFreshOutputPort ⟨0, 0⟩ 2#32 64#32 routeAnswers).map
      (fun r => r.1.queue.length) = some 1 := by
    decide +kernel
  rw [hroute, Option.map_some, Option.some.injEq] at hlength
  exact absurd hlength (by simp [xfFreshOutputPort, xfOutputPortInit, XfOutputPort.zero])

end Hikey
