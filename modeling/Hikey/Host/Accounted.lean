import Hikey.Host.Proxy

/-!
# Every buffer and client number is accounted for (`proxy/xf-proxy.c`)

A step moves the head of a free list to an open handle or back, and in the runs without the two
exits that keep a buffer the free ones and those of the open handles are all.
-/

namespace Hikey

/-! ## Lists of free ones -/

section FreeList

variable {p : XfPool} {x : XfProxy} {l l' : List ℕ} {b client h : ℕ} {handle : XfHandle}

/-- The head of the free buffers is taken. -/
lemma XfPool.FreeList.get (hl : p.FreeList (b :: l)) (hb : b ∉ l) :
    ∃ p', xfBufferGet p = (some b, p') ∧ p'.FreeList l ∧ p'.number = p.number := by
  obtain ⟨hfree, hl⟩ := hl
  refine ⟨{ p with free := (p.link b).nextFree, link := Function.update p.link b .pool },
    by simp only [xfBufferGet, hfree], ?_, rfl⟩
  refine Chain.congr hl fun b' hb' => ?_
  have hne : b' ≠ b := fun heq => hb (heq ▸ hb')
  simp only [XfPool.nextFree, Function.update_of_ne hne]

lemma XfPool.FreeList.get_nil (hl : p.FreeList []) : xfBufferGet p = (none, p) := by
  rw [xfBufferGet, show p.free = none from hl]

/-- A buffer is put back. -/
lemma XfPool.FreeList.put (hl : p.FreeList l) (hb : b ∉ l) :
    (xfBufferPut p b).FreeList (b :: l) := by
  refine ⟨rfl, ?_⟩
  have hnext : (xfBufferPut p b).nextFree b = p.free := by
    simp only [XfPool.nextFree, xfBufferPut, Function.update_self, XfBufferLink.nextFree_next]
  rw [hnext]
  refine Chain.congr hl fun b' hb' => ?_
  have hne : b' ≠ b := fun heq => hb (heq ▸ hb')
  simp only [XfPool.nextFree, xfBufferPut, Function.update_of_ne hne]

/-- The head of the free client numbers is taken. -/
lemma XfProxy.FreeList.alloc (h : ℕ) (handle : XfHandle) (hl : x.FreeList (client :: l))
    (hclient : client ∉ l) (hzero : 0 ∉ client :: l) :
    ∃ x', xfProxyClientAlloc x h handle = (client, x', { handle with client := client }) ∧
      x'.FreeList l ∧
      x'.aux = x.aux := by
  obtain ⟨hhead, hl⟩ := hl
  have hne : client ≠ 0 := fun heq => hzero (heq ▸ List.mem_cons_self)
  have hfirst : (x.cmap 0).nextFree = client := by
    rw [XfProxy.nextFree] at hhead
    split at hhead
    · cases hhead
    · exact Option.some.inj hhead
  let cmap := Function.update x.cmap 0 (.next (x.cmap client).nextFree)
  refine ⟨{ x with cmap := Function.update cmap client (.handle h) },
    by simp only [xfProxyClientAlloc, hfirst, if_pos hne, cmap], ?_, rfl⟩
  have hhead' : XfProxy.nextFree { x with cmap := Function.update cmap client (.handle h) } 0 =
      x.nextFree client := by
    simp only [XfProxy.nextFree, Function.update_of_ne hne.symm, Function.update_self,
      XfProxyCmapLink.nextFree_next, cmap]
  rw [XfProxy.FreeList, hhead']
  refine Chain.congr hl fun c hc => ?_
  have hc0 : c ≠ 0 := fun heq => hzero (heq ▸ List.mem_cons_of_mem _ hc)
  have hcc : c ≠ client := fun heq => hclient (heq ▸ hc)
  simp only [XfProxy.nextFree, Function.update_of_ne hcc, Function.update_of_ne hc0, cmap]

lemma XfProxy.FreeList.alloc_nil (hl : x.FreeList []) :
    xfProxyClientAlloc x h handle = (0, x, handle) := by
  have hfirst : (x.cmap 0).nextFree = 0 := by
    by_contra hne
    have hnone : x.nextFree 0 = none := hl
    rw [XfProxy.nextFree, if_neg hne] at hnone
    cases hnone
  simp only [xfProxyClientAlloc, hfirst, ne_eq, not_true_eq_false, if_false]

/-- A client number is put back. -/
lemma XfProxy.FreeList.free (hl : x.FreeList l) (hclient : handle.client ∉ l)
    (hzero : 0 ∉ handle.client :: l) :
    (xfProxyClientFree x handle).FreeList (handle.client :: l) := by
  have hne : handle.client ≠ 0 := fun heq => hzero (heq ▸ List.mem_cons_self)
  refine ⟨?_, ?_⟩
  · simp only [XfProxy.nextFree, xfProxyClientFree, Function.update_self,
      XfProxyCmapLink.nextFree_next, if_neg hne]
  · have hnext : (xfProxyClientFree x handle).nextFree handle.client = x.nextFree 0 := by
      simp only [XfProxy.nextFree, xfProxyClientFree, Function.update_of_ne hne,
        Function.update_self,
        XfProxyCmapLink.nextFree_next]
    rw [hnext]
    refine Chain.congr hl fun c hc => ?_
    have hc0 : c ≠ 0 := fun heq => hzero (heq ▸ List.mem_cons_of_mem _ hc)
    have hcc : c ≠ handle.client := fun heq => hclient (heq ▸ hc)
    simp only [XfProxy.nextFree, xfProxyClientFree, Function.update_of_ne hc0,
      Function.update_of_ne hcc]

end FreeList

/-! ## What is taken and given back -/

section Perm

variable {α : Type*} {a : α} {l m m' t : List α}

lemma perm_take (h : (a :: l ++ m).Perm t) : (l ++ (m ++ [a])).Perm t := by
  rw [← List.append_assoc]
  exact (List.perm_append_singleton a (l ++ m)).trans h

lemma perm_give (h : (l ++ m).Perm t) (hm : m.Perm (a :: m')) : (a :: l ++ m').Perm t :=
  (List.perm_middle.symm.trans (hm.symm.append_left l)).trans h

end Perm

/-- The invariant, for a proxy and what its open handles own. -/
structure XfOwned (n : ℕ) (x : XfProxy) (buffers : List (Option ℕ)) (clients : List ℕ) : Prop where
  number : x.aux.number = n
  buffers : ∃ l, x.aux.FreeList l ∧ (l.map some ++ buffers).Perm ((List.range n).map some)
  clients : ∃ l, x.FreeList l ∧ (l ++ clients).Perm (List.range' 1 (xfCfgProxyMaxClients - 1))

variable {n : ℕ} {x x' : XfProxy} {bs : List (Option ℕ)} {cs : List ℕ} {b h : ℕ}
  {handle handle' : XfHandle}
  {env : XfCmdEnv} {r : ℤ}

lemma nodup_of_buffers {l : List ℕ} {n : ℕ}
    (h : (l.map some ++ bs).Perm ((List.range n).map some)) :
    (l.map some ++ bs).Nodup :=
  h.nodup_iff.2 (List.nodup_range.map (Option.some_injective ℕ))

/-- A buffer is taken, if there is one. -/
lemma XfOwned.get (hown : XfOwned n x bs cs) :
    (x.aux.free = none ∧ xfBufferGet x.aux = (none, x.aux)) ∨
      ∃ b aux, xfBufferGet x.aux = (some b, aux) ∧ XfOwned n { x with aux := aux }
        (bs ++ [some b]) cs := by
  obtain ⟨hnumber, ⟨l, hl, hperm⟩, hclients⟩ := hown
  cases l with
  | nil => exact .inl ⟨hl, hl.get_nil⟩
  | cons b l =>
    have hb : b ∉ l := by
      have hnd := (nodup_of_buffers hperm).of_append_left
      exact (List.nodup_cons.1 (hnd.of_map some)).1
    obtain ⟨aux, hget, hfree, haux⟩ := hl.get hb
    exact .inr ⟨b, aux, hget, haux.trans hnumber, ⟨l, hfree, perm_take hperm⟩, hclients⟩

/-- A buffer is put back. -/
lemma XfOwned.put {bs' : List (Option ℕ)} (hown : XfOwned n x bs cs)
    (hb : bs.Perm (some b :: bs')) :
    XfOwned n { x with aux := xfBufferPut x.aux b } bs' cs := by
  obtain ⟨hnumber, ⟨l, hl, hperm⟩, hclients⟩ := hown
  have hnotin : b ∉ l := fun hmem =>
    List.disjoint_of_nodup_append (nodup_of_buffers hperm) (List.mem_map_of_mem hmem)
      (hb.mem_iff.2 List.mem_cons_self)
  exact ⟨hnumber, ⟨b :: l, hl.put hnotin, perm_give hperm hb⟩, hclients⟩

lemma zero_notin_clients {l : List ℕ}
    (hperm : (l ++ cs).Perm (List.range' 1 (xfCfgProxyMaxClients - 1))) :
    0 ∉ l ++ cs := by
  intro hzero
  have := List.mem_range'_1.1 (hperm.mem_iff.1 hzero)
  omega

/-- A client number is taken, if there is one. -/
lemma XfOwned.alloc (hown : XfOwned n x bs cs) (h : ℕ) (handle : XfHandle) :
    xfProxyClientAlloc x h handle = (0, x, handle) ∨
      ∃ client x', client ≠ 0 ∧
        xfProxyClientAlloc x h handle = (client, x', { handle with client := client }) ∧
        XfOwned n x' bs (cs ++ [client]) := by
  obtain ⟨hnumber, hbuffers, l, hl, hperm⟩ := hown
  cases l with
  | nil => exact .inl hl.alloc_nil
  | cons client l =>
    have hzero := zero_notin_clients hperm
    have hnd := (hperm.nodup_iff.2 List.nodup_range').of_append_left
    obtain ⟨x', halloc, hfree, haux⟩ := hl.alloc h handle (List.nodup_cons.1 hnd).1
      fun hmem => hzero (List.mem_append_left _ hmem)
    refine .inr ⟨client, x', fun heq => hzero (by simp [heq]), halloc, haux ▸ hnumber, ?_, l, hfree,
      perm_take hperm⟩
    rw [haux]
    exact hbuffers

/-- A client number is put back. -/
lemma XfOwned.free {cs' : List ℕ} (hown : XfOwned n x bs cs) (hc : cs.Perm (handle.client :: cs')) :
    XfOwned n (xfProxyClientFree x handle) bs cs' := by
  obtain ⟨hnumber, hbuffers, l, hl, hperm⟩ := hown
  have hmem : handle.client ∈ cs := hc.mem_iff.2 List.mem_cons_self
  have hzero := zero_notin_clients hperm
  have hnotin : handle.client ∉ l := fun hl =>
    List.disjoint_of_nodup_append (hperm.nodup_iff.2 List.nodup_range') hl hmem
  refine ⟨hnumber, hbuffers, handle.client :: l, hl.free hnotin fun h => ?_, perm_give hperm hc⟩
  rcases List.mem_cons.1 h with h | h
  · exact hzero (List.mem_append_right _ (h ▸ hmem))
  · exact hzero (List.mem_append_left _ h)

/-! ## The calls -/

/-- An open that fails leaves nothing taken, and one that succeeds gives the handle a buffer and a
client number. -/
lemma XfOwned.xfOpen (hown : XfOwned n x bs cs) {pipe : Option {e : ℤ // 0 < e}}
    (hclean : x.aux.free = none ∨ pipe = none)
    (hres : Hikey.xfOpen pipe env x h handle = (x', handle', r)) :
    r < 0 ∧ XfOwned n x' bs cs ∨ ¬r < 0 ∧ XfOwned n x' (bs ++ [handle'.aux])
      (cs ++ [handle'.client]) := by
  rw [Hikey.xfOpen] at hres
  rcases hown.get with ⟨-, hget⟩ | ⟨b, aux, hget, hown'⟩
  · rw [hget] at hres
    obtain ⟨rfl, -, rfl⟩ := hres
    exact .inl ⟨by decide, hown⟩
  · rw [hget] at hres
    obtain rfl : pipe = none := hclean.resolve_left fun hfree => by
      simp [xfBufferGet, hfree] at hget
    simp only at hres
    rcases hown'.alloc h
      { handle with aux := some b } with halloc | ⟨client, x₁, hne, halloc, hown₁⟩
    · rw [halloc] at hres
      simp only [if_true, show xfEBusy < 0 by decide] at hres
      obtain ⟨rfl, -, rfl⟩ := hres
      exact .inl ⟨by decide, hown'.put (List.perm_append_singleton _ _)⟩
    · rw [halloc] at hres
      have hfail : XfOwned n
          { xfProxyClientFree x₁ { handle with aux := some b, client := client } with
          aux := xfBufferPut (xfProxyClientFree x₁
          { handle with aux := some b, client := client }).aux b } bs cs :=
        (hown₁.free (List.perm_append_singleton client cs)).put
          (List.perm_append_singleton (some b) bs)
      simp only [if_neg hne, xfProxyClientRegister] at hres
      by_cases hexec : xfProxyCmdExec env < 0
      · simp only [if_pos hexec] at hres
        obtain ⟨rfl, -, rfl⟩ := hres
        exact .inl ⟨hexec, hfail⟩
      · simp only [if_neg hexec] at hres
        by_cases hopcode : env.opcode = xfRegister
        · simp only [if_pos hopcode, lt_irrefl, if_false] at hres
          obtain ⟨rfl, rfl, rfl⟩ := hres
          exact .inr ⟨lt_irrefl _, hown₁⟩
        · simp only [if_neg hopcode, show xfEFault < 0 by decide, if_true] at hres
          obtain ⟨rfl, -, rfl⟩ := hres
          exact .inl ⟨by decide, hfail⟩

lemma XfOwned.xfClose {debug : Bool} {bs' : List (Option ℕ)} {cs' : List ℕ}
    (hown : XfOwned n x bs cs)
    (hb : bs.Perm (handle.aux :: bs')) (hc : cs.Perm (handle.client :: cs'))
    (hres : Hikey.xfClose debug env x h handle = some (x', handle')) : XfOwned n x' bs' cs' := by
  rw [Hikey.xfClose] at hres
  obtain ⟨-, -, hres⟩ := Option.bind_eq_some_iff.1 hres
  obtain ⟨b, hb', hres⟩ := Option.bind_eq_some_iff.1 hres
  obtain ⟨rfl, -⟩ := Prod.ext_iff.1 (Option.some.inj hres)
  exact (hown.free hc).put (hb' ▸ hb)

lemma XfOwned.xfRoute {src dst : XfHandle} {num size align : U32} (hown : XfOwned n x bs cs)
    (hclean : x.aux.free = none ∨ 0 ≤ xfProxyCmdExec env ∨ src.proxy ≠ dst.proxy ∨
      ¬(num ≠ 0 ∧ size ≠ 0 ∧ xfIsPowerOfTwo align)) :
    XfOwned n (Hikey.xfRoute env x src dst num size align).1 bs cs := by
  rw [Hikey.xfRoute]
  split
  · exact hown
  · split
    · exact hown
    · rename_i hproxy hparams
      rcases hown.get with ⟨-, hget⟩ | ⟨b, aux, hget, hown'⟩
      · rw [hget]
        exact hown
      · rw [hget]
        have hfree : x.aux.free ≠ none := fun hfree => by simp [xfBufferGet, hfree] at hget
        have hexec := (hclean.resolve_left hfree).resolve_right
          (not_or.2 ⟨hproxy, not_not.2 (not_not.1 hparams)⟩)
        have hput := hown'.put (List.perm_append_singleton (some b) bs)
        simp only [if_neg (not_lt.2 hexec)]
        split <;> exact hput

lemma XfOwned.xfUnroute (hown : XfOwned n x bs cs) : XfOwned n (Hikey.xfUnroute env x).1 bs cs := by
  rw [Hikey.xfUnroute]
  rcases hown.get with ⟨-, hget⟩ | ⟨b, aux, hget, hown'⟩
  · rw [hget]
    exact hown
  · rw [hget]
    have hput := hown'.put (List.perm_append_singleton (some b) bs)
    simp only
    split
    · exact hput
    · split <;> exact hput

/-! ## Every run -/

variable {s s' : XfHost} {debug : Bool} {op : XfHostOp}

/-- The auxiliary buffers of the open handles. -/
def XfHost.ownedBuffers (s : XfHost) : List (Option ℕ) := s.opened.map fun h => (s.handles h).aux

/-- The client numbers of the open handles. -/
def XfHost.ownedClients (s : XfHost) : List ℕ := s.opened.map fun h => (s.handles h).client

/-- The invariant. -/
structure XfHostInv (n : ℕ) (s : XfHost) : Prop where
  nodup : s.opened.Nodup
  owned : XfOwned n s.proxy s.ownedBuffers s.ownedClients

lemma map_update_of_notin {β : Type*} {handles : ℕ → XfHandle} (f : XfHandle → β) {opened : List ℕ}
    (hh : h ∉ opened) :
    (opened.map fun h' => f (Function.update handles h handle h')) = opened.map fun h' => f
    (handles h') :=
  List.map_congr_left fun h' hh' => by
    have hne : h' ≠ h := fun heq => hh (heq ▸ hh')
    rw [Function.update_of_ne hne]

/-- A step, and what is free after a call that fails. -/
lemma XfHostInv.step (hinv : XfHostInv n s) (hlegal : op.Legal s) (hclean : op.Clean s)
    (hnext : s.next debug op = some (s', r)) :
    XfHostInv n s' ∧ (r < 0 → XfOwned n s'.proxy s.ownedBuffers s.ownedClients) := by
  obtain ⟨hnodup, hown⟩ := hinv
  cases op with
  | xfOpen pipe env h =>
    obtain ⟨x', handle', r', hres⟩ : ∃ x' handle' r', xfOpen pipe env s.proxy h (s.handles h) =
      (x', handle', r') :=
      ⟨_, _, _, rfl⟩
    simp only [XfHost.next, hres, Option.some.injEq, Prod.mk.injEq] at hnext
    obtain ⟨rfl, rfl⟩ := hnext
    rcases hown.xfOpen hclean hres with ⟨hr, hown'⟩ | ⟨hr, hown'⟩
    · refine ⟨⟨by simpa only [if_pos hr] using hnodup, ?_⟩, fun _ => hown'⟩
      simp only [XfHost.ownedBuffers, XfHost.ownedClients, if_pos hr,
        map_update_of_notin XfHandle.aux hlegal,
        map_update_of_notin XfHandle.client hlegal]
      exact hown'
    · refine ⟨⟨?_, ?_⟩, fun hneg => absurd hneg hr⟩
      · simp only [if_neg hr]
        exact List.nodup_append.2 ⟨hnodup, List.nodup_singleton h, fun a ha b hb heq =>
          hlegal (List.mem_singleton.1 hb ▸ heq ▸ ha)⟩
      · simp only [XfHost.ownedBuffers, XfHost.ownedClients, if_neg hr, List.map_append,
          map_update_of_notin XfHandle.aux hlegal, map_update_of_notin XfHandle.client
            hlegal, List.map_singleton,
          Function.update_self]
        exact hown'
  | xfClose env h =>
    obtain ⟨⟨x', handle'⟩, hres, heq⟩ := Option.map_eq_some_iff.1 hnext
    obtain ⟨rfl, rfl⟩ := Prod.ext_iff.1 heq
    refine ⟨⟨hnodup.erase h, ?_⟩, fun hneg => absurd hneg (lt_irrefl _)⟩
    have hh : h ∉ s.opened.erase h := hnodup.not_mem_erase
    have hperm := List.perm_cons_erase hlegal
    simp only [XfHost.ownedBuffers, XfHost.ownedClients, map_update_of_notin XfHandle.aux hh,
      map_update_of_notin XfHandle.client hh]
    exact hown.xfClose (hperm.map _) (hperm.map _) hres
  | xfRoute env src dst num size align =>
    simp only [XfHost.next, Option.some.injEq, Prod.mk.injEq] at hnext
    obtain ⟨rfl, rfl⟩ := hnext
    have hown' := hown.xfRoute hclean
    exact ⟨⟨hnodup, hown'⟩, fun _ => hown'⟩
  | xfUnroute env src =>
    simp only [XfHost.next, Option.some.injEq, Prod.mk.injEq] at hnext
    obtain ⟨rfl, rfl⟩ := hnext
    exact ⟨⟨hnodup, hown.xfUnroute⟩, fun _ => hown.xfUnroute⟩

/-- What the same handles do not own is free. -/
lemma XfOwned.sameFree (hown : XfOwned n x bs cs) (hown' : XfOwned n x' bs cs) :
    XfSameFree x x' := by
  obtain ⟨-, ⟨l, hl, hperm⟩, m, hm, hmperm⟩ := hown
  obtain ⟨-, ⟨l', hl', hperm'⟩, m', hm', hmperm'⟩ := hown'
  constructor
  · intro k k' hk hk'
    obtain rfl := hl.unique hk
    obtain rfl := hl'.unique hk'
    have hsome := (List.perm_append_right_iff _).1 (hperm'.trans hperm.symm)
    exact (List.map_perm_map_iff (Option.some_injective ℕ)).1 hsome
  · intro k k' hk hk'
    obtain rfl := hm.unique hk
    obtain rfl := hm'.unique hk'
    exact (List.perm_append_right_iff _).1 (hmperm'.trans hmperm.symm)

lemma XfHostInv.accounted (hinv : XfHostInv n s) : XfAccounted s :=
  ⟨hinv.owned.number.symm ▸ hinv.owned.buffers, hinv.owned.clients⟩

lemma XfHostInv.start (hn : 0 < n) (handles : ℕ → XfHandle) : XfHostInv n (.start n handles) := by
  refine ⟨List.nodup_nil, rfl, ⟨List.range n, ?_, by simp [XfHost.ownedBuffers, XfHost.start]⟩,
    List.range' 1 255, ?_, by simp [XfHost.ownedClients, XfHost.start, xfCfgProxyMaxClients]⟩
  · obtain ⟨k, rfl⟩ : ∃ k, n = k + 1 := ⟨n - 1, by omega⟩
    rw [List.range_eq_range']
    refine Chain.range' (fun j _ hj => ?_) ?_
    · exact if_pos (by omega)
    · exact if_neg (by omega)
  · have hhead : (XfHost.start n handles).proxy.nextFree 0 = some 1 := rfl
    rw [XfProxy.FreeList, hhead]
    refine Chain.range' (k := 254) (fun j hpos hj => ?_) rfl
    have hlt : j < xfCfgProxyMaxClients - 1 := by
      rw [xfCfgProxyMaxClients]
      omega
    simp only [XfHost.start, xfProxyInit, XfProxy.nextFree,
      XfProxyCmapLink.nextFree_next, if_pos hlt]
    exact if_neg j.succ_ne_zero

/-- In every run in which no exit keeps a buffer, everything is accounted for after each call, and a
call that fails leaves nothing taken. -/
theorem xfHost_accounted (debug : Bool) (n : ℕ) (hn : 0 < n) (handles : ℕ → XfHandle) (s : XfHost)
    (hrun : Relation.ReflTransGen (XfHostCleanStep debug) (.start n handles) s) :
    XfAccounted s ∧ ∀ (op : XfHostOp) (s' : XfHost) (r : ℤ), op.Legal s → op.Clean s →
      s.next debug op = some (s', r) → r < 0 → XfSameFree s.proxy s'.proxy := by
  have hinv : XfHostInv n s :=
    run_invariant (XfHostInv n)
      (fun _ _ hinv ⟨_, hlegal, hclean, _, hnext⟩ => (hinv.step hlegal hclean hnext).1)
      (.start hn handles) hrun
  exact ⟨hinv.accounted, fun op s' r hlegal hclean hnext hr =>
    hinv.owned.sameFree ((hinv.step hlegal hclean hnext).2 hr)⟩

/-- A command that is executed, and its response. -/
def okCmd (opcode : U32) : XfCmdEnv := ⟨true, 0, 0, 0, opcode, true⟩

/-- A host with three auxiliary buffers. -/
def hostStart : XfHost := .start 3 fun _ => ⟨false, none, 0, 0⟩

/-- The state after a call. -/
def XfHost.after (s : XfHost) (op : XfHostOp) : XfHost := ((s.next true op).map Prod.fst).getD s

/-- A handle is open. -/
def hostOpened : XfHost := hostStart.after (.xfOpen none (okCmd xfRegister) 0)

/-- After a handle has been opened. -/
theorem xfHost_accounted_open :
    XfAccounted hostOpened ∧ ∀ (op : XfHostOp) (s' : XfHost) (r : ℤ), op.Legal hostOpened →
      op.Clean hostOpened →
      hostOpened.next true op = some (s', r) → r < 0 → XfSameFree hostOpened.proxy s'.proxy :=
  xfHost_accounted true 3 (by norm_num) (fun _ => ⟨false, none, 0, 0⟩) hostOpened <|
    .single ⟨.xfOpen none (okCmd xfRegister) 0, List.not_mem_nil, .inr rfl, 0, rfl⟩

/-- Both handles of a route are open. -/
def hostRouted : XfHost := hostOpened.after (.xfOpen none (okCmd xfRegister) 1)

/-- A route whose response cannot be read keeps its buffer. -/
theorem xfHost_accounted_route :
    ¬∀ s, Relation.ReflTransGen (XfHostStep true) hostStart s → XfAccounted s := by
  intro hall
  have hrun : Relation.ReflTransGen (XfHostStep true) hostStart hostRouted :=
    (Relation.ReflTransGen.single
      ⟨.xfOpen none (okCmd xfRegister) 0, List.not_mem_nil, 0, rfl⟩).tail (b := hostOpened)
      ⟨.xfOpen none (okCmd xfRegister) 1, (by decide : 1 ∉ hostOpened.opened), 0, rfl⟩
  let route : XfHostOp := .xfRoute ⟨true, 0, -4, 0, 0, true⟩ 0 1 2 64 8
  have hacc := hall (hostRouted.after route) <| hrun.tail
    ⟨route, (by decide : 0 ∈ hostRouted.opened ∧ 1 ∈ hostRouted.opened), -4, rfl⟩
  have hfree : (hostRouted.after route).proxy.aux.free = none := rfl
  obtain ⟨l, hl, hperm⟩ := hacc.buffers
  cases l with
  | nil => exact absurd hperm.length_eq (by decide)
  | cons b l => cases hfree.symm.trans hl.1

end Hikey
