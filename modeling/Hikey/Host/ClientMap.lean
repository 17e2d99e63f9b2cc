import Hikey.Foundation.Linked
import Hikey.Foundation.Run
import Hikey.Host.Proxy

/-!
# The words of the client map (`proxy/xf-proxy.c`)

An entry of the map is a union of a 32-bit link and of a pointer to a handle, and nothing else says
which of the two it holds.  A lookup takes an entry for a link if its lower half is below the number
of clients, so that it does not find a handle with such an address.  Everything else holds for
handles at all addresses.
-/

namespace Hikey

/-! ## The source -/

/-- A pointer to a handle, of a host with pointers of `32 + k` bits; the link of a union shares its
lower half. -/
structure XfHandlePtr (k : ℕ) where
  low : U32
  high : BitVec k
deriving DecidableEq

/-- `NULL`. -/
def XfHandlePtr.null (k : ℕ) : XfHandlePtr k := ⟨0, 0⟩

/-- A write to the member `next` of the union. -/
def XfHandlePtr.setNext {k : ℕ} (word : XfHandlePtr k) (next : U32) : XfHandlePtr k :=
  { word with low := next }

@[simp] lemma XfHandlePtr.setNext_low {k : ℕ} (word : XfHandlePtr k) (next : U32) :
    (word.setNext next).low = next := rfl

/-- The member `cmap` of a proxy, and the members `client` of the handles in memory. -/
structure XfHostClientMap (k : ℕ) where
  cmap : ℕ → XfHandlePtr k
  client : XfHandlePtr k → U32

/-- `xf_proxy_init`: line up all clients, in memory that holds `x`. -/
def xfClientMapInit {k : ℕ} (x : XfHostClientMap k) : XfHostClientMap k :=
  { x with cmap := fun i =>
      if i < xfCfgProxyMaxClients - 1 then (x.cmap i).setNext (BitVec.ofNat 32 (i + 1))
      else if i = xfCfgProxyMaxClients - 1 then (x.cmap i).setNext 0
      else x.cmap i }

/-- `xf_client_alloc`. -/
def xfClientMapAlloc {k : ℕ} (x : XfHostClientMap k) (handle : XfHandlePtr k) :
    U32 × XfHostClientMap k :=
  let client := (x.cmap 0).low
  if client ≠ 0 then
    let cmap := Function.update x.cmap 0 ((x.cmap 0).setNext (x.cmap client.toNat).low)
    (client, ⟨Function.update cmap client.toNat handle, Function.update x.client handle client⟩)
  else (client, x)

/-- `xf_client_free`. -/
def xfClientMapFree {k : ℕ} (x : XfHostClientMap k) (handle : XfHandlePtr k) : XfHostClientMap k :=
  let client := x.client handle
  let cmap := Function.update x.cmap client.toNat ((x.cmap client.toNat).setNext (x.cmap 0).low)
  { x with cmap := Function.update cmap 0 ((cmap 0).setNext client) }

/-- `xf_client_lookup`; `none` is the assertion on the index. -/
def xfProxyClientLookup {k : ℕ} (x : XfHostClientMap k) (client : U32) : Option (XfHandlePtr k) :=
  if xfCfgProxyMaxClients ≤ client.toNat then none
  else if (x.cmap client.toNat).low.toNat < xfCfgProxyMaxClients then some (.null k)
  else some (x.cmap client.toNat)

/-! ## Runs -/

/-- The part of `xf_open` and `xf_close` under the lock of the proxy; `ok` is the outcome of
`xf_client_register`. -/
inductive XfHostClientOp (k : ℕ)
  | register (handle : XfHandlePtr k) (ok : Bool)
  | close (handle : XfHandlePtr k)

/-- The map and the handles that are registered. -/
structure XfHostClients (k : ℕ) where
  map : XfHostClientMap k
  registered : List (XfHandlePtr k)

/-- After a call. -/
def XfHostClients.next {k : ℕ} (s : XfHostClients k) : XfHostClientOp k → XfHostClients k
  | .register handle ok =>
    let (client, map) := xfClientMapAlloc s.map handle
    if client = 0 then { s with map := map }
    else if ok then ⟨map, handle :: s.registered⟩
    else { s with map := xfClientMapFree map handle }
  | .close handle => ⟨xfClientMapFree s.map handle, s.registered.erase handle⟩

/-- A handle is an object that is registered once, and only a registered one is closed. -/
def XfHostClientOp.Legal {k : ℕ} (s : XfHostClients k) : XfHostClientOp k → Prop
  | .register handle _ => handle ≠ .null k ∧ handle ∉ s.registered
  | .close handle => handle ∈ s.registered

/-- A step of the users of the proxy. -/
def XfHostClientStep {k : ℕ} (s s' : XfHostClients k) : Prop :=
  ∃ op : XfHostClientOp k, op.Legal s ∧ s.next op = s'

/-- A proxy that has been initialised. -/
def XfHostClients.start {k : ℕ} (x : XfHostClientMap k) : XfHostClients k := ⟨xfClientMapInit x, []⟩

/-! ## What the map is for -/

/-- The map gives every registered handle an id of its own, finds it by that id, and finds nothing
else. -/
structure XfHostClientsExact {k : ℕ} (s : XfHostClients k) : Prop where
  distinct : (s.registered.map s.map.client).Nodup
  range : ∀ h ∈ s.registered, s.map.client h ≠ 0 ∧ (s.map.client h).toNat < xfCfgProxyMaxClients
  lookup : ∀ h ∈ s.registered, xfProxyClientLookup s.map (s.map.client h) = some h
  lookupFree : ∀ c : U32, c.toNat < xfCfgProxyMaxClients →
    (∀ h ∈ s.registered, s.map.client h ≠ c) →
    xfProxyClientLookup s.map c = some (.null k)
  refused : ∀ h, (xfClientMapAlloc s.map h).1 = 0 → ∀ c : U32, c ≠ 0 →
    c.toNat < xfCfgProxyMaxClients →
    ∃ h ∈ s.registered, s.map.client h = c

/-- The link of a free client; 0 is the end. -/
def XfHostClientMap.nextFree {k : ℕ} (x : XfHostClientMap k) (c : ℕ) : Option ℕ :=
  if (x.cmap c).low = 0 then none else some (x.cmap c).low.toNat

/-- Every id is on the list of free ones or that of a registered handle, whose entry points to the
handle. -/
structure XfHostClientsInv {k : ℕ} (s : XfHostClients k) : Prop where
  ids : ∃ l, Chain s.map.nextFree (s.map.nextFree 0) l ∧
    (l ++ s.registered.map fun h => (s.map.client h).toNat).Perm
      (List.range' 1 (xfCfgProxyMaxClients - 1))
  entry : ∀ h ∈ s.registered, s.map.cmap (s.map.client h).toNat = h
  object : ∀ h ∈ s.registered, h ≠ .null k

variable {k : ℕ} {s : XfHostClients k} {x : XfHostClientMap k} {l cs : List ℕ}
  {h : XfHandlePtr k} {c : ℕ}

/-! ## The list of free ids -/

lemma nextFree_eq_some {n : ℕ} (hn : x.nextFree c = some n) : (x.cmap c).low.toNat = n ∧ n ≠ 0 := by
  rw [XfHostClientMap.nextFree] at hn
  split at hn
  · cases hn
  · rename_i hne
    obtain rfl := Option.some.inj hn
    exact ⟨rfl, fun h => hne (BitVec.eq_of_toNat_eq h)⟩

lemma nextFree_congr {y : XfHostClientMap k} {c' : ℕ} (hlow : (y.cmap c').low = (x.cmap c).low) :
    y.nextFree c' = x.nextFree c := by
  rw [XfHostClientMap.nextFree, hlow, XfHostClientMap.nextFree]

/-- The links of the free ids, and that of the head, are 0 or free ids. -/
lemma low_mem (hl : Chain x.nextFree (x.nextFree 0) l) (hc : c = 0 ∨ c ∈ l) :
    (x.cmap c).low = 0 ∨ (x.cmap c).low.toNat ∈ l := by
  by_cases hzero : (x.cmap c).low = 0
  · exact .inl hzero
  · have hnext : x.nextFree c = some (x.cmap c).low.toNat := if_neg hzero
    refine .inr ?_
    rcases hc with rfl | hc
    · rw [hl.head_eq] at hnext
      exact List.mem_of_mem_head? hnext
    · exact hl.next_mem hc hnext

/-- An id at the head of the list is taken. -/
lemma nextFree_alloc {client : U32} (hhead : (x.cmap 0).low = client) (hne : client ≠ 0)
    (hl : Chain x.nextFree (x.nextFree client.toNat) l) (hmem : client.toNat ∉ l) (hzero : 0 ∉ l) :
    ∃ y, xfClientMapAlloc x h = (client, y) ∧ y.client = Function.update x.client h client ∧
      Chain y.nextFree (y.nextFree 0) l ∧ y.cmap client.toNat = h ∧
      ∀ c, c ≠ 0 → c ≠ client.toNat → y.cmap c = x.cmap c := by
  have hne' : client.toNat ≠ 0 := fun h => hne (BitVec.eq_of_toNat_eq h)
  let cmap := Function.update x.cmap 0 ((x.cmap 0).setNext (x.cmap client.toNat).low)
  let y : XfHostClientMap k :=
    ⟨Function.update cmap client.toNat h, Function.update x.client h client⟩
  have hother (c : ℕ) (h0 : c ≠ 0) (hc : c ≠ client.toNat) : y.cmap c = x.cmap c := by
    simp only [y, cmap, Function.update_of_ne hc, Function.update_of_ne h0]
  refine ⟨y, by simp only [xfClientMapAlloc, hhead, ne_eq, hne, not_false_eq_true, if_true, y,
    cmap], rfl, ?_, ?_,
    hother⟩
  · have hstart : y.nextFree 0 = x.nextFree client.toNat := by
      refine nextFree_congr ?_
      simp only [y, cmap, Function.update_of_ne hne'.symm, Function.update_self,
        XfHandlePtr.setNext_low]
    rw [hstart]
    refine hl.congr fun c hc => nextFree_congr ?_
    rw [hother c (fun h => hzero (h ▸ hc)) fun h => hmem (h ▸ hc)]
  · simp only [y, Function.update_self]

/-- An id is put at the head of the list. -/
lemma nextFree_free (hl : Chain x.nextFree (x.nextFree 0) l) (hne : x.client h ≠ 0)
    (hmem : (x.client h).toNat ∉ l)
    (hzero : 0 ∉ l) :
    Chain (xfClientMapFree x h).nextFree ((xfClientMapFree x h).nextFree 0)
      ((x.client h).toNat :: l) ∧
      ∀ c, c ≠ 0 → c ≠ (x.client h).toNat → (xfClientMapFree x h).cmap c = x.cmap c := by
  have hne' : (x.client h).toNat ≠ 0 := fun h' => hne (BitVec.eq_of_toNat_eq h')
  have hother (c : ℕ) (h0 : c ≠ 0) (hc : c ≠ (x.client h).toNat) :
      (xfClientMapFree x h).cmap c = x.cmap c := by
    simp only [xfClientMapFree, Function.update_of_ne h0, Function.update_of_ne hc]
  refine ⟨⟨?_, ?_⟩, hother⟩
  · simp only [XfHostClientMap.nextFree, xfClientMapFree, Function.update_self,
      XfHandlePtr.setNext_low, if_neg hne]
  · have hstart : (xfClientMapFree x h).nextFree (x.client h).toNat = x.nextFree 0 := by
      refine nextFree_congr ?_
      simp only [xfClientMapFree, Function.update_of_ne hne', Function.update_self,
        XfHandlePtr.setNext_low]
    rw [hstart]
    refine hl.congr fun c hc => nextFree_congr ?_
    rw [hother c (fun h' => hzero (h' ▸ hc)) fun h' => hmem (h' ▸ hc)]

/-! ## The invariant -/

lemma nodup_of_ids (hperm : (l ++ cs).Perm (List.range' 1 (xfCfgProxyMaxClients - 1))) :
    (l ++ cs).Nodup :=
  hperm.nodup_iff.mpr List.nodup_range'

lemma mem_ids_iff (hperm : (l ++ cs).Perm (List.range' 1 (xfCfgProxyMaxClients - 1))) :
    c ∈ l ++ cs ↔ c ≠ 0 ∧ c < xfCfgProxyMaxClients := by
  rw [hperm.mem_iff, List.mem_range'_1, xfCfgProxyMaxClients]
  omega

lemma XfHostClientsInv.start (x : XfHostClientMap k) : XfHostClientsInv (.start x) := by
  refine ⟨⟨List.range' 1 (xfCfgProxyMaxClients - 1), ?_, by simp [XfHostClients.start]⟩,
    by simp [XfHostClients.start],
    by simp [XfHostClients.start]⟩
  have hlow (i : ℕ) (hi : i < xfCfgProxyMaxClients - 1) :
      (XfHostClients.start x).map.nextFree i = some (i + 1) := by
    have hnext : ((XfHostClients.start x).map.cmap i).low = BitVec.ofNat 32 (i + 1) := by
      simp only [XfHostClients.start, xfClientMapInit, if_pos hi, XfHandlePtr.setNext_low]
    have hto : (BitVec.ofNat 32 (i + 1)).toNat = i + 1 := by
      rw [xfCfgProxyMaxClients] at hi
      rw [BitVec.toNat_ofNat]
      omega
    rw [XfHostClientMap.nextFree, hnext, hto, if_neg]
    intro hzero
    rw [hzero] at hto
    exact absurd hto (by simp)
  have hlast : (XfHostClients.start x).map.nextFree (xfCfgProxyMaxClients - 1) = none := by
    have hnext : ((XfHostClients.start x).map.cmap (xfCfgProxyMaxClients - 1)).low = 0 := by
      simp only [XfHostClients.start, xfClientMapInit, lt_irrefl, if_false, if_true,
        XfHandlePtr.setNext_low]
    rw [XfHostClientMap.nextFree, if_pos hnext]
  rw [hlow 0 (by decide)]
  exact Chain.range' (fun j _ hj => hlow j (by rw [xfCfgProxyMaxClients] at *; omega)) hlast

/-- The ids that are not free are those of the registered handles. -/
lemma registered_id {l : List ℕ}
    (hperm : (l ++ s.registered.map fun h => (s.map.client h).toNat).Perm
      (List.range' 1 (xfCfgProxyMaxClients - 1))) (hh : h ∈ s.registered) :
    (s.map.client h).toNat ∉ l ∧ s.map.client h ≠ 0 ∧
    (s.map.client h).toNat < xfCfgProxyMaxClients := by
  have hmem : (s.map.client h).toNat ∈ s.registered.map fun h => (s.map.client h).toNat :=
    List.mem_map_of_mem hh
  have hrange := (mem_ids_iff hperm).mp (List.mem_append_right l hmem)
  have hnot := (List.nodup_append'.mp (nodup_of_ids hperm)).2.2
  refine ⟨fun hl => hnot hl hmem, fun hzero => hrange.1 ?_, hrange.2⟩
  rw [hzero]
  rfl

/-- An id is taken for a handle, and the map is `y` then: nothing else has changed but the list of
free ids. -/
structure XfHostClientTaken (s : XfHostClients k) (h : XfHandlePtr k) (client : U32)
    (y : XfHostClientMap k) (l : List ℕ) :
    Prop where
  alloc : xfClientMapAlloc s.map h = (client, y)
  ne : client ≠ 0
  free : Chain y.nextFree (y.nextFree 0) l
  ids : (client.toNat :: l ++ s.registered.map fun h' => (y.client h').toNat).Perm
    (List.range' 1 (xfCfgProxyMaxClients - 1))
  self : y.client h = client
  entry : y.cmap client.toNat = h
  kept : ∀ h' ∈ s.registered, y.cmap (y.client h').toNat = h'

/-- A new handle gets an id, or there is none. -/
lemma XfHostClientsInv.taken (hinv : XfHostClientsInv s) (hh : h ∉ s.registered) :
    (s.map.cmap 0).low = 0 ∨ ∃ client y l, XfHostClientTaken s h client y l := by
  obtain ⟨l, hl, hperm⟩ := hinv.ids
  cases l with
  | nil =>
    refine .inl ?_
    by_contra hne
    have hnone : s.map.nextFree 0 = none := hl
    rw [XfHostClientMap.nextFree, if_neg hne] at hnone
    cases hnone
  | cons c l =>
    obtain ⟨hhead, hl⟩ := hl
    obtain ⟨hlow, hc0⟩ := nextFree_eq_some hhead
    have hnodup := nodup_of_ids hperm
    rw [List.cons_append] at hnodup
    have hcl : c ∉ l := fun hmem => (List.nodup_cons.mp hnodup).1 (List.mem_append_left _ hmem)
    have hzero : 0 ∉ c :: l := fun hmem =>
      ((mem_ids_iff hperm).mp (List.mem_append_left _ hmem)).1 rfl
    generalize hclient : (s.map.cmap 0).low = client at hlow
    subst hlow
    have hne : client ≠ 0 := fun h => hc0 (by rw [h]; rfl)
    obtain ⟨y, halloc, hyclient, hyl, hyentry, hyother⟩ :=
      nextFree_alloc (h := h) hclient hne hl hcl fun hmem => hzero (List.mem_cons_of_mem _ hmem)
    have hsame (h' : XfHandlePtr k) (hh' : h' ∈ s.registered) : y.client h' = s.map.client h' := by
      rw [hyclient, Function.update_of_ne fun heq : h' = h => hh (heq ▸ hh')]
    have hids : (s.registered.map fun h' => (y.client h').toNat) =
        s.registered.map fun h' => (s.map.client h').toNat :=
      List.map_congr_left fun h' hh' => by rw [hsame h' hh']
    refine .inr ⟨client, y, l, halloc, hne, hyl,
      hids ▸ hperm, by rw [hyclient, Function.update_self], hyentry,
      fun h' hh' => ?_⟩
    -- the entries of the handles that were there are neither the head nor the one that is taken
    obtain ⟨hnot, hne', -⟩ := registered_id hperm hh'
    rw [hsame h' hh', hyother _ (fun h0 => hne' (BitVec.eq_of_toNat_eq h0)) fun heq =>
      hnot (heq ▸ List.mem_cons_self),
      hinv.entry h' hh']

/-- The id is that of a registered handle. -/
lemma XfHostClientTaken.succeeded {client : U32} {y : XfHostClientMap k}
    (h' : XfHostClientTaken s h client y l)
    (hinv : XfHostClientsInv s) (hnull : h ≠ .null k) :
    XfHostClientsInv ⟨y, h :: s.registered⟩ := by
  refine ⟨⟨l, h'.free, ?_⟩, ?_, ?_⟩
  · rw [List.map_cons, h'.self]
    exact List.perm_middle.trans h'.ids
  · intro h₁ hh₁
    rcases List.mem_cons.mp hh₁ with rfl | hh₁
    · exact h'.self.symm ▸ h'.entry
    · exact h'.kept h₁ hh₁
  · intro h₁ hh₁
    rcases List.mem_cons.mp hh₁ with rfl | hh₁
    · exact hnull
    · exact hinv.object h₁ hh₁

/-- The id is put back. -/
lemma XfHostClientTaken.failed {client : U32} {y : XfHostClientMap k}
    (h' : XfHostClientTaken s h client y l)
    (hinv : XfHostClientsInv s) : XfHostClientsInv ⟨xfClientMapFree y h, s.registered⟩ := by
  have hclient : y.client h = client := h'.self
  have hnodup := nodup_of_ids h'.ids
  rw [List.cons_append] at hnodup
  have hmem : client.toNat ∉ l :=
    fun hmem => (List.nodup_cons.mp hnodup).1 (List.mem_append_left _ hmem)
  have hzero : 0 ∉ l := fun hmem =>
    ((mem_ids_iff h'.ids).mp (List.mem_append_left _ (List.mem_cons_of_mem _ hmem))).1 rfl
  obtain ⟨hfl, hfother⟩ := nextFree_free (h := h) h'.free (hclient ▸ h'.ne) (hclient ▸ hmem) hzero
  rw [hclient] at hfl hfother
  refine ⟨⟨client.toNat :: l, hfl, h'.ids⟩, fun h₁ hh₁ => ?_, hinv.object⟩
  obtain ⟨hnot, hne, -⟩ := registered_id (s := ⟨y, s.registered⟩) h'.ids hh₁
  exact (hfother _ (fun h0 => hne (BitVec.eq_of_toNat_eq h0)) fun heq =>
    hnot (heq ▸ List.mem_cons_self)).trans
    (h'.kept h₁ hh₁)

lemma XfHostClientsInv.register (hinv : XfHostClientsInv s) (hnull : h ≠ .null k)
    (hh : h ∉ s.registered) (ok : Bool) :
    XfHostClientsInv (s.next (.register h ok)) := by
  rcases hinv.taken hh with hlow | ⟨client, y, l, htaken⟩
  · have hnext : s.next (.register h ok) = s := by
      simp only [XfHostClients.next, xfClientMapAlloc, hlow, ne_eq, not_true_eq_false,
        if_false, if_true]
    rw [hnext]
    exact hinv
  · cases ok with
    | true =>
      have hnext : s.next (.register h true) = ⟨y, h :: s.registered⟩ := by
        simp only [XfHostClients.next, htaken.alloc, htaken.ne, if_false, if_true]
      rw [hnext]
      exact htaken.succeeded hinv hnull
    | false =>
      have hnext : s.next (.register h false) = ⟨xfClientMapFree y h, s.registered⟩ := by
        simp only [XfHostClients.next, htaken.alloc, htaken.ne, if_false, Bool.false_eq_true]
      rw [hnext]
      exact htaken.failed hinv

lemma XfHostClientsInv.close (hinv : XfHostClientsInv s) (hh : h ∈ s.registered) :
    XfHostClientsInv (s.next (.close h)) := by
  obtain ⟨l, hl, hperm⟩ := hinv.ids
  obtain ⟨hnot, hne, -⟩ := registered_id hperm hh
  have hzero : 0 ∉ l := fun hmem => ((mem_ids_iff hperm).mp (List.mem_append_left _ hmem)).1 rfl
  obtain ⟨hfl, hfother⟩ := nextFree_free hl hne hnot hzero
  have hnodup : (s.registered.map fun h => (s.map.client h).toNat).Nodup :=
    (List.nodup_append'.mp (nodup_of_ids hperm)).2.1
  have hfree : (xfClientMapFree s.map h).client = s.map.client := rfl
  refine ⟨⟨(s.map.client h).toNat :: l, hfl, ?_⟩, fun h' hh' => ?_, fun h' hh' => ?_⟩
  · have hids := (List.perm_cons_erase hh).map fun h => (s.map.client h).toNat
    rw [List.map_cons] at hids
    exact (List.perm_middle.symm.trans (hids.symm.append_left l)).trans hperm
  · have hmem := List.mem_of_mem_erase hh'
    obtain ⟨-, hne', -⟩ := registered_id hperm hmem
    have hids : (s.map.client h').toNat ≠ (s.map.client h).toNat := by
      intro heq
      have heq' : h' = h := List.inj_on_of_nodup_map hnodup hmem hh heq
      subst heq'
      exact (List.Nodup.not_mem_erase hnodup.of_map) hh'
    have hentry : (s.next (.close h)).map.cmap (s.map.client h').toNat =
        s.map.cmap (s.map.client h').toNat :=
      hfother _ (fun h0 => hne' (BitVec.eq_of_toNat_eq h0)) hids
    exact hentry.trans (hinv.entry h' hmem)
  · exact hinv.object h' (List.mem_of_mem_erase hh')

/-- A step keeps the invariant. -/
lemma XfHostClientsInv.step {s s' : XfHostClients k} (hinv : XfHostClientsInv s)
    (hstep : XfHostClientStep s s') :
    XfHostClientsInv s' := by
  obtain ⟨op, hlegal, rfl⟩ := hstep
  cases op with
  | register h ok => exact hinv.register hlegal.1 hlegal.2 ok
  | close h => exact hinv.close hlegal

/-- In a state of the invariant, the map is what it is for exactly if no registered handle looks
like a link. -/
lemma XfHostClientsInv.exact_iff (hinv : XfHostClientsInv s) :
    XfHostClientsExact s ↔ ∀ h ∈ s.registered, xfCfgProxyMaxClients ≤ h.low.toNat := by
  obtain ⟨l, hl, hperm⟩ := hinv.ids
  constructor
  · intro hexact h hh
    by_contra hlow
    obtain ⟨-, -, hlt⟩ := registered_id hperm hh
    have hlookup := hexact.lookup h hh
    rw [xfProxyClientLookup, if_neg (not_le.mpr hlt), hinv.entry h hh,
      if_pos (not_le.mp hlow)] at hlookup
    exact hinv.object h hh (Option.some.inj hlookup).symm
  · intro hlow
    have hinj {c d : U32} (hcd : c.toNat = d.toNat) : c = d := BitVec.eq_of_toNat_eq hcd
    refine ⟨?_, fun h hh => (registered_id hperm hh).2, fun h hh => ?_, fun c hc hnone => ?_,
      fun h hrefused c hc0 hc => ?_⟩
    · have hnodup : (s.registered.map fun h => (s.map.client h).toNat).Nodup :=
        (List.nodup_append'.mp (nodup_of_ids hperm)).2.1
      have hmap : (s.registered.map fun h => (s.map.client h).toNat) =
          (s.registered.map s.map.client).map BitVec.toNat := by
        rw [List.map_map]
        rfl
      rw [hmap] at hnodup
      exact hnodup.of_map
    · obtain ⟨-, -, hlt⟩ := registered_id hperm hh
      rw [xfProxyClientLookup, if_neg (not_le.mpr hlt), hinv.entry h hh,
        if_neg (not_lt.mpr (hlow h hh))]
    · -- the entry of an id that nobody has is a link, to 0 or to a free id
      have hfree : c.toNat = 0 ∨ c.toNat ∈ l := by
        by_cases hzero : c.toNat = 0
        · exact .inl hzero
        · have hmem := (mem_ids_iff hperm).mpr ⟨hzero, hc⟩
          rcases List.mem_append.mp hmem with hmem | hmem
          · exact .inr hmem
          · obtain ⟨h, hh, heq⟩ := List.mem_map.mp hmem
            exact absurd (hinj heq) (hnone h hh)
      have hlink : (s.map.cmap c.toNat).low.toNat < xfCfgProxyMaxClients := by
        rcases low_mem hl hfree with hzero | hmem
        · rw [hzero]
          decide
        · exact ((mem_ids_iff hperm).mp (List.mem_append_left _ hmem)).2
      rw [xfProxyClientLookup, if_neg (not_le.mpr hc), if_pos hlink]
    · have hhead : (s.map.cmap 0).low = 0 := by
        by_contra hne
        simp only [xfClientMapAlloc, ne_eq, hne, not_false_eq_true, if_true] at hrefused
      have hnil : l = [] := by
        have hnone : s.map.nextFree 0 = none := if_pos hhead
        cases l with
        | nil => rfl
        | cons c l => exact absurd (hnone.symm.trans hl.1) (by simp)
      subst hnil
      have hmem := (mem_ids_iff hperm).mpr ⟨fun h0 => hc0 (hinj h0), hc⟩
      obtain ⟨h, hh, heq⟩ := List.mem_map.mp hmem
      exact ⟨h, hh, hinj heq⟩

/-- In every state of a run the client map is what it is for exactly if the lower half of the
address of every registered handle is not below the number of clients. -/
theorem xfHostClients_exact_iff (x : XfHostClientMap k) (s : XfHostClients k)
    (hrun : Relation.ReflTransGen XfHostClientStep (.start x) s) :
    XfHostClientsExact s ↔ ∀ h ∈ s.registered, xfCfgProxyMaxClients ≤ h.low.toNat :=
  (run_invariant XfHostClientsInv (fun _ _ hinv hstep => hinv.step hstep) (.start x) hrun).exact_iff

/-- A proxy in memory that holds zeros. -/
def zeroClientMap (k : ℕ) : XfHostClientMap k := ⟨fun _ => .null k, fun _ => 0⟩

/-- A handle of a 64-bit host, 16 bytes above a multiple of 4 GiB. -/
def handleAbove4G : XfHandlePtr 32 := ⟨16, 0x7F⟩

/-- After one registration. -/
def oneClient (h : XfHandlePtr 32) : XfHostClients 32 :=
  (XfHostClients.start (zeroClientMap 32)).next (.register h true)

lemma oneClient_run (h : XfHandlePtr 32) (hh : h ≠ .null 32) :
    Relation.ReflTransGen XfHostClientStep (.start (zeroClientMap 32)) (oneClient h) :=
  .single ⟨.register h true, ⟨hh, List.not_mem_nil⟩, rfl⟩

/-- The handle is registered with the id 1, and a lookup of that id finds nothing. -/
theorem xfHostClients_lookup_fails :
    ¬∀ (x : XfHostClientMap 32) (s : XfHostClients 32),
      Relation.ReflTransGen XfHostClientStep (.start x) s → XfHostClientsExact s := by
  intro h
  have hlookup := (h _ _ (oneClient_run handleAbove4G (by decide))).lookup handleAbove4G (by decide)
  exact absurd hlookup (by decide)

/-- A handle that is not a multiple of 4 GiB away from the null pointer is found. -/
theorem xfHostClients_exact_one : XfHostClientsExact (oneClient ⟨0x12340, 0x7F⟩) :=
  (xfHostClients_exact_iff _ _ (oneClient_run ⟨0x12340, 0x7F⟩ (by decide))).mpr (by decide)

end Hikey
