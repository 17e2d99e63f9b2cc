import Hikey.Core.SessionId
import Hikey.Foundation.Linked
import Hikey.Foundation.Run

/-!
# The client map (`core/xf-core.c`)

An entry of the client map is one word: the address of a component, or the link to the next free
entry, told apart by its size.  `XfClients` runs registrations and dispatches on a map and remembers
which components are live; `XfClientsInv` is the invariant of all runs.
-/

namespace Hikey

/-- `XF_CFG_MAX_CLIENTS`. -/
def xfCfgMaxClients : U32 := 1#32 <<< 6

/-- The client map of `xf_core_data_t`, its entries as words, and the first free entry. -/
structure XfCoreData where
  cmap : U32 → U32
  free : U32

/-- `xf_client_lookup`. -/
def xfClientLookup (cd : XfCoreData) (client : U32) : U32 :=
  let link := cd.cmap client
  if link > xfCfgMaxClients then link else 0#32

/-- `xf_client_alloc`. -/
def xfClientAlloc (cd : XfCoreData) : U32 × XfCoreData :=
  let client := cd.free
  (client, if client < xfCfgMaxClients then { cd with free := cd.cmap client } else cd)

/-- `xf_client_free`. -/
def xfClientFree (cd : XfCoreData) (client : U32) : XfCoreData :=
  { cmap := Function.update cd.cmap client cd.free, free := client }

/-- `xf_core_init`: all entries are free, in the order of the array. -/
def xfCoreInit : XfCoreData where
  cmap := fun i => i + 1#32
  free := 0#32

/-- `XF_PORT_CLIENT`. -/
def xfPortClient (spec : U32) : U32 := (spec >>> 2) &&& 0x3F#32

/-- `-EBUSY`. -/
def xfEBusy : ℤ := -16

/-- `-ENOMEM`. -/
def xfENoMem : ℤ := -12

/-- `xf_proxy_register` with the result of the component factory: the session id of the answer or
the error, and the client map. -/
def xfProxyRegister (core : U32) (cd : XfCoreData) (id component : U32) :
    Except ℤ U32 × XfCoreData :=
  let src := xfMsgSrc id
  let (client, cd) := xfClientAlloc cd
  if client = xfCfgMaxClients then (.error xfEBusy, cd)
  else if component = 0#32 then (.error xfENoMem, xfClientFree cd client)
  else
    let componentId := xfPortSpec core client 0#32
    (.ok (xfMsgId src componentId), { cd with cmap := Function.update cd.cmap client component })

/-- The branch of `xf_core_dispatch` for a message to a component, with the results of the functions
`entry` and `exit` of the component: the client map, and the component that has been destroyed. -/
def xfCoreDispatchClient (cd : XfCoreData) (id : U32) (entry exit : ℤ) :
    XfCoreData × Option U32 :=
  let client := xfMsgDstClient id
  let component := xfClientLookup cd client
  if component ≠ 0#32 then
    if entry < 0 ∧ exit = 0 then (xfClientFree cd client, some component) else (cd, none)
  else (cd, none)

/-- A live component: its `id` and its address. -/
structure XfClient where
  id : U32
  component : U32
deriving DecidableEq, Repr

/-- The client number of a component. -/
def XfClient.client (c : XfClient) : U32 := xfPortClient c.id

/-- A client map and the components that are live. -/
structure XfClients where
  cd : XfCoreData
  live : List XfClient

/-- One registration or one dispatch on core 0. -/
inductive XfClientsStep : XfClients → XfClients → Prop
  /-- `xf_proxy_register`; the factory returns the null pointer or the address of a component. -/
  | register (s : XfClients) (id component : U32)
      (haddr : component = 0#32 ∨ component > xfCfgMaxClients) :
      XfClientsStep s {
        cd := (xfProxyRegister 0#32 s.cd id component).2
        live := match (xfProxyRegister 0#32 s.cd id component).1 with
          | .ok session => s.live ++ [⟨xfMsgDst session, component⟩]
          | .error _ => s.live }
  /-- `xf_core_dispatch`; a component that is destroyed is not live any more. -/
  | dispatch (s : XfClients) (id : U32) (entry exit : ℤ) :
      XfClientsStep s {
        cd := (xfCoreDispatchClient s.cd id entry exit).1
        live := match (xfCoreDispatchClient s.cd id entry exit).2 with
          | some component => s.live.filter fun c =>
              ¬ (c.client = xfMsgDstClient id ∧ c.component = component)
          | none => s.live }

/-- The state after `xf_core_init`. -/
def XfClients.init : XfClients where
  cd := xfCoreInit
  live := []

section Words

lemma toNat_xfCfgMaxClients : xfCfgMaxClients.toNat = 64 := by
  decide

lemma lt_xfCfgMaxClients {client : U32} : client < xfCfgMaxClients ↔ client.toNat < 64 := by
  rw [BitVec.lt_def, toNat_xfCfgMaxClients]

lemma xfPortClient_and (spec : U32) : xfPortClient (spec &&& 0xFFFF#32) = xfPortClient spec := by
  rw [xfPortClient, xfPortClient]
  ext i hi
  interval_cases i <;> simp

lemma xfPortClient_spec (client : U32) :
    xfPortClient (xfPortSpec 0#32 client 0#32) = client &&& 0x3F#32 := by
  rw [xfPortClient, xfPortSpec]
  ext i hi
  interval_cases i <;> simp

/-- A client number below the limit comes back out of a port specification. -/
lemma xfPortClient_portSpec (src : U32) {client : U32} (h : client < xfCfgMaxClients) :
    xfPortClient (xfMsgDst (xfMsgId src (xfPortSpec 0#32 client 0#32))) = client := by
  rw [xfMsgDst_msgId, xfPortClient_and, xfPortClient_spec, ← BitVec.toNat_inj, BitVec.toNat_and,
    show (0x3F#32).toNat = 2 ^ 6 - 1 from rfl, Nat.and_two_pow_sub_one_eq_mod,
    Nat.mod_eq_of_lt (lt_xfCfgMaxClients.1 h)]

end Words

section FreeList

/-- The next entry of the free list, which ends with `XF_CFG_MAX_CLIENTS`. -/
def XfCoreData.nextFree (cd : XfCoreData) (client : U32) : Option U32 :=
  if cd.cmap client < xfCfgMaxClients then some (cd.cmap client) else none

/-- The first entry of the free list. -/
def XfCoreData.headFree (cd : XfCoreData) : Option U32 :=
  if cd.free < xfCfgMaxClients then some cd.free else none

/-- Whether a client number is on the free list. -/
def XfClients.place (s : XfClients) (client : U32) : Option Unit :=
  if client < xfCfgMaxClients ∧ ∀ c ∈ s.live, c.client ≠ client then some () else none

lemma XfClients.place_eq_some {s : XfClients} {client : U32} : s.place client = some () ↔
    client < xfCfgMaxClients ∧ ∀ c ∈ s.live, c.client ≠ client := by
  unfold XfClients.place
  split <;> simp_all

/-- The invariant of the client map: the free list holds the numbers that are not live, and the
entry of a live component is its address. -/
structure XfClientsInv (s : XfClients) : Prop where
  lists : Lists s.cd.nextFree (fun _ : Unit => s.cd.headFree) (fun _ => none)
    (fun _ => False) s.place
  free_le : s.cd.free ≤ xfCfgMaxClients
  link_le : ∀ client, s.place client = some () → s.cd.cmap client ≤ xfCfgMaxClients
  live : ∀ c ∈ s.live, c.client < xfCfgMaxClients ∧ s.cd.cmap c.client = c.component ∧
    c.component > xfCfgMaxClients
  nodup : (s.live.map XfClient.client).Nodup

/-- The entries from `i` on before any registration. -/
lemma chain_xfCoreInit (k i : ℕ) (hik : i + k = 63) :
    Chain xfCoreInit.nextFree (some (BitVec.ofNat 32 i))
      ((List.range' i (k + 1)).map (BitVec.ofNat 32)) := by
  have hcmap : xfCoreInit.cmap (BitVec.ofNat 32 i) = BitVec.ofNat 32 (i + 1) :=
    (BitVec.ofNat_add i 1).symm
  induction k generalizing i with
  | zero =>
    obtain rfl : i = 63 := by omega
    exact ⟨rfl, rfl⟩
  | succ k ih =>
    rw [List.range'_succ, List.map_cons]
    refine ⟨rfl, ?_⟩
    have hlt : BitVec.ofNat 32 (i + 1) < xfCfgMaxClients := by
      rw [lt_xfCfgMaxClients, BitVec.toNat_ofNat, Nat.mod_eq_of_lt (by omega)]
      omega
    rw [XfCoreData.nextFree, hcmap, if_pos hlt]
    exact ih (i + 1) (by omega) (BitVec.ofNat_add (i + 1) 1).symm

lemma XfClientsInv.init : XfClientsInv .init where
  lists := by
    intro k
    refine ⟨(List.range' 0 64).map (BitVec.ofNat 32), chain_xfCoreInit 63 0 rfl, ?_, ?_, False.elim⟩
    · refine (List.nodup_range').map_on fun i hi j hj h => ?_
      rw [List.mem_range'_1] at hi hj
      have := congrArg BitVec.toNat h
      rw [BitVec.toNat_ofNat, BitVec.toNat_ofNat, Nat.mod_eq_of_lt (by omega),
        Nat.mod_eq_of_lt (by omega)] at this
      exact this
    · intro client
      rw [XfClients.place_eq_some, lt_xfCfgMaxClients, List.mem_map]
      constructor
      · rintro ⟨i, hi, rfl⟩
        rw [List.mem_range'_1] at hi
        refine ⟨?_, by simp [XfClients.init]⟩
        rw [BitVec.toNat_ofNat, Nat.mod_eq_of_lt (by omega)]
        omega
      · rintro ⟨hlt, -⟩
        exact ⟨client.toNat, List.mem_range'_1.2 ⟨Nat.zero_le _, by omega⟩, by simp⟩
  free_le := by decide
  link_le := by
    intro client hclient
    obtain ⟨hlt, -⟩ := XfClients.place_eq_some.1 hclient
    rw [lt_xfCfgMaxClients] at hlt
    rw [BitVec.le_def, toNat_xfCfgMaxClients]
    change (client + 1#32).toNat ≤ 64
    rw [BitVec.toNat_add, show (1#32).toNat = 1 from rfl, Nat.mod_eq_of_lt (by omega)]
    omega
  live := by simp [XfClients.init]
  nodup := List.nodup_nil

end FreeList

section Step

variable {s : XfClients}

/-- The single free list under the same links, head and places; it has no tail. -/
lemma lists_congr {next next' : U32 → Option U32} {head head' tail : Unit → Option U32}
    {place place' : U32 → Option Unit} (h : Lists next head tail (fun _ => False) place)
    (hnext : ∀ c, next' c = next c) (hhead : head' () = head ())
    (hplace : ∀ c, place' c = place c) :
    Lists next' head' (fun _ => none) (fun _ => False) place' := by
  obtain rfl : next' = next := funext hnext
  obtain rfl : head' = head := funext fun _ => hhead
  intro k
  obtain ⟨l, hl, hnodup, hmem, -⟩ := h.congr hplace k
  exact ⟨l, hl, hnodup, hmem, False.elim⟩

/-- A registration that finds all numbers taken changes nothing. -/
lemma xfProxyRegister_full (h : s.cd.free = xfCfgMaxClients) (core id component : U32) :
    xfProxyRegister core s.cd id component = (.error xfEBusy, s.cd) := by
  simp [xfProxyRegister, xfClientAlloc, h]

/-- A registration that fails in the factory gives its number back. -/
lemma xfProxyRegister_noMem (h : s.cd.free < xfCfgMaxClients) (core id : U32) :
    xfProxyRegister core s.cd id 0#32 = (.error xfENoMem, s.cd) := by
  have hne : s.cd.free ≠ xfCfgMaxClients := BitVec.ne_of_lt h
  simp [xfProxyRegister, xfClientAlloc, h, hne, xfClientFree]

/-- A registration that succeeds takes the first free number. -/
lemma xfProxyRegister_ok (h : s.cd.free < xfCfgMaxClients) (core id : U32) {component : U32}
    (hc : component ≠ 0#32) : xfProxyRegister core s.cd id component =
      (.ok (xfMsgId (xfMsgSrc id) (xfPortSpec core s.cd.free 0#32)),
        { cmap := Function.update s.cd.cmap s.cd.free component, free := s.cd.cmap s.cd.free }) :=
  by
  have hne : s.cd.free ≠ xfCfgMaxClients := BitVec.ne_of_lt h
  simp [xfProxyRegister, xfClientAlloc, h, hne, hc]

/-- The first free number is not that of a live component. -/
lemma XfClientsInv.place_free (h : XfClientsInv s) (hfree : s.cd.free < xfCfgMaxClients) :
    s.place s.cd.free = some () :=
  h.lists.place_head (if_pos hfree)

/-- A successful registration keeps the invariant. -/
lemma XfClientsInv.register (h : XfClientsInv s) (hfree : s.cd.free < xfCfgMaxClients)
    {component : U32} (hc : component > xfCfgMaxClients) {new : XfClient}
    (hclient : new.client = s.cd.free) (hcomponent : new.component = component) :
    XfClientsInv {
      cd := { cmap := Function.update s.cd.cmap s.cd.free component,
              free := s.cd.cmap s.cd.free }
      live := s.live ++ [new] } := by
  have hplace := h.place_free hfree
  obtain ⟨hlt, hnotLive⟩ := XfClients.place_eq_some.1 hplace
  have hle := h.link_le _ hplace
  -- the place of every other number is as before, and the new number is taken
  have hplaces : ∀ c, XfClients.place
      { cd := { cmap := Function.update s.cd.cmap s.cd.free component,
                free := s.cd.cmap s.cd.free },
        live := s.live ++ [new] } c = Function.update s.place s.cd.free none c := by
    intro c
    by_cases hcf : c = s.cd.free
    · subst hcf
      rw [Function.update_self, XfClients.place, if_neg]
      rintro ⟨-, hall⟩
      exact hall new (by simp) hclient
    · rw [Function.update_of_ne hcf, XfClients.place, XfClients.place]
      refine if_congr (and_congr_right fun _ => ?_) rfl rfl
      simp only [List.mem_append, List.mem_singleton]
      exact ⟨fun hall x hx => hall x (.inl hx), fun hall x hx => hx.elim (hall x) fun he => by
        rw [he, hclient]
        exact Ne.symm hcf⟩
  refine ⟨?_, hle, ?_, ?_, ?_⟩
  · have hhead : (fun _ : Unit => s.cd.headFree) () = some s.cd.free := if_pos hfree
    refine lists_congr (h.lists.pop (k := ()) hhead none fun hq => hq.elim) (fun c => ?_) ?_ hplaces
    · by_cases hcf : c = s.cd.free
      · subst hcf
        rw [Function.update_self, XfCoreData.nextFree, if_neg]
        simp only [Function.update_self]
        rw [lt_xfCfgMaxClients]
        have := BitVec.lt_def.1 hc
        rw [toNat_xfCfgMaxClients] at this
        omega
      · rw [Function.update_of_ne hcf, XfCoreData.nextFree, XfCoreData.nextFree]
        simp only [Function.update_of_ne hcf]
    · rw [Function.update_self]
      rfl
  · intro c hcp
    rw [hplaces] at hcp
    have hcf : c ≠ s.cd.free := by
      rintro rfl
      simp at hcp
    rw [Function.update_of_ne hcf] at hcp
    simpa [Function.update_of_ne hcf] using h.link_le c hcp
  · intro c hcl
    rcases List.mem_append.1 hcl with hcl | hcl
    · have hne := hnotLive c hcl
      simpa [Function.update_of_ne hne] using h.live c hcl
    · rw [List.mem_singleton] at hcl
      subst hcl
      rw [hclient, hcomponent]
      exact ⟨hfree, Function.update_self .., hc⟩
  · rw [List.map_append, List.nodup_append]
    refine ⟨h.nodup, by simp, ?_⟩
    rintro a ha b hb rfl
    obtain ⟨c, hcl, rfl⟩ := List.mem_map.1 ha
    rw [List.map_singleton, List.mem_singleton, hclient] at hb
    exact hnotLive c hcl hb

/-- The number that the lookup of a live component was asked for. -/
lemma XfClientsInv.lookup_ne_zero (h : XfClientsInv s) {client : U32}
    (hclient : client < xfCfgMaxClients) (hlookup : xfClientLookup s.cd client ≠ 0#32) :
    s.cd.cmap client = xfClientLookup s.cd client ∧ ∃ c ∈ s.live, c.client = client ∧
      c.component = xfClientLookup s.cd client := by
  have hlink : s.cd.cmap client > xfCfgMaxClients := by
    by_contra hle
    exact hlookup (if_neg hle)
  have heq : xfClientLookup s.cd client = s.cd.cmap client := if_pos hlink
  have hplace : s.place client ≠ some () := fun hp => by
    have hle := BitVec.le_def.1 (h.link_le client hp)
    have hlt := BitVec.lt_def.1 hlink
    omega
  rw [ne_eq, XfClients.place_eq_some, not_and] at hplace
  have hlive := hplace hclient
  push Not at hlive
  obtain ⟨c, hc, rfl⟩ := hlive
  exact ⟨heq.symm, c, hc, rfl, (h.live c hc).2.1.symm.trans heq.symm⟩

/-- The destruction of a component keeps the invariant. -/
lemma XfClientsInv.free (h : XfClientsInv s) {client : U32} (hclient : client < xfCfgMaxClients)
    (hlookup : xfClientLookup s.cd client ≠ 0#32) :
    XfClientsInv {
      cd := xfClientFree s.cd client
      live := s.live.filter fun c =>
        ¬ (c.client = client ∧ c.component = xfClientLookup s.cd client) } := by
  obtain ⟨hlink, x, hx, rfl, hcomponent⟩ := h.lookup_ne_zero hclient hlookup
  have hgone : ∀ c, c ∈ s.live.filter (fun c =>
      ¬ (c.client = x.client ∧ c.component = xfClientLookup s.cd x.client)) ↔
        c ∈ s.live ∧ c.client ≠ x.client := by
    intro c
    rw [List.mem_filter, decide_eq_true_iff]
    refine and_congr_right fun hc => ⟨fun hn he => hn ⟨he, ?_⟩, fun hne he => hne he.1⟩
    rw [← (h.live c hc).2.1, he, hlink]
  have hplaces : ∀ c, XfClients.place
      { cd := xfClientFree s.cd x.client,
        live := s.live.filter fun c =>
          ¬ (c.client = x.client ∧ c.component = xfClientLookup s.cd x.client) } c =
        Function.update s.place x.client (some ()) c := by
    intro c
    by_cases hcx : c = x.client
    · rw [hcx, Function.update_self, XfClients.place_eq_some]
      exact ⟨hclient, fun y hy => ((hgone y).1 hy).2⟩
    · rw [Function.update_of_ne hcx, XfClients.place, XfClients.place]
      refine if_congr (and_congr_right fun _ => ?_) rfl rfl
      exact ⟨fun hall y hy he => hall y ((hgone y).2 ⟨hy, fun hyx => hcx (he ▸ hyx)⟩) he,
        fun hall y hy => hall y ((hgone y).1 hy).1⟩
  have hnone : s.place x.client = none := by
    rw [XfClients.place, if_neg]
    exact fun hp => hp.2 x hx rfl
  refine ⟨?_, BitVec.le_of_lt hclient, ?_, ?_, ?_⟩
  · refine lists_congr (h.lists.push (k := ()) hnone not_false) (fun c => ?_) ?_ hplaces
    · by_cases hcx : c = x.client
      · subst hcx
        simp [XfCoreData.nextFree, xfClientFree, XfCoreData.headFree]
      · simp [XfCoreData.nextFree, xfClientFree, Function.update_of_ne hcx]
    · simp [XfCoreData.headFree, xfClientFree, hclient]
  · intro c hcp
    by_cases hcx : c = x.client
    · subst hcx
      simpa [xfClientFree] using h.free_le
    · rw [hplaces, Function.update_of_ne hcx] at hcp
      simpa [xfClientFree, Function.update_of_ne hcx] using h.link_le c hcp
  · intro c hc
    obtain ⟨hc, hne⟩ := (hgone c).1 hc
    simpa [xfClientFree, Function.update_of_ne hne] using h.live c hc
  · exact h.nodup.sublist (List.Sublist.map _ List.filter_sublist)

/-- The client number of a message is below the limit. -/
lemma xfMsgDstClient_lt_max (id : U32) : xfMsgDstClient id < xfCfgMaxClients :=
  lt_xfCfgMaxClients.2 (xfMsgDstClient_lt id)

/-- Every registration and every dispatch keeps the invariant. -/
theorem XfClientsInv.step {s' : XfClients} (h : XfClientsInv s) (hstep : XfClientsStep s s') :
    XfClientsInv s' := by
  cases hstep with
  | register id component haddr =>
    by_cases hfree : s.cd.free < xfCfgMaxClients
    · by_cases hzero : component = 0#32
      · subst hzero
        rw [xfProxyRegister_noMem hfree]
        exact h
      · rw [xfProxyRegister_ok hfree _ _ hzero]
        exact h.register hfree (haddr.resolve_left hzero)
          (xfPortClient_portSpec (xfMsgSrc id) hfree) rfl
    · have hfull : s.cd.free = xfCfgMaxClients := by
        have hle := BitVec.le_def.1 h.free_le
        rw [← BitVec.toNat_inj]
        rw [BitVec.lt_def] at hfree
        omega
      rw [xfProxyRegister_full hfull]
      exact h
  | dispatch id entry exit =>
    by_cases hlookup : xfClientLookup s.cd (xfMsgDstClient id) = 0#32
    · simp only [xfCoreDispatchClient, hlookup]
      exact h
    · by_cases hexit : entry < 0 ∧ exit = 0
      · simp only [xfCoreDispatchClient, ne_eq, hlookup, not_false_eq_true, if_true, hexit,
          and_self]
        exact h.free (xfMsgDstClient_lt_max id) hlookup
      · simp only [xfCoreDispatchClient, ne_eq, hlookup, not_false_eq_true, if_true,
          hexit, if_false]
        exact h

end Step

/-- What holds of the client map in every state: the numbers of the live components are different
and below the limit, a lookup finds the live component or none, the free list holds exactly the
other numbers, each once, and a registration finds no number exactly when all are live. -/
structure XfClientsOk (s : XfClients) : Prop where
  component_ne : ∀ c ∈ s.live, c.component ≠ 0#32
  client_lt : ∀ c ∈ s.live, c.client < xfCfgMaxClients
  distinct : (s.live.map XfClient.client).Nodup
  lookup_live : ∀ c ∈ s.live, xfClientLookup s.cd c.client = c.component
  lookup_none : ∀ client < xfCfgMaxClients, (∀ c ∈ s.live, c.client ≠ client) →
    xfClientLookup s.cd client = 0#32
  free : ∃ l, Chain s.cd.nextFree s.cd.headFree l ∧ l.Nodup ∧
    ∀ client, client ∈ l ↔ client < xfCfgMaxClients ∧ ∀ c ∈ s.live, c.client ≠ client
  full : ∀ id component, (xfProxyRegister 0#32 s.cd id component).1 = .error xfEBusy ↔
    ∀ client < xfCfgMaxClients, ∃ c ∈ s.live, c.client = client

lemma XfClientsOk.of_inv {s : XfClients} (h : XfClientsInv s) : XfClientsOk s where
  component_ne := fun c hc he => by
    have := BitVec.lt_def.1 (h.live c hc).2.2
    rw [he] at this
    exact absurd this (by decide)
  client_lt := fun c hc => (h.live c hc).1
  distinct := h.nodup
  lookup_live := fun c hc => by
    obtain ⟨-, hlink, haddr⟩ := h.live c hc
    rw [← hlink] at haddr
    exact (if_pos haddr).trans hlink
  lookup_none := fun client hlt hnone => by
    have hle := BitVec.le_def.1 (h.link_le client (XfClients.place_eq_some.2 ⟨hlt, hnone⟩))
    refine if_neg fun hgt => ?_
    have := BitVec.lt_def.1 hgt
    omega
  free := by
    obtain ⟨l, hl, hnodup, hmem, -⟩ := h.lists ()
    exact ⟨l, hl, hnodup, fun client => (hmem client).trans XfClients.place_eq_some⟩
  full := fun id component => by
    by_cases hfree : s.cd.free < xfCfgMaxClients
    · have hplace := XfClients.place_eq_some.1 (h.place_free hfree)
      refine iff_of_false ?_ fun hall => ?_
      · by_cases hzero : component = 0#32
        · subst hzero
          rw [xfProxyRegister_noMem hfree]
          simp [xfEBusy, xfENoMem]
        · rw [xfProxyRegister_ok hfree _ _ hzero]
          simp
      · obtain ⟨c, hc, he⟩ := hall _ hfree
        exact hplace.2 c hc he
    · have hfull : s.cd.free = xfCfgMaxClients := by
        have hle := BitVec.le_def.1 h.free_le
        rw [← BitVec.toNat_inj]
        rw [BitVec.lt_def] at hfree
        omega
      refine iff_of_true (by rw [xfProxyRegister_full hfull]) fun client hlt => ?_
      by_contra hnone
      push Not at hnone
      refine h.lists.head_ne_none (XfClients.place_eq_some.2 ⟨hlt, hnone⟩) ?_
      exact if_neg hfree

lemma xfClients_ok {s : XfClients} (hrun : Relation.ReflTransGen XfClientsStep .init s) :
    XfClientsOk s :=
  .of_inv (run_invariant XfClientsInv (fun _ _ h hstep => h.step hstep) .init hrun)

/-- In every sequence of registrations, successful or not, and of dispatches, with or without the
destruction of the component, the client map and the live components agree. -/
theorem xfClients_run (s : XfClients) (hrun : Relation.ReflTransGen XfClientsStep .init s) :
    XfClientsOk s :=
  xfClients_ok hrun

/-- A registration, a failed one, and the destruction of the component. -/
theorem xfClients_run_three : ∃ s, XfClientsOk s ∧ s.live = [] ∧ s.cd.free = 0#32 := by
  have h1 := Relation.ReflTransGen.single (XfClientsStep.register .init 0x00008000#32 0x1000#32
    (.inr (by decide)))
  have h2 := h1.tail (.register _ 0x00008000#32 0#32 (.inl rfl))
  have h3 := h2.tail (.dispatch _ 0x00008000#32 (-1) 0)
  exact ⟨_, xfClients_run _ h3, rfl, rfl⟩

end Hikey
