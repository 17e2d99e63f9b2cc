import Hikey.Shmem.Queue
import Hikey.Foundation.Linked

/-!
# The message pool

Every message of the pool is in exactly one place, and the commands taken from the ring are those
answered and those that the messages in flight carry.  `XfStored` says where the messages are, and
`XfPlaced` that they stay on core 0; `XfSerials` says which commands they carry.  `XfShmemInv.step`
keeps all of it as long as the session ids of the commands name core 0 in both halves.
-/

namespace Hikey

namespace Shmem

/-- Where a message can be: on a list, with a component, or in an iteration of one of the loops. -/
inductive XfPlace
  | list (q : XfMsgList)
  | held
  | input
  | output
  | away
deriving DecidableEq, Repr

/-- The list of a place on a list. -/
def XfPlace.list? : XfPlace → Option XfMsgList
  | .list q => some q
  | _ => none

@[simp] lemma XfPlace.list?_eq_some {pl : XfPlace} {q : XfMsgList} :
    pl.list? = some q ↔ pl = .list q := by
  cases pl <;> simp [XfPlace.list?]

/-- The message `m` is at the place `pl`. -/
def XfShmem.At (s : XfShmem) (m : XfMessagePtr) : XfPlace → Prop
  | .list q => Reaches s.data.next (s.data.head q) m
  | .held => s.held m = true
  | .input => s.input = some m
  | .output => s.output = some m
  | .away => False

/-- Both halves of a session id name core 0. -/
def XfCoreZero (id : U32) : Prop := xfMsgSrcCore id = 0#32 ∧ xfMsgDstCore id = 0#32

lemma XfCoreZero.swap {id : U32} (h : XfCoreZero id) : XfCoreZero (xfMsgSwap id) := by
  simpa [XfCoreZero] using h.symm

/-- The places of the layer on core 0 for a message of the pool. -/
def XfPlace.Live (pl : XfPlace) : Prop :=
  pl = .list .pool ∨ pl = .list (.queue 0#32) ∨ pl = .list (.remote 0#32) ∨ pl = .held ∨
    pl = .input ∨ pl = .output

section Lists

/-- The lists of the message objects hold the messages whose place they are. -/
def XfMsgData.Linked (d : XfMsgData) (place : XfMessagePtr → XfPlace) : Prop :=
  Lists d.next d.head d.tail (· ≠ .pool) fun m => (place m).list?

variable {d d' : XfMsgData} {place : XfMessagePtr → XfPlace} {q : XfMsgList} {m : XfMessagePtr}
  {pl : XfPlace}

lemma list?_update (place : XfMessagePtr → XfPlace) (m : XfMessagePtr) (pl : XfPlace)
    (p : XfMessagePtr) : (Function.update place m pl p).list? =
      Function.update (fun m => (place m).list?) m pl.list? p := by
  by_cases hp : p = m
  · subst hp
    simp
  · simp [Function.update_of_ne hp]

/-- Moving a message between places that are on no list. -/
lemma XfMsgData.Linked.move (h : d.Linked place) (hm : (place m).list? = none)
    (hpl : pl.list? = none) : d.Linked (Function.update place m pl) := by
  refine Lists.congr h fun p => ?_
  rw [list?_update, hpl]
  by_cases hp : p = m
  · subst hp
    simp [hm]
  · rw [Function.update_of_ne hp]

lemma XfMsgData.Linked.enqueue (h : d.Linked place) (hm : (place m).list? = none)
    (hq : q ≠ .pool) : (xfMsgEnqueue d q m).Linked (Function.update place m (.list q)) := by
  have hplace : ∀ p, (Function.update place m (.list q) p).list? =
      Function.update (fun m => (place m).list?) m (some q) p := list?_update place m (.list q)
  cases hh : d.head q with
  | none =>
    simp only [xfMsgEnqueue, hh]
    exact (Lists.append_nil h hm hh).congr hplace
  | some t' =>
    obtain ⟨t, ht⟩ := h.tail_ne_none hq (by rw [hh]; simp)
    simp only [xfMsgEnqueue, hh, ht]
    exact (Lists.append_cons h hm hq (by rw [hh]; simp) ht).congr hplace

lemma XfMsgData.Linked.dequeue (h : d.Linked place) (hget : xfMsgDequeue d q = some (m, d'))
    (hpl : pl.list? = none) : place m = .list q ∧ d'.Linked (Function.update place m pl) ∧
      d'.body = d.body := by
  cases hh : d.head q with
  | none => simp [xfMsgDequeue, hh] at hget
  | some m' =>
    simp only [xfMsgDequeue, hh, Option.some.injEq, Prod.mk.injEq] at hget
    obtain ⟨rfl, rfl⟩ := hget
    refine ⟨XfPlace.list?_eq_some.1 (h.place_head hh), ?_, rfl⟩
    refine (Lists.pop h hh _ fun _ => rfl).congr fun p => ?_
    rw [list?_update, hpl]

lemma XfMsgData.Linked.poolGet (h : d.Linked place) (hget : xfMsgPoolGet d = some (m, d'))
    (hpl : pl.list? = none) : place m = .list .pool ∧ d'.Linked (Function.update place m pl) ∧
      d'.body = d.body := by
  cases hh : d.head .pool with
  | none => simp [xfMsgPoolGet, hh] at hget
  | some m' =>
    simp only [xfMsgPoolGet, hh, Option.some.injEq, Prod.mk.injEq] at hget
    obtain ⟨rfl, rfl⟩ := hget
    refine ⟨XfPlace.list?_eq_some.1 (h.place_head hh), ?_, rfl⟩
    have hpop := Lists.pop h hh (d.tail .pool) fun hne => absurd rfl hne
    rw [Function.update_eq_self] at hpop
    refine hpop.congr fun p => ?_
    rw [list?_update, hpl]

lemma XfMsgData.Linked.poolPut (h : d.Linked place) (hm : (place m).list? = none) :
    (xfMsgPoolPut d m).Linked (Function.update place m (.list .pool)) :=
  (Lists.push h hm (by simp)).congr (list?_update place m (.list .pool))

lemma XfMsgData.Linked.write (h : d.Linked place) (m : XfMessagePtr) (b : XfMsgBody) :
    (d.write m b).Linked place := h

@[simp] lemma body_xfMsgEnqueue (d : XfMsgData) (q : XfMsgList) (m : XfMessagePtr) :
    (xfMsgEnqueue d q m).body = d.body := by
  unfold xfMsgEnqueue
  split <;> rfl

end Lists

section Init

/-- The links of the messages of the pool after `xf_msg_pool_init`. -/
lemma next_poolInit (next : XfMessagePtr → Option XfMessagePtr) (n : ℕ) :
    ∀ p, (List.range n).foldl (fun (next : XfMessagePtr → Option XfMessagePtr) i =>
      Function.update next (.proxy i) (some (.proxy (i + 1)))) next p =
        match p with
        | .proxy i => if i < n then some (.proxy (i + 1)) else next (.proxy i)
        | .item a i => next (.item a i) := by
  induction n with
  | zero => rintro (i | ⟨a, i⟩) <;> rfl
  | succ n ih =>
    intro p
    rw [List.range_succ, List.foldl_append]
    simp only [List.foldl_cons, List.foldl_nil]
    cases p with
    | proxy i =>
      by_cases hi : i = n
      · subst hi
        simp
      · rw [Function.update_of_ne (by simp [hi]), ih]
        simp only
        exact if_congr (by omega) rfl rfl
    | item a i =>
      rw [Function.update_of_ne (by simp), ih]

/-- The free list after `xf_msg_pool_init`, from the message `i` on. -/
lemma chain_poolInit (d : XfMsgData) (k i : ℕ) :
    Chain (xfMsgPoolInit d (i + k + 1)).next (some (.proxy i))
      ((List.range' i (k + 1)).map .proxy) := by
  induction k generalizing i with
  | zero =>
    refine ⟨rfl, ?_⟩
    simp [xfMsgPoolInit, Chain]
  | succ k ih =>
    rw [List.range'_succ, List.map_cons]
    refine ⟨rfl, ?_⟩
    have hnext : (xfMsgPoolInit d (i + (k + 1) + 1)).next (.proxy i) = some (.proxy (i + 1)) := by
      change Function.update _ _ _ _ = _
      rw [Function.update_of_ne (by simp), next_poolInit]
      simp
    rw [hnext, show i + (k + 1) + 1 = i + 1 + k + 1 by omega]
    exact ih (i + 1)

/-- The places after `xf_shmem_init`. -/
def XfPlace.init : XfMessagePtr → XfPlace
  | .proxy i => if i < xfCfgMessagePoolSize then .list .pool else .away
  | .item _ _ => .held

lemma XfMsgData.Linked.init (body : XfMessagePtr → XfMsgBody) :
    (xfMsgPoolInit (XfMsgData.blank body) xfCfgMessagePoolSize).Linked XfPlace.init := by
  intro q
  by_cases hq : q = .pool
  · subst hq
    refine ⟨(List.range' 0 256).map .proxy, chain_poolInit _ 255 0, ?_, ?_, fun h => absurd rfl h⟩
    · exact (List.nodup_range').map fun i j h => by simpa using h
    · rintro (i | ⟨a, i⟩)
      · by_cases hi : i < 256 <;> simp [XfPlace.init, xfCfgMessagePoolSize, hi, XfPlace.list?]
      · simp [XfPlace.init, XfPlace.list?]
  · refine ⟨[], ?_, List.nodup_nil, ?_, fun _ => rfl⟩
    · change Function.update _ _ _ _ = _
      rw [Function.update_of_ne hq]
      rfl
    · rintro (i | ⟨a, i⟩)
      · by_cases hi : i < 256 <;> simp [XfPlace.init, xfCfgMessagePoolSize, hi, Ne.symm hq]
      · simp [XfPlace.init]

end Init

/-- Where the messages are: on the lists, with their holders, and in the iterations of the loops. -/
structure XfStored (s : XfShmem) (place : XfMessagePtr → XfPlace) : Prop where
  linked : s.data.Linked place
  held : ∀ m, s.held m = true ↔ place m = .held
  input : ∀ m, s.input = some m ↔ place m = .input
  output : ∀ m, s.output = some m ↔ place m = .output
  input_none : s.input = none ↔ ∀ r w c, s.cmd.consumer ≠ .access r w c
  output_none : s.output = none ↔ ∀ r w c, s.rsp.producer ≠ .access r w c

/-- Only messages of the pool come to the free list, to the response queues and into the iterations
of the loops, and those in flight keep the cores of their command. -/
structure XfPlaced (s : XfShmem) (place : XfMessagePtr → XfPlace) : Prop extends
    XfStored s place where
  live : ∀ i < xfCfgMessagePoolSize, (place (.proxy i)).Live
  pooled : ∀ m, (place m = .list .pool ∨ place m = .input ∨ place m = .output ∨
    ∃ c, place m = .list (.remote c)) → ∃ i < xfCfgMessagePoolSize, m = .proxy i
  cores : ∀ i < xfCfgMessagePoolSize, place (.proxy i) ≠ .list .pool →
    XfCoreZero (s.data.body (.proxy i)).id

namespace XfStored

variable {s s' : XfShmem} {place : XfMessagePtr → XfPlace}

/-- A message is at the place that the placement names, and at no other. -/
lemma at_iff (h : XfStored s place) {m : XfMessagePtr} {pl : XfPlace} (hpl : pl ≠ .away) :
    s.At m pl ↔ place m = pl := by
  cases pl with
  | list q =>
    change Reaches s.data.next (s.data.head q) m ↔ _
    rw [h.linked.reaches_iff, XfPlace.list?_eq_some]
  | held => exact h.held m
  | input => exact h.input m
  | output => exact h.output m
  | away => exact absurd rfl hpl

/-- The message in an iteration, when at most one message moves to another place. -/
lemma hand_update {f f' : Option XfMessagePtr} {X pl : XfPlace} {m : XfMessagePtr}
    (h : ∀ p, f = some p ↔ place p = X) (henter : pl = X → f = none ∧ f' = some m)
    (hleave : pl ≠ X → place m = X → f' = none) (hother : pl ≠ X → place m ≠ X → f' = f)
    (p : XfMessagePtr) : f' = some p ↔ Function.update place m pl p = X := by
  by_cases hpl : pl = X
  · obtain ⟨hnone, rfl⟩ := henter hpl
    by_cases hp : p = m
    · subst hp
      simp [hpl]
    · rw [Function.update_of_ne hp, ← h p, hnone]
      simp [Ne.symm hp]
  · by_cases hm : place m = X
    · have hf : f = some m := (h m).2 hm
      rw [hleave hpl hm]
      by_cases hp : p = m
      · subst hp
        simp [hpl]
      · rw [Function.update_of_ne hp, ← h p, hf]
        simp [Ne.symm hp]
    · rw [hother hpl hm]
      by_cases hp : p = m
      · subst hp
        simp [hpl, h, hm]
      · rw [Function.update_of_ne hp, h]

/-- The message in an iteration stays there when another one moves elsewhere. -/
lemma hand_keep {f : Option XfMessagePtr} {X pl : XfPlace} {m : XfMessagePtr}
    (h : ∀ p, f = some p ↔ place p = X) (hpl : pl ≠ X) (hm : place m ≠ X) (p : XfMessagePtr) :
    f = some p ↔ Function.update place m pl p = X :=
  hand_update h (fun he => absurd he hpl) (fun _ he => absurd he hm) (fun _ _ => rfl) p

/-- The messages that are held stay the same when a message moves that is not held, and will not be.
-/
lemma held_keep (h : XfStored s place) {m : XfMessagePtr} {pl : XfPlace} (hm : place m ≠ .held)
    (hpl : pl ≠ .held) (p : XfMessagePtr) :
    s.held p = true ↔ Function.update place m pl p = .held := by
  by_cases hp : p = m
  · subst hp
    rw [Function.update_self, h.held]
    exact iff_of_false hm hpl
  · rw [Function.update_of_ne hp, h.held]

/-- The messages that are held after one of them has been handed over or given away. -/
lemma held_update (h : XfStored s place) (m : XfMessagePtr) {pl : XfPlace} {b : Bool}
    (hb : b = true ↔ pl = .held) (p : XfMessagePtr) :
    Function.update s.held m b p = true ↔ Function.update place m pl p = .held := by
  by_cases hp : p = m
  · subst hp
    rw [Function.update_self, Function.update_self, hb]
  · rw [Function.update_of_ne hp, Function.update_of_ne hp, h.held]

end XfStored

namespace XfPlaced

variable {s : XfShmem} {place : XfMessagePtr → XfPlace}

/-- One message moves to another place. -/
lemma move (h : XfPlaced s place) {s' : XfShmem} {m : XfMessagePtr} {pl : XfPlace}
    (hstored : XfStored s' (Function.update place m pl))
    (hlive : ∀ i < xfCfgMessagePoolSize, m = .proxy i → pl.Live)
    (hpooled : (pl = .list .pool ∨ pl = .input ∨ pl = .output ∨ ∃ c, pl = .list (.remote c)) →
      ∃ i < xfCfgMessagePoolSize, m = .proxy i)
    (hcores : pl ≠ .list .pool → ∀ i < xfCfgMessagePoolSize, m = .proxy i →
      XfCoreZero (s'.data.body m).id)
    (hbody : ∀ p ≠ m, s'.data.body p = s.data.body p) :
    XfPlaced s' (Function.update place m pl) where
  toXfStored := hstored
  live := fun i hi => by
    by_cases hp : XfMessagePtr.proxy i = m
    · rw [hp, Function.update_self]
      exact hlive i hi hp.symm
    · rw [Function.update_of_ne hp]
      exact h.live i hi
  pooled := fun p hp => by
    by_cases hpm : p = m
    · subst hpm
      rw [Function.update_self] at hp
      exact hpooled hp
    · rw [Function.update_of_ne hpm] at hp
      exact h.pooled p hp
  cores := fun i hi hne => by
    by_cases hp : XfMessagePtr.proxy i = m
    · rw [hp, Function.update_self] at hne
      rw [hp]
      exact hcores hne i hi hp.symm
    · rw [Function.update_of_ne hp] at hne
      rw [hbody _ hp]
      exact h.cores i hi hne

end XfPlaced

/-- Which commands the messages carry: those in flight carry different ones of the commands taken,
none of them answered, and every command taken is answered, once, or in flight. -/
structure XfSerials (s : XfShmem) (place : XfMessagePtr → XfPlace) : Prop where
  nodup : s.answered.Nodup
  lt : ∀ k ∈ s.answered, k < s.commands.length
  flight_lt : ∀ i < xfCfgMessagePoolSize, place (.proxy i) ≠ .list .pool →
    s.serial (.proxy i) < s.commands.length ∧ s.serial (.proxy i) ∉ s.answered
  inj : ∀ i < xfCfgMessagePoolSize, ∀ j < xfCfgMessagePoolSize, place (.proxy i) ≠ .list .pool →
    place (.proxy j) ≠ .list .pool → s.serial (.proxy i) = s.serial (.proxy j) → i = j
  cover : ∀ k < s.commands.length, k ∈ s.answered ∨
    ∃ i < xfCfgMessagePoolSize, place (.proxy i) ≠ .list .pool ∧ s.serial (.proxy i) = k
  posted : s.rsp.posted.length = s.answered.length

namespace XfSerials

variable {s s' : XfShmem} {place place' : XfMessagePtr → XfPlace}

/-- The free messages stay the same when a message moves that is not free, and will not be. -/
lemma pool_update {m : XfMessagePtr} {pl : XfPlace} (hm : place m ≠ .list .pool)
    (hpl : pl ≠ .list .pool)
    (p : XfMessagePtr) : Function.update place m pl p = .list .pool ↔ place p = .list .pool := by
  by_cases hp : p = m
  · subst hp
    rw [Function.update_self]
    exact iff_of_false hpl hm
  · rw [Function.update_of_ne hp]

/-- A step that neither takes a command nor answers one. -/
lemma keep (h : XfSerials s place) (hanswered : s'.answered = s.answered)
    (hserial : s'.serial = s.serial) (hcommands : s'.commands.length = s.commands.length)
    (hposted : s'.rsp.posted.length = s.rsp.posted.length)
    (hflight : ∀ m, place' m = .list .pool ↔ place m = .list .pool) : XfSerials s' place' where
  nodup := hanswered ▸ h.nodup
  lt := by
    rw [hanswered, hcommands]
    exact h.lt
  flight_lt := by
    rw [hanswered, hcommands, hserial]
    exact fun i hi hne => h.flight_lt i hi (mt (hflight _).2 hne)
  inj := by
    rw [hserial]
    exact fun i hi j hj hine hjne => h.inj i hi j hj (mt (hflight _).2 hine) (mt (hflight _).2 hjne)
  cover := by
    rw [hanswered, hcommands, hserial]
    exact fun k hk => (h.cover k hk).imp_right fun ⟨i, hi, hne, he⟩ =>
      ⟨i, hi, mt (hflight _).1 hne, he⟩
  posted := by
    rw [hanswered, hposted]
    exact h.posted

/-- A message of the free list takes the next command. -/
lemma take (h : XfSerials s place) {i : ℕ} (hi : i < xfCfgMessagePoolSize)
    (hpool : place (.proxy i) = .list .pool) {pl : XfPlace} (hpl : pl ≠ .list .pool)
    (hanswered : s'.answered = s.answered)
    (hserial : s'.serial = Function.update s.serial (.proxy i) s.commands.length)
    (hcommands : s'.commands.length = s.commands.length + 1)
    (hposted : s'.rsp.posted.length = s.rsp.posted.length) :
    XfSerials s' (Function.update place (.proxy i) pl) := by
  have hother : ∀ j, j ≠ i → Function.update place (.proxy i) pl (.proxy j) = place (.proxy j) ∧
      s'.serial (.proxy j) = s.serial (.proxy j) := fun j hj => by
    have hne : XfMessagePtr.proxy j ≠ .proxy i := by simpa using hj
    rw [hserial, Function.update_of_ne hne, Function.update_of_ne hne]
    exact ⟨rfl, rfl⟩
  have hself : s'.serial (.proxy i) = s.commands.length := by
    rw [hserial, Function.update_self]
  refine ⟨hanswered ▸ h.nodup, ?_, ?_, ?_, ?_, ?_⟩
  · intro k hk
    rw [hanswered] at hk
    have := h.lt k hk
    omega
  · intro j hj hne
    by_cases hji : j = i
    · subst hji
      rw [hself, hanswered]
      exact ⟨by omega, fun hk => absurd (h.lt _ hk) (by omega)⟩
    · obtain ⟨hp, hs⟩ := hother j hji
      rw [hp] at hne
      rw [hs, hanswered]
      have := h.flight_lt j hj hne
      exact ⟨by omega, this.2⟩
  · intro j hj k hk hjne hkne he
    by_cases hji : j = i <;> by_cases hki : k = i
    · rw [hji, hki]
    · obtain ⟨hp, hs⟩ := hother k hki
      rw [hp] at hkne
      have := (h.flight_lt k hk hkne).1
      rw [hji, hself, hs] at he
      omega
    · obtain ⟨hp, hs⟩ := hother j hji
      rw [hp] at hjne
      have := (h.flight_lt j hj hjne).1
      rw [hki, hself, hs] at he
      omega
    · obtain ⟨hp, hs⟩ := hother j hji
      obtain ⟨hp', hs'⟩ := hother k hki
      rw [hp] at hjne
      rw [hp'] at hkne
      rw [hs, hs'] at he
      exact h.inj j hj k hk hjne hkne he
  · intro k hk
    rcases Nat.lt_or_ge k s.commands.length with hlt | hge
    · rw [hanswered]
      refine (h.cover k hlt).imp_right fun ⟨j, hj, hne, he⟩ => ?_
      have hji : j ≠ i := by
        rintro rfl
        exact hne hpool
      obtain ⟨hp, hs⟩ := hother j hji
      exact ⟨j, hj, hp ▸ hne, hs.trans he⟩
    · exact .inr ⟨i, hi, by rwa [Function.update_self], by omega⟩
  · rw [hanswered, hposted]
    exact h.posted

/-- A message in flight goes back to the free list, and its command is answered. -/
lemma answer (h : XfSerials s place) {i : ℕ} (hi : i < xfCfgMessagePoolSize)
    (hflight : place (.proxy i) ≠ .list .pool)
    (hanswered : s'.answered = s.answered ++ [s.serial (.proxy i)])
    (hserial : s'.serial = s.serial) (hcommands : s'.commands.length = s.commands.length)
    (hposted : s'.rsp.posted.length = s.rsp.posted.length + 1) :
    XfSerials s' (Function.update place (.proxy i) (.list .pool)) := by
  obtain ⟨hlt, hnot⟩ := h.flight_lt i hi hflight
  have hother : ∀ j, Function.update place (.proxy i) (.list .pool) (.proxy j) ≠ .list .pool →
      j ≠ i ∧ place (.proxy j) ≠ .list .pool := fun j hne => by
    have hji : j ≠ i := by
      rintro rfl
      simp at hne
    rw [Function.update_of_ne (by simpa using hji)] at hne
    exact ⟨hji, hne⟩
  refine ⟨?_, ?_, ?_, ?_, ?_, ?_⟩
  · rw [hanswered, List.nodup_append]
    refine ⟨h.nodup, by simp, fun a ha b hb hab => hnot ?_⟩
    rw [List.mem_singleton] at hb
    rwa [← hb, ← hab]
  · intro k hk
    rw [hanswered, List.mem_append, List.mem_singleton] at hk
    rw [hcommands]
    rcases hk with hk | rfl
    · exact h.lt k hk
    · exact hlt
  · intro j hj hne
    obtain ⟨hji, hne⟩ := hother j hne
    obtain ⟨hjlt, hjnot⟩ := h.flight_lt j hj hne
    rw [hserial, hcommands, hanswered, List.mem_append, List.mem_singleton, not_or]
    exact ⟨hjlt, hjnot, fun he => hji (h.inj j hj i hi hne hflight he)⟩
  · intro j hj k hk hjne hkne he
    rw [hserial] at he
    exact h.inj j hj k hk (hother j hjne).2 (hother k hkne).2 he
  · intro k hk
    rw [hcommands] at hk
    rw [hanswered, List.mem_append, List.mem_singleton, hserial]
    rcases h.cover k hk with hk | ⟨j, hj, hne, he⟩
    · exact .inl (.inl hk)
    · by_cases hji : j = i
      · subst hji
        exact .inl (.inr he.symm)
      · exact .inr ⟨j, hj, by rwa [Function.update_of_ne (by simpa using hji)], he⟩
  · rw [hanswered, hposted, List.length_append, List.length_singleton, h.posted]

end XfSerials

/-- The invariant of the layer while all commands name core 0. -/
def XfShmemInv (s : XfShmem) : Prop := ∃ place, XfPlaced s place ∧ XfSerials s place

end Shmem

end Hikey
