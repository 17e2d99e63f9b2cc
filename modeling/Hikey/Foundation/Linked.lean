import Mathlib.Data.List.Nodup
import Mathlib.Tactic

/-!
# Lists that are linked through one field

Every object has one field `next`, and an object is on at most one of several lists, so that taking
it off one list and putting it on another only rewrites that field.
`Lists next head tail queue place` says which objects are on which list; the three operations of
such lists keep it: `Lists.pop` at the head of a list, `Lists.push` at the head of a list without a
tail pointer, and `Lists.append` at the tail of a queue.
-/

namespace Hikey

universe u v

variable {P : Type u} {κ : Type v}

/-- The list that starts at `head` and follows the field `next` to its end. -/
def Chain (next : P → Option P) : Option P → List P → Prop
  | head, [] => head = none
  | head, p :: l => head = some p ∧ Chain next (next p) l

/-- The object `p` is reached from `head` by following the field `next`. -/
inductive Reaches (next : P → Option P) : Option P → P → Prop
  | head (p : P) : Reaches next (some p) p
  | next (q p : P) (h : Reaches next (next q) p) : Reaches next (some q) p

section Chain

variable {next next' : P → Option P} {head : Option P} {l : List P} {p : P}

lemma Chain.head_eq (h : Chain next head l) : head = l.head? := by
  cases l with
  | nil => exact h
  | cons p l => exact h.1

/-- The objects on a list are those that its head reaches. -/
lemma Chain.reaches_iff (h : Chain next head l) : Reaches next head p ↔ p ∈ l := by
  induction l generalizing head with
  | nil =>
    have hnone : head = none := h
    subst hnone
    exact iff_of_false (fun hp => by cases hp) List.not_mem_nil
  | cons q l ih =>
    obtain ⟨rfl, hl⟩ := h
    rw [List.mem_cons]
    constructor
    · intro hp
      cases hp with
      | head => exact .inl rfl
      | next _ _ hp => exact .inr ((ih hl).1 hp)
    · rintro (rfl | hp)
      · exact .head p
      · exact .next q p ((ih hl).2 hp)

/-- The field of an object on a list points to the list. -/
lemma Chain.next_mem {q : P} (h : Chain next head l) (hp : p ∈ l) (hq : next p = some q) :
    q ∈ l := by
  induction l generalizing head with
  | nil => cases hp
  | cons r l ih =>
    obtain ⟨-, hl⟩ := h
    rcases List.mem_cons.mp hp with rfl | hp
    · rw [hl.head_eq] at hq
      exact List.mem_cons_of_mem _ (List.mem_of_mem_head? hq)
    · exact List.mem_cons_of_mem _ (ih hl hp)

/-- The field determines the list. -/
lemma Chain.unique {l' : List P} (h : Chain next head l) (h' : Chain next head l') : l = l' := by
  induction l generalizing head l' with
  | nil =>
    cases l' with
    | nil => rfl
    | cons q l' => cases h.symm.trans h'.1
  | cons p l ih =>
    cases l' with
    | nil => cases h.1.symm.trans h'
    | cons q l' =>
      obtain rfl := Option.some.inj (h.1.symm.trans h'.1)
      rw [ih h.2 h'.2]

/-- A list only depends on the field of its objects. -/
lemma Chain.congr (h : Chain next head l) (hnext : ∀ p ∈ l, next' p = next p) :
    Chain next' head l := by
  induction l generalizing head with
  | nil => exact h
  | cons p l ih =>
    refine ⟨h.1, ?_⟩
    rw [hnext p (by simp)]
    exact ih h.2 fun q hq => hnext q (by simp [hq])

/-- A list that does not hold the object `m` survives a write to its field. -/
lemma Chain.update [DecidableEq P] (h : Chain next head l) {m : P} (hm : m ∉ l) (v : Option P) :
    Chain (Function.update next m v) head l :=
  h.congr fun p hp => Function.update_of_ne (fun he : p = m => hm (he ▸ hp)) _ _

/-- Linking the object `m` behind the last one extends a list by it. -/
lemma Chain.concat [DecidableEq P] (h : Chain next head l) (hnodup : l.Nodup) {m t : P}
    (hm : m ∉ l) (ht : l.getLast? = some t) (hend : next m = none) :
    Chain (Function.update next t (some m)) head (l ++ [m]) := by
  induction l generalizing head with
  | nil => simp at ht
  | cons p l ih =>
    obtain ⟨hp, hl⟩ := h
    obtain ⟨hpl, hnd⟩ := List.nodup_cons.1 hnodup
    refine ⟨hp, ?_⟩
    cases l with
    | nil =>
      obtain rfl : p = t := by simpa using ht
      have hne : m ≠ p := fun he => hm (by simp [he])
      rw [Function.update_self]
      exact ⟨rfl, by rw [Function.update_of_ne hne]; exact hend⟩
    | cons q l =>
      have htl : (q :: l).getLast? = some t := by simpa using ht
      have hne : p ≠ t := fun he => hpl (he ▸ List.mem_of_getLast? htl)
      rw [Function.update_of_ne hne]
      exact ih hl hnd (fun hq => hm (List.mem_cons_of_mem _ hq)) htl

/-- Numbers that are linked in their order. -/
lemma Chain.range' {next : ℕ → Option ℕ} {i k : ℕ}
    (hsucc : ∀ j, i ≤ j → j < i + k → next j = some (j + 1)) (hlast : next (i + k) = none) :
    Chain next (some i) (List.range' i (k + 1)) := by
  induction k generalizing i with
  | zero => exact ⟨rfl, hlast⟩
  | succ k ih =>
    rw [List.range'_succ]
    refine ⟨rfl, ?_⟩
    rw [hsucc i le_rfl (by omega)]
    exact ih (fun j hj hlt => hsucc j (by omega) (by omega)) (by rwa [Nat.add_right_comm])

end Chain

/-- Which objects are on which list: the list `k` starts at `head k` and holds, each once, the
objects whose place is `k`; where `k` is a queue, `tail k` is its last object. -/
def Lists (next : P → Option P) (head tail : κ → Option P) (queue : κ → Prop)
    (place : P → Option κ) : Prop :=
  ∀ k, ∃ l, Chain next (head k) l ∧ l.Nodup ∧ (∀ p, p ∈ l ↔ place p = some k) ∧
    (queue k → tail k = l.getLast?)

namespace Lists

variable {next : P → Option P} {head tail : κ → Option P} {queue : κ → Prop}
  {place : P → Option κ} {k : κ} {m : P}

lemma reaches_iff (h : Lists next head tail queue place) (k : κ) (p : P) :
    Reaches next (head k) p ↔ place p = some k := by
  obtain ⟨l, hl, -, hmem, -⟩ := h k
  rw [hl.reaches_iff, hmem]

/-- The object at the head of a list is on it. -/
lemma place_head (h : Lists next head tail queue place) (hk : head k = some m) :
    place m = some k :=
  (h.reaches_iff k m).1 (hk ▸ .head m)

/-- An object on a list is not alone with the empty head. -/
lemma head_ne_none (h : Lists next head tail queue place) (hm : place m = some k) :
    head k ≠ none := by
  intro hk
  have := (h.reaches_iff k m).2 hm
  rw [hk] at this
  cases this

/-- A queue with a head has a tail. -/
lemma tail_ne_none (h : Lists next head tail queue place) (hqueue : queue k) (hk : head k ≠ none) :
    ∃ t, tail k = some t := by
  obtain ⟨l, hl, -, -, htail⟩ := h k
  cases l with
  | nil => exact absurd hl hk
  | cons p l => exact ⟨_, (htail hqueue).trans (List.getLast?_eq_some_getLast (by simp))⟩

/-- Only the places of the objects matter. -/
lemma congr {place' : P → Option κ} (h : Lists next head tail queue place)
    (hplace : ∀ p, place' p = place p) : Lists next head tail queue place' := by
  obtain rfl : place' = place := funext hplace
  exact h

variable [DecidableEq P]

/-- The lists other than `k` after `m` has been put on the list `k`. -/
lemma other (h : Lists next head tail queue place) (hm : place m = none) {j : κ} (hj : j ≠ k)
    (v : Option P) :
    ∃ l, Chain (Function.update next m v) (head j) l ∧ l.Nodup ∧ m ∉ l ∧
      (∀ p, p ∈ l ↔ Function.update place m (some k) p = some j) ∧
      (queue j → tail j = l.getLast?) := by
  obtain ⟨l, hl, hnd, hmem, htail⟩ := h j
  have hml : m ∉ l := fun hp => by simpa [hm] using (hmem m).1 hp
  refine ⟨l, hl.update hml v, hnd, hml, fun p => ?_, htail⟩
  by_cases hp : p = m
  · subst hp
    simp [hml, Ne.symm hj]
  · rw [Function.update_of_ne hp, hmem]

variable [DecidableEq κ]

/-- Taking the first object off a list. -/
theorem pop (h : Lists next head tail queue place) (hk : head k = some m) (v : Option P)
    (hv : queue k → v = if next m = none then none else tail k) :
    Lists (Function.update next m none) (Function.update head k (next m))
      (Function.update tail k v) queue (Function.update place m none) := by
  intro j
  obtain ⟨l, hl, hnd, hmem, htail⟩ := h j
  by_cases hj : j = k
  · subst hj
    cases l with
    | nil => exact absurd (hk.symm.trans hl) (by simp)
    | cons q l =>
      obtain ⟨hq, hl⟩ := hl
      obtain rfl : m = q := Option.some.inj (hk.symm.trans hq)
      obtain ⟨hml, hnd⟩ := List.nodup_cons.1 hnd
      refine ⟨l, ?_, hnd, ?_, ?_⟩
      · rw [Function.update_self]
        exact hl.update hml none
      · intro p
        by_cases hp : p = m
        · subst hp
          simp [hml]
        · rw [Function.update_of_ne hp, ← hmem, List.mem_cons]
          exact ⟨.inr, fun hq => hq.resolve_left hp⟩
      · intro hqueue
        rw [Function.update_self, hv hqueue, htail hqueue, hl.head_eq]
        cases l with
        | nil => rfl
        | cons q l => simp
  · have hml : m ∉ l := fun hp =>
      hj (Option.some.inj (((hmem m).1 hp).symm.trans (h.place_head hk)))
    refine ⟨l, ?_, hnd, ?_, ?_⟩
    · rw [Function.update_of_ne hj]
      exact hl.update hml none
    · intro p
      by_cases hp : p = m
      · subst hp
        simp [hml]
      · rw [Function.update_of_ne hp, hmem]
    · rw [Function.update_of_ne hj]
      exact htail

/-- Putting an object that is on no list at the head of a list without a tail pointer. -/
theorem push (h : Lists next head tail queue place) (hm : place m = none) (hk : ¬ queue k) :
    Lists (Function.update next m (head k)) (Function.update head k (some m)) tail queue
      (Function.update place m (some k)) := by
  intro j
  by_cases hj : j = k
  · subst hj
    obtain ⟨l, hl, hnd, hmem, -⟩ := h j
    have hml : m ∉ l := fun hp => by simpa [hm] using (hmem m).1 hp
    refine ⟨m :: l, ?_, List.nodup_cons.2 ⟨hml, hnd⟩, ?_, fun hq => absurd hq hk⟩
    · rw [Function.update_self]
      refine ⟨rfl, ?_⟩
      rw [Function.update_self]
      exact hl.update hml _
    · intro p
      rw [List.mem_cons]
      by_cases hp : p = m
      · subst hp
        simp
      · rw [Function.update_of_ne hp, ← hmem]
        exact ⟨fun hq => hq.resolve_left hp, .inr⟩
  · obtain ⟨l, hl, hnd, -, hmem, htail⟩ := h.other hm hj (head k)
    exact ⟨l, by rwa [Function.update_of_ne hj], hnd, hmem, htail⟩

/-- Putting an object that is on no list at the end of an empty queue. -/
theorem append_nil (h : Lists next head tail queue place) (hm : place m = none)
    (hk : head k = none) :
    Lists (Function.update next m none) (Function.update head k (some m))
      (Function.update tail k (some m)) queue (Function.update place m (some k)) := by
  intro j
  by_cases hj : j = k
  · subst hj
    refine ⟨[m], ⟨by simp, by simp [Chain]⟩, by simp, ?_, by simp⟩
    intro p
    by_cases hp : p = m
    · subst hp
      simp
    · have hout : place p ≠ some j := fun he => h.head_ne_none he hk
      rw [Function.update_of_ne hp]
      simp [hp, hout]
  · obtain ⟨l, hl, hnd, -, hmem, htail⟩ := h.other hm hj none
    exact ⟨l, by rwa [Function.update_of_ne hj], hnd, hmem, by rwa [Function.update_of_ne hj]⟩

/-- Putting an object that is on no list at the end of a queue that is not empty. -/
theorem append_cons (h : Lists next head tail queue place) (hm : place m = none) (hqueue : queue k)
    (hk : head k ≠ none) {t : P} (ht : tail k = some t) :
    Lists (Function.update (Function.update next m none) t (some m)) head
      (Function.update tail k (some m)) queue (Function.update place m (some k)) := by
  obtain ⟨l, hl, hnd, hmem, htail⟩ := h k
  have hml : m ∉ l := fun hp => by simpa [hm] using (hmem m).1 hp
  have hlast : l.getLast? = some t := (htail hqueue).symm.trans ht
  have htk : place t = some k := (hmem t).1 (List.mem_of_getLast? hlast)
  intro j
  by_cases hj : j = k
  · subst hj
    refine ⟨l ++ [m], (hl.update hml none).concat hnd hml hlast (by simp), ?_, ?_, by simp⟩
    · exact List.nodup_append.2 ⟨hnd, by simp, by
        intro a ha b hb hab
        rw [List.mem_singleton] at hb
        exact hml (hb ▸ hab ▸ ha)⟩
    · intro p
      rw [List.mem_append, List.mem_singleton]
      by_cases hp : p = m
      · subst hp
        simp
      · rw [Function.update_of_ne hp, ← hmem]
        exact ⟨fun hq => hq.resolve_right hp, .inl⟩
  · obtain ⟨l', hl', hnd', hml', hmem', htail'⟩ := h.other hm hj none
    have htl : t ∉ l' := by
      intro hp
      have htm : t ≠ m := fun he => hml' (he ▸ hp)
      have hplace := (hmem' t).1 hp
      rw [Function.update_of_ne htm, htk] at hplace
      exact hj (Option.some.inj hplace).symm
    exact ⟨l', hl'.update htl _, hnd', hmem', by rwa [Function.update_of_ne hj]⟩

end Lists

end Hikey
