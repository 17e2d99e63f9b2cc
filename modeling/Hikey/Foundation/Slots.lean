import Mathlib.Data.Finset.Card
import Mathlib.Data.Finset.Image
import Mathlib.Data.Finset.Range
import Mathlib.Tactic

/-!
# Tables of slots

A table of `n` slots, each on or off, holds a finite set: an element is in the set when it is in a
slot that is on, and no element is in two of them (`SlotsHold`).  Using a free slot inserts, and
turning a slot off erases.
-/

namespace Hikey

universe u

variable {α : Type u} {n k : ℕ} {on : ℕ → Bool} {item : ℕ → α} {S : Finset α} {a : α}

/-- The slots that are on hold the elements of `S`, each once. -/
structure SlotsHold (n : ℕ) (on : ℕ → Bool) (item : ℕ → α) (S : Finset α) : Prop where
  inj : ∀ i < n, ∀ j < n, on i = true → on j = true → item i = item j → i = j
  mem : ∀ a, a ∈ S ↔ ∃ i < n, on i = true ∧ item i = a

lemma SlotsHold.empty (hoff : ∀ i < n, on i = false) : SlotsHold n on item ∅ := by
  refine ⟨fun i hi j _ hon => ?_, fun a => ?_⟩
  · rw [hoff i hi] at hon
    cases hon
  · constructor
    · intro h
      exact absurd h (Finset.notMem_empty a)
    · rintro ⟨i, hi, hon, -⟩
      rw [hoff i hi] at hon
      cases hon

/-- The tables that agree on the slots that are on hold the same. -/
lemma SlotsHold.congr {on' : ℕ → Bool} {item' : ℕ → α} (h : SlotsHold n on item S)
    (hon : ∀ i < n, on' i = on i)
    (hitem : ∀ i < n, on i = true → item' i = item i) : SlotsHold n on' item' S := by
  refine ⟨fun i hi j hj hi' hj' heq => ?_, fun a => ?_⟩
  · rw [hon i hi] at hi'
    rw [hon j hj] at hj'
    rw [hitem i hi hi', hitem j hj hj'] at heq
    exact h.inj i hi j hj hi' hj' heq
  · rw [h.mem]
    constructor
    · rintro ⟨i, hi, hi', rfl⟩
      exact ⟨i, hi, by rw [hon i hi, hi'], hitem i hi hi'⟩
    · rintro ⟨i, hi, hi', rfl⟩
      rw [hon i hi] at hi'
      exact ⟨i, hi, hi', (hitem i hi hi').symm⟩

variable [DecidableEq α]

/-- A free slot takes a new element. -/
lemma SlotsHold.insert (h : SlotsHold n on item S) (hk : k < n) (hoff : on k = false) (ha : a ∉ S) :
    SlotsHold n (Function.update on k true) (Function.update item k a) (Insert.insert a S) := by
  have other : ∀ i < n, i ≠ k → Function.update on k true i = true →
      Function.update item k a i ∈ S ∧ Function.update item k a i = item i ∧ on i = true := by
    intro i hi hik hon
    rw [Function.update_of_ne hik] at hon
    rw [Function.update_of_ne hik]
    exact ⟨(h.mem _).2 ⟨i, hi, hon, rfl⟩, rfl, hon⟩
  refine ⟨fun i hi j hj hi' hj' heq => ?_, fun b => ?_⟩
  · by_cases hik : i = k
    · by_cases hjk : j = k
      · rw [hik, hjk]
      · rw [hik, Function.update_self] at heq
        exact absurd (heq ▸ (other j hj hjk hj').1) ha
    · by_cases hjk : j = k
      · rw [hjk, Function.update_self] at heq
        exact absurd (heq ▸ (other i hi hik hi').1) ha
      · obtain ⟨-, hiitem, hion⟩ := other i hi hik hi'
        obtain ⟨-, hjitem, hjon⟩ := other j hj hjk hj'
        rw [hiitem, hjitem] at heq
        exact h.inj i hi j hj hion hjon heq
  · rw [Finset.mem_insert]
    constructor
    · rintro (rfl | hb)
      · exact ⟨k, hk, Function.update_self .., Function.update_self ..⟩
      · obtain ⟨i, hi, hon, rfl⟩ := (h.mem b).1 hb
        have hik : i ≠ k := by
          rintro rfl
          rw [hoff] at hon
          cases hon
        exact ⟨i, hi, by rwa [Function.update_of_ne hik], Function.update_of_ne hik ..⟩
    · rintro ⟨i, hi, hon, rfl⟩
      by_cases hik : i = k
      · rw [hik, Function.update_self]
        exact .inl rfl
      · exact .inr (other i hi hik hon).1

/-- Turning a slot off takes its element out. -/
lemma SlotsHold.erase (h : SlotsHold n on item S) (hk : k < n) (hon : on k = true) :
    SlotsHold n (Function.update on k false) item (S.erase (item k)) := by
  have other : ∀ i, Function.update on k false i = true → i ≠ k ∧ on i = true := by
    intro i hi
    by_cases hik : i = k
    · rw [hik, Function.update_self] at hi
      cases hi
    · rw [Function.update_of_ne hik] at hi
      exact ⟨hik, hi⟩
  refine ⟨fun i hi j hj hi' hj' heq => h.inj i hi j hj (other i hi').2 (other j hj').2 heq,
    fun b => ?_⟩
  rw [Finset.mem_erase, h.mem]
  constructor
  · rintro ⟨hb, i, hi, hi', rfl⟩
    have hik : i ≠ k := fun hik => hb (congrArg item hik)
    exact ⟨i, hi, by rwa [Function.update_of_ne hik], rfl⟩
  · rintro ⟨i, hi, hi', rfl⟩
    obtain ⟨hik, hi''⟩ := other i hi'
    exact ⟨fun heq => hik (h.inj i hi k hk hi'' hon heq), i, hi, hi'', rfl⟩

/-- There is a free slot where the set is smaller than the table. -/
lemma SlotsHold.card_lt_iff (h : SlotsHold n on item S) : S.card < n ↔ ∃ k < n, on k = false := by
  have himage : S = ((Finset.range n).filter fun i => on i = true).image item := by
    refine Finset.ext fun a => ?_
    rw [h.mem, Finset.mem_image]
    simp only [Finset.mem_filter, Finset.mem_range, and_assoc]
  have hcard : S.card = ((Finset.range n).filter fun i => on i = true).card := by
    rw [himage]
    refine Finset.card_image_of_injOn fun i hi j hj heq => ?_
    rw [Finset.mem_coe, Finset.mem_filter, Finset.mem_range] at hi hj
    exact h.inj i hi.1 j hj.1 hi.2 hj.2 heq
  constructor
  · intro hlt
    by_contra hfull
    push Not at hfull
    have hall : (Finset.range n).filter (fun i => on i = true) = Finset.range n :=
      Finset.filter_true_of_mem fun i hi => by simpa using hfull i (Finset.mem_range.1 hi)
    rw [hcard, hall, Finset.card_range] at hlt
    exact lt_irrefl _ hlt
  · rintro ⟨k, hk, hoff⟩
    rw [hcard]
    calc ((Finset.range n).filter fun i => on i = true).card
        < (Finset.range n).card := by
          refine Finset.card_lt_card (Finset.filter_ssubset.2 ⟨k, Finset.mem_range.2 hk, ?_⟩)
          rw [hoff]
          exact Bool.false_ne_true
      _ = n := Finset.card_range n

end Hikey
