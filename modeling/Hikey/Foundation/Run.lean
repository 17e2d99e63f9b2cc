import Mathlib.Data.Fintype.Basic
import Mathlib.Data.Finset.Card
import Mathlib.Logic.Relation
import Mathlib.Tactic.Push

/-!
# Runs of a state machine

A run is a finite sequence of steps (`Relation.ReflTransGen`), or the fold of a list of inputs.
What one step preserves, a run preserves; steps may be restricted to those that meet a condition on
the state before them (`Guarded`).  What a run can bring about at one index of a family without a
change of the others, it can bring about at all of them.
-/

namespace Hikey

universe u v

variable {σ : Type u} {ε : Type v} {step : σ → σ → Prop} {s s' : σ}

/-- What every step preserves holds at the end of a run if it holds at its beginning. -/
theorem run_invariant (Inv : σ → Prop) (hstep : ∀ s s', Inv s → step s s' → Inv s') (hs : Inv s)
    (hrun : Relation.ReflTransGen step s s') : Inv s' := by
  induction hrun with
  | refl => exact hs
  | tail _ hlast ih => exact hstep _ _ ih hlast

section Guarded

variable {guard guard' : σ → ε → Prop} {next : σ → ε → σ}

/-- Every input of a run meets a condition on the state before it. -/
def Guarded (guard : σ → ε → Prop) (next : σ → ε → σ) : σ → List ε → Prop
  | _, [] => True
  | s, e :: inputs => guard s e ∧ Guarded guard next (next s e) inputs

/-- What every input that meets its conditions preserves holds at the end of a run if it holds at
its beginning. -/
theorem Guarded.invariant (Inv : σ → Prop)
    (hstep : ∀ s e, Inv s → guard s e → guard' s e → Inv (next s e)) (hs : Inv s)
    {inputs : List ε} (hguard : Guarded guard next s inputs)
    (hguard' : Guarded guard' next s inputs) :
    Inv (inputs.foldl next s) := by
  induction inputs generalizing s with
  | nil => exact hs
  | cons e inputs ih => exact ih (hstep s e hs hguard.1 hguard'.1) hguard.2 hguard'.2

end Guarded

section Families

variable {ι : Type u} {α : Type v} [Fintype ι] [DecidableEq ι] {R : (ι → α) → (ι → α) → Prop}

/-- Where each index can be brought to `Q` without a change of the others, all of them can. -/
theorem exists_forall_of_update (I : (ι → α) → Prop) (Q : α → Prop)
    (hstep : ∀ f k, I f → ¬Q (f k) → ∃ q, Relation.ReflTransGen R f (Function.update f k q) ∧ Q q ∧
      I (Function.update f k q)) {f : ι → α} (hf : I f) :
    ∃ g, Relation.ReflTransGen R f g ∧ I g ∧ ∀ k, Q (g k) := by
  classical
  -- on the number of the indices that are not there yet
  generalize hc : {k | ¬Q (f k)}.toFinset.card = c
  induction c using Nat.strong_induction_on generalizing f with
  | _ c ih =>
    by_cases hall : ∀ k, Q (f k)
    · exact ⟨f, .refl, hf, hall⟩
    · push Not at hall
      obtain ⟨k, hk⟩ := hall
      obtain ⟨q, hrun, hq, hI⟩ := hstep f k hf hk
      have hlt : {j | ¬Q (Function.update f k q j)}.toFinset.card < c := by
        rw [← hc]
        apply Finset.card_lt_card
        rw [Set.toFinset_ssubset_toFinset]
        constructor
        · intro j hj
          by_cases hjk : j = k
          · rw [hjk]
            exact hk
          · rwa [Set.mem_ofPred_eq, Function.update_of_ne hjk] at hj
        · intro hsub
          have hmem := hsub hk
          rw [Set.mem_ofPred_eq, Function.update_self] at hmem
          exact hmem hq
      obtain ⟨g, hrun', hg, hQ⟩ := ih _ hlt hI rfl
      exact ⟨g, hrun.trans hrun', hg, hQ⟩

end Families

end Hikey
