import Mathlib.Tactic

/-!
# Programs that may fail

A program over a state returns a value, ends with an error, or runs into undefined behaviour; an
error keeps the changes made so far.  `Prog.wp` is the weakest condition under which a program, when
it does not run into undefined behaviour, returns in a state with `Q` or ends with an error in a
state with `E`.  The simp set `Prog.wp_bind`, `Prog.wp_pure`, … reduces it along the text of a
program.
-/

namespace Hikey

/-- The outcome of a program. -/
inductive Outcome (σ : Type) (α : Type)
  | ok (a : α) (s : σ)
  | error (s : σ)
  | undefined

/-- A program over the state `σ` with a result in `α`. -/
def Prog (σ : Type) (α : Type) := σ → Outcome σ α

namespace Prog

variable {σ α β : Type}

/-- A program that returns at once. -/
protected def pure (a : α) : Prog σ α := fun s => .ok a s

/-- One program after the other. -/
protected def bind (x : Prog σ α) (f : α → Prog σ β) : Prog σ β := fun s =>
  match x s with
  | .ok a s => f a s
  | .error s => .error s
  | .undefined => .undefined

instance : Monad (Prog σ) where
  pure := Prog.pure
  bind := Prog.bind

/-- The state. -/
protected def get : Prog σ σ := fun s => .ok s s

/-- A change of the state. -/
def modify (f : σ → σ) : Prog σ Unit := fun s => .ok ⟨⟩ (f s)

/-- A change of the state that may be undefined. -/
def update (f : σ → Option (σ × α)) : Prog σ α := fun s =>
  match f s with
  | none => .undefined
  | some (s, a) => .ok a s

/-- The program ends with an error. -/
def fail : Prog σ α := fun s => .error s

/-- The program ends with an error unless the condition holds. -/
def check (c : Bool) : Prog σ Unit := fun s => if c then .ok ⟨⟩ s else .error s

/-- When the first program ends with an error, the second one runs. -/
def orElse (x y : Prog σ α) : Prog σ α := fun s =>
  match x s with
  | .error s => y s
  | r => r

/-- A program on a part of the state. -/
def zoom {τ : Type} (view : σ → τ) (set : σ → τ → σ) (x : Prog τ α) : Prog σ α := fun s =>
  match x (view s) with
  | .ok a t => .ok a (set s t)
  | .error t => .error (set s t)
  | .undefined => .undefined

/-- The weakest precondition of a program. -/
def wp (x : Prog σ α) (Q : α → σ → Prop) (E : σ → Prop) (s : σ) : Prop :=
  match x s with
  | .ok a s => Q a s
  | .error s => E s
  | .undefined => True

variable {x : Prog σ α} {f : α → Prog σ β} {Q Q' : α → σ → Prop} {R : β → σ → Prop}
  {E E' : σ → Prop} {s : σ}

@[simp] lemma wp_pure (a : α) : wp (Pure.pure a : Prog σ α) Q E s ↔ Q a s := Iff.rfl

@[simp] lemma wp_bind : wp (x >>= f) R E s ↔ wp x (fun a => wp (f a) R E) E s := by
  change wp (Prog.bind x f) R E s ↔ _
  unfold wp Prog.bind
  cases x s <;> rfl

@[simp] lemma wp_get {Q : σ → σ → Prop} : wp Prog.get Q E s ↔ Q s s := Iff.rfl

@[simp] lemma wp_modify {g : σ → σ} {Q : Unit → σ → Prop} : wp (modify g) Q E s ↔ Q ⟨⟩ (g s) :=
  Iff.rfl

@[simp] lemma wp_update {g : σ → Option (σ × α)} :
    wp (update g) Q E s ↔ ∀ t a, g s = some (t, a) → Q a t := by
  unfold wp update
  cases h : g s with
  | none => simp
  | some r =>
    obtain ⟨t, a⟩ := r
    simp

@[simp] lemma wp_fail : wp (fail : Prog σ α) Q E s ↔ E s := Iff.rfl

@[simp] lemma wp_check {c : Bool} {Q : Unit → σ → Prop} :
    wp (check c) Q E s ↔ (c = true → Q ⟨⟩ s) ∧ (c = false → E s) := by
  cases c <;> simp [wp, check]

@[simp] lemma wp_ite {c : Prop} [Decidable c] {y : Prog σ α} :
    wp (if c then x else y) Q E s ↔ (c → wp x Q E s) ∧ (¬ c → wp y Q E s) := by
  by_cases h : c <;> simp [h]

@[simp] lemma wp_orElse {y : Prog σ α} :
    wp (orElse x y) Q E s ↔ wp x Q (fun t => wp y Q E t) s := by
  unfold wp orElse
  cases x s <;> rfl

@[simp] lemma wp_zoom {τ : Type} {view : σ → τ} {set : σ → τ → σ} {y : Prog τ α} :
    wp (zoom view set y) Q E s ↔
      wp y (fun a t => Q a (set s t)) (fun t => E (set s t)) (view s) := by
  unfold wp zoom
  cases y (view s) <;> rfl

/-- Weaker conditions are easier to reach. -/
lemma wp_mono (h : wp x Q E s) (hQ : ∀ a t, Q a t → Q' a t) (hE : ∀ t, E t → E' t) :
    wp x Q' E' s := by
  unfold wp at h ⊢
  cases hx : x s with
  | ok a t => rw [hx] at h; exact hQ a t h
  | error t => rw [hx] at h; exact hE t h
  | undefined => trivial

lemma wp_trivial : wp x (fun _ _ => True) (fun _ => True) s := by
  unfold wp
  cases x s <;> trivial

/-- Two conditions that a program reaches are reached together. -/
lemma wp_and (h : wp x Q E s) (h' : wp x Q' E' s) :
    wp x (fun a t => Q a t ∧ Q' a t) (fun t => E t ∧ E' t) s := by
  unfold wp at h h' ⊢
  cases hx : x s with
  | ok a t => rw [hx] at h h'; exact ⟨h, h'⟩
  | error t => rw [hx] at h h'; exact ⟨h, h'⟩
  | undefined => trivial

/-- A family of conditions that a program reaches is reached as a whole. -/
lemma wp_forall {ι : Type} [Nonempty ι] {Q : ι → α → σ → Prop} (h : ∀ i, wp x (Q i) E s) :
    wp x (fun a t => ∀ i, Q i a t) E s := by
  unfold wp at h ⊢
  cases hx : x s with
  | ok a t => simp only [hx] at h; exact h
  | error t => simp only [hx] at h; exact h (Classical.arbitrary ι)
  | undefined => trivial

/-- A program that keeps a condition in all cases. -/
def Keeps (I : σ → Prop) (x : Prog σ α) : Prop := ∀ s, I s → wp x (fun _ => I) I s

variable {I : σ → Prop} {y : Prog σ α}

protected lemma Keeps.bind (hx : Keeps I x) (hf : ∀ a, Keeps I (f a)) : Keeps I (x >>= f) := by
  intro s hs
  rw [wp_bind]
  exact wp_mono (hx s hs) (fun a t ht => hf a t ht) fun _ => id

protected lemma Keeps.pure (a : α) : Keeps I (Pure.pure a : Prog σ α) := fun _ hs => hs

protected lemma Keeps.get : Keeps I (Prog.get : Prog σ σ) := fun _ hs => hs

lemma Keeps.fail : Keeps I (fail : Prog σ α) := fun _ hs => hs

lemma Keeps.check (c : Bool) : Keeps I (check c) := by
  intro s hs
  rw [wp_check]
  exact ⟨fun _ => hs, fun _ => hs⟩

lemma Keeps.undefined : Keeps I (update fun _ => none : Prog σ α) := by
  intro s _
  rw [wp_update]
  rintro t a ⟨⟩

lemma Keeps.modify {g : σ → σ} (h : ∀ s, I s → I (g s)) : Keeps I (modify g) :=
  fun s hs => h s hs

lemma Keeps.ite {c : Prop} [Decidable c] (hx : c → Keeps I x) (hy : ¬ c → Keeps I y) :
    Keeps I (if c then x else y) := by
  by_cases h : c
  · rw [if_pos h]; exact hx h
  · rw [if_neg h]; exact hy h

end Prog

end Hikey
