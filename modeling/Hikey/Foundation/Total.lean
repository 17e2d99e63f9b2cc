import Hikey.Foundation.Program

/-!
# Programs that end

`Prog.Ends x Q E s` says that a program returns in a state with `Q` or ends with an error in a state
with `E`: unlike `Prog.wp`, it excludes undefined behaviour.
-/

namespace Hikey

namespace Prog

variable {σ α β : Type} {x : Prog σ α} {f : α → Prog σ β} {Q Q' : α → σ → Prop}
  {R : β → σ → Prop} {E E' : σ → Prop} {s : σ}

/-- The program does not run into undefined behaviour, and ends as it says. -/
def Ends (x : Prog σ α) (Q : α → σ → Prop) (E : σ → Prop) (s : σ) : Prop :=
  match x s with
  | .ok a s => Q a s
  | .error s => E s
  | .undefined => False

@[simp] lemma ends_pure (a : α) : Ends (Pure.pure a : Prog σ α) Q E s ↔ Q a s := Iff.rfl

@[simp] lemma ends_bind : Ends (x >>= f) R E s ↔ Ends x (fun a => Ends (f a) R E) E s := by
  change Ends (Prog.bind x f) R E s ↔ _
  unfold Ends Prog.bind
  cases x s <;> rfl

@[simp] lemma ends_get {Q : σ → σ → Prop} : Ends Prog.get Q E s ↔ Q s s := Iff.rfl

@[simp] lemma ends_modify {g : σ → σ} {Q : Unit → σ → Prop} : Ends (modify g) Q E s ↔ Q ⟨⟩ (g s) :=
  Iff.rfl

lemma ends_update {g : σ → Option (σ × α)} {t : σ} {a : α} (h : g s = some (t, a)) :
    Ends (update g) Q E s ↔ Q a t := by
  unfold Ends update
  rw [h]

@[simp] lemma ends_fail : Ends (fail : Prog σ α) Q E s ↔ E s := Iff.rfl

@[simp] lemma ends_check {c : Bool} {Q : Unit → σ → Prop} :
    Ends (check c) Q E s ↔ (c = true → Q ⟨⟩ s) ∧ (c = false → E s) := by
  cases c <;> simp [Ends, check]

@[simp] lemma ends_orElse {y : Prog σ α} :
    Ends (orElse x y) Q E s ↔ Ends x Q (fun t => Ends y Q E t) s := by
  unfold Ends orElse
  cases x s <;> rfl

/-- Weaker conditions are easier to reach. -/
lemma Ends.mono (h : Ends x Q E s) (hQ : ∀ a t, Q a t → Q' a t) (hE : ∀ t, E t → E' t) :
    Ends x Q' E' s := by
  unfold Ends at h ⊢
  cases hx : x s with
  | ok a t => rw [hx] at h; exact hQ a t h
  | error t => rw [hx] at h; exact hE t h
  | undefined => rw [hx] at h; exact h

/-- A program that ends, ends in one of two ways. -/
lemma Ends.cases (h : Ends x Q E s) :
    (∃ a t, x s = .ok a t ∧ Q a t) ∨ ∃ t, x s = .error t ∧ E t := by
  unfold Ends at h
  cases hx : x s with
  | ok a t => rw [hx] at h; exact .inl ⟨a, t, rfl, h⟩
  | error t => rw [hx] at h; exact .inr ⟨t, rfl, h⟩
  | undefined => rw [hx] at h; exact h.elim

lemma ends_of_ok {a : α} {t : σ} (hx : x s = .ok a t) : Ends x Q E s ↔ Q a t := by
  unfold Ends
  rw [hx]

lemma ends_of_error {t : σ} (hx : x s = .error t) : Ends x Q E s ↔ E t := by
  unfold Ends
  rw [hx]

lemma wp_of_ok {a : α} {t : σ} (hx : x s = .ok a t) : wp x Q E s ↔ Q a t := by
  unfold wp
  rw [hx]

lemma wp_of_error {t : σ} (hx : x s = .error t) : wp x Q E s ↔ E t := by
  unfold wp
  rw [hx]

/-! ## Programs that return -/

/-- The program returns. -/
def Ok (x : Prog σ α) (s : σ) : Prop := Ends x (fun _ _ => True) (fun _ => False) s

lemma ok_iff : Ok x s ↔ ∃ a t, x s = .ok a t := by
  constructor
  · intro h
    rcases Ends.cases h with ⟨a, t, hrun, -⟩ | ⟨t, -, hfalse⟩
    · exact ⟨a, t, hrun⟩
    · exact hfalse.elim
  · rintro ⟨a, t, hrun⟩
    exact (ends_of_ok hrun).2 trivial

instance Ok.decidable : Decidable (Ok x s) :=
  match h : x s with
  | .ok _ _ => .isTrue ((ends_of_ok h).2 trivial)
  | .error _ => .isFalse fun hok => (ends_of_error h).1 hok
  | .undefined => .isFalse fun hok => by
    obtain ⟨a, t, hrun⟩ := ok_iff.1 hok
    rw [h] at hrun
    cases hrun

lemma ok_bind : Ok (x >>= f) s ↔ ∃ a t, x s = .ok a t ∧ Ok (f a) t := by
  rw [Ok, ends_bind]
  constructor
  · intro h
    rcases h.cases with ⟨a, t, hrun, hok⟩ | ⟨t, -, hfalse⟩
    · exact ⟨a, t, hrun, hok⟩
    · exact hfalse.elim
  · rintro ⟨a, t, hrun, hok⟩
    exact (ends_of_ok hrun).2 hok

lemma ok_assoc {γ : Type} {g : β → Prog σ γ} :
    Ok (x >>= f >>= g) s ↔ Ok (x >>= fun a => f a >>= g) s := by
  change Ok (Prog.bind (Prog.bind x f) g) s ↔ Ok (Prog.bind x fun a => Prog.bind (f a) g) s
  unfold Ok Ends Prog.bind
  cases x s <;> rfl

@[simp] lemma ok_pure (a : α) : Ok (Pure.pure a : Prog σ α) s := trivial

@[simp] lemma ok_fail : ¬Ok (fail : Prog σ α) s := id

lemma ok_check_iff {c : Bool} : Ok (check c) s ↔ c = true := by
  rw [Ok, ends_check]
  cases c <;> simp

@[simp] lemma ok_check {c : Bool} {g : Unit → Prog σ β} :
    Ok (check c >>= g) s ↔ c = true ∧ Ok (g ⟨⟩) s := by
  simp only [Ok, ends_bind, ends_check]
  cases c <;> simp

@[simp] lemma ok_modify {h : σ → σ} {g : Unit → Prog σ β} :
    Ok (modify h >>= g) s ↔ Ok (g ⟨⟩) (h s) := by
  simp only [Ok, ends_bind, ends_modify]

lemma ok_update {h : σ → Option (σ × α)} {t : σ} {a : α} (hs : h s = some (t, a)) :
    Ok (update h >>= f) s ↔ Ok (f a) t := by
  rw [Ok, ends_bind, ends_update hs, Ok]

@[simp] lemma ok_get {g : σ → Prog σ β} : Ok (Prog.get >>= g) s ↔ Ok (g s) s := by
  simp only [Ok, ends_bind, ends_get]

/-- A program that is followed by one that returns, whatever the state. -/
lemma ok_bind_of_ok (hf : ∀ a t, Ok (f a) t) : Ok (x >>= f) s ↔ Ok x s := by
  rw [ok_bind, ok_iff]
  constructor
  · rintro ⟨a, t, hrun, -⟩
    exact ⟨a, t, hrun⟩
  · rintro ⟨a, t, hrun⟩
    exact ⟨a, t, hrun, hf a t⟩

end Prog

end Hikey
