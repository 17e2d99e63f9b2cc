import Hikey.Foundation.Bytes

/-!
# Rounding to multiples of a power of two

The usual expressions of C for it clear low bits of a machine word (`toNat_and_not_sub_one`);
rounding up adds the mask first, and is `alignUp` as long as the sum is a number of the machine
(`toNat_align`).
-/

namespace Hikey

/-- The least multiple of `a` that is not below `n`. -/
def alignUp (a n : ℕ) : ℕ := (n + (a - 1)) / a * a

section AlignUp

variable {a n m : ℕ}

lemma le_alignUp (ha : 0 < a) : n ≤ alignUp a n := by
  have hdiv := Nat.div_add_mod' (n + (a - 1)) a
  have hmod := Nat.mod_lt (n + (a - 1)) ha
  rw [alignUp]
  omega

lemma alignUp_le (a n : ℕ) : alignUp a n ≤ n + (a - 1) := Nat.div_mul_le_self _ _

lemma dvd_alignUp (a n : ℕ) : a ∣ alignUp a n := ⟨_, Nat.mul_comm _ _⟩

/-- Rounding up is the least multiple. -/
lemma alignUp_le_of_dvd (ha : 0 < a) (hm : a ∣ m) (hn : n ≤ m) : alignUp a n ≤ m := by
  obtain ⟨q, rfl⟩ := hm
  have hlt : (n + (a - 1)) / a < q + 1 := by
    rw [Nat.div_lt_iff_lt_mul ha, Nat.add_one_mul, Nat.mul_comm q]
    omega
  rw [alignUp, Nat.mul_comm]
  exact Nat.mul_le_mul_left a (Nat.lt_succ_iff.mp hlt)

/-- What a rounded number covers: what every multiple above the number covers. -/
lemma le_alignUp_iff (ha : 0 < a) : m ≤ alignUp a n ↔ ∀ k, n ≤ a * k → m ≤ a * k := by
  constructor
  · intro h k hk
    exact h.trans (alignUp_le_of_dvd ha (dvd_mul_right a k) hk)
  · intro h
    obtain ⟨k, hk⟩ := dvd_alignUp a n
    rw [hk]
    exact h k (hk ▸ le_alignUp ha)

lemma alignUp_of_dvd (ha : 0 < a) (hn : a ∣ n) : alignUp a n = n :=
  le_antisymm (alignUp_le_of_dvd ha hn le_rfl) (le_alignUp ha)

lemma alignUp_mono (ha : 0 < a) (hnm : n ≤ m) : alignUp a n ≤ alignUp a m :=
  alignUp_le_of_dvd ha (dvd_alignUp a m) (hnm.trans (le_alignUp ha))

/-- Which multiple a number is rounded up to. -/
lemma alignUp_eq_iff (ha : 0 < a) {q : ℕ} : alignUp a n = a * q ↔ n ≤ a * q ∧ a * q < n + a := by
  have hle := le_alignUp (n := n) ha
  have hlt := alignUp_le a n
  constructor
  · intro h
    omega
  · rintro ⟨hn, hq⟩
    refine le_antisymm (alignUp_le_of_dvd ha (dvd_mul_right a q) hn) ?_
    obtain ⟨p, hp⟩ := dvd_alignUp a n
    rw [hp]
    refine Nat.mul_le_mul_left a ?_
    by_contra hpq
    have hstep : a * (p + 1) ≤ a * q := Nat.mul_le_mul_left a (by omega)
    rw [Nat.mul_add_one] at hstep
    omega

/-- Rounding a multiple is taking the multiple of the rounded number, if the remainder is 0 or
large. -/
lemma alignUp_mul_iff (ha : 0 < a) {b : ℕ} (hb : 0 < b) :
    alignUp a (n * b) = alignUp a n * b ↔ n % a = 0 ∨ a * (b - 1) < n % a * b := by
  have hdiv := Nat.div_add_mod n a
  have hmod := Nat.mod_lt n ha
  have hnb : n * b = a * (n / a * b) + n % a * b := by
    conv_lhs => rw [← hdiv]
    rw [Nat.add_mul, Nat.mul_assoc]
  obtain ⟨c, rfl⟩ : ∃ c, b = c + 1 := ⟨b - 1, by omega⟩
  rcases Nat.eq_zero_or_pos (n % a) with hzero | hpos
  · have hdvd : a ∣ n := Nat.dvd_of_mod_eq_zero hzero
    rw [alignUp_of_dvd ha (hdvd.mul_right _), alignUp_of_dvd ha hdvd]
    exact iff_of_true rfl (.inl hzero)
  · have hn : alignUp a n = a * (n / a + 1) := by
      rw [alignUp_eq_iff ha, Nat.mul_add_one]
      omega
    have hprod : a * ((n / a + 1) * (c + 1)) = a * (n / a * (c + 1)) + a * c + a := by ring
    have hle : n % a * (c + 1) ≤ a * c + a := by
      rw [← Nat.mul_add_one]
      exact Nat.mul_le_mul_right _ hmod.le
    rw [hn, Nat.mul_assoc, alignUp_eq_iff ha, hnb, hprod, Nat.add_sub_cancel]
    omega

/-- A rounded number leaves room for the mask below a bound that is a multiple. -/
lemma add_lt_of_alignUp_lt (ha : 0 < a) (hm : a ∣ m) (h : alignUp a n < m) : n + (a - 1) < m := by
  have hle := le_alignUp (n := n) ha
  have hstep : alignUp a n + a ≤ m := by
    obtain ⟨p, hp⟩ := dvd_alignUp a n
    obtain ⟨q, rfl⟩ := hm
    rw [hp] at h ⊢
    rw [← Nat.mul_add_one]
    exact Nat.mul_le_mul_left a (Nat.lt_of_mul_lt_mul_left h)
  omega

end AlignUp

section Words

variable {w k : ℕ} {a : BitVec w}

/-- Clearing some bits subtracts them. -/
lemma and_not_eq_sub (x m : BitVec w) : x &&& ~~~m = x - (x &&& m) := by
  have hdisj : (x &&& ~~~m) &&& (x &&& m) = 0 := by
    ext i hi
    simp only [BitVec.getElem_and, BitVec.getElem_not, BitVec.ofNat_eq_ofNat, BitVec.getElem_zero]
    cases x[i] <;> cases m[i] <;> rfl
  rw [eq_sub_iff_add_eq, BitVec.add_eq_or_of_and_eq_zero _ _ hdisj]
  ext i hi
  simp only [BitVec.getElem_or, BitVec.getElem_and, BitVec.getElem_not]
  cases x[i] <;> cases m[i] <;> rfl

/-- The mask of the low bits. -/
lemma toNat_sub_one (ha : a.toNat = 2 ^ k) : (a - 1).toNat = 2 ^ k - 1 := by
  have halt := a.isLt
  have hpos : 0 < 2 ^ k := Nat.two_pow_pos k
  have hone : (1 : BitVec w).toNat = 1 := by
    rw [BitVec.ofNat_eq_ofNat, BitVec.toNat_ofNat, Nat.mod_eq_of_lt]
    rcases Nat.eq_zero_or_pos w with rfl | hw
    · have hlt : a.toNat < 1 := a.isLt
      omega
    · exact Nat.one_lt_two_pow hw.ne'
  rw [BitVec.toNat_sub_of_le (by rw [BitVec.le_def, hone]; omega), ha, hone]

/-- Clearing the low bits rounds down to a multiple of a power of two. -/
lemma toNat_and_not_sub_one (x : BitVec w) (ha : a.toNat = 2 ^ k) :
    (x &&& ~~~(a - 1)).toNat = x.toNat / 2 ^ k * 2 ^ k := by
  have hlow : (x &&& (a - 1)).toNat = x.toNat % 2 ^ k := by
    rw [BitVec.toNat_and, toNat_sub_one ha, Nat.and_two_pow_sub_one_eq_mod]
  have hle : x &&& (a - 1) ≤ x := by
    rw [BitVec.le_def, hlow]
    exact Nat.mod_le _ _
  rw [and_not_eq_sub, BitVec.toNat_sub_of_le hle, hlow]
  have hdiv := Nat.div_add_mod' x.toNat (2 ^ k)
  omega

/-- Rounding up, as long as the sum does not wrap around. -/
lemma toNat_align (x : BitVec w) (ha : a.toNat = 2 ^ k) (hx : x.toNat + (2 ^ k - 1) < 2 ^ w) :
    ((x + (a - 1)) &&& ~~~(a - 1)).toNat = alignUp (2 ^ k) x.toNat := by
  rw [toNat_and_not_sub_one _ ha, BitVec.toNat_add, toNat_sub_one ha, Nat.mod_eq_of_lt hx, alignUp]

end Words

end Hikey
