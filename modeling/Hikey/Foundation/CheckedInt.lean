import Hikey.Foundation.Align

/-!
# Signed arithmetic that stops at an overflow

The type `int` of C, for computations with numbers that are not negative: a result of `2 ^ 31` or
more is no result (`intOf`).  Where the computation goes through, the machine word that wraps around
holds the same number (`toNat_intWord` and the lemmas about `intWord`).
-/

namespace Hikey

/-- A number, if it is one of type `int`. -/
def intOf (n : ℕ) : Option ℕ := if n < 2 ^ 31 then some n else none

/-- `(n + (a - 1)) & ~(a - 1)` for a power of two. -/
def intAlign (a n : ℕ) : Option ℕ := (intOf (n + (a - 1))).map fun s => s / a * a

/-- The machine word of a number. -/
def intWord (n : ℕ) : U32 := BitVec.ofNat 32 n

section

variable {n m a k : ℕ}

lemma intOf_eq_some : intOf n = some m ↔ n < 2 ^ 31 ∧ n = m := by
  rw [intOf]
  split
  · simp_all
  · simp_all

lemma intAlign_eq_some : intAlign a n = some m ↔ n + (a - 1) < 2 ^ 31 ∧ alignUp a n = m := by
  rw [intAlign, Option.map_eq_some_iff]
  constructor
  · rintro ⟨s, hs, rfl⟩
    obtain ⟨hlt, rfl⟩ := intOf_eq_some.mp hs
    exact ⟨hlt, rfl⟩
  · rintro ⟨hlt, rfl⟩
    exact ⟨_, intOf_eq_some.mpr ⟨hlt, rfl⟩, rfl⟩

lemma toNat_intWord (hn : n < 2 ^ 31) : (intWord n).toNat = n := by
  rw [intWord, BitVec.toNat_ofNat, Nat.mod_eq_of_lt (by omega)]

lemma toInt_intWord (hn : n < 2 ^ 31) : (intWord n).toInt = n := by
  have hn' := toNat_intWord hn
  rw [BitVec.toInt_eq_toNat_of_lt (by omega), hn']

lemma intWord_add (n m : ℕ) : intWord n + intWord m = intWord (n + m) := (BitVec.ofNat_add n m).symm

lemma intWord_mul (n m : ℕ) : intWord n * intWord m = intWord (n * m) := (BitVec.ofNat_mul n m).symm

/-- A number of type `int` that is not negative is widened by zeros. -/
lemma signExtend_intWord (hn : n < 2 ^ 31) : ((intWord n).signExtend 64).toNat = n := by
  have hmsb : (intWord n).msb = false := by
    rw [BitVec.msb_eq_false_iff_two_mul_lt, toNat_intWord hn]
    omega
  rw [BitVec.signExtend_eq_setWidth_of_msb_false hmsb, BitVec.toNat_setWidth, toNat_intWord hn,
    Nat.mod_eq_of_lt (by omega)]

/-- A division of numbers that are not negative. -/
lemma intWord_sdiv (hn : n < 2 ^ 31) (hm : m < 2 ^ 31) : (intWord n).sdiv (intWord m) = intWord
    (n / m) := by
  have hmsb {i : ℕ} (hi : i < 2 ^ 31) : (intWord i).msb = false := by
    rw [BitVec.msb_eq_false_iff_two_mul_lt, toNat_intWord hi]
    omega
  rw [BitVec.sdiv_eq, hmsb hn, hmsb hm]
  refine BitVec.eq_of_toNat_eq ?_
  simp only [BitVec.udiv_eq, BitVec.toNat_udiv]
  rw [toNat_intWord hn, toNat_intWord hm, toNat_intWord ((Nat.div_le_self n m).trans_lt hn)]

/-- Rounding up to a power of two. -/
lemma intWord_align (hk : k < 31) (hn : n + (2 ^ k - 1) < 2 ^ 31) :
    ((intWord n + (intWord (2 ^ k) - 1)) &&& ~~~(intWord (2 ^ k) - 1)) = intWord
    (alignUp (2 ^ k) n) := by
  have hpow : 2 ^ k < 2 ^ 31 := Nat.pow_lt_pow_right (by decide) hk
  have ha := toNat_intWord hpow
  have hle := alignUp_le (2 ^ k) n
  refine BitVec.eq_of_toNat_eq ?_
  rw [toNat_align _ ha (by rw [toNat_intWord (by omega)]; omega), toNat_intWord (by omega),
    toNat_intWord (by omega)]

end

end Hikey
