import Mathlib.Algebra.Polynomial.FieldDivision
import Mathlib.Data.Nat.Bitwise
import Mathlib.Data.ZMod.Basic
import Mathlib.Tactic

/-!
# Numbers as polynomials over GF(2)

The binary digits of a number are the coefficients of a polynomial (`bitPoly`), a string of bytes is
the polynomial of all its bits, the first one being the leading coefficient (`bytesPoly`).
Exclusive or is addition and a shift is multiplication by a power of `X`, so a shift register with
feedback multiplies by `X` modulo its polynomial (`bitPoly_shiftReduce`).
-/

namespace Hikey

open Polynomial

/-- The polynomial whose coefficients are the binary digits of `n`. -/
noncomputable def bitPoly (n : ℕ) : (ZMod 2)[X] :=
  ∑ i ∈ Finset.range n, monomial i (if n.testBit i then 1 else 0)

section BitPoly

variable {a b n k : ℕ}

@[simp] lemma coeff_bitPoly (n i : ℕ) : (bitPoly n).coeff i = if n.testBit i then 1 else 0 := by
  by_cases hi : i < n
  · simp [bitPoly, coeff_monomial, hi]
  · have hbit : n.testBit i = false :=
      Nat.testBit_lt_two_pow
        (n.lt_two_pow_self.trans_le (Nat.pow_le_pow_right (by decide) (by omega)))
    simp [bitPoly, coeff_monomial, hi, hbit]

@[simp] lemma bitPoly_zero : bitPoly 0 = 0 := rfl

lemma bitPoly_xor (a b : ℕ) : bitPoly (a ^^^ b) = bitPoly a + bitPoly b := by
  ext i
  simp only [coeff_bitPoly, coeff_add, Nat.testBit_xor]
  cases a.testBit i <;> cases b.testBit i <;> decide

lemma bitPoly_shiftLeft (a k : ℕ) : bitPoly (a <<< k) = bitPoly a * X ^ k := by
  ext i
  simp only [coeff_bitPoly, coeff_mul_X_pow', Nat.testBit_shiftLeft, ge_iff_le, Bool.and_eq_true,
    decide_eq_true_eq]
  split_ifs <;> simp_all

/-- Numbers without a common digit are joined by adding their polynomials. -/
lemma bitPoly_or (h : a &&& b = 0) : bitPoly (a ||| b) = bitPoly a + bitPoly b := by
  ext i
  have hi : (a.testBit i && b.testBit i) = false := by rw [← Nat.testBit_and, h, Nat.zero_testBit]
  simp only [coeff_bitPoly, coeff_add, Nat.testBit_or]
  cases ha : a.testBit i <;> cases hb : b.testBit i <;> simp_all

/-- A number of `k` digits is a polynomial of degree below `k`. -/
lemma degree_bitPoly_lt (h : n < 2 ^ k) : (bitPoly n).degree < k := by
  refine (degree_lt_iff_coeff_zero _ _).mpr fun i hi => ?_
  have hbit : n.testBit i = false :=
    Nat.testBit_lt_two_pow (h.trans_le (Nat.pow_le_pow_right (by decide) hi))
  rw [coeff_bitPoly, hbit, if_neg Bool.false_ne_true]

lemma bitPoly_two_pow (k : ℕ) : bitPoly (2 ^ k) = X ^ k := by
  ext i
  rw [coeff_bitPoly, coeff_X_pow, Nat.testBit_two_pow]
  simp [eq_comm]

/-- The digits of a number above the lowest `k` ones are those of its quotient. -/
lemma bitPoly_eq_div_add_mod (n k : ℕ) : bitPoly n = bitPoly (n / 2 ^ k) * X ^ k + bitPoly
    (n % 2 ^ k) := by
  ext i
  simp only [coeff_add, coeff_mul_X_pow', coeff_bitPoly, Nat.testBit_mod_two_pow,
    Nat.testBit_div_two_pow]
  rcases lt_or_ge i k with hi | hi
  · simp [hi, Nat.not_le.mpr hi]
  · simp [hi, Nat.not_lt.mpr hi]

end BitPoly

/-- One step of a shift register of `d` digits with feedback `p`: the digit shifted out subtracts
`p`. -/
def shiftReduce (p d c : ℕ) : ℕ := if c.testBit (d - 1) then (c <<< 1) ^^^ p else c <<< 1

section ShiftReduce

variable {p d c : ℕ}

/-- A register that is shifted is multiplied by `X`, modulo the polynomial of its feedback. -/
lemma bitPoly_shiftReduce (p d c : ℕ) :
    bitPoly p ∣ bitPoly (shiftReduce p d c) - bitPoly c * X := by
  rw [shiftReduce]
  split_ifs with hbit
  · simp [bitPoly_xor, bitPoly_shiftLeft]
  · simp [bitPoly_shiftLeft]

lemma bitPoly_shiftReduce_iterate (p d c k : ℕ) :
    bitPoly p ∣ bitPoly ((shiftReduce p d)^[k] c) - bitPoly c * X ^ k := by
  induction k with
  | zero => simp
  | succ k ih =>
    have hstep := bitPoly_shiftReduce p d ((shiftReduce p d)^[k] c)
    have hsplit : bitPoly ((shiftReduce p d)^[k + 1] c) - bitPoly c * X ^ (k + 1)
        = bitPoly (shiftReduce p d ((shiftReduce p d)^[k] c)) - bitPoly
          ((shiftReduce p d)^[k] c) * X
          + (bitPoly ((shiftReduce p d)^[k] c) - bitPoly c * X ^ k) * X := by
      rw [Function.iterate_succ_apply']
      ring
    rw [hsplit]
    exact dvd_add hstep (ih.mul_right X)

end ShiftReduce

/-- The polynomial of a string of bytes: its bits in the order of the string are the coefficients,
the leading one first. -/
noncomputable def bytesPoly : List UInt8 → (ZMod 2)[X]
  | [] => 0
  | b :: data => bitPoly b.toNat * X ^ (8 * data.length) + bytesPoly data

section BytesPoly

@[simp] lemma bytesPoly_nil : bytesPoly [] = 0 := rfl

lemma bytesPoly_append (data rest : List UInt8) :
    bytesPoly (data ++ rest) = bytesPoly data * X ^ (8 * rest.length) + bytesPoly rest := by
  induction data with
  | nil => simp
  | cons b data ih =>
    simp only [List.cons_append, bytesPoly, ih, List.length_append]
    ring

lemma bytesPoly_singleton (b : UInt8) : bytesPoly [b] = bitPoly b.toNat := by simp [bytesPoly]

end BytesPoly

end Hikey
