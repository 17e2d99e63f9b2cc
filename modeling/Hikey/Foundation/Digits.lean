import Mathlib.Tactic

/-!
# Digits of a number

The canonical digits of a number (`Nat.toDigits`) are its leading digit followed by a fixed number
of further ones, among them zeros (`toDigits_mul_pow_add`).
-/

namespace Hikey

/-- The lowest `k` digits of `n < b ^ k`, with zeros in front of them. -/
def fixedDigits (b : ℕ) : ℕ → ℕ → List Char
  | 0, _ => []
  | k + 1, n => (n / b ^ k).digitChar :: fixedDigits b k (n % b ^ k)

variable {b d k n r : ℕ}

@[simp] lemma fixedDigits_zero : fixedDigits b 0 n = [] := rfl

lemma fixedDigits_one : fixedDigits b 1 n = [n.digitChar] := by simp [fixedDigits]

/-- The last digit is the remainder. -/
lemma fixedDigits_succ_append (hb : 0 < b) (hn : n < b ^ (k + 1)) :
    fixedDigits b (k + 1) n = fixedDigits b k (n / b) ++ [(n % b).digitChar] := by
  induction k generalizing n with
  | zero => rw [fixedDigits_one, fixedDigits_zero, Nat.mod_eq_of_lt (by simpa using hn),
      List.nil_append]
  | succ k ih =>
    have hhead : n / b ^ (k + 1) = n / b / b ^ k := by rw [Nat.div_div_eq_div_mul, pow_succ']
    have htail : n % b ^ (k + 1) / b = n / b % b ^ k := by
      rw [pow_succ', Nat.mod_mul_right_div_self]
    have hlast : n % b ^ (k + 1) % b = n % b := Nat.mod_mod_of_dvd n (dvd_pow_self b k.succ_ne_zero)
    rw [fixedDigits, ih (Nat.mod_lt n (Nat.pow_pos hb)), hhead, htail, hlast, fixedDigits,
      List.cons_append]

/-- A number with a leading digit other than zero. -/
lemma toDigits_mul_pow_add (hd : 0 < d) (hdb : d < b) (hr : r < b ^ k) :
    Nat.toDigits b (d * b ^ k + r) = d.digitChar :: fixedDigits b k r := by
  have hb : 1 < b := by omega
  induction k generalizing r with
  | zero =>
    obtain rfl : r = 0 := by simpa using hr
    simpa using Nat.toDigits_of_lt_base hdb
  | succ k ih =>
    have hpos : 0 < b ^ k := Nat.pow_pos (by omega)
    have hge : b ≤ d * b ^ (k + 1) + r := by
      have hle : 1 * b ≤ d * b ^ k * b := Nat.mul_le_mul_right b (Nat.mul_pos hd hpos)
      rw [pow_succ, ← Nat.mul_assoc]
      omega
    have hdiv : (d * b ^ (k + 1) + r) / b = d * b ^ k + r / b := by
      rw [pow_succ, ← Nat.mul_assoc, Nat.add_comm, Nat.add_mul_div_right _ _ (by omega),
        Nat.add_comm]
    have hmod : (d * b ^ (k + 1) + r) % b = r % b := by
      rw [pow_succ, ← Nat.mul_assoc, Nat.add_comm, Nat.add_mul_mod_self_right]
    have hlt : r / b < b ^ k := (Nat.div_lt_iff_lt_mul (by omega)).mpr (by rwa [← pow_succ])
    rw [Nat.toDigits_of_base_le hb hge, hdiv, hmod, ih hlt, fixedDigits_succ_append (by omega) hr,
      List.cons_append]

end Hikey
