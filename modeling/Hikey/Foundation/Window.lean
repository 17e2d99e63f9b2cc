import Mathlib.Data.BitVec
import Mathlib.Tactic

/-!
# Comparing machine words inside a window

Machine words on a counter that wraps around have no order of their own.  Inside a window of half
the range, counted forward from the current value `now` of the counter, the sign of the difference
compares the forward distances (`msb_sub_iff`), and the window moves along with the counter
(`toNat_sub_advance`).
-/

namespace Hikey

variable {w : ℕ} {x y : BitVec w}

/-- The sign of a difference compares forward distances of words inside the window. -/
lemma msb_sub_iff (now : BitVec w) (hw : 0 < w) (hx : (x - now).toNat < 2 ^ (w - 1))
    (hy : (y - now).toNat < 2 ^ (w - 1)) :
    (x - y).msb = true ↔ (x - now).toNat < (y - now).toNat := by
  have hsub : x - y = (x - now) - (y - now) := by abel
  have hpow : 2 ^ w = 2 * 2 ^ (w - 1) := by
    obtain ⟨v, rfl⟩ : ∃ v, w = v + 1 := ⟨w - 1, by omega⟩
    rw [Nat.add_sub_cancel, pow_succ, Nat.mul_comm]
  rw [BitVec.msb_eq_decide, decide_eq_true_iff, hsub, BitVec.toNat_sub]
  by_cases hlt : (x - now).toNat < (y - now).toNat
  · rw [Nat.mod_eq_of_lt (by omega)]
    omega
  · rw [show 2 ^ w - (y - now).toNat + (x - now).toNat =
      (x - now).toNat - (y - now).toNat + 2 ^ w by omega, Nat.add_mod_right,
      Nat.mod_eq_of_lt (by omega)]
    omega

/-- When the counter advances to a word that is no further away than `x`, the distance to `x`
shrinks by that advance. -/
lemma toNat_sub_advance {now now' : BitVec w} (h : (now' - now).toNat ≤ (x - now).toNat) :
    (x - now').toNat = (x - now).toNat - (now' - now).toNat := by
  rw [← BitVec.toNat_sub_of_le h]
  congr 1
  abel

end Hikey
