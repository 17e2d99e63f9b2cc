import Mathlib.Data.BitVec
import Mathlib.Tactic

/-!
# Overwriting a block of a memory

A memory is a function of the position; `patch` overwrites a block of it.  Blocks that follow each
other are one block (`patch_append`), and what is outside of a block stays (`patch_of_notMem`).
-/

namespace Hikey

variable {α : Type*}

/-- The memory with the block from `off` on overwritten. -/
def patch (mem : ℕ → α) (off : ℕ) (bytes : List α) (i : ℕ) : α :=
  if off ≤ i then bytes.getD (i - off) (mem i) else mem i

section Patch

variable {mem : ℕ → α} {off i : ℕ} {bytes more : List α}

@[simp] lemma patch_nil : patch mem off [] = mem := by
  funext i
  simp [patch]

/-- What is outside of the block stays. -/
lemma patch_of_notMem (h : i < off ∨ off + bytes.length ≤ i) : patch mem off bytes i = mem i := by
  rw [patch]
  split_ifs with hle
  · rw [List.getD_eq_getElem?_getD, List.getElem?_eq_none (by omega), Option.getD_none]
  · rfl

/-- The block holds its bytes. -/
lemma patch_add (h : i < bytes.length) : patch mem off bytes (off + i) = bytes[i] := by
  rw [patch, if_pos (Nat.le_add_right off i), Nat.add_sub_cancel_left, List.getD_eq_getElem?_getD,
    List.getElem?_eq_getElem h,
    Option.getD_some]

/-- Blocks that follow each other are one block. -/
lemma patch_append : patch (patch mem off bytes) (off + bytes.length) more = patch mem off
    (bytes ++ more) := by
  funext i
  rcases lt_or_ge i (off + bytes.length) with hlt | hge
  · rw [patch_of_notMem (.inl hlt)]
    rcases lt_or_ge i off with hbefore | hin
    · rw [patch_of_notMem (.inl hbefore), patch_of_notMem (.inl hbefore)]
    · obtain ⟨j, rfl⟩ := Nat.exists_eq_add_of_le hin
      have hj : j < bytes.length := by omega
      rw [patch_add hj, patch_add (by rw [List.length_append]; omega), List.getElem_append_left hj]
  · obtain ⟨j, rfl⟩ := Nat.exists_eq_add_of_le hge
    rcases lt_or_ge j more.length with hj | hj
    · have hlong : bytes.length + j < (bytes ++ more).length := by
        rw [List.length_append]
        omega
      rw [patch_add hj, Nat.add_assoc, patch_add hlong,
        List.getElem_append_right (Nat.le_add_right _ _)]
      simp
    · rw [patch_of_notMem (.inr (by omega)), patch_of_notMem (.inr (by omega)),
        patch_of_notMem (.inr (by rw [List.length_append]; omega))]

end Patch

/-- The block of `n` positions from `off` on. -/
def slice (mem : ℕ → α) (off n : ℕ) : List α := (List.range' off n).map mem

section Slice

variable {mem : ℕ → α} {off pos n : ℕ} {bytes more : List α}

/-- A block is read back as it was written. -/
lemma slice_patch_self : slice (patch mem off (bytes ++ more)) off bytes.length = bytes := by
  refine List.ext_getElem (by simp [slice]) fun i _ hi => ?_
  have hlong : i < (bytes ++ more).length := by
    rw [List.length_append]
    omega
  simp only [slice, List.getElem_map, List.getElem_range', one_mul]
  rw [patch_add hlong, List.getElem_append_left hi]

lemma slice_patch_eq (h : bytes.length = n) : slice (patch mem off bytes) off n = bytes := by
  subst h
  have hself := @slice_patch_self _ mem off bytes []
  rwa [List.append_nil] at hself

/-- A block that is not written stays. -/
lemma slice_patch (h : pos + n ≤ off ∨ off + bytes.length ≤ pos) :
    slice (patch mem off bytes) pos n = slice mem pos n := by
  refine List.map_congr_left fun i hi => patch_of_notMem ?_
  rw [List.mem_range'_1] at hi
  omega

end Slice

/-- The bytes of a word of 32 bits, the lowest first. -/
def leBytes (x : BitVec 32) : List UInt8 :=
  (List.range 4).map fun i => UInt8.ofBitVec (x.extractLsb' (8 * i) 8)

/-- The word of 32 bits whose lowest byte comes first. -/
def leWord (b0 b1 b2 b3 : UInt8) : BitVec 32 :=
  b3.toBitVec ++ b2.toBitVec ++ b1.toBitVec ++ b0.toBitVec

/-- A word is read back from its bytes. -/
lemma leWord_leBytes (x : BitVec 32) :
    leBytes x = [UInt8.ofBitVec (x.extractLsb' 0 8), UInt8.ofBitVec (x.extractLsb' 8 8),
    UInt8.ofBitVec (x.extractLsb' 16 8), UInt8.ofBitVec (x.extractLsb' 24 8)]
      ∧ leWord (UInt8.ofBitVec (x.extractLsb' 0 8)) (UInt8.ofBitVec (x.extractLsb' 8 8))
        (UInt8.ofBitVec (x.extractLsb' 16 8)) (UInt8.ofBitVec (x.extractLsb' 24 8)) = x := by
  refine ⟨rfl, ?_⟩
  rw [leWord]
  refine BitVec.eq_of_getLsbD_eq fun i hi => ?_
  simp only [BitVec.getLsbD_append, BitVec.getLsbD_extractLsb']
  split_ifs <;> simp <;> grind

end Hikey
