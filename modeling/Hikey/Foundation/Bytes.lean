import Mathlib.Data.BitVec
import Mathlib.Tactic

/-!
# Machine words and blocks of bytes

Reading a block of memory at an address (`readBytes`) and overwriting a part of a buffer
(`writeBytes`).  A block splits at any place into two adjacent blocks (`readBytes_add`), and writing
right behind the bytes filled so far appends to them (`take_writeBytes`).
-/

namespace Hikey

/-- A 32-bit machine word. -/
abbrev U32 := BitVec 32

variable {w : ℕ} {α : Type*} {mem mem' : BitVec w → α} {a : BitVec w} {k l : ℕ} {buf src : List α}

/-- The `k` bytes of the memory from address `a` on. -/
def readBytes (mem : BitVec w → α) (a : BitVec w) (k : ℕ) : List α :=
  (List.range k).map fun i => mem (a + BitVec.ofNat w i)

/-- The buffer with the bytes from position `off` on overwritten by `src`. -/
def writeBytes (buf : List α) (off : ℕ) (src : List α) : List α :=
  buf.take off ++ src ++ buf.drop (off + src.length)

@[simp] lemma length_readBytes : (readBytes mem a k).length = k := by
  simp [readBytes]

@[simp] lemma readBytes_zero : readBytes mem a 0 = [] := rfl

/-- A block is a block followed by the block behind it. -/
lemma readBytes_add :
    readBytes mem a (k + l) = readBytes mem a k ++ readBytes mem (a + BitVec.ofNat w k) l := by
  rw [readBytes, List.range_add, List.map_append, List.map_map]
  congr 1
  refine List.map_congr_left fun i _ => ?_
  simp [BitVec.ofNat_add, BitVec.add_assoc]

/-- Memories that agree on a block agree on the block behind its first `k` bytes. -/
lemma readBytes_congr_drop (h : readBytes mem' a (k + l) = readBytes mem a (k + l)) :
    readBytes mem' (a + BitVec.ofNat w k) l = readBytes mem (a + BitVec.ofNat w k) l := by
  rw [readBytes_add, readBytes_add] at h
  exact (List.append_inj h (by simp)).2

/-- Writing inside a buffer keeps its length. -/
lemma length_writeBytes (h : k + src.length ≤ buf.length) :
    (writeBytes buf k src).length = buf.length := by
  simp only [writeBytes, List.length_append, List.length_take, List.length_drop]
  omega

variable (k buf src) in
/-- Writing behind the first `k` bytes appends to them. -/
lemma take_writeBytes (h : k + src.length ≤ buf.length) :
    (writeBytes buf k src).take (k + src.length) = buf.take k ++ src := by
  rw [writeBytes, List.take_append_of_le_length (by simp; omega), List.take_of_length_le]
  simp

end Hikey
