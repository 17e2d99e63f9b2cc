import Mathlib.Tactic

/-!
# Rows of equal length

A position in memory that is laid out in rows is a row and a column (`row_column_unique`); planes
are such layouts, of samples some bytes apart, and a plane that ends where another one begins shares
no position with it (`Plane.Inside.apart`).
-/

namespace Hikey

section Positions

variable {column column' n rows : ℕ}

/-- A position in rows of equal length. -/
lemma row_column_unique (row row' : ℕ) {n : ℕ} (hcolumn : column < n) (hcolumn' : column' < n)
    (h : row * n + column = row' * n + column') : row = row' ∧ column = column' := by
  have hpos : 0 < n := by omega
  have hrow {r k : ℕ} (hk : k < n) : (r * n + k) / n = r := by
    rw [Nat.add_comm, Nat.add_mul_div_right _ _ hpos, Nat.div_eq_of_lt hk, Nat.zero_add]
  have heq : row = row' := (hrow hcolumn).symm.trans ((congrArg (· / n) h).trans (hrow hcolumn'))
  subst heq
  exact ⟨rfl, Nat.add_left_cancel h⟩

/-- A position in `rows` rows. -/
lemma row_column_lt {row n rows : ℕ} (hcolumn : column < n) (hrow : row < rows) :
    row * n + column < n * rows := by
  calc row * n + column < row * n + n := by omega
    _ = n * (row + 1) := by ring
    _ ≤ n * rows := Nat.mul_le_mul_left n hrow

end Positions

/-- Samples in rows: where the first one is, the bytes from row to row and from sample to sample,
and their numbers. -/
structure Plane where
  start : ℕ
  stride : ℕ
  step : ℕ
  columns : ℕ
  rows : ℕ
deriving DecidableEq, Repr

namespace Plane

variable {p q : Plane} {n : ℕ}

/-- The position of a sample. -/
def offset (p : Plane) (column row : ℕ) : ℕ := p.start + row * p.stride + column * p.step

/-- All samples are below a size. -/
def Inside (p : Plane) (size : ℕ) : Prop :=
  ∀ column < p.columns, ∀ row < p.rows, p.offset column row < size

/-- No sample of the one plane is where one of the other is. -/
def Apart (p q : Plane) : Prop :=
  ∀ column < p.columns, ∀ row < p.rows, ∀ column' < q.columns, ∀ row' < q.rows, p.offset column
    row ≠ q.offset column' row'

/-- Rows that have room for their samples end where the row behind the last one begins; the first
sample may be some bytes behind the beginning of its row. -/
lemma inside_of_le (phase : ℕ) (hroom : ∀ column < p.columns, phase + column * p.step < p.stride)
    (hsize : p.start + p.stride * p.rows ≤ n + phase) : p.Inside n := by
  intro column hcolumn row hrow
  have hlt := row_column_lt (hroom column hcolumn) hrow
  rw [offset]
  omega

lemma Inside.mono {m : ℕ} (h : p.Inside m) (hle : m ≤ n) : p.Inside n :=
  fun column hcolumn row hrow => (h column hcolumn row hrow).trans_le hle

lemma Apart.symm (h : p.Apart q) : q.Apart p :=
  fun column hcolumn row hrow column' hcolumn' row' hrow' =>
    (h column' hcolumn' row' hrow' column hcolumn row hrow).symm

/-- A plane that ends where another one begins. -/
lemma Inside.apart (h : p.Inside q.start) : p.Apart q := by
  intro column hcolumn row hrow column' _ row' _
  have hlt := h column hcolumn row hrow
  have hle : q.start ≤ q.offset column' row' := by
    rw [offset]
    omega
  omega

end Plane

end Hikey
