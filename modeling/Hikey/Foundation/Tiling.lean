import Mathlib.Data.Set.Lattice
import Mathlib.Data.List.Perm.Basic
import Mathlib.Order.Interval.Set.Disjoint
import Mathlib.Tactic
import Mathlib.Order.CompletePartialOrder

/-!
# Tilings by lists of tiles

A list of tiles, each covering a set, tiles a set `S` when the tiles are pairwise disjoint and their
union is `S`.  Splitting a tile in two, or joining two tiles, keeps the tiling (`tiles_split`).
-/

namespace Hikey

universe u v

variable {α : Type u} {β : Type v} {f g : α → Set β} {S : Set β} {a b c : α} {rs rs' : List α}

/-- The tiles `rs`, `r` covering `f r`, are pairwise disjoint and cover exactly `S`. -/
structure Tiles (f : α → Set β) (rs : List α) (S : Set β) : Prop where
  cover : ∀ x, x ∈ S ↔ ∃ r ∈ rs, x ∈ f r
  disjoint : rs.Pairwise fun r r' => Disjoint (f r) (f r')

/-- A tiling with a first tile is a tiling of the rest of the set by the other tiles. -/
lemma tiles_cons : Tiles f (a :: rs) S ↔ f a ⊆ S ∧ Tiles f rs (S \ f a) := by
  constructor
  · rintro ⟨hcover, hdisj⟩
    rw [List.pairwise_cons] at hdisj
    refine ⟨fun x hx => (hcover x).mpr ⟨a, by simp, hx⟩, fun x => ?_, hdisj.2⟩
    rw [Set.mem_sdiff, hcover]
    constructor
    · rintro ⟨⟨r, hr, hxr⟩, hxa⟩
      rcases List.mem_cons.mp hr with rfl | hr
      · exact absurd hxr hxa
      · exact ⟨r, hr, hxr⟩
    · rintro ⟨r, hr, hxr⟩
      exact ⟨⟨r, by simp [hr], hxr⟩, fun hxa => (hdisj.1 r hr).le_bot ⟨hxa, hxr⟩⟩
  · rintro ⟨hsub, hcover, hdisj⟩
    refine ⟨fun x => ?_, List.pairwise_cons.mpr ⟨fun r hr => ?_, hdisj⟩⟩
    · constructor
      · intro hx
        by_cases hxa : x ∈ f a
        · exact ⟨a, by simp, hxa⟩
        · obtain ⟨r, hr, hxr⟩ := (hcover x).mp ⟨hx, hxa⟩
          exact ⟨r, by simp [hr], hxr⟩
      · rintro ⟨r, hr, hxr⟩
        rcases List.mem_cons.mp hr with rfl | hr
        · exact hsub hxr
        · exact ((hcover x).mpr ⟨r, hr, hxr⟩).1
    · rw [Set.disjoint_left]
      exact fun x hxa hxr => ((hcover x).mpr ⟨r, hr, hxr⟩).2 hxa

/-- The order of the tiles does not matter. -/
lemma Tiles.perm (h : Tiles f rs S) (hp : rs.Perm rs') : Tiles f rs' S := by
  refine ⟨fun x => ?_, (hp.pairwise_iff fun hab => hab.symm).mp h.disjoint⟩
  rw [h.cover]
  simp only [hp.mem_iff]

/-- Two tiles may be joined to one, and one may be split in two. -/
lemma tiles_split (hab : f a = f b ∪ f c) (hbc : Disjoint (f b) (f c)) :
    Tiles f (a :: rs) S ↔ Tiles f (b :: c :: rs) S := by
  rw [tiles_cons, tiles_cons, tiles_cons, hab, Set.sdiff_sdiff]
  constructor
  · rintro ⟨hsub, hrest⟩
    exact ⟨fun x hx => hsub (Or.inl hx),
      fun x hx => ⟨hsub (Or.inr hx), fun hxb => hbc.le_bot ⟨hxb, hx⟩⟩, hrest⟩
  · rintro ⟨hb, hc, hrest⟩
    exact ⟨Set.union_subset hb fun x hx => (hc hx).1, hrest⟩

/-- Two different places in a tiling do not overlap. -/
lemma Tiles.notMem (h : Tiles f (a :: rs) S) {x : β} (hx : x ∈ f a) (hb : b ∈ rs) : x ∉ f b :=
  fun hxb => ((List.pairwise_cons.mp h.disjoint).1 b hb).le_bot ⟨hx, hxb⟩

/-- An interval that is covered by intervals, none of which ends where another one starts, lies in
one of them. -/
lemma exists_interval_of_cover {ι : Type u} {F : Set ι} {s e : ι → ℕ} {a c : ℕ} (hac : a < c)
    (hapart : ∀ x ∈ F, ∀ y ∈ F, x ≠ y → e x ≤ s y ∨ e y ≤ s x)
    (hsep : ∀ x ∈ F, ∀ y ∈ F, e x ≠ s y)
    (hcover : ∀ k, a ≤ k → k < c → ∃ x ∈ F, s x ≤ k ∧ k < e x) :
    ∃ x ∈ F, s x ≤ a ∧ c ≤ e x := by
  induction c, hac using Nat.le_induction with
  | base =>
    obtain ⟨x, hx, hsx, hex⟩ := hcover a le_rfl (Nat.lt_succ_self a)
    exact ⟨x, hx, hsx, hex⟩
  | succ c hac ih =>
    obtain ⟨x, hx, hsx, hex⟩ := ih fun k hak hkc => hcover k hak (by omega)
    obtain ⟨y, hy, hsy, hey⟩ := hcover c (by omega) (Nat.lt_succ_self c)
    by_cases hxy : x = y
    · subst hxy
      exact ⟨x, hx, hsx, hey⟩
    · -- the interval of `c` starts behind the one of `a`, which ends at `c`
      have hne := hsep x hx y hy
      rcases hapart x hx y hy hxy with h | h <;> omega

end Hikey
