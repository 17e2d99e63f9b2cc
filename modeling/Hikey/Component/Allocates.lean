import Hikey.Component.Codec
import Hikey.Component.Memory

/-!
# The environment that an allocator makes

The components of `Hikey.Component.Base` ask their environment whether there is memory for a table.
Here the environment is the one in which the local pool answers: with it, a command goes well for
such a component exactly when it goes well over the pool.
-/

namespace Hikey.LocalPool

open Prog

variable {m : XaSetParam} {s : XaCodecMemory} {S : XaState XaCodec} {env : XaEnv} {i : U32}

lemma ok_xaApi {β : Type} {answer : XaAnswer} {f : U32 → XaMemoryProg β} :
    Ok (xaApi answer >>= f) s ↔ answer.fatal = false ∧ Ok (f answer.value) s := by
  rw [xaApi, ok_assoc, ok_check, Bool.not_eq_true']
  simp only [Ok, ends_bind, ends_pure]

lemma ok_xaApi_env {β : Type} {cmd : XaApiCmd} {f : U32 → XaCodecProg β} :
    Ok (Hikey.xaApi env cmd i >>= f) S ↔ (env.api cmd i).fatal = false ∧ Ok
      (f (env.api cmd i).value) S := by
  rw [Hikey.xaApi, ok_assoc, ok_check, Bool.not_eq_true']
  simp only [Ok, ends_bind, ends_pure]

/-- The input port of the component is initialized, if the environment has a block for it. -/
lemma ok_xaCodecMemtab (size : U32) :
    Ok (Hikey.xaCodecMemtab env i 2#32 size) S ↔ ¬(size ≠ 0#32 ∧ env.block i = none) ∧
      (size ≠ 0#32 → (env.api .setMemPtr i).fatal = false) := by
  have hinit : (Hikey.xfInputPortInit S.ext.input size (env.block i)).2 = true ↔
      ¬(size ≠ 0#32 ∧ env.block i = none) := by
    rw [Hikey.xfInputPortInit]
    split
    · exact iff_of_false Bool.false_ne_true (not_not.2 ‹_›)
    · exact iff_of_true rfl ‹_›
  rw [Hikey.xaCodecMemtab, if_pos rfl, xaCodecInput, ok_update rfl, ok_check, hinit,
    xaExtModify, ok_modify]
  refine and_congr_right fun _ => ?_
  by_cases hne : size ≠ 0#32
  · rw [if_pos hne, ok_xaApi_env]
    exact ⟨fun hok _ => hok.1, fun hok => ⟨hok hne, ok_pure _⟩⟩
  · rw [if_neg hne]
    exact iff_of_true (ok_pure _) fun hsize => absurd hsize hne

/-- The environment answers as the pool does before memory table `i`. -/
def XaMatches (env : XaEnv) (m : XaSetParam) (i : U32) (s : XaCodecMemory) : Prop :=
  ((m.api .getMemInfoType i).value = 0#32 →
    (Ok (xmalloc .persist (m.api .getMemInfoSize i).value (m.api .getMemInfoAlignment i).value) s ↔
      env.persist i ≠ 0#32)) ∧
  ((m.api .getMemInfoType i).value = 2#32 →
    (Ok (xfInputPortInit (m.api .getMemInfoSize i).value) s ↔
      ¬((m.api .getMemInfoSize i).value ≠ 0#32 ∧ env.block i = none)))

/-- One memory table. -/
lemma xaBaseMemtab_matches (henv : env.api = m.api) (hmatch : m.Answers i → XaMatches env m i s) :
    Ok (xaBaseMemtab m i) s ↔ Ok (Hikey.xaBaseMemtab xaCodecHooks env i) S := by
  rw [xaBaseMemtab, Hikey.xaBaseMemtab]
  simp only [ok_xaApi, ok_xaApi_env, henv]
  refine and_congr_right fun htype => and_congr_right fun hsize => and_congr_right fun halign => ?_
  obtain ⟨hpersist, hinput⟩ := hmatch ⟨htype, hsize, halign⟩
  have hptr {t : XaCodecMemory} {T : XaState XaCodec} {p : U32} :
      Ok (do let _ ← xaApi (m.api .setMemPtr i)) t ↔
        Ok (xaSetMemPtr env i p : XaCodecProg Unit) T := by
    rw [xaSetMemPtr, ok_modify, ok_xaApi, ok_xaApi_env, henv]
    exact and_congr_right fun _ => iff_of_true (ok_pure _) (ok_pure _)
  by_cases h1 : (m.api .getMemInfoType i).value = 1#32
  · rw [if_pos h1, if_pos h1]
    simp only [ok_check]
    exact and_congr_right fun _ => and_congr_right fun _ => hptr
  · rw [if_neg h1, if_neg h1]
    by_cases h0 : (m.api .getMemInfoType i).value = 0#32
    · rw [if_pos h0, if_pos h0, ok_check, decide_eq_true_iff, ← hpersist h0, ok_bind, ok_iff]
      constructor
      · rintro ⟨a, t, hrun, hok⟩
        exact ⟨⟨a, t, hrun⟩, hptr.1 hok⟩
      · rintro ⟨⟨a, t, hrun⟩, hok⟩
        exact ⟨a, t, hrun, hptr.2 hok⟩
    · rw [if_neg h0, if_neg h0]
      by_cases h2 : (m.api .getMemInfoType i).value = 2#32
      · rw [if_pos (.inl h2), if_pos (.inl h2), xaCodecMemtab, if_pos h2]
        change _ ↔ Ok (Hikey.xaCodecMemtab env i (m.api .getMemInfoType i).value
          (m.api .getMemInfoSize i).value) S
        rw [h2, ok_xaCodecMemtab, henv, ← hinput h2, ok_bind, ok_iff]
        have hrest (t : XaCodecMemory) : Ok (if (m.api .getMemInfoSize i).value ≠ 0 then do
              let _ ← xaApi (m.api .setMemPtr i)
            else pure ⟨⟩) t ↔
            ((m.api .getMemInfoSize i).value ≠ 0#32 → (m.api .setMemPtr i).fatal = false) := by
          by_cases hne : (m.api .getMemInfoSize i).value ≠ 0
          · rw [if_pos hne, ok_xaApi]
            exact ⟨fun hok _ => hok.1, fun hok => ⟨hok hne, ok_pure _⟩⟩
          · rw [if_neg hne]
            exact iff_of_true (ok_pure _) fun hsize' => absurd hsize' hne
        constructor
        · rintro ⟨a, t, hrun, hok⟩
          exact ⟨⟨a, t, hrun⟩, (hrest t).1 hok⟩
        · rintro ⟨⟨a, t, hrun⟩, hok⟩
          exact ⟨a, t, hrun, (hrest t).2 hok⟩
      · by_cases h3 : (m.api .getMemInfoType i).value = 3#32
        · rw [if_pos (.inr h3), if_pos (.inr h3), xaCodecMemtab, if_neg h2, ok_check_iff]
          refine iff_of_true (decide_eq_true h3) ?_
          change Ok (Hikey.xaCodecMemtab env i (m.api .getMemInfoType i).value
            (m.api .getMemInfoSize i).value) S
          rw [Hikey.xaCodecMemtab, if_neg h2, ok_check, xaCodecOutput, ok_update rfl]
          exact ⟨decide_eq_true h3, trivial⟩
        · rw [if_neg (not_or.2 ⟨h2, h3⟩), if_neg (not_or.2 ⟨h2, h3⟩)]
          exact iff_of_false ok_fail ok_fail

/-- The memory tables. -/
lemma xaBaseMemtabs_matches (henv : env.api = m.api) (k : ℕ) (i : U32)
    (hmatch : XaEachMemtab (XaMatches env) m k i s) :
    Ok (xaBaseMemtabs m k i) s ↔ Ok (Hikey.xaBaseMemtabs xaCodecHooks env k i) S := by
  induction k generalizing i s S with
  | zero => exact iff_of_true (ok_pure _) (ok_pure _)
  | succ k ih =>
    obtain ⟨hfirst, hrest⟩ := hmatch
    rw [xaBaseMemtabs, Hikey.xaBaseMemtabs, ok_bind, ok_bind]
    have htable (T : XaState XaCodec) := xaBaseMemtab_matches (S := T) henv hfirst
    constructor
    · rintro ⟨a, t, hrun, hok⟩
      rw [wp_of_ok hrun] at hrest
      obtain ⟨a', T, hrun'⟩ := ok_iff.1 ((htable S).1 (ok_iff.2 ⟨a, t, hrun⟩))
      exact ⟨a', T, hrun', (ih _ hrest).1 hok⟩
    · rintro ⟨a', T, hrun', hok⟩
      obtain ⟨a, t, hrun⟩ := ok_iff.1 ((htable S).2 (ok_iff.2 ⟨a', T, hrun'⟩))
      rw [wp_of_ok hrun] at hrest
      exact ⟨a, t, hrun, (ih _ hrest).2 hok⟩

/-- The parameters are set before anything else is done. -/
lemma xaBaseSetParams_matches {f : Unit → XaMemoryProg Unit} {F : Unit → XaCodecProg Unit}
    (henv : env.api = m.api) (hf : Ok (f ⟨⟩) s ↔ Ok (F ⟨⟩) S) (k : ℕ) (i : U32) :
    Ok (xaBaseSetParams m k i >>= f) s ↔ Ok (Hikey.xaBaseSetParams env k i >>= F) S := by
  induction k generalizing i with
  | zero => exact hf
  | succ k ih =>
    rw [xaBaseSetParams, Hikey.xaBaseSetParams, ok_assoc, ok_assoc, ok_xaApi, ok_xaApi_env, henv]
    exact and_congr_right fun _ => ih (i + 1#32)

/-! ## The environment -/

/-- The state before memory table `j`. -/
def stateAt (m : XaSetParam) (s : XaCodecMemory) : ℕ → XaCodecMemory
  | 0 => s
  | j + 1 =>
    match xaBaseMemtab m (BitVec.ofNat 32 j) (stateAt m s j) with
    | .ok _ t => t
    | _ => stateAt m s j

/-- The environment in which the pool answers a command. -/
def XaSetParam.poolEnv (m : XaSetParam) (s : XaCodecMemory) : XaEnv where
  api := m.api
  mem _ := 0
  alloc _ := 0
  block i :=
    if Ok (xfInputPortInit (m.api .getMemInfoSize i).value) (stateAt m s i.toNat) then some []
      else none
  persist i :=
    if Ok (xmalloc .persist (m.api .getMemInfoSize i).value (m.api .getMemInfoAlignment i).value)
      (stateAt m s i.toNat) then 1 else 0
  scratch := 0
  done := 0

lemma XaSetParam.poolEnv_matches (s : XaCodecMemory) {j : ℕ} (hj : j < 2 ^ 32) :
    XaMatches (m.poolEnv s) m (BitVec.ofNat 32 j) (stateAt m s j) := by
  have hindex : (BitVec.ofNat 32 j).toNat = j := by
    rw [BitVec.toNat_ofNat, Nat.mod_eq_of_lt hj]
  constructor
  · intro _
    simp only [XaSetParam.poolEnv, hindex]
    split
    · exact iff_of_true ‹_› (by decide)
    · exact iff_of_false ‹_› (by decide)
  · intro _
    simp only [XaSetParam.poolEnv, hindex]
    split
    · exact iff_of_true ‹_› fun hnone => by cases hnone.2
    · rename_i hfail
      refine iff_of_false hfail (not_not.2 ⟨fun hzero => hfail ?_, rfl⟩)
      have hsize : ¬(m.api .getMemInfoSize (BitVec.ofNat 32 j)).value ≠ 0 := not_not.2 hzero
      rw [xfInputPortInit, if_neg hsize]
      exact trivial

lemma XaSetParam.poolEnv_eachMemtab (s : XaCodecMemory) (k : ℕ) {j : ℕ} (hj : j + k ≤ 2 ^ 32) :
    XaEachMemtab (XaMatches (m.poolEnv s)) m k (BitVec.ofNat 32 j) (stateAt m s j) := by
  induction k generalizing j with
  | zero => trivial
  | succ k ih =>
    refine ⟨fun _ => XaSetParam.poolEnv_matches s (by omega), ?_⟩
    have hnext : BitVec.ofNat 32 j + 1#32 = BitVec.ofNat 32 (j + 1) := (BitVec.ofNat_add j 1).symm
    have hrest : XaEachMemtab (XaMatches (m.poolEnv s)) m k (BitVec.ofNat 32 (j + 1))
        (stateAt m s (j + 1)) :=
      ih (by omega)
    rw [stateAt] at hrest
    rw [hnext]
    unfold wp
    cases hrun : xaBaseMemtab m (BitVec.ofNat 32 j) (stateAt m s j) with
    | ok a t => rw [hrun] at hrest; exact hrest
    | error t => trivial
    | undefined => trivial

/-- A command goes well over the pool exactly when it does so for the component of the same state in
the environment in which the pool answers. -/
theorem xaBaseSetParam_refines (m : XaSetParam) (s : XaCodecMemory) (S : XaState XaCodec)
    (msg : XfMessage) (hlength : msg.length = m.length) (hpostinit : S.base.postinit = s.postinit) :
    Ok (xaBaseSetParam m) s ↔ Ok (Hikey.xaBaseSetParam xaCodecHooks (m.poolEnv s) msg) S := by
  rw [xaBaseSetParam, Hikey.xaBaseSetParam]
  simp only [ok_check, hlength]
  refine and_congr_right fun _ => xaBaseSetParams_matches rfl ?_ _ _
  rw [ok_get, ok_get, hpostinit]
  by_cases hpost : s.postinit = false
  · rw [if_pos (by rw [hpost]; rfl), if_pos (by rw [hpost]; rfl), xaBasePostinit,
      Hikey.xaBasePostinit]
    simp only [ok_assoc, ok_xaApi, ok_xaApi_env]
    refine and_congr_right fun _ => and_congr_right fun _ => ?_
    have hbound : m.memtabs ≤ 2 ^ 32 := by
      have := (m.api .getNMemtabs 0#32).value.isLt
      rw [XaSetParam.memtabs, BitVec.toInt_eq_toNat_cond]
      split <;> omega
    have hmatch : XaEachMemtab (XaMatches (m.poolEnv s)) m m.memtabs (BitVec.ofNat 32 0)
        (stateAt m s 0) :=
      XaSetParam.poolEnv_eachMemtab s m.memtabs (by omega)
    have htables := xaBaseMemtabs_matches (S := S) rfl m.memtabs 0#32 hmatch
    refine (ok_bind_of_ok fun _ t => ?_).trans (htables.trans (ok_bind_of_ok fun _ T => ?_).symm)
    · exact trivial
    · exact trivial
  · rw [if_neg (by simpa using hpost), if_neg (by simpa using hpost)]
    exact iff_of_true (ok_pure _) trivial

end Hikey.LocalPool
