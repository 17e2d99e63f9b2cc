import Hikey.Component.Rules

/-!
# The parameter commands

The parameter commands are the same for all classes.  Apart from the post-initialization that the
first `SET_PARAM` command causes, they change nothing but the responses.
-/

namespace Hikey

open Prog

variable {κ : Type} {s : XaState κ} {I : XaState κ → Prop} {env : XaEnv} {m : XfMessage}
  {hooks : XaHooks κ}

lemma keeps_xaApi (cmd : XaApiCmd) (idx : U32) : Keeps I (xaApi env cmd idx : XaProg κ U32) :=
  Keeps.bind (Keeps.check _) fun _ => Keeps.pure _

lemma keeps_xaBaseSetParams (k : ℕ) (i : U32) :
    Keeps I (xaBaseSetParams env k i : XaProg κ Unit) := by
  induction k generalizing i with
  | zero => exact Keeps.pure _
  | succ k ih => exact (keeps_xaApi _ _).bind fun _ => ih _

lemma keeps_xaBaseGetParams (hget : ∀ i id, Keeps I (hooks.getparam env i id)) (k : ℕ) (i : U32) :
    Keeps I (xaBaseGetParams hooks env m k i) := by
  induction k generalizing i with
  | zero => exact Keeps.pure _
  | succ k ih => exact (hget _ _).bind fun _ => ih _

lemma keeps_xaBaseParamsExt {w : ℕ} (cmd : XaApiCmd) (fuel : ℕ) (i a : U32)
    (remaining : BitVec w) :
    Keeps I (xaBaseParamsExt env cmd fuel i a remaining : XaProg κ (BitVec w)) := by
  induction fuel generalizing i a remaining with
  | zero => exact Keeps.pure _
  | succ fuel ih =>
    exact Keeps.ite
      (fun _ => (Keeps.check _).bind fun _ => (keeps_xaApi _ _).bind fun _ => ih _ _ _)
      fun _ => Keeps.pure _

lemma keeps_xaBaseMemtabs (hmemtab : ∀ i, Keeps I (xaBaseMemtab hooks env i)) (k : ℕ) (i : U32) :
    Keeps I (xaBaseMemtabs hooks env k i) := by
  induction k generalizing i with
  | zero => exact Keeps.pure _
  | succ k ih => exact (hmemtab _).bind fun _ => ih _

/-- A response to the message `m`, whatever its length. -/
def KeepsResponse (I : XaState κ → Prop) (m : XfMessage) : Prop :=
  ∀ m' : XfMessage, m'.ptr = m.ptr → m'.opcode = m.opcode → m'.id = m.id →
    Keeps I (xfResponse m' : XaProg κ Unit)

lemma keeps_xaBaseGetParam (hget : ∀ i id, Keeps I (hooks.getparam env i id))
    (hm : KeepsResponse I m) : Keeps I (xaBaseGetParam hooks env m) :=
  (Keeps.check _).bind fun _ => (keeps_xaBaseGetParams hget _ _).bind fun _ => hm _ rfl rfl rfl

lemma keeps_xaBaseSetParamExt (hm : KeepsResponse I m) :
    Keeps I (xaBaseSetParamExt env m : XaProg κ Unit) :=
  (keeps_xaBaseParamsExt _ _ _ _ _).bind fun _ => (Keeps.check _).bind fun _ => hm _ rfl rfl rfl

lemma keeps_xaBaseGetParamExt (hm : KeepsResponse I m) :
    Keeps I (xaBaseGetParamExt env m : XaProg κ Unit) :=
  (keeps_xaBaseParamsExt _ _ _ _ _).bind fun _ => (Keeps.check _).bind fun _ => hm _ rfl rfl rfl

/-- `SET_PARAM` keeps a condition that the post-initialization keeps, under a condition `J` that
holds while it has not taken place. -/
lemma keeps_xaBaseSetParam_of {J : XaState κ → Prop}
    (hJ : ∀ s, I s → s.base.postinit = false → J s) (hI : ∀ s, J s → I s)
    (hpostinit : Keeps J (xaBasePostinit hooks env))
    (hpost : ∀ s, J s → I { s with
      base := { s.base with
        postinit := !s.base.postinit, runtimeInit := !s.base.runtimeInit } })
    (hm : KeepsResponse I m) : Keeps I (xaBaseSetParam hooks env m) := by
  refine (Keeps.check _).bind fun _ => (keeps_xaBaseSetParams _ _).bind fun _ => ?_
  intro s hs
  simp only [wp_bind, wp_get, wp_ite, wp_pure]
  constructor
  · intro hnot
    refine wp_mono (hpostinit s (hJ s hs (by simpa using hnot))) (fun _ t ht => ?_) fun t ht =>
      hI t ht
    exact hm m.ok rfl rfl rfl _ (hpost t ht)
  · intro _
    exact hm m.ok rfl rfl rfl _ hs

/-- The memory tables may be of any number. -/
lemma keeps_xaBaseSetParam {J : XaState κ → Prop}
    (hJ : ∀ s, I s → s.base.postinit = false → J s) (hI : ∀ s, J s → I s)
    (hmemtab : ∀ i, Keeps J (xaBaseMemtab hooks env i))
    (hpost : ∀ s, J s → I { s with
      base := { s.base with
        postinit := !s.base.postinit, runtimeInit := !s.base.runtimeInit } })
    (hm : KeepsResponse I m) : Keeps I (xaBaseSetParam hooks env m) :=
  keeps_xaBaseSetParam_of hJ hI
    ((keeps_xaApi _ _).bind fun _ => (keeps_xaApi _ _).bind fun _ =>
      keeps_xaBaseMemtabs hmemtab _ _) hpost hm

end Hikey
