import Hikey.Component.ExtMessages
import Hikey.Component.Rules

/-!
# The commands with extended parameters

The commands of `Hikey.Component.Base` take the answers of the plugin and the bytes of a message
from their environment, and do not follow what is written to the message.  For lengths that do not
wrap around, and a plugin that accesses only the data of the descriptors, nothing that is written is
read again, and they accept the messages that `Hikey.Component.ExtMessages` accepts.
-/

namespace Hikey

open Prog

/-- The environment of a command answers as the plugin does for the descriptors of the message. -/
structure ExtEnv (env : XaEnv) (api : XaApiCmd) (buffer : U32) (cmd : XaExtCmd)
    (plugin : XaExtPlugin) (mem : ℕ → UInt8) (stop : ℕ) : Prop where
  bytes : ∀ i < stop, env.mem (buffer + BitVec.ofNat 32 i) = mem i
  answers : ∀ off ps, ExtParams cmd mem 0 off ps → off + 4 ≤ stop →
    (env.api api (BitVec.ofNat 32 ps.length)).fatal =
      !plugin.accepts ps (extParamAt cmd mem off)

/-! ## Environments -/

section Env

variable {cmd : XaExtCmd} {mem : ℕ → UInt8} {start off stop : ℕ} {ps : List XaExtParam}

/-- Another parameter behind some parameters. -/
lemma ExtParams.snoc (h : ExtParams cmd mem start off ps) :
    ExtParams cmd mem start (extNext mem off) (ps ++ [extParamAt cmd mem off]) := by
  induction h with
  | nil off => exact .cons (.nil _)
  | cons h ih => exact .cons ih

/-- The parameters of a message, one after the other. -/
def extWalk (cmd : XaExtCmd) (mem : ℕ → UInt8) (p : ℕ × List XaExtParam) : ℕ × List XaExtParam :=
  (extNext mem p.1, p.2 ++ [extParamAt cmd mem p.1])

lemma ExtParams.iterate (h : ExtParams cmd mem start off ps) (before : List XaExtParam) :
    (extWalk cmd mem)^[ps.length] (start, before) = (off, before ++ ps) := by
  induction h generalizing before with
  | nil off => exact Prod.ext rfl (List.append_nil _).symm
  | @cons off stop ps h ih =>
    rw [List.length_cons, Function.iterate_succ_apply, extWalk, ih, List.append_assoc,
      List.singleton_append]

lemma ExtParams.length_le (h : ExtParams cmd mem start off ps) : start + 4 * ps.length ≤ off := by
  induction h with
  | nil off => exact le_rfl
  | @cons off stop ps h ih =>
    have hgt := extNext_gt mem off
    rw [List.length_cons]
    omega

/-- There is such an environment for every message and plugin. -/
theorem exists_extEnv (env : XaEnv) (api : XaApiCmd) (buffer : U32) (cmd : XaExtCmd)
    (plugin : XaExtPlugin) (mem : ℕ → UInt8) (hstop : stop ≤ 2 ^ 32) :
    ∃ env', ExtEnv env' api buffer cmd plugin mem stop := by
  let walk (i : U32) := (extWalk cmd mem)^[i.toNat] (0, [])
  let answer (i : U32) : XaAnswer :=
    ⟨!plugin.accepts (walk i).2 (extParamAt cmd mem (walk i).1), 0#32⟩
  refine ⟨{ env with mem := fun a => mem (a - buffer).toNat, api := fun _ i => answer i },
    fun i hi => ?_, fun off ps hps hle => ?_⟩
  · have hoffset : (buffer + BitVec.ofNat 32 i - buffer).toNat = i := by
      rw [add_sub_cancel_left, BitVec.toNat_ofNat, Nat.mod_eq_of_lt (by omega)]
    exact congrArg mem hoffset
  · have hlength := hps.length_le
    have hwalk : walk (BitVec.ofNat 32 ps.length) = (off, ps) := by
      simp only [walk, BitVec.toNat_ofNat, Nat.mod_eq_of_lt (show ps.length < 2 ^ 32 by omega)]
      exact hps.iterate []
    simp only [answer, hwalk]

end Env

/-! ## The loop of the commands -/

section Loop

variable {κ : Type} {s : XaState κ} {w off stop fuel : ℕ} {trace : Bool} {cmd : XaExtCmd}
  {plugin : XaExtPlugin} {mem : ℕ → UInt8} {remaining : BitVec w} {r : XaExtRun} {env : XaEnv}
  {api : XaApiCmd} {buffer : U32}

lemma check_bind {α σ : Type} {c : Bool} {f : Unit → Prog σ α} {t : σ} :
    (Prog.check c >>= f) t = if c then f ⟨⟩ t else .error t := by
  cases c <;> rfl

lemma xaApi_bind {α : Type} {i : U32} {f : U32 → XaProg κ α} :
    (xaApi env api i >>= f) s = if (env.api api i).fatal then .error s else f
    (env.api api i).value s := by
  cases hfatal : (env.api api i).fatal <;>
    simp only [xaApi, hfatal] <;> rfl

/-- The length of a descriptor in memory. -/
lemma ExtEnv.length_eq (h : ExtEnv env api buffer cmd plugin mem stop) (hle : off + 4 ≤ stop) :
    readU16 env.mem (buffer + BitVec.ofNat 32 off + 2#32) = extHalf mem (off + 2) := by
  have hlow : buffer + BitVec.ofNat 32 off + 2#32 = buffer + BitVec.ofNat 32 (off + 2) := by
    rw [add_assoc, BitVec.ofNat_add]
  have hhigh : buffer + BitVec.ofNat 32 (off + 2) + 1#32 = buffer + BitVec.ofNat 32
      (off + 2 + 1) := by
    rw [add_assoc, ← BitVec.ofNat_add]
  rw [readU16, extHalf, hlow, hhigh, h.bytes _ (by omega), h.bytes _ (by omega)]

/-- The address of the next descriptor. -/
lemma next_address (buffer : U32) (off : ℕ) (size : BitVec 16) :
    buffer + BitVec.ofNat 32 (off + 4 + size.toNat) =
      buffer + BitVec.ofNat 32 off + 4#32 + size.setWidth 32 := by
  rw [BitVec.ofNat_add, BitVec.ofNat_add, BitVec.ofNat_toNat, add_assoc, add_assoc, add_assoc]

/-- The loop of the commands, by induction on its fuel. -/
lemma ExtEnv.paramsExt_eq (henv : ExtEnv env api buffer cmd plugin mem stop) (trace : Bool)
    (s : XaState κ) (hw : 16 ≤ w) {fuel' : ℕ} (hfuel : remaining.toNat ≤ fuel')
    (h : ExtAt mem off stop fuel remaining r) (hps : ExtParams cmd mem 0 off r.params)
    (hshort : ExtShort cmd plugin mem r.params off stop)
    (hroom : ExtRoom cmd plugin mem r.params off stop) :
    xaBaseParamsExt env api fuel' (BitVec.ofNat 32 r.params.length)
        (buffer + BitVec.ofNat 32 off) remaining s =
      if (xaExtLoop trace cmd plugin fuel off remaining r).1 then .ok 0#w s else .error s := by
  induction fuel' generalizing fuel off remaining r with
  | zero =>
    have hsum := h.sum
    have hzero : remaining = 0#w := BitVec.eq_of_toNat_eq (by rw [BitVec.toNat_zero]; omega)
    rw [(h.loop_end trace cmd plugin hw (by omega)).2, hzero, if_pos rfl]
    rfl
  | succ fuel' ih =>
    have hsum := h.sum
    rcases Nat.lt_or_ge stop (off + 4) with hlt | hge
    · have hdvd := h.dvd
      have hzero : remaining = 0#w := BitVec.eq_of_toNat_eq (by rw [BitVec.toNat_zero]; omega)
      have hnot : ¬ 4#w ≤ remaining := by
        rw [four_le_iff hw]
        omega
      rw [(h.loop_end trace cmd plugin hw hlt).2, xaBaseParamsExt, if_neg hnot, hzero, if_pos rfl]
      rfl
    · have hfour : 4#w ≤ remaining := (four_le_iff hw).mpr (by omega)
      have hlength : extLength mem off ≤ 65532 := hshort off [] (.nil off) trivial hge
      obtain ⟨fuel, rfl, hres⟩ := h.loop_step trace cmd plugin hw hge
      have hanswer := henv.answers off r.params hps hge
      rw [hres, xaBaseParamsExt, if_pos hfour, henv.length_eq hge, check_bind]
      change (if decide ((extDsize mem off).setWidth w ≤ remaining - 4#w) = true then _ else _) = _
      by_cases hfit : off + 4 + (extDsize mem off).toNat ≤ stop
      · rw [if_pos hfit, if_pos (decide_eq_true ((h.fits_iff hw hge).mpr hfit)),
          xaApi_bind, hanswer]
        have hdsize : (extDsize mem off).toNat = alignUp 4 (extLength mem off) :=
          toNat_dsize hlength
        have hstop : extNext mem off ≤ stop := by rwa [extNext, ← hdsize]
        have hsize := hroom.here hstop
        obtain ⟨-, hparams, hok⟩ := h.descriptor_done trace cmd plugin hsize
        obtain ⟨hnext, hat⟩ := h.next trace cmd plugin hw hlength hstop hsize
        have hrest := h.toNat_rest hw hfit
        cases haccepts : plugin.accepts r.params (extParamAt cmd mem off) with
        | false =>
          have hfalse := hok.trans haccepts
          have hnot : ¬ (r.descriptor trace cmd plugin mem off).1 = true :=
            Bool.eq_false_iff.mp hfalse
          rw [if_neg hnot, if_neg hnot]
          rfl
        | true =>
          rw [if_pos (hok.trans haccepts), ← hnext]
          have hrec := ih (by omega) hat (hparams ▸ hps.snoc) (hparams ▸ hshort.next haccepts)
            (hparams ▸ hroom.next haccepts)
          rw [hparams, List.length_append, List.length_singleton, BitVec.ofNat_add, hnext,
            next_address] at hrec
          rw [hnext]
          exact hrec
      · have hnot (hle : decide ((extDsize mem off).setWidth w ≤ remaining - 4#w) = true) : False :=
          hfit ((h.fits_iff hw hge).mp (of_decide_eq_true hle))
        rw [if_neg hfit, if_neg hnot]
        rfl

/-- The loop from the start of a message on. -/
lemma ExtEnv.run_eq (henv : ExtEnv env api buffer cmd plugin mem stop) (s : XaState κ)
    (hw : 16 ≤ w) {fuel' : ℕ} (hfuel : remaining.toNat ≤ fuel') (hstop : remaining.toNat = stop)
    (hdvd : 4 ∣ stop) (hshort : ExtShort cmd plugin mem [] 0 stop)
    (hroom : ExtRoom cmd plugin mem [] 0 stop) :
    ∃ call, xaExtRun false cmd plugin mem remaining = some call ∧
      xaBaseParamsExt env api fuel' 0#32 buffer remaining s =
        if call.1 then .ok 0#w s else .error s := by
  subst hstop
  have htraced : xaExtTraced false mem remaining = some ⟨mem, [], []⟩ := rfl
  refine ⟨_, congrArg (Option.map _) htraced, ?_⟩
  have heq := henv.paramsExt_eq false s hw hfuel (extAt_start hdvd htraced).2 (.nil 0) hshort hroom
  rw [BitVec.add_zero] at heq
  exact heq

end Loop

section Commands

variable {κ : Type} {env : XaEnv} {m : XfMessage} {plugin : XaExtPlugin} {mem : ℕ → UInt8}
  {s : XaState κ}

/-- Nothing may be left of a message. -/
lemma bind_check_remaining {w : ℕ} {x : XaProg κ (BitVec w)} {f : Unit → XaProg κ Unit} {c : Bool}
    (h : x s = if c then .ok 0#w s else .error s) :
    (x >>= fun remaining => Prog.check (remaining = 0#w) >>= f) s = if c then f ⟨⟩ s
    else .error s := by
  change Prog.bind x _ s = _
  rw [Prog.bind, h]
  cases c with
  | false => rfl
  | true =>
    rw [if_pos rfl, if_pos rfl]
    change (Prog.check (decide (0#w = 0#w)) >>= f) s = _
    rw [check_bind, if_pos (decide_eq_true rfl)]

/-- The command `XF_SET_PARAM_EXT` of a component responds to the messages that are accepted, if no
length wraps around and the plugin accesses only the data of the descriptors. -/
theorem xaBaseSetParamExt_accepts
    (henv : ExtEnv env .setConfigParam m.buffer .set plugin mem (alignUp 4 m.length.toNat))
    (hlength : m.length.toNat ≤ 65532)
    (hshort : ExtShort .set plugin mem [] 0 (alignUp 4 m.length.toNat))
    (hroom : ExtRoom .set plugin mem [] 0 (alignUp 4 m.length.toNat)) (s : XaState κ) :
    ∃ call, xaBaseSetParamExtBytes false plugin mem m.length = some call ∧
      xaBaseSetParamExt env m s = if call.1 then xfResponse m s else .error s := by
  have hfour : (4#16).toNat = 2 ^ 2 := rfl
  have hwidth : (m.length.setWidth 16).toNat = m.length.toNat := by
    rw [BitVec.toNat_setWidth, Nat.mod_eq_of_lt (by omega)]
  have hround : ((m.length.setWidth 16 + 3#16) &&& ~~~3#16).toNat =
      alignUp 4 (m.length.setWidth 16).toNat := (toNat_round hfour).1 (by omega)
  rw [hwidth] at hround
  have hfuel : ((m.length.setWidth 16 + 3#16) &&& ~~~3#16).toNat ≤ 2 ^ 16 := (BitVec.isLt _).le
  obtain ⟨call, hcall, heq⟩ :=
    henv.run_eq s le_rfl hfuel hround (dvd_alignUp 4 _) hshort hroom
  have hsame : m.withLength ((m.length.setWidth 16).setWidth 32) = m := by
    have hlen : (m.length.setWidth 16).setWidth 32 = m.length := by
      refine BitVec.eq_of_toNat_eq ?_
      rw [BitVec.toNat_setWidth, hwidth, Nat.mod_eq_of_lt (by omega)]
    rw [hlen]
    rfl
  refine ⟨call, hcall, ?_⟩
  rw [xaBaseSetParamExt, hsame]
  exact bind_check_remaining heq

/-- The command `XF_GET_PARAM_EXT` likewise. -/
theorem xaBaseGetParamExt_accepts
    (henv : ExtEnv env .getConfigParam m.buffer .get plugin mem (alignUp 4 m.length.toNat))
    (hlength : m.length.toNat ≤ 2 ^ 32 - 4)
    (hshort : ExtShort .get plugin mem [] 0 (alignUp 4 m.length.toNat))
    (hroom : ExtRoom .get plugin mem [] 0 (alignUp 4 m.length.toNat)) (s : XaState κ) :
    ∃ call, xaBaseGetParamExtBytes false plugin mem m.length = some call ∧
      xaBaseGetParamExt env m s = if call.1 then xfResponse m s else .error s := by
  have hfour : (4#32).toNat = 2 ^ 2 := rfl
  have hround : ((m.length + 3#32) &&& ~~~3#32).toNat = alignUp 4 m.length.toNat :=
    (toNat_round hfour).1 (by omega)
  have hfuel : ((m.length + 3#32) &&& ~~~3#32).toNat ≤ 2 ^ 32 := (BitVec.isLt _).le
  obtain ⟨call, hcall, heq⟩ :=
    henv.run_eq s (by decide) hfuel hround (dvd_alignUp 4 _) hshort hroom
  exact ⟨call, hcall, bind_check_remaining heq⟩

end Commands

end Hikey
