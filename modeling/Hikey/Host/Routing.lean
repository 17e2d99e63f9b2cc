import Mathlib.Data.Set.Card
import Hikey.Foundation.Run
import Hikey.Host.Proxy

/-!
# Connections of components (`proxy/xaf-api.c`)

The host counts the ports of a component that it has routed, and the DSP keeps in the output port of
a component that it is routed, and where to.  Connecting writes both, and disconnecting the DSP
only.
-/

namespace Hikey

/-! ## The source -/

/-- `XAF_INVALID_VALUE`. -/
def xafInvalidValue : ℤ := -2

/-- `XAF_ROUTING_ERROR`. -/
def xafRoutingError : ℤ := -3

/-- `xaf_comp_type`. -/
inductive XafCompType
  | decoder
  | encoder
  | mixer
  | preProc
  | postProc
deriving DecidableEq, Repr

/-- `xaf_comp_t`: what its connections use of it. -/
structure XafComp where
  inpRouted : ℕ
  outRouted : ℕ
  inpPorts : ℕ
  outPorts : ℕ
  initDone : Bool
  /-- `out_format.output_length`. -/
  outputLength : U32

/-- `xaf_comp_create`, the part about ports. -/
def xafCompCreate (type : XafCompType) : XafComp where
  inpRouted := 0
  outRouted := 0
  inpPorts := match type with
    | .mixer => 4
    | .decoder | .encoder | .preProc | .postProc => 1
  outPorts := 1
  initDone := false
  outputLength := 0

/-- A component on the DSP: its output port, the number that this port has in commands, and the
component and the input port that it is routed to. -/
structure XaRoutedComp (ι : Type*) where
  postinit : Bool
  outPort : ℕ
  output : Option (ι × ℕ)

/-- The DSP component of a new component of the host: the codec has its output port behind one input
port, and the mixer behind `XA_MIXER_MAX_TRACK_NUMBER`. -/
def xaRoutedCompCreate (ι : Type*) (type : XafCompType) : XaRoutedComp ι where
  postinit := false
  outPort := match type with
    | .mixer => 4
    | .decoder | .encoder | .preProc | .postProc => 1
  output := none

section Dsp

variable {ι : Type*}

/-- `xa_codec_port_route` and `xa_mixer_port_route`; `alloc` is the success of
`xf_output_port_route`. -/
def xaPortRoute (alloc : Bool) (c : XaRoutedComp ι) (port : ℕ) (dst : ι × ℕ) :
    Option (XaRoutedComp ι) :=
  if !c.postinit then none
  else if port ≠ c.outPort then none
  else if c.output.isSome then none
  else if !alloc then none
  else some { c with output := some dst }

/-- `xa_codec_port_unroute` and `xa_mixer_port_unroute`, until their response. -/
def xaPortUnroute (c : XaRoutedComp ι) (port : ℕ) : Option (XaRoutedComp ι) :=
  if !c.postinit then none
  else if port ≠ c.outPort then none
  else some { c with output := none }

/-- What happens to a command: whether there is an auxiliary buffer, and memory on the DSP. -/
structure XafRouteEnv where
  buffer : Bool
  alloc : Bool

variable [DecidableEq ι]

/-- `xf_route`, and the command on the DSP. -/
def xfRouteDsp (env : XafRouteEnv) (dsp : ι → XaRoutedComp ι) (src : ι) (srcPort : ℕ) (dst : ι × ℕ)
    (num size align : U32) : (ι → XaRoutedComp ι) × ℤ :=
  if ¬(num ≠ 0 ∧ size ≠ 0 ∧ xfIsPowerOfTwo align) then (dsp, xfEInval)
  else if !env.buffer then (dsp, xfEBusy)
  else
    match xaPortRoute env.alloc (dsp src) srcPort dst with
    | some c => (Function.update dsp src c, 0)
    | none => (dsp, xfENoMem)

/-- `xf_unroute`, and the command on the DSP. -/
def xfUnrouteDsp (env : XafRouteEnv) (dsp : ι → XaRoutedComp ι) (src : ι) (srcPort : ℕ) :
    (ι → XaRoutedComp ι) × ℤ :=
  if !env.buffer then (dsp, xfEBusy)
  else
    match xaPortUnroute (dsp src) srcPort with
    | some c => (Function.update dsp src c, 0)
    | none => (dsp, xfEBadFd)

end Dsp

/-- The components on the host and on the DSP. -/
structure XafRouting (ι : Type*) where
  comps : ι → XafComp
  dsp : ι → XaRoutedComp ι

section Host

variable {ι : Type*}

/-- The check of `xaf_connect`. -/
def XafRouting.accepts (s : XafRouting ι) (src dst : ι) : Bool :=
  (s.comps src).initDone && (s.comps src).outRouted != (s.comps src).outPorts &&
    (s.comps dst).inpRouted != (s.comps dst).inpPorts

/-- `xaf_connect`. -/
def xafConnect [DecidableEq ι] (env : XafRouteEnv) (s : XafRouting ι) (src dst : ι) (numBuf : ℤ) :
    XafRouting ι × ℤ :=
  if numBuf < 2 ∨ 4 < numBuf then (s, xafInvalidValue)
  else if !s.accepts src dst then (s, xafRoutingError)
  else
    let (dsp, r) := xfRouteDsp env s.dsp src ((s.comps src).inpPorts + (s.comps src).outRouted)
      (dst, (s.comps dst).inpRouted) (BitVec.ofInt 32 numBuf) (s.comps src).outputLength 8
    if r < 0 then ({ s with dsp := dsp }, r)
    else
      let comps := Function.update s.comps src
        { s.comps src with outRouted := (s.comps src).outRouted + 1 }
      (⟨Function.update comps dst { comps dst with inpRouted := (comps dst).inpRouted + 1 }, dsp⟩,
        0)

/-- `xaf_disconnect`. -/
def xafDisconnect [DecidableEq ι] (env : XafRouteEnv) (s : XafRouting ι) (comp : ι) :
    XafRouting ι × ℤ :=
  if !(s.comps comp).initDone ∨
    (s.comps comp).outRouted ≠ (s.comps comp).outPorts then (s, xafRoutingError)
  else
    let (dsp, r) := xfUnrouteDsp env s.dsp comp (s.comps comp).inpPorts
    if r < 0 then ({ s with dsp := dsp }, r) else ({ s with dsp := dsp }, 0)

/-! ## Runs -/

/-- The calls. -/
inductive XafRoutingOp (ι : Type*)
  | connect (env : XafRouteEnv) (src dst : ι) (numBuf : ℤ)
  | disconnect (env : XafRouteEnv) (comp : ι)

/-- The state after a call. -/
def XafRouting.next [DecidableEq ι] (s : XafRouting ι) : XafRoutingOp ι → XafRouting ι
  | .connect env src dst numBuf => (xafConnect env s src dst numBuf).1
  | .disconnect env comp => (xafDisconnect env s comp).1

/-- A disconnection does not get to the DSP, or is refused there. -/
def XafRoutingOp.Clean (s : XafRouting ι) : XafRoutingOp ι → Prop
  | .connect _ _ _ _ => True
  | .disconnect env comp =>
    (s.comps comp).initDone = false ∨ (s.comps comp).outRouted ≠ (s.comps comp).outPorts ∨
      env.buffer = false ∨ (s.dsp comp).postinit = false

/-- New components, initialized on the host and on the DSP or not. -/
def XafRouting.Start (s : XafRouting ι) : Prop :=
  ∀ i, ∃ type initDone outputLength postinit,
    s.comps i = { xafCompCreate type with initDone := initDone, outputLength := outputLength } ∧
      s.dsp i = { xaRoutedCompCreate ι type with postinit := postinit }

/-- How many output ports of a component are routed on the DSP. -/
def XafRouting.routedOut (s : XafRouting ι) (i : ι) : ℕ := if (s.dsp i).output.isSome then 1 else 0

/-- The input ports of a component that are routed to on the DSP. -/
def XafRouting.inputs (s : XafRouting ι) (i : ι) : Set ℕ :=
  {j | ∃ k, (s.dsp k).output = some (i, j)}

/-- The counters are right, and a connection is accepted exactly if both its ports are free. -/
structure XafRoutingExact (s : XafRouting ι) : Prop where
  out : ∀ i, (s.comps i).outRouted = s.routedOut i
  inp : ∀ i, (s.comps i).inpRouted = (s.inputs i).ncard
  accepts : ∀ src dst, s.accepts src dst ↔ (s.comps src).initDone ∧
    s.routedOut src < (s.comps src).outPorts ∧ (s.inputs dst).ncard < (s.comps dst).inpPorts

/-! ## The invariant -/

/-- The input ports below the counter are those that are routed to. -/
structure XafRoutingInv (s : XafRouting ι) : Prop where
  ports : ∀ i, (s.comps i).outPorts = 1
  le : ∀ i, (s.comps i).inpRouted ≤ (s.comps i).inpPorts
  out : ∀ i, (s.comps i).outRouted = s.routedOut i
  inp : ∀ i j, j ∈ s.inputs i ↔ j < (s.comps i).inpRouted

variable {s s' : XafRouting ι}

lemma XafRoutingInv.start (hstart : s.Start) : XafRoutingInv s := by
  refine ⟨fun i => ?_, fun i => ?_, fun i => ?_, fun i j => ?_⟩
  · obtain ⟨type, initDone, outputLength, postinit, hcomp, -⟩ := hstart i
    rw [hcomp]
    rfl
  · obtain ⟨type, initDone, outputLength, postinit, hcomp, -⟩ := hstart i
    rw [hcomp]
    exact Nat.zero_le _
  · obtain ⟨type, initDone, outputLength, postinit, hcomp, hdsp⟩ := hstart i
    rw [XafRouting.routedOut, hcomp, hdsp]
    rfl
  · obtain ⟨type, initDone, outputLength, postinit, hcomp, -⟩ := hstart i
    rw [hcomp]
    refine iff_of_false ?_ (Nat.not_lt_zero j)
    rintro ⟨k, hk⟩
    obtain ⟨type, initDone, outputLength, postinit, -, hdsp⟩ := hstart k
    rw [hdsp] at hk
    cases hk

lemma XafRoutingInv.ncard_inputs (hinv : XafRoutingInv s) (i : ι) :
    (s.inputs i).ncard = (s.comps i).inpRouted := by
  have hset : s.inputs i = ↑(Finset.range (s.comps i).inpRouted) := by
    ext j
    rw [hinv.inp, Finset.mem_coe, Finset.mem_range]
  rw [hset, Set.ncard_coe_finset, Finset.card_range]

lemma XafRoutingInv.exact (hinv : XafRoutingInv s) : XafRoutingExact s where
  out := hinv.out
  inp i := (hinv.ncard_inputs i).symm
  accepts src dst := by
    have hle := hinv.le dst
    have hout := hinv.out src
    have hone : s.routedOut src ≤ 1 := by
      rw [XafRouting.routedOut]
      split <;> decide
    rw [hinv.ncard_inputs, XafRouting.accepts, hinv.ports, hout]
    simp only [Bool.and_eq_true, bne_iff_ne, and_assoc]
    refine and_congr Iff.rfl (and_congr ?_ ?_) <;> omega

variable [DecidableEq ι]

/-- A command to route is executed, or changes nothing. -/
lemma xfRouteDsp_spec (env : XafRouteEnv) (dsp : ι → XaRoutedComp ι) (src : ι) (srcPort : ℕ)
    (dst : ι × ℕ)
    (num size align : U32) :
    (∃ r, r < 0 ∧ xfRouteDsp env dsp src srcPort dst num size align = (dsp, r)) ∨
      (dsp src).output = none ∧ ∃ c : XaRoutedComp ι, c.output = some dst ∧
        xfRouteDsp env dsp src srcPort dst num size align = (Function.update dsp src c, 0) := by
  rw [xfRouteDsp]
  split
  · exact .inl ⟨_, by decide, rfl⟩
  · split
    · exact .inl ⟨_, by decide, rfl⟩
    · rw [xaPortRoute]
      split
      · rename_i c hc
        split_ifs at hc with hpost hport hout halloc
        obtain rfl := Option.some.inj hc
        exact .inr ⟨by simpa using hout, _, rfl, rfl⟩
      · exact .inl ⟨_, by decide, rfl⟩

/-- The input ports that are routed to, after one more connection. -/
lemma mem_inputs_connected {src dst : ι} {c : XaRoutedComp ι} {n : ℕ}
    (hfree : (s.dsp src).output = none)
    (hc : c.output = some (dst, n)) (hdsp : s'.dsp = Function.update s.dsp src c) (i : ι) (j : ℕ) :
    j ∈ s'.inputs i ↔ j ∈ s.inputs i ∨ i = dst ∧ j = n := by
  constructor
  · rintro ⟨k, hk⟩
    by_cases hks : k = src
    · subst hks
      rw [hdsp, Function.update_self, hc] at hk
      obtain ⟨rfl, rfl⟩ := Prod.ext_iff.1 (Option.some.inj hk)
      exact .inr ⟨rfl, rfl⟩
    · rw [hdsp, Function.update_of_ne hks] at hk
      exact .inl ⟨k, hk⟩
  · rintro (⟨k, hk⟩ | ⟨rfl, rfl⟩)
    · have hks : k ≠ src := by
        rintro rfl
        cases hfree.symm.trans hk
      exact ⟨k, by rw [hdsp, Function.update_of_ne hks, hk]⟩
    · exact ⟨src, by rw [hdsp, Function.update_self, hc]⟩

/-- Both ports of a connection are counted. -/
lemma XafRoutingInv.connected (hinv : XafRoutingInv s) {src dst : ι} {c : XaRoutedComp ι}
    (hfree : (s.dsp src).output = none) (hc : c.output = some (dst, (s.comps dst).inpRouted))
    (hfull : (s.comps dst).inpRouted ≠ (s.comps dst).inpPorts)
    (hdsp : s'.dsp = Function.update s.dsp src c)
    (hcomps : ∀ i, s'.comps i = { s.comps i with
      outRouted := if i = src then (s.comps i).outRouted + 1 else (s.comps i).outRouted
      inpRouted := if i = dst then (s.comps i).inpRouted + 1 else (s.comps i).inpRouted }) :
    XafRoutingInv s' := by
  refine ⟨fun i => ?_, fun i => ?_, fun i => ?_, fun i j => ?_⟩
  · rw [hcomps]
    exact hinv.ports i
  · have hle := hinv.le i
    rw [hcomps]
    simp only
    split
    · rename_i hi
      subst hi
      omega
    · exact hle
  · have hout := hinv.out i
    rw [hcomps, XafRouting.routedOut, hdsp]
    simp only
    by_cases hi : i = src
    · subst hi
      rw [XafRouting.routedOut, hfree] at hout
      simpa [hc] using hout
    · rw [if_neg hi, Function.update_of_ne hi]
      exact hout
  · rw [mem_inputs_connected hfree hc hdsp, hinv.inp, hcomps]
    simp only
    by_cases hi : i = dst
    · subst hi
      simp only [if_true, true_and]
      omega
    · simp [hi]

/-- A connection routes the next input port. -/
lemma XafRoutingInv.connect (hinv : XafRoutingInv s) (env : XafRouteEnv) (src dst : ι)
    (numBuf : ℤ) :
    XafRoutingInv (xafConnect env s src dst numBuf).1 := by
  rw [xafConnect]
  split
  · exact hinv
  · split
    · exact hinv
    · rename_i haccepts
      simp only [XafRouting.accepts, Bool.not_eq_true', Bool.not_eq_false, Bool.and_eq_true,
        bne_iff_ne] at haccepts
      obtain ⟨⟨-, -⟩, hfull⟩ := haccepts
      rcases xfRouteDsp_spec env s.dsp src ((s.comps src).inpPorts + (s.comps src).outRouted)
        (dst, (s.comps dst).inpRouted) (BitVec.ofInt 32 numBuf) (s.comps src).outputLength 8 with
        ⟨r, hr, hroute⟩ | ⟨hfree, c, hc, hroute⟩
      · rw [hroute]
        simp only [if_pos hr]
        exact hinv
      · rw [hroute]
        simp only [lt_irrefl, if_false]
        refine hinv.connected hfree hc hfull rfl fun i => ?_
        by_cases hd : i = dst <;> by_cases hs : i = src
        · subst hd hs
          simp
        · subst hd
          simp [hs]
        · subst hs
          simp [hd]
        · simp [hs, hd]

lemma XafRoutingInv.disconnect (hinv : XafRoutingInv s) {env : XafRouteEnv} {comp : ι}
    (hclean : (XafRoutingOp.disconnect env comp).Clean s) :
    XafRoutingInv (xafDisconnect env s comp).1 := by
  rw [xafDisconnect]
  split
  · exact hinv
  · rename_i hcheck
    obtain ⟨hinit, hrouted⟩ := not_or.1 hcheck
    have hdsp : (xfUnrouteDsp env s.dsp comp (s.comps comp).inpPorts).1 = s.dsp := by
      rw [xfUnrouteDsp]
      rcases hclean with hclean | hclean | hclean | hclean
      · exact absurd (by simpa using hclean) hinit
      · exact absurd hclean hrouted
      · rw [hclean]
        rfl
      · rw [xaPortUnroute, hclean]
        split <;> rfl
    simp only [hdsp]
    split <;> exact hinv

/-- A call that the counters are right for. -/
def XafRoutingCleanStep (s s' : XafRouting ι) : Prop :=
  ∃ op : XafRoutingOp ι, op.Clean s ∧ s.next op = s'

lemma XafRoutingInv.step (hinv : XafRoutingInv s) (hstep : XafRoutingCleanStep s s') :
    XafRoutingInv s' := by
  obtain ⟨op, hclean, rfl⟩ := hstep
  cases op with
  | connect env src dst numBuf => exact hinv.connect env src dst numBuf
  | disconnect env comp => exact hinv.disconnect hclean

/-- In every run in which no component is disconnected, the counters are right. -/
theorem xafRouting_exact (s₀ s : XafRouting ι) (hstart : s₀.Start)
    (hrun : Relation.ReflTransGen XafRoutingCleanStep s₀ s) : XafRoutingExact s :=
  (run_invariant XafRoutingInv (fun _ _ => XafRoutingInv.step) (.start hstart) hrun).exact

end Host

/-- A decoder and a mixer. -/
def decoderMixer : XafRouting Bool where
  comps := fun i => { xafCompCreate
    (if i then .mixer else .decoder) with initDone := true, outputLength := 64 }
  dsp := fun i => { xaRoutedCompCreate Bool (if i then .mixer else .decoder) with postinit := true }

lemma decoderMixer_start : decoderMixer.Start := fun _ => ⟨_, _, _, _, rfl, rfl⟩

/-- The decoder is connected to the mixer. -/
theorem xafRouting_exact_connect :
    XafRoutingExact (decoderMixer.next (.connect ⟨true, true⟩ false true 2)) :=
  xafRouting_exact decoderMixer _ decoderMixer_start <|
    .single ⟨.connect ⟨true, true⟩ false true 2, trivial, rfl⟩

/-- The decoder is disconnected again, and its output port still counts. -/
theorem xafRouting_exact_disconnect :
    ¬∀ s₀ s : XafRouting Bool, s₀.Start →
      Relation.ReflTransGen (fun s s' => ∃ op : XafRoutingOp Bool, s.next op = s') s₀ s →
        XafRoutingExact s := by
  intro hall
  have hexact := hall decoderMixer ((decoderMixer.next (.connect ⟨true, true⟩ false true 2)).next
    (.disconnect ⟨true, true⟩ false)) decoderMixer_start <|
    (Relation.ReflTransGen.single ⟨_, rfl⟩).tail ⟨_, rfl⟩
  exact absurd (hexact.out false) (by decide)

end Hikey
