import Hikey.Component.Rules
import Hikey.Foundation.Run
import Hikey.Sched.Shape

/-!
# A component in its system

The system delivers the commands of the proxy to a component, hands messages back and forth between
the component and the sink that its output port is routed to, and runs the tasks of the scheduler.
Messages between two components are delivered in order: `back` is the queue of the messages that the
sink has returned and the component has not yet received.
-/

namespace Hikey

open Prog

variable {κ : Type} {cls : XaClass κ} {s s' : XaState κ}

/-- An event of the system.  `command` is a command from the proxy, `deliver` the arrival of the
next message that the sink has returned, `sinkReturn` the return of a message with the given index
and a new length, `process` the run of the next task of the scheduler; `otherPut` and `otherCancel`
are the doing of other tasks. -/
inductive XaEvent
  | command (env : XaEnv) (m : XfMessage)
  | deliver (env : XaEnv)
  | sinkReturn (i : ℕ) (length : U32)
  | process (env : XaEnv)
  | otherPut (t ts : U32)
  | otherCancel (t : U32)

/-- The state after a program, whether it returned or ended with an error. -/
def Prog.after {α : Type} (x : XaProg κ α) (s : XaState κ) : Option (XaState κ) :=
  match x s with
  | .ok _ s => some s
  | .error s => some s
  | .undefined => none

lemma Prog.after_of_wp {α : Type} {x : XaProg κ α} {I : XaState κ → Prop}
    (h : wp x (fun _ => I) I s) (hs' : Prog.after x s = some s') : I s' := by
  unfold Prog.after at hs'
  unfold wp at h
  cases hx : x s with
  | ok a t => rw [hx] at h hs'; exact Option.some_inj.mp hs' ▸ h
  | error t => rw [hx] at h hs'; exact Option.some_inj.mp hs' ▸ h
  | undefined => rw [hx] at hs'; cases hs'

/-- Only a running component is processed, and its errors are ignored. -/
lemma after_xfCoreProcess {env : XaEnv} {I : XaState κ → Prop}
    (hs' : Prog.after (xfCoreProcess cls env) s = some s')
    (h : s.phase = .running → wp (xaBaseProcess cls.toXaHooks env) (fun _ => I) I s) : I s' := by
  refine Prog.after_of_wp ?_ hs'
  rw [xfCoreProcess, wp_bind, wp_get]
  cases hphase : s.phase with
  | running =>
    rw [wp_orElse]
    exact wp_mono (h hphase) (fun _ _ ht => ht) fun _ ht => ht
  | terminating | destroyed =>
    rw [wp_update]
    rintro t a ⟨⟩

/-- The flow-control message is item `0` of its pool. -/
def XfMessage.isFlowControl (m : XfMessage) : Bool :=
  match m.ptr with
  | .proxy _ => false
  | .item _ i => i = 0#32

/-- The message as the sink returns it: a data message with some length, the flow-control message as
it was received. -/
def XfMessage.returned (m : XfMessage) (length : U32) : XfMessage :=
  if m.isFlowControl then m.turn else (m.withLength length).turn

/-- One event. -/
def xaStep (cls : XaClass κ) (s : XaState κ) : XaEvent → Option (XaState κ)
  | .command env m => Prog.after (xfCoreDispatch cls env m) s
  | .deliver env =>
    match s.core.back with
    | [] => none
    | m :: back =>
      Prog.after (xfCoreDispatch cls env m) { s with core := { s.core with back := back } }
  | .sinkReturn i length =>
    match s.core.sink[i]? with
    | none => none
    | some m =>
      some { s with
        core := { s.core with
          sink := s.core.sink.eraseIdx i
          back := s.core.back ++ [m.returned length] } }
  | .process env =>
    match xfSchedGet s.core.sched with
    | some (sched, some t) =>
      let s := { s with core := { s.core with sched := sched } }
      if t = s.task then Prog.after (xfCoreProcess cls env) s else some s
    | _ => none
  | .otherPut t ts =>
    (xfSchedPut s.core.sched t ts).map fun sched =>
      { s with core := { s.core with sched := sched } }
  | .otherCancel t =>
    (xfSchedCancel s.core.sched t).map fun sched =>
      { s with core := { s.core with sched := sched } }

/-- What the system may do: the proxy sends messages of its own, the sink returns the flow-control
message only when it has returned every message that it received before, and other tasks are put
into the scheduler when they are not in there, and cancelled when they are. -/
def XaEvent.Allowed (s : XaState κ) : XaEvent → Prop
  | .command _ m => m.pooled = false
  | .deliver _ => True
  | .sinkReturn i _ => ∀ m, s.core.sink[i]? = some m → m.isFlowControl = true → i = 0
  | .process _ => True
  | .otherPut t _ => t ≠ s.task ∧ ∀ L, XfSchedShape s.core.sched L → t ∉ L
  | .otherCancel t => t ≠ s.task ∧ ∀ L, XfSchedShape s.core.sched L → t ∈ L

/-- The message that an event delivers to the component. -/
def XaEvent.message (s : XaState κ) : XaEvent → Option XfMessage
  | .command _ m => some m
  | .deliver _ => s.core.back.head?
  | _ => none

/-- What an event does: it dispatches a message, it processes the component, or it changes nothing
but the core.  The message or the task has been taken from the core before. -/
inductive XaEffect (cls : XaClass κ) (s s' : XaState κ) : XaEvent → Prop
  | command {env : XaEnv} {m : XfMessage}
      (hstep : Prog.after (xfCoreDispatch cls env m) s = some s') : XaEffect cls s s'
        (.command env m)
  | deliver {env : XaEnv} {m : XfMessage} {back : List XfMessage} (hback : s.core.back = m :: back)
      (hstep : Prog.after (xfCoreDispatch cls env m)
        { s with core := { s.core with back := back } } = some s') : XaEffect cls s s'
          (.deliver env)
  | process {env : XaEnv} {sched : XfSched}
      (hget : xfSchedGet s.core.sched = some (sched, some s.task))
      (hstep : Prog.after (xfCoreProcess cls env)
        { s with core := { s.core with sched := sched } } = some s') : XaEffect cls s s'
          (.process env)
  | idle {e : XaEvent} {core : XfCore} (hstep : { s with core := core } = s')
      (hmessage : e.message s = none) (hsink : core.sink.Sublist s.core.sink)
      (hproxy : core.proxy = s.core.proxy) (hptr : core.memPtr = s.core.memPtr) : XaEffect
        cls s s' e

lemma xaStep_effect {e : XaEvent} (hstep : xaStep cls s e = some s') : XaEffect cls s s' e := by
  cases e with
  | command env m => exact .command hstep
  | deliver env =>
    cases hback : s.core.back with
    | nil => simp [xaStep, hback] at hstep
    | cons m back => exact .deliver hback (by simpa only [xaStep, hback] using hstep)
  | sinkReturn i length =>
    cases hget : s.core.sink[i]? with
    | none => simp [xaStep, hget] at hstep
    | some m =>
      simp only [xaStep, hget, Option.some.injEq] at hstep
      exact .idle hstep rfl (List.eraseIdx_sublist _ _) rfl rfl
  | process env =>
    simp only [xaStep] at hstep
    split at hstep
    · next sched n hget =>
      split at hstep
      · next htask => exact .process (htask ▸ hget) hstep
      · exact .idle (Option.some_inj.mp hstep) rfl (.refl _) rfl rfl
    · cases hstep
  | otherPut t ts | otherCancel t =>
    simp only [xaStep, Option.map_eq_some_iff] at hstep
    obtain ⟨sched, -, hstep⟩ := hstep
    exact .idle hstep rfl (.refl _) rfl rfl

/-- A step by an event that is allowed and meets a condition on the state before it. -/
def XaStepIf (cls : XaClass κ) (C : XaState κ → XaEvent → Prop) (s s' : XaState κ) : Prop :=
  ∃ e : XaEvent, e.Allowed s ∧ C s e ∧ xaStep cls s e = some s'

/-- A run whose events all meet a condition. -/
abbrev XaRun (cls : XaClass κ) (C : XaState κ → XaEvent → Prop) :=
  Relation.ReflTransGen (XaStepIf cls C)

/-! ## Runs on fixed events -/

/-- The events of a run that only involve the component and its sink. -/
def XaEvent.allowed (s : XaState κ) : XaEvent → Bool
  | .command _ m => !m.pooled
  | .sinkReturn i _ => i = 0 || (s.core.sink[i]?).all fun m => !m.isFlowControl
  | .otherPut _ _ => false
  | .otherCancel _ => false
  | _ => true

/-- The state after the events, which must meet a condition. -/
def xaRun (cls : XaClass κ) (C : XaState κ → XaEvent → Prop) [∀ s e, Decidable (C s e)] :
    XaState κ → List XaEvent → Option (XaState κ)
  | s, [] => some s
  | s, e :: es =>
    if e.allowed s = true ∧ C s e then
      match xaStep cls s e with
      | none => none
      | some s => xaRun cls C s es
    else none

lemma XaEvent.allowed_iff {e : XaEvent} (h : e.allowed s = true) : e.Allowed s := by
  cases e with
  | command env m => simpa [allowed, Allowed] using h
  | deliver env => trivial
  | sinkReturn i length =>
    intro m hm hctl
    have : i = 0 ∨ m.isFlowControl = false := by simpa [allowed, hm] using h
    rcases this with hi | hi
    · exact hi
    · rw [hctl] at hi
      cases hi
  | process env => trivial
  | otherPut t ts => cases h
  | otherCancel t => cases h

/-- The answers of a plugin that is done with each stage in one step, has an input buffer of no
bytes, that is the bypass mode, and an output buffer of 4 bytes, and neither consumes nor produces
anything. -/
def XaApiCmd.oneStep : XaApiCmd → U32 → XaAnswer
  | .getNMemtabs, _ => ⟨false, 2#32⟩
  | .getMemInfoType, idx => ⟨false, if idx = 0#32 then 2#32 else 3#32⟩
  | .getMemInfoSize, idx => ⟨false, if idx = 0#32 then 0#32 else 4#32⟩
  | .initDoneQuery, _ => ⟨false, 1#32⟩
  | .doneQuery, _ => ⟨false, 1#32⟩
  | .getConfigParam, idx => ⟨false, if idx = 0x10001#32 then 48000#32
      else if idx = 0x10000#32 then 1#32 else 16#32⟩
  | _, _ => ⟨false, 0#32⟩

/-- An environment of that plugin, with zeros in memory. -/
def XaEnv.oneStep : XaEnv where
  api := XaApiCmd.oneStep
  mem := fun _ => 0
  alloc := fun i => 0x1000#32 + 0x40#32 * i
  block := fun _ => none
  persist := fun _ => 0#32
  scratch := 0x100#32
  done := 0#32

/-- A command of the host to a port. -/
def XfMessage.host (k : ℕ) (opcode : XfOpcode) (port : XfPortSpec) (length buffer : U32) :
    XfMessage :=
  ⟨.proxy k, ⟨0x8000#16, port <<< 8⟩, opcode, length, buffer⟩

/-- A core on which nothing is scheduled. -/
def XfCore.sample : XfCore where
  sched := xfSchedInit fun _ => ⟨none, none, none, 0⟩
  sink := []
  back := []
  proxy := []
  mem := []
  memPtr := fun _ => 0#32

/-- A codec on this core. -/
def xaAudioCodecSample : XaState XaCodec :=
  xaAudioCodecFactory 64#32 (fun i => ⟨.item 0#32 i, ⟨0#16, 0#16⟩, .other, 0#32, 0#32⟩) .sample

variable {C : XaState κ → XaEvent → Prop} [∀ s e, Decidable (C s e)]

/-- A run on fixed events is a run. -/
lemma xaRun_reach {es : List XaEvent} (h : xaRun cls C s es = some s') : XaRun cls C s s' := by
  induction es generalizing s with
  | nil =>
    obtain rfl : s = s' := by simpa [xaRun] using h
    exact .refl
  | cons e es ih =>
    rw [xaRun] at h
    split at h
    · next hallowed =>
      cases hstep : xaStep cls s e with
      | none => rw [hstep] at h; cases h
      | some t =>
        rw [hstep] at h
        exact .head ⟨e, XaEvent.allowed_iff hallowed.1, hallowed.2, hstep⟩ (ih h)
    · cases h

variable (cls C) in
/-- What a run on fixed events reaches. -/
lemma exists_of_xaRun {β : Type} (s : XaState κ) (es : List XaEvent) (f : XaState κ → β) {b : β}
    (h : (xaRun cls C s es).map f = some b) : ∃ s', XaRun cls C s s' ∧ f s' = b := by
  obtain ⟨s', hrun, hf⟩ := Option.map_eq_some_iff.mp h
  exact ⟨s', xaRun_reach hrun, hf⟩

/-- A run on one event is a step. -/
lemma stepIf_of_xaRun {e : XaEvent} (hstep : xaRun cls C s [e] = some s') :
    XaStepIf cls C s s' := by
  simp only [xaRun] at hstep
  split at hstep
  · next hallowed =>
    split at hstep
    · cases hstep
    · next u hu =>
      obtain rfl := Option.some_inj.mp hstep
      exact ⟨e, XaEvent.allowed_iff hallowed.1, hallowed.2, hu⟩
  · cases hstep

variable (cls C) in
/-- What one more event does after a run on fixed events. -/
lemma exists_step_of_xaRun {β : Type} (s : XaState κ) (es : List XaEvent) (e : XaEvent)
    (f : XaState κ → XaState κ → β) {b : β}
    (h : ((xaRun cls C s es).bind fun t => (xaRun cls C t [e]).map (f t)) = some b) :
    ∃ t t', XaRun cls C s t ∧ XaStepIf cls C t t' ∧ f t t' = b := by
  obtain ⟨t, hrun, ht⟩ := Option.bind_eq_some_iff.mp h
  obtain ⟨t', hstep, hf⟩ := Option.map_eq_some_iff.mp ht
  exact ⟨t, t', xaRun_reach hrun, stepIf_of_xaRun hstep, hf⟩

end Hikey
