import Hikey.RbTree.Ordered

/-!
# The scheduler (`core/xf-sched.c`, `include/xf-sched.h`)

The scheduler is a red-black tree of tasks.  The colour word of a task holds its timestamp, the
colour word of the sentinel the scheduler's own timestamp, and the cached node of the tree is the
task to run next.  Tasks are named by their addresses.
-/

namespace Hikey

open RbTree (rbFuel)

/-- `xf_sched_t`. -/
abbrev XfSched := RbTree U32

/-- `xf_task_timestamp`: the last bit is wiped out. -/
def xfTaskTimestamp (sched : XfSched) (t : U32) : U32 := (sched (some t)).color &&& ~~~1#32

/-- `xf_task_timestamp_set`. -/
def xfTaskTimestampSet (sched : XfSched) (t ts : U32) : XfSched := sched.setColor (some t) ts

/-- `xf_timestamp_before`: the difference is negative as a signed number. -/
def xfTimestampBefore (t₀ t₁ : U32) : Bool := (t₀ - t₁).msb

/-- `xf_sched_timestamp`. -/
def xfSchedTimestamp (sched : XfSched) : U32 := (sched none).color

/-- `xf_sched_timestamp_set`: the last bit is wiped out. -/
def xfSchedTimestampSet (sched : XfSched) (ts : U32) : XfSched :=
  sched.setColor none (ts &&& ~~~1#32)

/-- `xf_sched_put`.  The search goes right unless `ts` is before the timestamp of the node; the new
task becomes the head when the tree is empty or when it is linked to the left of the head. -/
def xfSchedPut (sched : XfSched) (t ts : U32) : Option XfSched := do
  let sched := xfTaskTimestampSet sched t ts
  let (sched, p, right) ← sched.insertPos
    (fun p => !xfTimestampBefore ts (xfTaskTimestamp sched p)) rbFuel t sched.rbRoot
  let sched := if p = none ∨ (right = false ∧ p = sched.rbCache) then sched.setCache (some t)
    else sched
  sched.rbInsert rbFuel (some t) p

/-- `xf_sched_get`: `none` inside the result is the null pointer. -/
def xfSchedGet (sched : XfSched) : Option (XfSched × Option U32) :=
  match sched.rbCache with
  | none => some (sched, none)
  | some n => do
    let (sched, t) ← sched.rbDelete rbFuel (some n)
    let sched := sched.setCache t
    let ts := xfTaskTimestamp sched n
    pure (xfSchedTimestampSet sched ts, some n)

/-- `xf_sched_cancel`: the task must be scheduled. -/
def xfSchedCancel (sched : XfSched) (t : U32) : Option XfSched := do
  let (sched, k) ← sched.rbDelete rbFuel (some t)
  pure (if some t = sched.rbCache then sched.setCache k else sched)

/-- `xf_sched_init`. -/
def xfSchedInit (sched : XfSched) : XfSched := sched.rbInit

end Hikey
