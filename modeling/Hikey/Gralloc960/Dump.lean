import Hikey.Foundation.Run
import Hikey.Gralloc960.BufferAllocate

/-!
# The buffers to dump (`mali_gralloc_debug.cpp`)

Every allocated buffer is put on a list, from which only the release of its last reference takes it.
The list is right in the runs that free buffers in no other way and do not fail in the middle of a
batch.
-/

namespace Hikey

/-! ## The source -/

/-- `alloc_device_free`. -/
def allocDeviceFree (p : GrallocProcess) (handle : ℕ) : Option (GrallocProcess × Int) := do
  if !(← p.validate handle) then
    return (p, -einval)
  let hnd ← p.heap handle
  let p ← if hnd.flags &&& privFlagsFramebuffer ≠ 0 then some (p.close hnd.fd)
    else maliGrallocBufferFree p handle
  return (p.delete handle, 0)

/-- The calls of the users of the module. -/
inductive GrallocOp
  | allocate (env : GrallocEnv) (ds : List BufferDescriptor) (pHandle : ℕ → ℕ)
  | retain (env : IonMapEnv) (handle : ℕ)
  | release (canFree : Bool) (handle : ℕ)
  | free (handle : ℕ)

/-- A call: the process, and the handles of a batch that was allocated. -/
def GrallocOp.call (cfg : GrallocConfig) (p : GrallocProcess) :
    GrallocOp → Option (GrallocProcess × List ℕ)
  | .allocate env ds pHandle =>
    (maliGrallocBufferAllocate cfg env ds ⟨p, pHandle⟩).map fun (b, res) =>
      (b.process, match res with
        | .ok _ => (List.range ds.length).map b.pHandle
        | .error _ => [])
  | .retain env handle => (maliGrallocReferenceRetain env p handle).map fun r => (r.1, [])
  | .release canFree handle => (maliGrallocReferenceRelease canFree p handle).map fun r => (r.1, [])
  | .free handle => (allocDeviceFree p handle).map fun r => (r.1, [])

/-! ## Runs -/

/-- A process, with the handles that it has allocated and not freed. -/
structure GrallocState where
  process : GrallocProcess
  live : List ℕ

/-- `new` returns the address of no object, and of no other one that is made in the same call. -/
def IonEnv.NewFresh (env : IonEnv) (p : GrallocProcess) : Prop :=
  (∀ i a, env.new i = some a → p.heap a = none) ∧
    ∀ i j a, env.new i = some a → env.new j = some a → i = j

/-- The users have only the handles that are allocated and not freed. -/
def GrallocOp.Legal (s : GrallocState) : GrallocOp → Prop
  | .allocate env _ _ => env.ion.NewFresh s.process
  | .retain _ handle | .release _ handle | .free handle => handle ∈ s.live

/-- After a call: a handle is freed when it is no valid one any more. -/
def GrallocState.next (cfg : GrallocConfig) (s : GrallocState) (op : GrallocOp) :
    Option GrallocState :=
  (op.call cfg s.process).map fun (p, handles) =>
    ⟨p, s.live.filter (fun a => p.validate a = some true) ++ handles⟩

/-- A step that the users can make. -/
def GrallocStep (cfg : GrallocConfig) (op : GrallocOp) (s s' : GrallocState) : Prop :=
  op.Legal s ∧ s.next cfg op = some s'

/-- An attribute region is allocated. -/
def AttrEnv.Ok (env : AttrEnv) : Prop := env.ashmem.isSome ∧ env.mmap.isSome

/-- The steps that keep the list: no free by the legacy device, no batch that gets some of its
attribute regions only, and no handle in use in the array for a new batch. -/
def GrallocOp.Clean (s : GrallocState) : GrallocOp → Prop
  | .allocate env ds pHandle =>
    (∀ i < ds.length, pHandle i ∉ s.live) ∧ (¬(env.attr 0).Ok ∨ ∀ i < ds.length, (env.attr i).Ok)
  | .retain _ _ | .release _ _ => True
  | .free _ => False

/-- The list has exactly the handles in use, each once, and every element that a release would erase
is there. -/
structure DumpExact (s : GrallocState) : Prop where
  nodup : s.process.dumpBuffers.Nodup
  mem : ∀ a, a ∈ s.process.dumpBuffers ↔ a ∈ s.live
  erase : ∀ a ∈ s.live, (maliGrallocDumpBufferErase s.process a).isSome

/-- A process before its first allocation. -/
def GrallocState.start (pid ionClient : Int) (legacyIon : Bool) (heap : ℕ → Option PrivateHandle) :
    GrallocState :=
  ⟨⟨pid, ionClient, legacyIon, 0, 0, heap, [], []⟩, []⟩

/-! ## What calls leave unchanged -/

variable {cfg : GrallocConfig} {p p' p'' : GrallocProcess} {a i n : ℕ} {hnd hnd' : PrivateHandle}
  {ds : List BufferDescriptor} {b b' : IonBatch} {r : Int} {S : ℕ → Prop}

/-- Only objects at addresses in `S` change. -/
structure HeapFrame (S : ℕ → Prop) (p p' : GrallocProcess) : Prop where
  pid : p'.pid = p.pid
  dump : p'.dumpBuffers = p.dumpBuffers
  heap : ∀ a, ¬S a → p'.heap a = p.heap a

lemma HeapFrame.refl (p : GrallocProcess) : HeapFrame S p p := ⟨rfl, rfl, fun _ _ => rfl⟩

lemma HeapFrame.trans (h : HeapFrame S p p') (h' : HeapFrame S p' p'') : HeapFrame S p p'' :=
  ⟨h'.pid.trans h.pid, h'.dump.trans h.dump, fun a ha => (h'.heap a ha).trans (h.heap a ha)⟩

lemma HeapFrame.mono {T : ℕ → Prop} (h : HeapFrame S p p') (hST : ∀ a, S a → T a) :
    HeapFrame T p p' :=
  ⟨h.pid, h.dump, fun a ha => h.heap a fun hs => ha (hST a hs)⟩

lemma HeapFrame.call (p : GrallocProcess) (c : GrallocCall) : HeapFrame S p (p.call c) :=
  ⟨rfl, rfl, fun _ _ => rfl⟩

lemma HeapFrame.close (p : GrallocProcess) (fd : Int) : HeapFrame S p (p.close fd) := by
  rw [GrallocProcess.close]
  split
  · exact .refl p
  · exact .call p _

lemma HeapFrame.set (hS : S a) : HeapFrame S p (p.set a hnd) :=
  ⟨rfl, rfl, fun a' ha' => Function.update_of_ne (by rintro rfl; exact ha' hS) _ _⟩

@[simp] lemma GrallocProcess.close_pid (fd : Int) : (p.close fd).pid = p.pid := by
  rw [GrallocProcess.close]
  split <;> rfl

@[simp] lemma GrallocProcess.close_heap (fd : Int) : (p.close fd).heap = p.heap := by
  rw [GrallocProcess.close]
  split <;> rfl

@[simp] lemma GrallocProcess.close_dumpBuffers (fd : Int) :
    (p.close fd).dumpBuffers = p.dumpBuffers := by
  rw [GrallocProcess.close]
  split <;> rfl

lemma grallocBufferAttrFree_frame (hS : S a) : HeapFrame S p (grallocBufferAttrFree p a hnd) := by
  rw [grallocBufferAttrFree]
  split
  · exact .refl p
  · refine HeapFrame.trans (HeapFrame.trans ?_ (.close _ _)) (.set hS)
    cases hnd.attrBase
    · exact .refl p
    · exact .call p _

lemma maliGrallocIonFree_frame (hS : S a) : HeapFrame S p (maliGrallocIonFree p a hnd) := by
  rw [maliGrallocIonFree]
  split
  · exact .refl p
  · split
    · refine HeapFrame.trans (HeapFrame.trans (HeapFrame.trans ?_ (.close _ _)) (.call _ _))
        (.set hS)
      split
      · exact .call p _
      · exact .refl p
    · exact .refl p

lemma maliGrallocIonFreeInternal_frame {pHandle : ℕ → ℕ} {is : List ℕ}
    (hS : ∀ i ∈ is, S (pHandle i))
    (hfree : maliGrallocIonFreeInternal pHandle is p = some p') : HeapFrame S p p' := by
  induction is generalizing p with
  | nil => exact Option.some.inj hfree ▸ .refl p
  | cons i is ih =>
    obtain ⟨hi, his⟩ := List.forall_mem_cons.1 hS
    rw [maliGrallocIonFreeInternal] at hfree
    split at hfree
    · split at hfree
      · exact (maliGrallocIonFree_frame hi).trans (ih his hfree)
      · cases hfree
    · exact ih his hfree

lemma maliGrallocBufferFreeInternal_frame {pHandle : ℕ → ℕ} {is : List ℕ}
    (hS : ∀ i ∈ is, S (pHandle i)) (hfree : maliGrallocBufferFreeInternal pHandle is p = some p') :
    HeapFrame S p p' := by
  induction is generalizing p with
  | nil => exact Option.some.inj hfree ▸ .refl p
  | cons i is ih =>
    obtain ⟨hi, his⟩ := List.forall_mem_cons.1 hS
    rw [maliGrallocBufferFreeInternal] at hfree
    split at hfree
    · cases hfree
    · simp only at hfree
      split at hfree
      · cases hfree
      · exact ((grallocBufferAttrFree_frame hi).trans (maliGrallocIonFree_frame hi)).trans
          (ih his hfree)

lemma ionBackingStore_frame (cfg : IonConfig) (env : IonBackEnv) (size : BitVec 64)
    (heap : IonHeap) :
    HeapFrame S p (ionBackingStore cfg env p size heap).1 := by
  rw [ionBackingStore]
  split
  · rw [allocFromIonHeap]
    split
    · exact .refl p
    · split
      · exact .refl p
      · split
        · simp only
          split
          · exact ⟨by simp, by simp [GrallocProcess.call], fun _ _ => by simp⟩
          · exact .call p _
        · exact .refl p
  · split
    · exact .call p _
    · exact .refl p

lemma ionOpenClient_frame (env : IonEnv) : HeapFrame S p (ionOpenClient env p).1 := by
  rw [ionOpenClient]
  split
  · split
    · exact ⟨rfl, rfl, fun _ _ => rfl⟩
    · simp only
      split
      · exact ⟨rfl, rfl, fun _ _ => rfl⟩
      · split
        · exact ⟨by simp, by simp [GrallocProcess.call], fun _ _ => by simp⟩
        · split <;> exact ⟨rfl, rfl, fun _ _ => rfl⟩
  · exact .refl p

/-! ## The handles of a batch -/

/-- A handle that process `pid` has allocated. -/
structure PrivateHandle.Own (pid : Int) (hnd : PrivateHandle) : Prop where
  magic : hnd.magic = sMagic
  ion : hnd.flags &&& privFlagsUsesIon ≠ 0
  not_framebuffer : hnd.flags &&& privFlagsFramebuffer = 0
  pid : hnd.allocatingPid = pid
  count : 0 ≤ hnd.refCount ∧ hnd.refCount < 2 ^ 31

/-- In the middle of an allocation: the handles below `i` are made, the other entries are as they
were. -/
structure IonInv (p₀ : GrallocProcess) (pHandle₀ : ℕ → ℕ) (env : IonEnv) (i : ℕ) (b : IonBatch) :
    Prop where
  pid : b.process.pid = p₀.pid
  dump : b.process.dumpBuffers = p₀.dumpBuffers
  old : ∀ a, p₀.heap a ≠ none → b.process.heap a = p₀.heap a
  made : ∀ j < i, ∃ a, env.new j = some a ∧ b.pHandle j = a ∧
    ∃ hnd, b.process.heap a = some hnd ∧ hnd.Own p₀.pid
  rest : ∀ j, i ≤ j → b.pHandle j = pHandle₀ j

/-- Nothing is made yet. -/
lemma IonInv.zero (p₀ : GrallocProcess) (pHandle₀ : ℕ → ℕ) (env : IonEnv) :
    IonInv p₀ pHandle₀ env 0 ⟨p₀, pHandle₀⟩ :=
  ⟨rfl, rfl, fun _ _ => rfl, fun _ h => absurd h (Nat.not_lt_zero _), fun _ _ => rfl⟩

variable {p₀ : GrallocProcess} {pHandle₀ : ℕ → ℕ} {env : IonEnv}

lemma IonInv.frame (h : IonInv p₀ pHandle₀ env i b)
    (hframe : HeapFrame (fun _ => False) b.process p) :
    IonInv p₀ pHandle₀ env i { b with process := p } := by
  have hheap : p.heap = b.process.heap := funext fun a => hframe.heap a id
  refine ⟨hframe.pid.trans h.pid, hframe.dump.trans h.dump, fun a ha => ?_, fun j hj => ?_, h.rest⟩
  · simp only [hheap]
    exact h.old a ha
  · simpa only [hheap] using h.made j hj

lemma IonInv.store (hnew : env.NewFresh p₀) (h : IonInv p₀ pHandle₀ env i b) {a : {a : ℕ // 0 < a}}
    (ha : env.new i = some a) {flags : U32} (hion : flags &&& privFlagsUsesIon ≠ 0)
    (hfb : flags &&& privFlagsFramebuffer = 0) (fd : Int) :
    IonInv p₀ pHandle₀ env (i + 1) (b.store i a flags fd) := by
  refine ⟨h.pid, h.dump, fun a' ha' => ?_, fun j hj => ?_, fun j hj => ?_⟩
  · have hne : a' ≠ a := by
      rintro rfl
      exact ha' (hnew.1 i a ha)
    simp only [IonBatch.store, GrallocProcess.set, Function.update_of_ne hne]
    exact h.old a' ha'
  · by_cases hji : j = i
    · subst hji
      refine ⟨a, ha,
        by simp [IonBatch.store], _, by simp only [IonBatch.store]; exact GrallocProcess.set_heap,
        rfl, hion, hfb, h.pid, by norm_num [PrivateHandle.new]⟩
    · obtain ⟨a', ha', hptr, hnd, hhnd, hown⟩ := h.made j (by omega)
      have hne : (a' : ℕ) ≠ a := fun heq => hji (hnew.2 j i a' ha' (Subtype.ext heq ▸ ha))
      refine ⟨a', ha',
        by simpa [IonBatch.store, Function.update_of_ne hji] using hptr, hnd, ?_, hown⟩
      simpa only [IonBatch.store, GrallocProcess.set, GrallocProcess.call_heap,
        Function.update_of_ne hne]
        using hhnd
  · have hji : j ≠ i := by omega
    simpa only [IonBatch.store, Function.update_of_ne hji] using h.rest j (by omega)

/-- The end of an allocation: all handles are made, or objects that the array did not name are as
they were. -/
def IonDone (p₀ : GrallocProcess) (pHandle₀ : ℕ → ℕ) (env : IonEnv) (n : ℕ)
    (res : Option (IonBatch × Int)) : Prop :=
  ∀ b' r, res = some (b', r) → r = 0 ∧ IonInv p₀ pHandle₀ env n b' ∨
    r < 0 ∧ b'.process.pid = p₀.pid ∧ b'.process.dumpBuffers = p₀.dumpBuffers ∧
      ∀ a, p₀.heap a ≠ none → (∀ j < n, pHandle₀ j ≠ a) → b'.process.heap a = p₀.heap a

/-- The cleanup frees handles that were made, and those that the array named before. -/
lemma IonInv.done_fail (hnew : env.NewFresh p₀) (h : IonInv p₀ pHandle₀ env i b) :
    IonDone p₀ pHandle₀ env n (b.fail n) := by
  intro b' r hres
  rw [IonBatch.fail, Option.map_eq_some_iff] at hres
  obtain ⟨p, hfree, heq⟩ := hres
  obtain ⟨rfl, rfl⟩ := Prod.ext_iff.1 heq
  have hframe := maliGrallocIonFreeInternal_frame (S := fun a => ∃ j < n, b.pHandle j = a)
    (fun j hj => ⟨j, List.mem_range.1 hj, rfl⟩) hfree
  refine .inr ⟨by norm_num, hframe.pid.trans h.pid, hframe.dump.trans h.dump, fun a ha hfree => ?_⟩
  refine (hframe.heap a ?_).trans (h.old a ha)
  rintro ⟨j, hj, rfl⟩
  by_cases hji : j < i
  · obtain ⟨a', ha', hptr, -⟩ := h.made j hji
    exact ha (hptr ▸ hnew.1 j a' ha')
  · exact hfree j hj (h.rest j (by omega)).symm

lemma IonInv.done_map (hnew : env.NewFresh p₀) (h : IonInv p₀ pHandle₀ env n b)
    (hi : i + ds.length ≤ n) : IonDone p₀ pHandle₀ env n (ionMapLoop env n i ds b) := by
  induction ds generalizing i b with
  | nil =>
    intro b' r hres
    obtain ⟨rfl, rfl⟩ := Prod.ext_iff.1 (Option.some.inj hres)
    exact .inl ⟨rfl, h⟩
  | cons d ds ih =>
    rw [List.length_cons] at hi
    rw [ionMapLoop]
    obtain ⟨a, ha, hptr, hnd, hhnd, hown⟩ := h.made i (by omega)
    rw [hptr, hhnd]
    by_cases husage : d.usage &&& usageProtected = 0
    · simp only [husage, if_true]
      cases hmap : env.mmap i with
      | none => exact h.done_fail hnew
      | some base =>
        refine ih ⟨h.pid, h.dump, fun a' ha' => ?_, fun j hj => ?_, h.rest⟩ (by omega)
        · have hne : a' ≠ a := by
            rintro rfl
            exact ha' (hnew.1 i a ha)
          simp only [GrallocProcess.set, Function.update_of_ne hne]
          exact h.old a' ha'
        · obtain ⟨a', ha', hptr', hnd', hhnd', hown'⟩ := h.made j hj
          by_cases hne : (a' : ℕ) = a
          · refine ⟨a', ha', hptr', { hnd with base := base }, ?_, hown.magic, hown.ion,
              hown.not_framebuffer, hown.pid, hown.count⟩
            rw [hne]
            exact GrallocProcess.set_heap
          · refine ⟨a', ha', hptr', hnd', ?_, hown'⟩
            simpa only [GrallocProcess.set, GrallocProcess.call_heap, Function.update_of_ne hne]
              using hhnd'
    · simp only [husage, if_false]
      exact ih h (by omega)

lemma IonInv.done_share (hnew : env.NewFresh p₀) {m : ℕ} {flags : U32} {fd : Int}
    {k : IonBatch → Option (IonBatch × Int)} (hion : flags &&& privFlagsUsesIon ≠ 0)
    (hfb : flags &&& privFlagsFramebuffer = 0) (h : IonInv p₀ pHandle₀ env i b)
    (hi : i + ds.length = n)
    (hk : ∀ b, IonInv p₀ pHandle₀ env n b → IonDone p₀ pHandle₀ env n (k b)) :
    IonDone p₀ pHandle₀ env n (ionShareLoop env n m flags fd k i ds b) := by
  induction ds generalizing i b with
  | nil => exact hk b (by rw [List.length_nil, Nat.add_zero] at hi; exact hi ▸ h)
  | cons d ds ih =>
    rw [List.length_cons] at hi
    rw [ionShareLoop]
    by_cases him : i = m
    · rw [if_neg (not_not.2 him)]
      cases hi' : env.new i with
      | none => exact h.done_fail hnew
      | some a => exact ih (h.store hnew hi' hion hfb fd) (by omega)
    · rw [if_pos him]
      cases env.dup i with
      | none => exact h.done_fail hnew
      | some fd' =>
        have hgot := h.frame (.call b.process (.gotFd fd'))
        simp only
        cases hi' : env.new i with
        | none => exact hgot.done_fail hnew
        | some a => exact ih (hgot.store hnew hi' hion hfb fd') (by omega)

/-- The flags of a handle. -/
lemma privFlags_own {flag : U32} (hflag : flag = 0 ∨ flag = privFlagsUsesIonDmaHeap) :
    (privFlagsUsesIon ||| flag) &&& privFlagsUsesIon ≠ 0 ∧
      (privFlagsUsesIon ||| flag) &&& privFlagsFramebuffer = 0 := by
  rcases hflag with rfl | rfl <;> decide

lemma setIonPrivFlags_cases (cfg : IonConfig) (heap : IonHeap) {flag : U32}
    (hflag : flag = 0 ∨ flag = privFlagsUsesIonDmaHeap) :
    setIonPrivFlags cfg heap flag = 0 ∨
      setIonPrivFlags cfg heap flag = privFlagsUsesIonDmaHeap := by
  rw [setIonPrivFlags]
  split
  · exact .inr rfl
  · exact hflag

lemma IonInv.done_separate (hnew : env.NewFresh p₀) {cfg : IonConfig} {flag : U32}
    {k : IonBatch → Option (IonBatch × Int)} (hflag : flag = 0 ∨ flag = privFlagsUsesIonDmaHeap)
    (h : IonInv p₀ pHandle₀ env i b) (hi : i + ds.length = n)
    (hk : ∀ b, IonInv p₀ pHandle₀ env n b → IonDone p₀ pHandle₀ env n (k b)) :
    IonDone p₀ pHandle₀ env n (ionSeparateLoop cfg env n k i flag ds b) := by
  induction ds generalizing i b flag with
  | nil => exact hk b (by rw [List.length_nil, Nat.add_zero] at hi; exact hi ▸ h)
  | cons d ds ih =>
    rw [List.length_cons] at hi
    rw [ionSeparateLoop]
    have hflag' := setIonPrivFlags_cases cfg (pickIonHeap cfg d.usage) hflag
    have hown := privFlags_own hflag'
    by_cases hheap : pickIonHeap cfg d.usage = .none
    · simp only [if_pos hheap]
      exact h.done_fail hnew
    · simp only [if_neg hheap]
      have hback := h.frame
          (ionBackingStore_frame cfg (env.back i) d.size (pickIonHeap cfg d.usage))
      split
      · exact hback.done_fail hnew
      · cases hi' : env.new i with
        | none => exact hback.done_fail hnew
        | some a => exact ih hflag' (hback.store hnew hi' hown.1 hown.2 _) (by omega)

/-- An allocation makes the handles, or leaves objects that the array did not name as they were. -/
lemma maliGrallocIonAllocate_done {cfg : IonConfig} (hnew : env.NewFresh p₀) :
    IonDone p₀ pHandle₀ env ds.length (maliGrallocIonAllocate cfg env ds ⟨p₀, pHandle₀⟩) := by
  have hopen := (IonInv.zero p₀ pHandle₀ env).frame (ionOpenClient_frame env)
  have herror (p : GrallocProcess) (hframe : HeapFrame (fun _ => False) p₀ p) :
      IonDone p₀ pHandle₀ env ds.length (some (⟨p, pHandle₀⟩, -1)) := by
    intro b' r hres
    obtain ⟨rfl, rfl⟩ := Prod.ext_iff.1 (Option.some.inj hres)
    exact .inr ⟨by norm_num, hframe.pid, hframe.dump, fun a _ _ => hframe.heap a id⟩
  have hlast (b : IonBatch) (h : IonInv p₀ pHandle₀ env ds.length b) :
      IonDone p₀ pHandle₀ env ds.length (ionMapLoop env ds.length 0 ds b) :=
        h.done_map hnew (by omega)
  rw [maliGrallocIonAllocate]
  simp only
  split
  · exact herror _ (ionOpenClient_frame env)
  · split
    · split
      · exact fun b' r hres => by cases hres
      · rename_i d hd
        split
        · exact herror _ (ionOpenClient_frame env)
        · have hframe := HeapFrame.trans (S := fun _ => False) (p := p₀) (ionOpenClient_frame env)
            (ionBackingStore_frame cfg (env.back (getMaxBufferDescriptorIndex ds)) d.size
              (pickIonHeap cfg d.usage))
          have hback := (IonInv.zero p₀ pHandle₀ env).frame hframe
          have hown :=
            privFlags_own (setIonPrivFlags_cases cfg (pickIonHeap cfg d.usage) (.inl rfl))
          split
          · exact herror _ hframe
          · exact hback.done_share hnew hown.1 hown.2 (Nat.zero_add _) hlast
    · exact hopen.done_separate hnew (.inl rfl) (Nat.zero_add _) hlast

/-- There is a handle at an address that process `pid` has allocated. -/
def OwnAt (pid : Int) (p : GrallocProcess) (a : ℕ) : Prop :=
  ∃ hnd, p.heap a = some hnd ∧ hnd.Own pid

/-- A handle gets its attribute region, or none. -/
lemma grallocBufferAttrAllocate_spec (env : AttrEnv) (p : GrallocProcess) (a : ℕ)
    (hnd : PrivateHandle)
    {pid : Int} (hown : hnd.Own pid) :
    HeapFrame (fun x => x = a) p (grallocBufferAttrAllocate env p a hnd).1 ∧
      OwnAt pid (grallocBufferAttrAllocate env p a hnd).1 a ∧
      (env.Ok → (grallocBufferAttrAllocate env p a hnd).2 = 0) ∧
      (¬env.Ok → (grallocBufferAttrAllocate env p a hnd).2 < 0) := by
  have hset (q : GrallocProcess) (hframe : HeapFrame (fun x => x = a) p q) (fd : Int)
      (base : Option ℕ) :
      HeapFrame (fun x => x = a) p (q.set a { hnd with shareAttrFd := fd, attrBase := base }) ∧
        OwnAt pid (q.set a { hnd with shareAttrFd := fd, attrBase := base }) a :=
    ⟨hframe.trans (.set rfl), _, GrallocProcess.set_heap, hown.magic, hown.ion,
      hown.not_framebuffer,
      hown.pid, hown.count⟩
  rw [grallocBufferAttrAllocate]
  cases hashmem : env.ashmem with
  | none =>
    obtain ⟨hframe, hat⟩ := hset _ (HeapFrame.close p hnd.shareAttrFd) (-1) hnd.attrBase
    exact ⟨hframe, hat, fun hok => by simp [AttrEnv.Ok, hashmem] at hok, fun _ => by norm_num⟩
  | some fd =>
    cases hmap : env.mmap with
    | none =>
      obtain ⟨hframe, hat⟩ := hset (((p.close hnd.shareAttrFd).call (.gotFd fd)).close fd)
        (((HeapFrame.close p hnd.shareAttrFd).trans (.call _ _)).trans (.close _ _)) (-1) none
      exact ⟨hframe, hat, fun hok => by simp [AttrEnv.Ok, hmap] at hok, fun _ => by norm_num⟩
    | some base =>
      obtain ⟨hframe, hat⟩ := hset
        ((((p.close hnd.shareAttrFd).call (.gotFd fd)).call (.mmapAttr base)).call
          (.munmapAttr base))
        ((((HeapFrame.close p hnd.shareAttrFd).trans (.call _ _)).trans (.call _ _)).trans
          (.call _ _)) fd none
      exact ⟨hframe, hat, fun _ => rfl, fun hno => absurd (by simp [AttrEnv.Ok, hashmem, hmap]) hno⟩

/-- The loop over the handles, when each gets its attribute region. -/
lemma bufferAttrLoop_ok {env : ℕ → AttrEnv} {is : List ℕ} {pid : Int}
    (hok : ∀ i ∈ is, (env i).Ok)
    (hown : ∀ i ∈ is, b.pHandle i ≠ 0 ∧ OwnAt pid b.process (b.pHandle i)) :
    ∃ p', bufferAttrLoop env n is b = some ({ b with process := p' }, 0) ∧ p'.pid = b.process.pid ∧
      p'.dumpBuffers = b.process.dumpBuffers ++ is.map b.pHandle ∧
      (∀ a, OwnAt pid b.process a → OwnAt pid p' a) ∧
      ∀ a, (∀ i ∈ is, b.pHandle i ≠ a) → p'.heap a = b.process.heap a := by
  induction is generalizing b with
  | nil => exact ⟨b.process, rfl, rfl, by simp, fun _ h => h, fun _ _ => rfl⟩
  | cons i is ih =>
    obtain ⟨hi, his⟩ := List.forall_mem_cons.1 hok
    obtain ⟨⟨hzero, hnd, hhnd, howni⟩, hownis⟩ := List.forall_mem_cons.1 hown
    obtain ⟨hframe, hat, hret, -⟩ :=
      grallocBufferAttrAllocate_spec (env i) b.process (b.pHandle i) hnd howni
    obtain ⟨q, hq⟩ : ∃ q, q = (grallocBufferAttrAllocate (env i) b.process (b.pHandle i) hnd).1 :=
      ⟨_, rfl⟩
    rw [← hq] at hframe hat
    have hkeep (a : ℕ) (ha : OwnAt pid b.process a) : OwnAt pid q a := by
      by_cases heq : a = b.pHandle i
      · exact heq ▸ hat
      · rw [OwnAt, hframe.heap a heq]
        exact ha
    obtain ⟨p', hloop, hpid, hdump, hown', hheap⟩ := ih
      (b := { b with process := maliGrallocDumpBufferAdd q (b.pHandle i) }) his
      fun j hj => ⟨(hownis j hj).1, by
        rw [maliGrallocDumpBufferAdd, if_neg hzero]
        exact hkeep _ (hownis j hj).2⟩
    rw [maliGrallocDumpBufferAdd, if_neg hzero] at hpid hdump hown' hheap
    refine ⟨p', ?_, hpid.trans hframe.pid, ?_, fun a ha => hown' a (hkeep a ha), fun a ha => ?_⟩
    · rw [bufferAttrLoop, hhnd]
      simp only [hret hi, lt_irrefl, if_false, ← hq]
      exact hloop
    · rw [hdump, hframe.dump]
      simp
    · obtain ⟨hai, hais⟩ := List.forall_mem_cons.1 ha
      exact (hheap a hais).trans (hframe.heap a (Ne.symm hai))

/-- The loop over the handles, when the first one does not get its attribute region. -/
lemma bufferAttrLoop_fails {env : ℕ → AttrEnv} {is : List ℕ} {pid : Int} (hfail : ¬(env i).Ok)
    (hown : OwnAt pid b.process (b.pHandle i)) (hi : i < n)
    (hres : bufferAttrLoop env n (i :: is) b = some (b', r)) :
    r < 0 ∧ HeapFrame (fun a => ∃ j < n, b.pHandle j = a) b.process b'.process := by
  obtain ⟨hnd, hhnd, howni⟩ := hown
  obtain ⟨hframe, -, -, hret⟩ :=
    grallocBufferAttrAllocate_spec (env i) b.process (b.pHandle i) hnd howni
  rw [bufferAttrLoop, hhnd] at hres
  simp only [hret hfail, if_true] at hres
  rw [Option.map_eq_some_iff] at hres
  obtain ⟨p, hfree, heq⟩ := hres
  obtain ⟨rfl, rfl⟩ := Prod.ext_iff.1 heq
  refine ⟨hret hfail, (hframe.mono ?_).trans (maliGrallocBufferFreeInternal_frame
    (fun j hj => ⟨j, List.mem_range.1 hj, rfl⟩) hfree)⟩
  rintro a rfl
  exact ⟨i, hi, rfl⟩

/-! ## The invariant -/

/-- The list is the handles in use, in the order of their allocation. -/
structure GrallocInv (s : GrallocState) : Prop where
  dump : s.process.dumpBuffers = s.live
  nodup : s.live.Nodup
  own : ∀ a ∈ s.live, a ≠ 0 ∧ OwnAt s.process.pid s.process a

variable {s s' : GrallocState}

lemma OwnAt.validate {pid : Int} (h : OwnAt pid p a) (ha : a ≠ 0) : p.validate a = some true := by
  obtain ⟨hnd, hhnd, hown⟩ := h
  simp [GrallocProcess.validate, ha, hhnd, hown.magic]

/-- Nobody frees a handle in use. -/
lemma GrallocInv.filter_live (hinv : GrallocInv s)
    (hheap : ∀ a ∈ s.live, OwnAt s.process.pid p a) :
    s.live.filter (fun a => p.validate a = some true) = s.live :=
  List.filter_eq_self.2 fun a ha => decide_eq_true ((hheap a ha).validate (hinv.own a ha).1)

lemma GrallocInv.exact (hinv : GrallocInv s) : DumpExact s where
  nodup := hinv.dump ▸ hinv.nodup
  mem a := by rw [hinv.dump]
  erase a ha := by
    have hne : a ∈ s.process.dumpBuffers := hinv.dump ▸ ha
    have hlt : (s.process.dumpBuffers.filter (· ≠ a)).length < s.process.dumpBuffers.length :=
      List.length_filter_lt_length_iff_exists.2 ⟨a, hne, by simp⟩
    rw [maliGrallocDumpBufferErase, if_neg (hinv.own a ha).1]
    simp only [if_pos hlt, Option.isSome_some]

/-- A call that counts only. -/
lemma GrallocInv.counted (hinv : GrallocInv s) {handle : ℕ}
    (hframe : HeapFrame (fun x => x = handle) s.process p)
    (hat : OwnAt s.process.pid p handle) :
    GrallocInv ⟨p, s.live.filter (fun a => p.validate a = some true) ++ []⟩ := by
  have hown (a : ℕ) (ha : a ∈ s.live) : OwnAt s.process.pid p a := by
    by_cases heq : a = handle
    · exact heq ▸ hat
    · rw [OwnAt, hframe.heap a heq]
      exact (hinv.own a ha).2
  rw [List.append_nil, hinv.filter_live hown]
  exact ⟨hframe.dump.trans hinv.dump, hinv.nodup, fun a ha =>
    ⟨(hinv.own a ha).1, hframe.pid.symm ▸ hown a ha⟩⟩

lemma intAdd_eq {x y z : Int} (h : intAdd x y = some z) : z = x + y ∧ -2 ^ 31 ≤ z ∧ z < 2 ^ 31 := by
  rw [intAdd] at h
  split at h
  · rename_i hbounds
    obtain rfl := Option.some.inj h
    exact ⟨rfl, hbounds⟩
  · cases h

lemma GrallocInv.retain (hinv : GrallocInv s) {env : IonMapEnv} {handle : ℕ}
    (hlive : handle ∈ s.live)
    {r : GrallocProcess × Int} (hcall : maliGrallocReferenceRetain env s.process handle = some r) :
    GrallocInv ⟨r.1, s.live.filter (fun a => r.1.validate a = some true) ++ []⟩ := by
  obtain ⟨hzero, hnd, hhnd, hown⟩ := hinv.own handle hlive
  have hvalid := OwnAt.validate ⟨hnd, hhnd, hown⟩ hzero
  simp only [maliGrallocReferenceRetain, hvalid, hhnd, Option.bind_eq_bind, Option.bind_some,
    Bool.not_true, Bool.false_eq_true, if_false, if_pos (Or.inl hown.pid)] at hcall
  cases hadd : intAdd hnd.refCount 1 with
  | none => simp [hadd] at hcall
  | some count =>
    obtain ⟨hcount, -, hlt⟩ := intAdd_eq hadd
    rw [hadd] at hcall
    obtain rfl := Option.some.inj hcall
    exact hinv.counted (.set rfl) ⟨_, GrallocProcess.set_heap, hown.magic, hown.ion,
      hown.not_framebuffer, hown.pid, by have := hown.count.1; simp only; omega, hlt⟩

/-- The list without an element that is in it once. -/
lemma maliGrallocDumpBufferErase_eq {handle : ℕ} (hzero : handle ≠ 0) (hnodup : p.dumpBuffers.Nodup)
    (hmem : handle ∈ p.dumpBuffers) : maliGrallocDumpBufferErase p handle =
      some { p with dumpBuffers := p.dumpBuffers.filter (· ≠ handle) } := by
  have hperm : p.dumpBuffers.length = (p.dumpBuffers.filter (· ≠ handle)).length + 1 := by
    have herase := hnodup.erase_eq_filter handle
    have hlen := List.length_erase_of_mem hmem
    have hpos := List.length_pos_of_mem hmem
    have heq : p.dumpBuffers.filter (· ≠ handle) = p.dumpBuffers.erase handle := by
      rw [herase]
      exact List.filter_congr fun x _ => by simp [bne, beq_eq_decide]
    rw [heq]
    omega
  rw [maliGrallocDumpBufferErase, if_neg hzero]
  simp only
  rw [if_pos (by omega), List.drop_eq_nil_of_le (by omega), List.append_nil]

/-- Freeing a handle of its own process. -/
lemma maliGrallocBufferFree_frame {handle : ℕ} (hfree : maliGrallocBufferFree p handle = some p') :
    HeapFrame (fun x => x = handle) p p' := by
  rw [maliGrallocBufferFree] at hfree
  split at hfree
  · exact Option.some.inj hfree ▸ .refl p
  · cases hhnd : p.heap handle with
    | none => simp [hhnd] at hfree
    | some hnd =>
      simp only [hhnd, Option.bind_eq_bind, Option.bind_some] at hfree
      cases hhnd' : (grallocBufferAttrFree p handle hnd).heap handle with
      | none => simp [hhnd'] at hfree
      | some hnd' =>
        simp only [hhnd', Option.bind_some] at hfree
        obtain rfl := Option.some.inj hfree
        exact (grallocBufferAttrFree_frame (S := (· = handle)) rfl).trans
          (maliGrallocIonFree_frame rfl)

/-- The handle that is erased and deleted leaves the handles in use. -/
lemma GrallocInv.freed (hinv : GrallocInv s) {handle : ℕ} {hnd : PrivateHandle}
    (hframe : HeapFrame (· = handle)
      { s.process.set handle hnd with dumpBuffers := s.process.dumpBuffers.filter (· ≠ handle) }
      p) :
    GrallocInv ⟨p.delete handle,
      s.live.filter (fun a => (p.delete handle).validate a = some true) ++ []⟩ := by
  have hheap (a : ℕ) (ha : a ≠ handle) : (p.delete handle).heap a = s.process.heap a := by
    simpa [GrallocProcess.delete, GrallocProcess.set, Function.update_of_ne ha]
      using hframe.heap a ha
  have hlive : s.live.filter (fun a => (p.delete handle).validate a = some true) =
      s.live.filter (· ≠ handle) := by
    refine List.filter_congr fun a ha => ?_
    by_cases heq : a = handle
    · subst heq
      simp [GrallocProcess.validate, GrallocProcess.delete, (hinv.own a ha).1]
    · have hat : OwnAt s.process.pid (p.delete handle) a := by
        rw [OwnAt, hheap a heq]
        exact (hinv.own a ha).2
      simp [hat.validate (hinv.own a ha).1, heq]
  rw [List.append_nil, hlive]
  refine ⟨hframe.dump.trans (congrArg _ hinv.dump), hinv.nodup.filter _, fun a ha => ?_⟩
  obtain ⟨hmem, hne⟩ := List.mem_filter.1 ha
  refine ⟨(hinv.own a hmem).1, ?_⟩
  rw [OwnAt, hheap a (by simpa using hne)]
  exact hframe.pid.symm ▸ (hinv.own a hmem).2

lemma GrallocInv.release (hinv : GrallocInv s) {canFree : Bool} {handle : ℕ}
    (hlive : handle ∈ s.live)
    {r : GrallocProcess × Int}
    (hcall : maliGrallocReferenceRelease canFree s.process handle = some r) :
    GrallocInv ⟨r.1, s.live.filter (fun a => r.1.validate a = some true) ++ []⟩ := by
  obtain ⟨hzero, hnd, hhnd, hown⟩ := hinv.own handle hlive
  have hvalid := OwnAt.validate ⟨hnd, hhnd, hown⟩ hzero
  by_cases hnone : hnd.refCount = 0
  · simp [maliGrallocReferenceRelease, hvalid, hhnd, hnone] at hcall
    obtain rfl := hcall
    exact hinv.counted (.refl _) ⟨hnd, hhnd, hown⟩
  · simp only [maliGrallocReferenceRelease, hvalid, hhnd, Option.bind_eq_bind, Option.bind_some,
      Bool.not_true, Bool.false_eq_true, if_false, if_neg hnone, if_pos hown.pid] at hcall
    cases hadd : intAdd hnd.refCount (-1) with
    | none => simp [hadd] at hcall
    | some count =>
      obtain ⟨hcount, -, hlt⟩ := intAdd_eq hadd
      rw [hadd] at hcall
      simp only [Option.bind_some] at hcall
      split at hcall
      · -- the last reference: the handle is erased, freed and deleted
        rw [if_neg (by simpa using hown.not_framebuffer), maliGrallocDumpBufferErase_eq hzero
          (by simpa using hinv.dump ▸ hinv.nodup) (by simpa using hinv.dump ▸ hlive),
            Option.bind_some] at hcall
        obtain ⟨q, hfree, heq⟩ := Option.bind_eq_some_iff.1 hcall
        obtain rfl := Option.some.inj heq
        exact hinv.freed (maliGrallocBufferFree_frame hfree)
      · obtain rfl := Option.some.inj hcall
        exact hinv.counted (.set rfl) ⟨_, GrallocProcess.set_heap, hown.magic, hown.ion,
          hown.not_framebuffer, hown.pid, by have := hown.count.1; simp only; omega, hlt⟩

/-- A call that leaves the handles in use alone. -/
lemma GrallocInv.kept (hinv : GrallocInv s) (hpid : p.pid = s.process.pid)
    (hdump : p.dumpBuffers = s.process.dumpBuffers)
    (hheap : ∀ a ∈ s.live, p.heap a = s.process.heap a) :
    GrallocInv ⟨p, s.live.filter (fun a => p.validate a = some true) ++ []⟩ := by
  have hown (a : ℕ) (ha : a ∈ s.live) : OwnAt s.process.pid p a := by
    rw [OwnAt, hheap a ha]
    exact (hinv.own a ha).2
  rw [List.append_nil, hinv.filter_live hown]
  exact ⟨hdump.trans hinv.dump, hinv.nodup, fun a ha => ⟨(hinv.own a ha).1, hpid.symm ▸ hown a ha⟩⟩

lemma bufferDescriptorLoop_length {select : SelectFormat} {video : Bool} {type : AllocType}
    {ds ds' : List BufferDescriptor}
    (hloop : bufferDescriptorLoop select video type ds = some ds') :
    ds'.length = ds.length := by
  induction ds generalizing type ds' with
  | nil => exact Option.some.inj hloop ▸ rfl
  | cons d ds ih =>
    rw [bufferDescriptorLoop] at hloop
    obtain ⟨⟨type', d'⟩, -, hloop⟩ := Option.bind_eq_some_iff.1 hloop
    obtain ⟨ds₁, hds₁, heq⟩ := Option.bind_eq_some_iff.1 hloop
    rw [← Option.some.inj heq, List.length_cons, List.length_cons, ih hds₁]

/-- All handles of a batch were made, and the handles in use are as they were. -/
lemma GrallocInv.attrs (hinv : GrallocInv s) {env : ℕ → AttrEnv} {ion : IonEnv}
    (hnew : ion.NewFresh s.process)
    (hattr : ¬(env 0).Ok ∨ ∀ i < n, (env i).Ok) (hion : IonInv s.process pHandle₀ ion n b)
    (hloop : bufferAttrLoop env n (List.range n) b = some (b', r)) :
    GrallocInv ⟨b'.process, s.live.filter (fun a => b'.process.validate a = some true) ++
      if r < 0 then [] else (List.range n).map b'.pHandle⟩ := by
  have hsome (a : ℕ) (ha : a ∈ s.live) : s.process.heap a ≠ none := by
    obtain ⟨hnd, hhnd, -⟩ := (hinv.own a ha).2
    exact hhnd ▸ Option.some_ne_none hnd
  have hmade (i : ℕ) (hi : i < n) : b.pHandle i ≠ 0 ∧ OwnAt s.process.pid b.process (b.pHandle i) ∧
      b.pHandle i ∉ s.live := by
    obtain ⟨a, ha, hptr, hown⟩ := hion.made i hi
    rw [hptr]
    exact ⟨a.2.ne', hown, fun hmem => hsome a hmem (hnew.1 i a ha)⟩
  by_cases hok : ∀ i < n, (env i).Ok
  · obtain ⟨p', hres, hpid, hdump, hown, hheap⟩ := bufferAttrLoop_ok (n := n)
      (fun i hi => hok i (List.mem_range.1 hi))
      (fun i hi => ⟨(hmade i (List.mem_range.1 hi)).1, (hmade i (List.mem_range.1 hi)).2.1⟩)
    obtain ⟨rfl, rfl⟩ := Prod.ext_iff.1 (Option.some.inj (hloop.symm.trans hres))
    have hold (a : ℕ) (ha : a ∈ s.live) : OwnAt s.process.pid p' a := by
      refine hown a ?_
      rw [OwnAt, hion.old a (hsome a ha)]
      exact (hinv.own a ha).2
    rw [if_neg (lt_irrefl _), hinv.filter_live hold]
    refine ⟨?_, List.nodup_append.2 ⟨hinv.nodup, ?_, ?_⟩, fun a ha => ?_⟩
    · rw [hdump, hion.dump, hinv.dump]
    · refine List.Nodup.map_on (fun i hi j hj heq => ?_) List.nodup_range
      obtain ⟨a, ha, hptr, -⟩ := hion.made i (List.mem_range.1 hi)
      obtain ⟨a', ha', hptr', -⟩ := hion.made j (List.mem_range.1 hj)
      have haa : a = a' := Subtype.ext (hptr.symm.trans (heq.trans hptr'))
      exact hnew.2 i j a ha (haa ▸ ha')
    · intro a ha a' ha' heq
      obtain ⟨i, hi, rfl⟩ := List.mem_map.1 ha'
      exact (hmade i (List.mem_range.1 hi)).2.2 (heq ▸ ha)
    · rw [hpid, hion.pid]
      rcases List.mem_append.1 ha with ha | ha
      · exact ⟨(hinv.own a ha).1, hold a ha⟩
      · obtain ⟨i, hi, rfl⟩ := List.mem_map.1 ha
        exact ⟨(hmade i (List.mem_range.1 hi)).1, hown _ (hmade i (List.mem_range.1 hi)).2.1⟩
  · obtain ⟨m, rfl⟩ : ∃ m, n = m + 1 := by
      cases n with
      | zero => exact absurd (fun i hi => absurd hi (Nat.not_lt_zero i)) hok
      | succ m => exact ⟨m, rfl⟩
    rw [List.range_succ_eq_map] at hloop
    obtain ⟨hr, hframe⟩ :=
      bufferAttrLoop_fails (hattr.resolve_right hok) (hmade 0 m.succ_pos).2.1 m.succ_pos hloop
    rw [if_pos hr]
    refine hinv.kept (hframe.pid.trans hion.pid) (hframe.dump.trans hion.dump) fun a ha => ?_
    refine (hframe.heap a ?_).trans (hion.old a (hsome a ha))
    rintro ⟨j, hj, rfl⟩
    exact (hmade j hj).2.2 ha

lemma GrallocInv.allocate (hinv : GrallocInv s) {env : GrallocEnv} {pHandle handles}
    (hnew : env.ion.NewFresh s.process) (hclean : (GrallocOp.allocate env ds pHandle).Clean s)
    (hcall : (GrallocOp.allocate env ds pHandle).call cfg s.process = some (p, handles)) :
    GrallocInv ⟨p, s.live.filter (fun a => p.validate a = some true) ++ handles⟩ := by
  obtain ⟨⟨b, res⟩, halloc, heq⟩ := Option.map_eq_some_iff.1 hcall
  obtain ⟨rfl, rfl⟩ := Prod.ext_iff.1 heq
  rw [maliGrallocBufferAllocate] at halloc
  cases hloop : bufferDescriptorLoop cfg.select cfg.video .uncompressed ds with
  | none =>
    rw [hloop] at halloc
    obtain ⟨rfl, rfl⟩ := Prod.ext_iff.1 (Option.some.inj halloc)
    exact hinv.kept rfl rfl fun _ _ => rfl
  | some ds' =>
    have hlen := bufferDescriptorLoop_length hloop
    rw [hloop] at halloc
    cases hion : maliGrallocIonAllocate cfg.ion env.ion ds' ⟨s.process, pHandle⟩ with
    | none => simp [hion] at halloc
    | some res' =>
      obtain ⟨b₁, err⟩ := res'
      simp only [hion] at halloc
      rcases maliGrallocIonAllocate_done hnew b₁ err
        hion with ⟨rfl, hmade⟩ | ⟨herr, hpid, hdump, hheap⟩
      · rw [if_neg (lt_irrefl _)] at halloc
        cases hattr : bufferAttrLoop env.attr ds'.length (List.range ds'.length) b₁ with
        | none => simp [hattr] at halloc
        | some res' =>
          obtain ⟨b₂, err⟩ := res'
          have hattrs := hinv.attrs hnew (hlen ▸ hclean.2) hmade hattr
          simp only [hattr] at halloc
          split at halloc <;> rename_i herr
          · obtain ⟨rfl, rfl⟩ := Prod.ext_iff.1 (Option.some.inj halloc)
            rwa [if_pos herr] at hattrs
          · obtain ⟨rfl, rfl⟩ := Prod.ext_iff.1 (Option.some.inj halloc)
            rwa [if_neg herr, hlen] at hattrs
      · rw [if_pos herr] at halloc
        obtain ⟨rfl, rfl⟩ := Prod.ext_iff.1 (Option.some.inj halloc)
        refine hinv.kept hpid hdump fun a ha => hheap a ?_ fun j hj heq => ?_
        · obtain ⟨hnd, hhnd, -⟩ := (hinv.own a ha).2
          exact hhnd ▸ Option.some_ne_none hnd
        · exact hclean.1 j (hlen ▸ hj) (heq ▸ ha)

/-! ## Every run -/

lemma GrallocInv.start (pid ionClient : Int) (legacyIon : Bool) (heap : ℕ → Option PrivateHandle) :
    GrallocInv (.start pid ionClient legacyIon heap) :=
  ⟨rfl, List.nodup_nil, fun _ ha => absurd ha List.not_mem_nil⟩

lemma GrallocInv.step (hinv : GrallocInv s) {op : GrallocOp} (hclean : op.Clean s)
    (hstep : GrallocStep cfg op s s') : GrallocInv s' := by
  obtain ⟨hlegal, hnext⟩ := hstep
  obtain ⟨⟨p, handles⟩, hcall, rfl⟩ := Option.map_eq_some_iff.1 hnext
  cases op with
  | allocate env ds pHandle => exact hinv.allocate hlegal hclean hcall
  | retain env handle =>
    obtain ⟨r, hret, heq⟩ := Option.map_eq_some_iff.1 hcall
    obtain ⟨rfl, rfl⟩ := Prod.ext_iff.1 heq
    exact hinv.retain hlegal hret
  | release canFree handle =>
    obtain ⟨r, hrel, heq⟩ := Option.map_eq_some_iff.1 hcall
    obtain ⟨rfl, rfl⟩ := Prod.ext_iff.1 heq
    exact hinv.release hlegal hrel
  | free handle => exact hclean.elim

/-- A step that keeps the list. -/
def GrallocCleanStep (cfg : GrallocConfig) (s s' : GrallocState) : Prop :=
  ∃ op : GrallocOp, op.Clean s ∧ GrallocStep cfg op s s'

/-- In every run of such steps, the list has the handles in use after every step. -/
theorem dumpBuffers_exact (cfg : GrallocConfig) (pid ionClient : Int) (legacyIon : Bool)
    (heap : ℕ → Option PrivateHandle) (s : GrallocState)
    (hrun : Relation.ReflTransGen (GrallocCleanStep cfg) (.start pid ionClient legacyIon heap) s) :
    DumpExact s :=
  (run_invariant GrallocInv (fun _ _ hinv ⟨_, hclean, hstep⟩ => hinv.step hclean hstep) (.start ..)
    hrun).exact

/-- A process that has opened the ION client. -/
def grallocStart : GrallocState := .start 1 3 true fun _ => none

/-- After the allocation of one buffer. -/
def grallocAllocated : GrallocState :=
  (grallocStart.next plainConfig (.allocate plainEnv [rgbaBuffer] fun _ => 0)).getD grallocStart

lemma plainEnv_newFresh : plainEnv.ion.NewFresh grallocStart.process := by
  refine ⟨fun i a _ => rfl, fun i j a hi hj => ?_⟩
  have hij : 100 + i = 100 + j :=
    (congrArg Subtype.val (Option.some.inj hi)).trans
      (congrArg Subtype.val (Option.some.inj hj)).symm
  omega

/-- After its release. -/
def grallocReleased : GrallocState :=
  (grallocAllocated.next plainConfig (.release true 100)).getD grallocAllocated

/-- One buffer is allocated and released: it is on the list in between, and the list is empty again
behind. -/
theorem dumpBuffers_exact_allocated :
    DumpExact grallocAllocated ∧ grallocAllocated.process.dumpBuffers = [100] ∧
      DumpExact grallocReleased ∧ grallocReleased.process.dumpBuffers = [] := by
  have hallocated : Relation.ReflTransGen (GrallocCleanStep plainConfig) grallocStart
      grallocAllocated :=
    .single ⟨.allocate plainEnv [rgbaBuffer] fun _ => 0,
      ⟨fun _ _ => List.not_mem_nil, .inr fun _ _ => ⟨rfl, rfl⟩⟩, plainEnv_newFresh, rfl⟩
  have hreleased := hallocated.tail (c := grallocReleased)
    ⟨.release true 100, trivial, (by decide : 100 ∈ grallocAllocated.live), rfl⟩
  exact ⟨dumpBuffers_exact plainConfig 1 3 true (fun _ => none) grallocAllocated hallocated, rfl,
    dumpBuffers_exact plainConfig 1 3 true (fun _ => none) grallocReleased hreleased, rfl⟩

/-- The legacy device frees a buffer and leaves it on the list. -/
theorem dumpBuffers_exact_free :
    ¬∀ s, Relation.ReflTransGen (fun s s' => ∃ op, GrallocStep plainConfig op s s') grallocStart s →
      DumpExact s := by
  intro hexact
  have hfree := hexact ((grallocAllocated.next plainConfig (.free 100)).getD grallocStart) <|
    .tail (.single ⟨.allocate plainEnv [rgbaBuffer] fun _ => 0, plainEnv_newFresh, rfl⟩)
      ⟨.free 100, (by decide : 100 ∈ grallocAllocated.live), rfl⟩
  exact absurd ((hfree.mem 100).1 (by decide)) (by decide)

end Hikey
