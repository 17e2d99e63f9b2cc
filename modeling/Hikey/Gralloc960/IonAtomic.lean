import Hikey.Gralloc960.IonAllocate

/-!
# What a failed allocation gives back

The cleanup closes and unmaps, but it deletes no handle, and a descriptor is not closed before a
handle holds it.  So a failed call gives everything back exactly when it fails before it has got
anything.
-/

namespace Hikey

/-! ## What is required -/

/-- What the calls of an allocation have got is given back, each once, and nothing else. -/
structure CallsBalanced (calls : List GrallocCall) : Prop where
  fds : ∀ fd, calls.count (.close fd) = calls.count (.gotFd fd)
  maps : ∀ a, calls.count (.munmap a) = calls.count (.mmap a)
  handles : ∀ a, calls.count (.delete a) = calls.count (.new a)

/-- A call that returns an error has given back what it has got, and other handles are as they were.
-/
def IonAtomic (cfg : IonConfig) (env : IonEnv) (ds : List BufferDescriptor) (b : IonBatch) : Prop :=
  ∃ b' r, maliGrallocIonAllocate cfg env ds b = some (b', r) ∧ (r < 0 →
    ∃ calls, b'.process.calls = b.process.calls ++ calls ∧ CallsBalanced calls ∧
      ∀ a, .new a ∉ calls → b'.process.heap a = b.process.heap a)

/-! ## When it holds -/

/-- The client was not open and cannot be opened. -/
def IonOpenFails (env : IonEnv) (p : GrallocProcess) : Prop :=
  p.ionClient < 0 ∧ (env.ionOpen = none ∨ env.ionIsLegacy = false ∧ env.systemHeap < 0)

/-- A backing store is allocated. -/
def IonBackOk (cfg : IonConfig) (env : IonBackEnv) (p : GrallocProcess) (d : BufferDescriptor) :
    Prop :=
  pickIonHeap cfg d.usage ≠ .none ∧
    if p.legacyIon then 0 ≤ p.ionClient ∧ d.size ≠ 0 ∧
      ¬(env.ionAlloc = false ∧ cfg.secure ∧ pickIonHeap cfg d.usage = .secure) ∧
      env.ionShare.isSome ∧ env.ionFree = 0
    else env.ionAllocFd.isSome

/-- All buffers from number `i` on are mapped. -/
def IonMapOk (env : IonEnv) : ℕ → List BufferDescriptor → Prop
  | _, [] => True
  | i, d :: ds => (d.usage &&& usageProtected = 0 → (env.mmap i).isSome) ∧ IonMapOk env (i + 1) ds

/-- All handles from number `i` on are made for one backing store. -/
def IonShareOk (env : IonEnv) (maxIndex : ℕ) : ℕ → List BufferDescriptor → Prop
  | _, [] => True
  | i, _ :: ds => (i ≠ maxIndex → (env.dup i).isSome) ∧ (env.new i).isSome ∧
      IonShareOk env maxIndex (i + 1) ds

/-- All backing stores from number `i` on are allocated, and their handles are made. -/
def IonSeparateOk (cfg : IonConfig) (env : IonEnv) (p : GrallocProcess) :
    ℕ → List BufferDescriptor → Prop
  | _, [] => True
  | i, d :: ds => IonBackOk cfg (env.back i) p d ∧ (env.new i).isSome ∧
      IonSeparateOk cfg env p (i + 1) ds

/-- The descriptor that a shared backing store is for. -/
def maxBufferDescriptor (ds : List BufferDescriptor) : Option BufferDescriptor :=
  ds[getMaxBufferDescriptorIndex ds]?

/-- Nothing fails. -/
def IonAllOk (cfg : IonConfig) (env : IonEnv) (ds : List BufferDescriptor) (p : GrallocProcess) :
    Prop :=
  IonMapOk env 0 ds ∧
    if checkBuffersSharable cfg env.stack ds then
      (∃ d, maxBufferDescriptor ds = some d ∧
        IonBackOk cfg (env.back (getMaxBufferDescriptorIndex ds)) p d) ∧
      IonShareOk env (getMaxBufferDescriptorIndex ds) 0 ds
    else IonSeparateOk cfg env p 0 ds

/-- The cleanup leaves what is at an address alone. -/
def IonSpares (p : GrallocProcess) (a : ℕ) : Prop :=
  a = 0 ∨ ∃ hnd, p.heap a = some hnd ∧
    (hnd.flags &&& privFlagsFramebuffer ≠ 0 ∨ hnd.flags &&& privFlagsUsesIon = 0)

/-- The first backing store cannot be allocated, and there is nothing in the array that the cleanup
would free. -/
def IonFirstFails (cfg : IonConfig) (env : IonEnv) (ds : List BufferDescriptor) (b : IonBatch) :
    Prop :=
  if checkBuffersSharable cfg env.stack ds then
    ∃ d, maxBufferDescriptor ds = some d ∧
      ¬IonBackOk cfg (env.back (getMaxBufferDescriptorIndex ds)) b.process d
  else
    (∃ d, ds.head? = some d ∧ ¬IonBackOk cfg (env.back 0) b.process d) ∧
      ∀ i < ds.length, IonSpares b.process (b.pHandle i)

/-- Nothing fails, or something fails before the call has got anything. -/
def IonClean (cfg : IonConfig) (env : IonEnv) (ds : List BufferDescriptor) (b : IonBatch) : Prop :=
  IonOpenFails env b.process ∨
    ¬IonOpenFails env b.process ∧ IonAllOk cfg env ds (ionOpenClient env b.process).1 ∨
    0 ≤ b.process.ionClient ∧ IonFirstFails cfg env ds b

/-! ## The parts of a call -/

variable {cfg : IonConfig} {env : IonEnv} {ds : List BufferDescriptor} {b b' b₀ : IonBatch}
  {p p' : GrallocProcess} {calls : List GrallocCall} {i n : ℕ} {d : BufferDescriptor} {r : Int}

/-- What a cleanup does: it closes and unmaps, and fills handles with zeros. -/
structure IonFrees (p p' : GrallocProcess) : Prop where
  calls : ∃ calls, p'.calls = p.calls ++ calls ∧ ∀ a, .new a ∉ calls ∧ .delete a ∉ calls
  heap : ∀ a, p'.heap a = p.heap a ∨ p'.heap a = some .zero

lemma IonFrees.refl (p : GrallocProcess) : IonFrees p p :=
  ⟨⟨[], by simp⟩, fun _ => .inl rfl⟩

lemma IonFrees.trans {p'' : GrallocProcess} (h : IonFrees p p') (h' : IonFrees p' p'') :
    IonFrees p p'' := by
  obtain ⟨c, hc, hno⟩ := h.calls
  obtain ⟨c', hc', hno'⟩ := h'.calls
  refine ⟨⟨c ++ c', by rw [hc', hc, List.append_assoc], fun a => ?_⟩, fun a => ?_⟩
  · simp [hno a, hno' a]
  · rcases h'.heap a with heq | heq
    · exact heq ▸ h.heap a
    · exact .inr heq

/-- A handle that the cleanup frees is filled with zeros. -/
lemma maliGrallocIonFree_frees {a : ℕ} {hnd : PrivateHandle} :
    IonFrees p (maliGrallocIonFree p a hnd) := by
  unfold maliGrallocIonFree
  split
  · exact .refl p
  · split
    · refine ⟨?_, fun a' => ?_⟩
      · simp only [GrallocProcess.set_calls, GrallocProcess.call_calls, GrallocProcess.close]
        split <;> split <;> simp [GrallocProcess.call]
      · by_cases ha : a' = a
        · exact .inr (ha ▸ GrallocProcess.set_heap)
        · refine .inl ?_
          simp only [GrallocProcess.set, Function.update_of_ne ha, GrallocProcess.close]
          split <;> split <;> rfl
    · exact .refl p

/-- A handle that is spared stays as it is. -/
lemma maliGrallocIonFree_spares {a : ℕ} {hnd : PrivateHandle}
    (hspares : hnd.flags &&& privFlagsFramebuffer ≠ 0 ∨ hnd.flags &&& privFlagsUsesIon = 0) :
    maliGrallocIonFree p a hnd = p := by
  rw [maliGrallocIonFree]
  by_cases hfb : hnd.flags &&& privFlagsFramebuffer ≠ 0
  · rw [if_pos hfb]
  · rw [if_neg hfb, if_neg (not_not.2 (hspares.resolve_left hfb))]

/-- What a cleanup comes to: it leaves everything as it is, or it overwrites a handle. -/
lemma maliGrallocIonFreeInternal_cases {pHandle : ℕ → ℕ} {is : List ℕ}
    (hfree : maliGrallocIonFreeInternal pHandle is p = some p') :
    IonFrees p p' ∧ (p' = p ∧ (∀ i ∈ is, IonSpares p (pHandle i)) ∨ ∃ a, p'.heap a ≠ p.heap a) := by
  induction is generalizing p with
  | nil => exact ⟨Option.some.inj hfree ▸ .refl p, .inl ⟨(Option.some.inj hfree).symm, by simp⟩⟩
  | cons i is ih =>
    rw [maliGrallocIonFreeInternal] at hfree
    by_cases hzero : pHandle i = 0
    · rw [if_neg (not_not.2 hzero)] at hfree
      obtain ⟨hfrees, ⟨hsame, hspares⟩ | hchanged⟩ := ih hfree
      · exact ⟨hfrees, .inl ⟨hsame, List.forall_mem_cons.2 ⟨.inl hzero, hspares⟩⟩⟩
      · exact ⟨hfrees, .inr hchanged⟩
    · rw [if_pos hzero] at hfree
      cases hhnd : p.heap (pHandle i) with
      | none => simp [hhnd] at hfree
      | some hnd =>
        rw [hhnd] at hfree
        obtain ⟨hfrees, hrest⟩ := ih hfree
        refine ⟨maliGrallocIonFree_frees.trans hfrees, ?_⟩
        by_cases hspares : hnd.flags &&& privFlagsFramebuffer ≠ 0 ∨
          hnd.flags &&& privFlagsUsesIon = 0
        · rw [maliGrallocIonFree_spares hspares] at hrest
          refine hrest.imp_left fun h =>
            ⟨h.1, List.forall_mem_cons.2 ⟨.inr ⟨hnd, hhnd, hspares⟩, h.2⟩⟩
        · right
          rw [not_or, not_not] at hspares
          refine ⟨pHandle i, ?_⟩
          have hzeroed : (maliGrallocIonFree p (pHandle i) hnd).heap (pHandle i) = some .zero := by
            rw [maliGrallocIonFree, if_neg (not_not.2 hspares.1), if_pos hspares.2]
            exact GrallocProcess.set_heap
          have hend : p'.heap (pHandle i) = some .zero := by
            rcases hfrees.heap (pHandle i) with heq | heq
            · rw [heq, hzeroed]
            · exact heq
          rw [hend, hhnd]
          intro heq
          have : PrivateHandle.zero.flags &&& privFlagsUsesIon = 0 := by decide
          exact hspares.2 (Option.some.inj heq ▸ this)

/-- A cleanup of handles that are spared does nothing. -/
lemma maliGrallocIonFreeInternal_spares {pHandle : ℕ → ℕ} {is : List ℕ}
    (hspares : ∀ i ∈ is, IonSpares p (pHandle i)) :
    maliGrallocIonFreeInternal pHandle is p = some p := by
  induction is with
  | nil => rfl
  | cons i is ih =>
    have hrest := ih fun j hj => hspares j (List.mem_cons_of_mem i hj)
    rw [maliGrallocIonFreeInternal]
    obtain hzero | ⟨hnd, hhnd, hflags⟩ := hspares i List.mem_cons_self
    · rw [if_neg (not_not.2 hzero), hrest]
    · split
      · rw [hhnd]
        simp only [maliGrallocIonFree_spares hflags, hrest]
      · exact hrest

/-- Calls that leave nothing to be given back, and no handle changed. -/
structure IonSilent (p p' : GrallocProcess) : Prop where
  calls : ∃ calls, p'.calls = p.calls ++ calls ∧
    (calls = [] ∨ ∃ fd, calls = [.gotFd fd, .close fd])
  heap : p'.heap = p.heap
  client : p'.ionClient = p.ionClient
  legacy : p'.legacyIon = p.legacyIon

lemma IonSilent.refl (p : GrallocProcess) : IonSilent p p := ⟨⟨[], by simp⟩, rfl, rfl, rfl⟩

/-- The backing store is got. -/
lemma ionBackingStore_ok {env : IonBackEnv} (hok : IonBackOk cfg env p d) :
    ∃ fd : ℕ, ionBackingStore cfg env p d.size (pickIonHeap cfg d.usage) =
      (p.call (.gotFd fd), (fd : Int)) := by
  obtain ⟨hheap, hok⟩ := hok
  rw [ionBackingStore]
  by_cases hlegacy : p.legacyIon = true
  · rw [if_pos hlegacy] at hok ⊢
    obtain ⟨hclient, hsize, halloc, hshare, hfree⟩ := hok
    obtain ⟨fd, hshare⟩ := Option.isSome_iff_exists.1 hshare
    refine ⟨fd, ?_⟩
    rw [allocFromIonHeap, if_neg (by simp only [hsize, hheap, or_false]; omega),
      if_neg (by simpa using halloc), hshare]
    simp only [hfree, ne_eq, not_true, if_false]
  · rw [if_neg hlegacy] at hok ⊢
    obtain ⟨fd, hfd⟩ := Option.isSome_iff_exists.1 hok
    exact ⟨fd, by rw [hfd]⟩

/-- There is no backing store. -/
lemma ionBackingStore_fails {env : IonBackEnv} (hheap : pickIonHeap cfg d.usage ≠ .none)
    (hok : ¬IonBackOk cfg env p d) :
    ∃ p', ionBackingStore cfg env p d.size (pickIonHeap cfg d.usage) = (p', -1) ∧
      IonSilent p p' := by
  rw [ionBackingStore]
  by_cases hlegacy : p.legacyIon = true
  · rw [if_pos hlegacy, allocFromIonHeap]
    split
    · exact ⟨p, rfl, .refl p⟩
    · rename_i hargs
      split
      · exact ⟨p, rfl, .refl p⟩
      · rename_i halloc
        cases hshare : env.ionShare with
        | none => exact ⟨p, rfl, .refl p⟩
        | some fd =>
          by_cases hfree : env.ionFree = 0
          · refine absurd ⟨hheap, ?_⟩ hok
            rw [if_pos hlegacy]
            simp only [not_or] at hargs
            exact ⟨by omega, hargs.2.1, by simpa using halloc, by simp [hshare], hfree⟩
          · have hfd : ¬((fd : ℕ) : Int) < 0 := by omega
            refine ⟨_, by simp only [hfree, ne_eq, not_false_eq_true, if_true]; rfl,
              ⟨[.gotFd fd, .close fd], ?_, .inr ⟨_, rfl⟩⟩, ?_, ?_, ?_⟩ <;>
              simp [GrallocProcess.close, hfd, GrallocProcess.call]
  · rw [if_neg hlegacy]
    cases hfd : env.ionAllocFd with
    | none => exact ⟨p, rfl, .refl p⟩
    | some fd =>
      refine absurd ⟨hheap, ?_⟩ hok
      rw [if_neg hlegacy, hfd]
      rfl

/-! ## What remains to be given back -/

/-- What a call that fails must not leave behind. -/
def IonUnclean (b₀ b : IonBatch) : Prop :=
  ∀ calls, b.process.calls = b₀.process.calls ++ calls → CallsBalanced calls →
    ∃ a, .new a ∉ calls ∧ b.process.heap a ≠ b₀.process.heap a

/-- A handle was made; no call deletes it. -/
def IonMade (b₀ b : IonBatch) : Prop :=
  ∃ calls, b.process.calls = b₀.process.calls ++ calls ∧ (∃ a, .new a ∈ calls) ∧
    ∀ a, .delete a ∉ calls

/-- A descriptor was got that no handle holds. -/
def IonHolds (b₀ b : IonBatch) : Prop :=
  ∃ calls, b.process.calls = b₀.process.calls ++ calls ∧
    (∃ fd, calls.count (.close fd) < calls.count (.gotFd fd)) ∧
    (∀ a, .new a ∉ calls ∧ .delete a ∉ calls) ∧ b.process.heap = b₀.process.heap

/-- Something was got that the cleanup does not give back. -/
def IonPending (b₀ b : IonBatch) : Prop := IonMade b₀ b ∨ IonHolds b₀ b

lemma IonMade.unclean (h : IonMade b₀ b) : IonUnclean b₀ b := by
  obtain ⟨calls, hcalls, ⟨a, hnew⟩, hdelete⟩ := h
  intro calls' hcalls' hbalanced
  obtain rfl := List.append_cancel_left (hcalls.symm.trans hcalls')
  have hcount := hbalanced.handles a
  rw [List.count_eq_zero_of_not_mem (hdelete a)] at hcount
  exact absurd hnew (List.count_eq_zero.1 hcount.symm)

lemma IonMade.frees (h : IonMade b₀ b) (hfrees : IonFrees b.process b'.process) :
    IonMade b₀ b' := by
  obtain ⟨calls, hcalls, ⟨a, hnew⟩, hdelete⟩ := h
  obtain ⟨calls', hcalls', hno⟩ := hfrees.calls
  refine ⟨calls ++ calls',
    by rw [hcalls', hcalls, List.append_assoc], ⟨a, by simp [hnew]⟩, fun a => ?_⟩
  simp [hdelete a, (hno a).2]

/-- The cleanup does not give everything back. -/
lemma IonPending.fail (h : IonPending b₀ b) (hfail : b.fail n = some (b', r)) :
    r < 0 ∧ IonUnclean b₀ b' := by
  rw [IonBatch.fail, Option.map_eq_some_iff] at hfail
  obtain ⟨p, hfree, heq⟩ := hfail
  obtain ⟨rfl, rfl⟩ := Prod.ext_iff.1 heq
  refine ⟨by norm_num, ?_⟩
  obtain ⟨hfrees, hcases⟩ := maliGrallocIonFreeInternal_cases hfree
  rcases h with hmade | ⟨calls, hcalls, ⟨fd, hfd⟩, hno, hheap⟩
  · exact (hmade.frees hfrees).unclean
  · obtain ⟨calls', hcalls', hno'⟩ := hfrees.calls
    intro all hall hbalanced
    have hsplit : all = calls ++ calls' := by
      refine List.append_cancel_left (hall.symm.trans ?_)
      simp only [hcalls', hcalls, List.append_assoc]
    rcases hcases with ⟨hsame, -⟩ | ⟨a, ha⟩
    · have hnil : calls' = [] := by
        rw [hsame] at hcalls'
        simpa using hcalls'
      have hcount := hbalanced.fds fd
      rw [hsplit, hnil, List.append_nil] at hcount
      omega
    · exact ⟨a, by simp [hsplit, (hno a).1, (hno' a).1], hheap ▸ ha⟩

lemma IonPending.gotFd (h : IonPending b₀ b) (fd : ℕ) :
    IonPending b₀ { b with process := b.process.call (.gotFd fd) } := by
  rcases h with ⟨calls, hcalls, ⟨a, hnew⟩, hdelete⟩ | ⟨calls, hcalls, ⟨k, hk⟩, hno, hheap⟩
  · refine .inl ⟨calls ++ [.gotFd fd], by simp [hcalls], ⟨a, by simp [hnew]⟩, by simp [hdelete]⟩
  · refine .inr ⟨calls ++ [.gotFd fd], by simp [hcalls], ⟨k, ?_⟩, by simp [hno], hheap⟩
    simp only [List.count_append]
    have hclose : List.count (GrallocCall.close k) [.gotFd fd] = 0 := by simp
    omega

lemma IonPending.silent (h : IonPending b₀ b) (hsilent : IonSilent b.process p) :
    IonPending b₀ { b with process := p } := by
  obtain ⟨⟨calls', hcalls', hcases⟩, hheap', -, -⟩ := hsilent
  have hno' (a : ℕ) : .new a ∉ calls' ∧ .delete a ∉ calls' := by
    rcases hcases with rfl | ⟨fd, rfl⟩ <;> simp
  have hcount (k : Int) : calls'.count (.close k) = calls'.count (.gotFd k) := by
    rcases hcases with rfl | ⟨fd, rfl⟩
    · simp
    · by_cases hk : fd = k <;> simp [hk]
  rcases h with ⟨calls, hcalls, ⟨a, hnew⟩, hdelete⟩ | ⟨calls, hcalls, ⟨k, hk⟩, hno, hheap⟩
  · exact .inl ⟨calls ++ calls', by simp [hcalls', hcalls], ⟨a, by simp [hnew]⟩,
      fun a => by simp [hdelete a, (hno' a).2]⟩
  · refine .inr ⟨calls ++ calls', by simp [hcalls', hcalls], ⟨k, ?_⟩,
      fun a => by simp [hno a, hno' a], hheap'.trans hheap⟩
    simp only [List.count_append, hcount k]
    omega

/-- From the first handle on there is something that nothing gives back. -/
lemma IonPending.store (h : IonPending b₀ b) (i a : ℕ) (flags : U32) (fd : Int) :
    IonMade b₀ (b.store i a flags fd) := by
  rcases h with ⟨calls, hcalls, -, hdelete⟩ | ⟨calls, hcalls, -, hno, -⟩
  · exact ⟨calls ++ [.new a], by simp [IonBatch.store, hcalls], ⟨a, by simp⟩, by simp [hdelete]⟩
  · exact ⟨calls ++ [.new a], by simp [IonBatch.store, hcalls], ⟨a, by simp⟩, by simp [hno]⟩

/-- How a part of the call ends: nothing failed, or something is left. -/
def IonEnds (b₀ : IonBatch) (ok : Prop) (res : Option (IonBatch × Int)) : Prop :=
  ∀ b' r, res = some (b', r) → r = 0 ∧ ok ∨ r < 0 ∧ IonUnclean b₀ b'

lemma IonPending.ends_fail (h : IonPending b₀ b) {ok : Prop} : IonEnds b₀ ok (b.fail n) :=
  fun _ _ hfail => .inr (h.fail hfail)

lemma IonMade.ends_map (h : IonMade b₀ b) :
    IonEnds b₀ (IonMapOk env i ds) (ionMapLoop env n i ds b) := by
  induction ds generalizing i b with
  | nil =>
    intro b' r hres
    obtain ⟨rfl, rfl⟩ := Prod.ext_iff.1 (Option.some.inj hres)
    exact .inl ⟨rfl, trivial⟩
  | cons d ds ih =>
    intro b' r hres
    rw [ionMapLoop] at hres
    cases hhnd : b.process.heap (b.pHandle i) with
    | none => simp [hhnd] at hres
    | some hnd =>
      rw [hhnd] at hres
      simp only at hres
      by_cases husage : d.usage &&& usageProtected = 0
      · rw [if_pos husage] at hres
        cases hmap : env.mmap i with
        | none =>
          rw [hmap] at hres
          exact IonPending.ends_fail (.inl h) b' r hres
        | some base =>
          rw [hmap] at hres
          have hmade : IonMade b₀ { b with
              process :=
              (b.process.call (.mmap base)).set (b.pHandle i) { hnd with base := base } } := by
            obtain ⟨calls, hcalls, ⟨a, hnew⟩, hdelete⟩ := h
            exact ⟨calls ++ [.mmap base], by simp [hcalls], ⟨a, by simp [hnew]⟩, by simp [hdelete]⟩
          refine (ih hmade b' r hres).imp_left fun hok => ⟨hok.1, fun _ => by simp [hmap], hok.2⟩
      · rw [if_neg husage] at hres
        exact (ih h b' r hres).imp_left fun hok => ⟨hok.1, fun h => absurd h husage, hok.2⟩

lemma IonPending.ends_share {m : ℕ} {flags : U32} {fd : Int}
    {k : IonBatch → Option (IonBatch × Int)}
    {ok : Prop} (h : IonPending b₀ b) (hds : ds = [] → IonMade b₀ b)
    (hk : ∀ b, IonMade b₀ b → IonEnds b₀ ok (k b)) :
    IonEnds b₀ (IonShareOk env m i ds ∧ ok) (ionShareLoop env n m flags fd k i ds b) := by
  induction ds generalizing i b with
  | nil =>
    intro b' r hres
    exact (hk b (hds rfl) b' r hres).imp_left fun hok => ⟨hok.1, trivial, hok.2⟩
  | cons d ds ih =>
    intro b' r hres
    rw [ionShareLoop] at hres
    by_cases hi : i = m
    · rw [if_neg (not_not.2 hi)] at hres
      cases hnew : env.new i with
      | none =>
        rw [hnew] at hres
        exact h.ends_fail b' r hres
      | some a =>
        rw [hnew] at hres
        have hmade := h.store i a flags fd
        exact (ih (.inl hmade) (fun _ => hmade) b' r hres).imp_left fun hok =>
          ⟨hok.1, ⟨fun hne => absurd hi hne, by simp [hnew], hok.2.1⟩, hok.2.2⟩
    · rw [if_pos hi] at hres
      cases hdup : env.dup i with
      | none =>
        rw [hdup] at hres
        exact h.ends_fail b' r hres
      | some fd' =>
        rw [hdup] at hres
        simp only at hres
        cases hnew : env.new i with
        | none =>
          rw [hnew] at hres
          exact (h.gotFd fd').ends_fail b' r hres
        | some a =>
          rw [hnew] at hres
          have hmade := (h.gotFd fd').store i a flags fd'
          exact (ih (.inl hmade) (fun _ => hmade) b' r hres).imp_left fun hok =>
            ⟨hok.1, ⟨fun _ => by simp [hdup], by simp [hnew], hok.2.1⟩, hok.2.2⟩

/-- The part of a process that decides whether a backing store is allocated. -/
def IonSameClient (p p' : GrallocProcess) : Prop :=
  p'.ionClient = p.ionClient ∧ p'.legacyIon = p.legacyIon

lemma IonSameClient.backOk {env : IonBackEnv} (h : IonSameClient p p') :
    IonBackOk cfg env p' d ↔ IonBackOk cfg env p d := by
  rw [IonBackOk, IonBackOk, h.1, h.2]

lemma IonPending.ends_separate {flag : U32} {k : IonBatch → Option (IonBatch × Int)} {ok : Prop}
    (h : IonPending b₀ b) (hds : ds = [] → IonMade b₀ b) (hclient : IonSameClient p b.process)
    (hk : ∀ b, IonMade b₀ b → IonEnds b₀ ok (k b)) :
    IonEnds b₀ (IonSeparateOk cfg env p i ds ∧ ok) (ionSeparateLoop cfg env n k i flag ds b) := by
  induction ds generalizing i b flag with
  | nil =>
    intro b' r hres
    exact (hk b (hds rfl) b' r hres).imp_left fun hok => ⟨hok.1, trivial, hok.2⟩
  | cons d ds ih =>
    intro b' r hres
    rw [ionSeparateLoop] at hres
    by_cases hheap : pickIonHeap cfg d.usage = .none
    · rw [if_pos hheap] at hres
      exact h.ends_fail b' r hres
    · rw [if_neg hheap] at hres
      by_cases hback : IonBackOk cfg (env.back i) b.process d
      · obtain ⟨fd, hfd⟩ := ionBackingStore_ok hback
        have hnonneg : ¬((fd : ℕ) : Int) < 0 := by omega
        rw [hfd] at hres
        simp only [hnonneg, if_false] at hres
        cases hnew : env.new i with
        | none =>
          rw [hnew] at hres
          exact (h.gotFd fd).ends_fail b' r hres
        | some a =>
          rw [hnew] at hres
          have hmade := (h.gotFd fd).store i a
            (privFlagsUsesIon ||| setIonPrivFlags cfg (pickIonHeap cfg d.usage) flag) fd
          exact (ih (.inl hmade) (fun _ => hmade) hclient b' r hres).imp_left fun hok =>
            ⟨hok.1, ⟨hclient.backOk.1 hback, by simp [hnew], hok.2.1⟩, hok.2.2⟩
      · obtain ⟨p', hp', hsilent⟩ := ionBackingStore_fails hheap hback
        rw [hp'] at hres
        exact (h.silent hsilent).ends_fail b' r hres

/-! ## A call in which nothing fails -/

/-- The entries of the array below `i` are handles. -/
def IonStored (b : IonBatch) (i : ℕ) : Prop := ∀ j < i, (b.process.heap (b.pHandle j)).isSome

lemma IonStored.set (h : IonStored b n) (a : ℕ) (hnd : PrivateHandle) (c : GrallocCall) :
    IonStored { b with process := (b.process.call c).set a hnd } n := by
  intro j hj
  by_cases ha : b.pHandle j = a
  · simp [GrallocProcess.set, ha]
  · simpa [GrallocProcess.set, Function.update_of_ne ha] using h j hj

lemma IonStored.store (h : IonStored b i) (a : ℕ) (flags : U32) (fd : Int) :
    IonStored (b.store i a flags fd) (i + 1) := by
  intro j hj
  by_cases hji : j = i
  · simp [IonBatch.store, hji]
  · have hold := h j (by omega)
    by_cases ha : b.pHandle j = a
    · simp [IonBatch.store, Function.update_of_ne hji, GrallocProcess.set, ha]
    · simpa [IonBatch.store, Function.update_of_ne hji, GrallocProcess.set,
        Function.update_of_ne ha]
        using hold

lemma IonMapOk.succeeds {m : ℕ} (hok : IonMapOk env i ds) (h : IonStored b m)
    (hm : i + ds.length ≤ m) :
    ∃ b', ionMapLoop env n i ds b = some (b', 0) := by
  induction ds generalizing i b with
  | nil => exact ⟨b, rfl⟩
  | cons d ds ih =>
    simp only [List.length_cons] at hm
    obtain ⟨hmap, hrest⟩ := hok
    obtain ⟨hnd, hhnd⟩ := Option.isSome_iff_exists.1 (h i (by omega))
    rw [ionMapLoop, hhnd]
    by_cases husage : d.usage &&& usageProtected = 0
    · obtain ⟨base, hbase⟩ := Option.isSome_iff_exists.1 (hmap husage)
      simp only [husage, if_true, hbase]
      exact ih hrest (h.set _ _ _) (by omega)
    · simp only [husage, if_false]
      exact ih hrest h (by omega)

lemma IonShareOk.succeeds {m : ℕ} {flags : U32} {fd : Int} {k : IonBatch → Option (IonBatch × Int)}
    (hok : IonShareOk env m i ds) (h : IonStored b i)
    (hk : ∀ b, IonStored b (i + ds.length) → ∃ b', k b = some (b', 0)) :
    ∃ b', ionShareLoop env n m flags fd k i ds b = some (b', 0) := by
  induction ds generalizing i b with
  | nil => exact hk b h
  | cons d ds ih =>
    obtain ⟨hdup, hnew, hrest⟩ := hok
    obtain ⟨a, ha⟩ := Option.isSome_iff_exists.1 hnew
    have hlast : ∀ b, IonStored b (i + 1 + ds.length) → ∃ b', k b = some (b', 0) := fun b hb =>
      hk b (by rwa [List.length_cons, Nat.add_comm ds.length, ← Nat.add_assoc])
    rw [ionShareLoop]
    by_cases hi : i = m
    · rw [if_neg (not_not.2 hi), ha]
      exact ih hrest (h.store _ _ _) hlast
    · obtain ⟨fd', hfd'⟩ := Option.isSome_iff_exists.1 (hdup hi)
      rw [if_pos hi, hfd']
      simp only [ha]
      exact ih hrest
        (IonStored.store (b := { b with process := b.process.call (.gotFd fd') }) h _ _ _) hlast

lemma IonSeparateOk.succeeds {flag : U32} {k : IonBatch → Option (IonBatch × Int)}
    (hok : IonSeparateOk cfg env p i ds) (h : IonStored b i) (hclient : IonSameClient p b.process)
    (hk : ∀ b, IonStored b (i + ds.length) → ∃ b', k b = some (b', 0)) :
    ∃ b', ionSeparateLoop cfg env n k i flag ds b = some (b', 0) := by
  induction ds generalizing i b flag with
  | nil => exact hk b h
  | cons d ds ih =>
    obtain ⟨hback, hnew, hrest⟩ := hok
    obtain ⟨a, ha⟩ := Option.isSome_iff_exists.1 hnew
    obtain ⟨fd, hfd⟩ := ionBackingStore_ok (hclient.backOk.2 hback)
    have hnonneg : ¬((fd : ℕ) : Int) < 0 := by omega
    rw [ionSeparateLoop, if_neg hback.1, hfd]
    simp only [hnonneg, if_false, ha]
    exact ih hrest (IonStored.store (b := { b with process := b.process.call (.gotFd fd) }) h _ _ _)
      hclient
      fun b hb => hk b (by rwa [List.length_cons, Nat.add_comm ds.length, ← Nat.add_assoc])

/-! ## The whole call -/

/-- Opening the client fails without a trace, or it is open. -/
lemma ionOpenClient_cases (env : IonEnv) (p : GrallocProcess) :
    ∃ p', IonOpenFails env p ∧ ionOpenClient env p = (p', false) ∧ p'.heap = p.heap ∧
        (∃ calls, p'.calls = p.calls ++ calls ∧
        (calls = [] ∨ ∃ fd, calls = [.gotFd fd, .close fd])) ∨
      ¬IonOpenFails env p ∧ ionOpenClient env p = (p', true) ∧
        (0 ≤ p.ionClient ∧ p' = p ∨
          p.ionClient < 0 ∧ p'.heap = p.heap ∧ ∃ fd, p'.calls = p.calls ++ [.gotFd fd]) := by
  rw [ionOpenClient]
  by_cases hclient : p.ionClient < 0
  · rw [if_pos hclient]
    cases hopen : env.ionOpen with
    | none => exact ⟨_, .inl ⟨⟨hclient, .inl hopen⟩, rfl, rfl, [], by simp⟩⟩
    | some fd =>
      cases hlegacy : env.ionIsLegacy with
      | true => exact ⟨_,
          .inr ⟨by simp [IonOpenFails, hopen, hlegacy], rfl, .inr ⟨hclient, rfl, fd, rfl⟩⟩⟩
      | false =>
        by_cases hsystem : env.systemHeap < 0
        · have hfd : ¬((fd : ℕ) : Int) < 0 := by omega
          simp only [Bool.false_eq_true, if_false, hsystem, if_true]
          exact ⟨_, .inl
            ⟨⟨hclient, .inr ⟨hlegacy, hsystem⟩⟩, rfl, by simp [GrallocProcess.close, hfd],
            [.gotFd fd, .close fd], by simp [GrallocProcess.close, hfd, GrallocProcess.call],
            .inr ⟨fd, rfl⟩⟩⟩
        · have hok : ¬IonOpenFails env p := by
            rintro ⟨-, h | h⟩
            · rw [hopen] at h
              cases h
            · exact hsystem h.2
          simp only [Bool.false_eq_true, if_false, hsystem]
          split
          · exact ⟨_, .inr ⟨hok, rfl, .inr ⟨hclient, rfl, fd, rfl⟩⟩⟩
          · exact ⟨_, .inr ⟨hok, rfl, .inr ⟨hclient, rfl, fd, rfl⟩⟩⟩
  · rw [if_neg hclient]
    exact ⟨p, .inr ⟨fun h => hclient h.1, rfl, .inl ⟨not_lt.1 hclient, rfl⟩⟩⟩

/-- What the end of a call has to be like. -/
def IonGivesBack (b₀ : IonBatch) (res : Option (IonBatch × Int)) : Prop :=
  ∃ b' r, res = some (b', r) ∧ (r < 0 →
    ∃ calls, b'.process.calls = b₀.process.calls ++ calls ∧ CallsBalanced calls ∧
      ∀ a, .new a ∉ calls → b'.process.heap a = b₀.process.heap a)

/-- A call that ends with nothing failed or something left gives back exactly when nothing fails. -/
lemma IonEnds.givesBack_iff {ok : Prop} {res : Option (IonBatch × Int)} (hends : IonEnds b₀ ok res)
    (hok : ok → ∃ b', res = some (b', 0)) : IonGivesBack b₀ res ↔ ok := by
  constructor
  · rintro ⟨b', r, hres, hback⟩
    rcases hends b' r hres with ⟨-, h⟩ | ⟨hr, hunclean⟩
    · exact h
    · obtain ⟨calls, hcalls, hbalanced, hheap⟩ := hback hr
      obtain ⟨a, hnew, ha⟩ := hunclean calls hcalls hbalanced
      exact absurd (hheap a hnew) ha
  · intro h
    obtain ⟨b', hres⟩ := hok h
    exact ⟨b', 0, hres, fun hr => absurd hr (lt_irrefl _)⟩

/-- An error after which nothing is left. -/
lemma IonGivesBack.of_silent
    (hcalls : ∃ calls, b.process.calls = b₀.process.calls ++ calls ∧
      (calls = [] ∨ ∃ fd, calls = [.gotFd fd, .close fd]))
    (hheap : b.process.heap = b₀.process.heap) : IonGivesBack b₀ (some (b, -1)) := by
  obtain ⟨calls, heq, hcases⟩ := hcalls
  refine ⟨b, -1, rfl, fun _ => ⟨calls, heq, ?_, fun a _ => by rw [hheap]⟩⟩
  rcases hcases with rfl | ⟨fd, rfl⟩
  · constructor <;> simp
  · constructor
    · intro k
      by_cases hk : fd = k <;> simp [hk]
    · simp
    · simp

lemma IonHolds.ends {ok : Prop} (h : IonHolds b₀ b) : IonEnds b₀ ok (some (b, -1)) := by
  intro b' r hres
  obtain ⟨rfl, rfl⟩ := Prod.ext_iff.1 (Option.some.inj hres)
  obtain ⟨calls, hcalls, ⟨fd, hfd⟩, -, -⟩ := h
  refine .inr ⟨by norm_num, fun calls' hcalls' hbalanced => ?_⟩
  obtain rfl := List.append_cancel_left (hcalls.symm.trans hcalls')
  have hcount := hbalanced.fds fd
  omega

/-- The part of the call behind the opening of the client. -/
def ionAllocateRest (cfg : IonConfig) (env : IonEnv) (ds : List BufferDescriptor) (b : IonBatch) :
    Option (IonBatch × Int) :=
  if checkBuffersSharable cfg env.stack ds then
    match maxBufferDescriptor ds with
    | none => none
    | some d =>
      if pickIonHeap cfg d.usage = .none then some (b, -1)
      else
        let (p, fd) :=
          ionBackingStore cfg (env.back (getMaxBufferDescriptorIndex ds)) b.process d.size
          (pickIonHeap cfg d.usage)
        if fd < 0 then some ({ b with process := p }, -1)
        else ionShareLoop env ds.length (getMaxBufferDescriptorIndex ds)
          (privFlagsUsesIon ||| setIonPrivFlags cfg (pickIonHeap cfg d.usage) 0) fd
          (ionMapLoop env ds.length 0 ds) 0 ds { b with process := p }
  else ionSeparateLoop cfg env ds.length (ionMapLoop env ds.length 0 ds) 0 0 ds b

lemma maliGrallocIonAllocate_eq (b : IonBatch) :
    maliGrallocIonAllocate cfg env ds b =
      if (ionOpenClient env b.process).2 then
        ionAllocateRest cfg env ds { b with process := (ionOpenClient env b.process).1 }
      else some ({ b with process := (ionOpenClient env b.process).1 }, -1) := by
  rw [maliGrallocIonAllocate]
  obtain ⟨p, opened⟩ := ionOpenClient env b.process
  cases opened <;> rfl

/-- A batch with a descriptor that has a shared backing store is not empty. -/
lemma maxBufferDescriptor_ne_nil (hd : maxBufferDescriptor ds = some d) : ds ≠ [] := by
  rintro rfl
  simp [maxBufferDescriptor] at hd

/-- Nothing fails, when all goes well. -/
lemma IonAllOk.succeeds (hok : IonAllOk cfg env ds b.process) :
    ∃ b', ionAllocateRest cfg env ds b = some (b', 0) := by
  obtain ⟨hmap, hback⟩ := hok
  have hlast : ∀ b, IonStored b (0 + ds.length) →
      ∃ b', ionMapLoop env ds.length 0 ds b = some (b', 0) :=
    fun b hb => hmap.succeeds hb le_rfl
  have hnone : IonStored b 0 := fun _ h => absurd h (Nat.not_lt_zero _)
  rw [ionAllocateRest]
  by_cases hshare : checkBuffersSharable cfg env.stack ds = true
  · rw [if_pos hshare] at hback ⊢
    obtain ⟨⟨d, hd, hok⟩, hloop⟩ := hback
    obtain ⟨fd, hfd⟩ := ionBackingStore_ok hok
    have hnonneg : ¬((fd : ℕ) : Int) < 0 := by omega
    rw [hd]
    simp only [if_neg hok.1, hfd, hnonneg, if_false]
    exact hloop.succeeds (b := { b with process := b.process.call (.gotFd fd) }) hnone hlast
  · rw [if_neg hshare] at hback ⊢
    exact hback.succeeds hnone ⟨rfl, rfl⟩ hlast

/-- With a descriptor that nothing gives back, all has to go well. -/
lemma IonHolds.ends_rest (h : IonHolds b₀ b) (hds : ds ≠ []) :
    IonEnds b₀ (IonAllOk cfg env ds b.process) (ionAllocateRest cfg env ds b) := by
  rw [ionAllocateRest]
  by_cases hshare : checkBuffersSharable cfg env.stack ds = true
  · rw [if_pos hshare]
    cases hd : maxBufferDescriptor ds with
    | none => exact fun b' r hres => by cases hres
    | some d =>
      by_cases hheap : pickIonHeap cfg d.usage = .none
      · simp only [if_pos hheap]
        exact h.ends
      · simp only [if_neg hheap]
        by_cases hback : IonBackOk cfg (env.back (getMaxBufferDescriptorIndex ds)) b.process d
        · obtain ⟨fd, hfd⟩ := ionBackingStore_ok hback
          have hnonneg : ¬((fd : ℕ) : Int) < 0 := by omega
          simp only [hfd, hnonneg, if_false]
          intro b' r hres
          refine ((IonPending.gotFd (.inr h) fd).ends_share (fun h => absurd h hds)
            (fun b hb => hb.ends_map) b' r hres).imp_left fun hok => ⟨hok.1, hok.2.2, ?_⟩
          rw [if_pos hshare]
          exact ⟨⟨d, hd, hback⟩, hok.2.1⟩
        · obtain ⟨p', hp', hsilent⟩ := ionBackingStore_fails hheap hback
          have hneg : (-1 : Int) < 0 := by norm_num
          simp only [hp', hneg, if_true]
          rcases IonPending.silent (.inr h) hsilent with hmade | hholds
          · intro b' r hres
            obtain ⟨rfl, rfl⟩ := Prod.ext_iff.1 (Option.some.inj hres)
            exact .inr ⟨hneg, hmade.unclean⟩
          · exact hholds.ends
  · rw [if_neg hshare]
    intro b' r hres
    refine (IonPending.ends_separate (p := b.process) (.inr h) (fun h => absurd h hds) ⟨rfl, rfl⟩
      (fun b hb => hb.ends_map) b' r hres).imp_left fun hok => ⟨hok.1, hok.2.2, ?_⟩
    rw [if_neg hshare]
    exact hok.2.1

/-- A cleanup before anything was got gives back exactly when it frees nothing. -/
lemma IonSilent.fail_givesBack_iff (hsilent : IonSilent b.process p) :
    IonGivesBack b (IonBatch.fail { b with process := p } n) ↔
      ∀ i < n, IonSpares b.process (b.pHandle i) := by
  have hspares (a : ℕ) : IonSpares p a ↔ IonSpares b.process a := by
    rw [IonSpares, IonSpares, hsilent.heap]
  constructor
  · rintro ⟨b', r, hres, hback⟩ i hi
    rw [IonBatch.fail, Option.map_eq_some_iff] at hres
    obtain ⟨p', hfree, heq⟩ := hres
    obtain ⟨rfl, rfl⟩ := Prod.ext_iff.1 heq
    obtain ⟨hfrees, ⟨-, hall⟩ | ⟨a, ha⟩⟩ := maliGrallocIonFreeInternal_cases hfree
    · exact (hspares _).1 (hall i (List.mem_range.2 hi))
    · obtain ⟨calls, hcalls, hbalanced, hheap⟩ := hback (by norm_num)
      obtain ⟨calls₁, hcalls₁, hcases⟩ := hsilent.calls
      obtain ⟨calls₂, hcalls₂, hno⟩ := hfrees.calls
      have hsplit : calls = calls₁ ++ calls₂ := by
        refine List.append_cancel_left (hcalls.symm.trans ?_)
        simp only [hcalls₂, hcalls₁, List.append_assoc]
      have hnew : .new a ∉ calls := by
        rw [hsplit]
        rcases hcases with rfl | ⟨fd, rfl⟩ <;> simp [(hno a).1]
      exact absurd ((hheap a hnew).trans (congrFun hsilent.heap a).symm) ha
  · intro hall
    have hfree : maliGrallocIonFreeInternal b.pHandle (List.range n) p = some p :=
      maliGrallocIonFreeInternal_spares fun i hi => (hspares _).2 (hall i (List.mem_range.1 hi))
    rw [IonBatch.fail, hfree]
    exact .of_silent hsilent.calls hsilent.heap

/-- With the client open, a call gives back exactly when nothing fails or the first backing store
does. -/
lemma ionAllocateRest_givesBack_iff :
    IonGivesBack b (ionAllocateRest cfg env ds b) ↔
      IonAllOk cfg env ds b.process ∨ IonFirstFails cfg env ds b := by
  have hgot (fd : ℕ) : IonHolds b { b with process := b.process.call (.gotFd fd) } :=
    ⟨[.gotFd fd], rfl, ⟨fd, by simp⟩, by simp, rfl⟩
  have hiff (hends : IonEnds b (IonAllOk cfg env ds b.process) (ionAllocateRest cfg env ds b))
      (hfirst : ¬IonFirstFails cfg env ds b) :
      IonGivesBack b (ionAllocateRest cfg env ds b) ↔
        IonAllOk cfg env ds b.process ∨ IonFirstFails cfg env ds b := by
    rw [hends.givesBack_iff fun hok => hok.succeeds, or_iff_left hfirst]
  by_cases hshare : checkBuffersSharable cfg env.stack ds = true
  · cases hd : maxBufferDescriptor ds with
    | none =>
      refine hiff ?_ (by simp [IonFirstFails, hshare, hd])
      rw [ionAllocateRest, if_pos hshare, hd]
      exact fun b' r hres => by cases hres
    | some d =>
      by_cases hback : IonBackOk cfg (env.back (getMaxBufferDescriptorIndex ds)) b.process d
      · refine hiff ?_ (by simp [IonFirstFails, hshare, hd, hback])
        obtain ⟨fd, hfd⟩ := ionBackingStore_ok hback
        have hnonneg : ¬((fd : ℕ) : Int) < 0 := by omega
        rw [ionAllocateRest, if_pos hshare, hd]
        simp only [if_neg hback.1, hfd, hnonneg, if_false]
        intro b' r hres
        refine (IonPending.ends_share (.inr (hgot fd))
          (fun h => absurd h (maxBufferDescriptor_ne_nil hd))
          (fun b hb => hb.ends_map) b' r hres).imp_left fun hok => ⟨hok.1, hok.2.2, ?_⟩
        rw [if_pos hshare]
        exact ⟨⟨d, hd, hback⟩, hok.2.1⟩
      · refine iff_of_true ?_ (.inr (by simp [IonFirstFails, hshare, hd, hback]))
        rw [ionAllocateRest, if_pos hshare, hd]
        by_cases hheap : pickIonHeap cfg d.usage = .none
        · simp only [if_pos hheap]
          exact .of_silent ⟨[], by simp⟩ rfl
        · obtain ⟨p', hp', hsilent⟩ := ionBackingStore_fails hheap hback
          have hneg : (-1 : Int) < 0 := by norm_num
          simp only [if_neg hheap, hp', hneg, if_true]
          exact .of_silent hsilent.calls hsilent.heap
  · cases ds with
    | nil =>
      refine iff_of_true ?_ (.inl ⟨trivial, by rw [if_neg hshare]; trivial⟩)
      rw [ionAllocateRest, if_neg hshare]
      exact ⟨b, 0, rfl, fun h => absurd h (lt_irrefl _)⟩
    | cons d ds =>
      by_cases hback : IonBackOk cfg (env.back 0) b.process d
      · refine hiff ?_ (by simp [IonFirstFails, hshare, hback])
        obtain ⟨fd, hfd⟩ := ionBackingStore_ok hback
        have hnonneg : ¬((fd : ℕ) : Int) < 0 := by omega
        rw [ionAllocateRest, if_neg hshare, ionSeparateLoop]
        simp only [if_neg hback.1, hfd, hnonneg, if_false]
        cases hnew : env.new 0 with
        | none => exact IonPending.ends_fail (.inr (hgot fd))
        | some a =>
          intro b' r hres
          have hmade := IonPending.store (.inr (hgot fd)) 0 a
            (privFlagsUsesIon ||| setIonPrivFlags cfg (pickIonHeap cfg d.usage) 0) fd
          refine (IonPending.ends_separate (p := b.process) (.inl hmade) (fun _ => hmade) ⟨rfl, rfl⟩
            (fun b hb => hb.ends_map) b' r hres).imp_left fun hok => ⟨hok.1, hok.2.2, ?_⟩
          rw [if_neg hshare]
          exact ⟨hback, by simp [hnew], hok.2.1⟩
      · have hall : ¬IonAllOk cfg env (d :: ds) b.process := by
          rintro ⟨-, hok⟩
          rw [if_neg hshare] at hok
          exact hback hok.1
        have hfirst : IonFirstFails cfg env (d :: ds) b ↔
            ∀ i < (d :: ds).length, IonSpares b.process (b.pHandle i) := by
          rw [IonFirstFails, if_neg hshare]
          exact and_iff_right ⟨d, rfl, hback⟩
        rw [or_iff_right hall, hfirst, ionAllocateRest, if_neg hshare, ionSeparateLoop]
        by_cases hheap : pickIonHeap cfg d.usage = .none
        · simp only [if_pos hheap]
          exact (IonSilent.refl b.process).fail_givesBack_iff
        · obtain ⟨p', hp', hsilent⟩ := ionBackingStore_fails hheap hback
          have hneg : (-1 : Int) < 0 := by norm_num
          simp only [if_neg hheap, hp', hneg, if_true]
          exact hsilent.fail_givesBack_iff

/-- A call gives everything back exactly when nothing fails, or something fails before the call has
got anything. -/
theorem maliGrallocIonAllocate_atomic (cfg : IonConfig) (env : IonEnv) (ds : List BufferDescriptor)
    (b : IonBatch) : IonAtomic cfg env ds b ↔ IonClean cfg env ds b := by
  have hdef : IonAtomic cfg env ds b ↔
      IonGivesBack b (maliGrallocIonAllocate cfg env ds b) := Iff.rfl
  rw [hdef, maliGrallocIonAllocate_eq, IonClean]
  obtain ⟨p, ⟨hfails, hopen, hheap, hcalls⟩ | ⟨hok, hopen, hclient⟩⟩ :=
    ionOpenClient_cases env b.process
  · rw [hopen]
    exact iff_of_true (.of_silent hcalls hheap) (.inl hfails)
  · rw [or_iff_right hok, and_iff_right hok, hopen]
    simp only [if_true]
    obtain ⟨hpos, rfl⟩ | ⟨hneg, hheap, fd, hcalls⟩ := hclient
    · rw [and_iff_right hpos]
      exact ionAllocateRest_givesBack_iff
    · rw [or_iff_left (fun h => absurd h.1 (not_le.2 hneg))]
      have hholds : IonHolds b { b with process := p } :=
        ⟨[.gotFd fd], hcalls, ⟨fd, by simp⟩, by simp, hheap⟩
      refine IonEnds.givesBack_iff ?_ fun hok => hok.succeeds (b := { b with process := p })
      by_cases hds : ds = []
      · subst hds
        intro b' r hres
        obtain ⟨rfl, rfl⟩ := Prod.ext_iff.1 (Option.some.inj hres)
        exact .inl ⟨rfl, trivial, trivial⟩
      · exact hholds.ends_rest hds

/-- A buffer of 4096 bytes that the processor does not write. -/
def smallBuffer : BufferDescriptor := ⟨64, 16, 0, 0, 1, .usage, 4096, 256, 64, 64, 16, 1⟩

/-- The handle is not deleted when its buffer cannot be mapped. -/
theorem maliGrallocIonAllocate_atomic_unmapped :
    ¬IonAtomic ⟨false, false, false⟩
      ⟨none, true, 0, 0, fun _ => 0, fun _ => ⟨true, some 7, 0, none⟩, fun _ => none,
        fun _ => some ⟨100, by decide⟩, fun _ => none⟩ [smallBuffer]
      ⟨⟨1, 3, true, 0, 0, fun _ => none, [], []⟩, fun _ => 0⟩ := by
  rintro ⟨b', r, hres, hback⟩
  obtain ⟨rfl, rfl⟩ := Prod.ext_iff.1 (Option.some.inj hres)
  obtain ⟨calls, hcalls, hbalanced, -⟩ := hback (by decide)
  have heq : calls = [.gotFd 7, .new 100, .close 7, .memset 100] := hcalls.symm
  have hcount := hbalanced.handles 100
  rw [heq] at hcount
  exact absurd hcount (by decide)

end Hikey
