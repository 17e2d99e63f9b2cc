import Hikey.Gralloc960.Handle

/-!
# References to an imported buffer (`mali_gralloc_reference.cpp`)

A process that did not allocate an ION buffer retains and releases it.  The pid in the handle
decides whether a retain maps the buffer, and the count decides whether a release unmaps it: the two
agree as long as every attempt to map succeeds and the buffer is not retained again after its last
release.
-/

namespace Hikey

/-- A call by the importing process; mapping may succeed or fail. -/
inductive RefOp
  | retain (env : IonMapEnv)
  | release (canFree : Bool)

/-- The call, with its return value. -/
def RefOp.call : RefOp → GrallocProcess → ℕ → Option (GrallocProcess × Int)
  | .retain env, p, handle => maliGrallocReferenceRetain env p handle
  | .release canFree, p, handle => maliGrallocReferenceRelease canFree p handle

/-- Where buffers were mapped, in their order. -/
def GrallocProcess.maps (p : GrallocProcess) : List ℕ :=
  p.calls.filterMap fun
    | .mmap a => some a
    | _ => none

/-- Where buffers were unmapped, in their order. -/
def GrallocProcess.unmaps (p : GrallocProcess) : List ℕ :=
  p.calls.filterMap fun
    | .munmap a => some a
    | _ => none

/-- The references that process `pid` has: a handle comes with the count of the process that sent
it. -/
def PrivateHandle.refs (hnd : PrivateHandle) (pid : Int) : Int :=
  if hnd.remotePid = pid then hnd.refCount else 0

/-- What a call has to do. -/
structure RefGood (op : RefOp) (p p' : GrallocProcess) (hnd hnd' : PrivateHandle) (r : Int) :
    Prop where
  /-- A retain that returns 0 leaves the buffer mapped. -/
  retained : ∀ env, op = .retain env → r = 0 → hnd'.base ≠ 0
  /-- Each mapping was unmapped once, except for the one there is while the count is positive. -/
  mapped : p'.maps = p'.unmaps ++ if 0 < hnd'.refs p'.pid then [hnd'.base] else []
  base : hnd'.remotePid = p'.pid → (hnd'.base ≠ 0 ↔ 0 < hnd'.refCount)
  /-- A retain that fails changes nothing. -/
  failed : ∀ env, op = .retain env → r ≠ 0 → hnd'.refCount = hnd.refCount ∧
    hnd'.remotePid = hnd.remotePid ∧ hnd'.base = hnd.base ∧ p'.maps = p.maps ∧ p'.unmaps = p.unmaps

/-- Every call of a sequence does what it has to. -/
def RefHolds (handle : ℕ) : GrallocProcess → List RefOp → Prop
  | _, [] => True
  | p, op :: ops => ∃ p' r hnd hnd', op.call p handle = some (p', r) ∧ p.heap handle = some hnd ∧
      p'.heap handle = some hnd' ∧ RefGood op p p' hnd hnd' r ∧ RefHolds handle p' ops

/-- The buffer can be mapped. -/
def IonMapEnv.Maps (env : IonMapEnv) (p : GrallocProcess) : Prop :=
  env.hwGetModule = 0 ∧ (0 < p.ionClient ∨ 0 ≤ env.ionOpen) ∧ env.mmap.isSome

/-- The first retain maps the buffer, and every other one finds the count positive and below its
maximum. -/
def RefOp.Allowed (op : RefOp) (p : GrallocProcess) (handle : ℕ) : Prop :=
  ∀ env hnd, op = .retain env → p.heap handle = some hnd →
    if hnd.remotePid = p.pid then 0 < hnd.refCount ∧ hnd.refCount < 2 ^ 31 - 1 else env.Maps p

/-- Every call of a sequence is allowed. -/
def RefAllowed (handle : ℕ) : GrallocProcess → List RefOp → Prop
  | _, [] => True
  | p, op :: ops => op.Allowed p handle ∧
      ∀ p' r, op.call p handle = some (p', r) → RefAllowed handle p' ops

/-- An ION buffer as it comes to a process that neither allocated nor retained it. -/
structure IonImport where
  process : GrallocProcess
  handle : ℕ
  hnd : PrivateHandle
  handle_ne_zero : handle ≠ 0
  found : process.heap handle = some hnd
  calls : process.calls = []
  valid : hnd.magic = sMagic
  ion : hnd.flags &&& privFlagsUsesIon ≠ 0
  not_framebuffer : hnd.flags &&& privFlagsFramebuffer = 0
  offset : hnd.offset = 0
  not_allocator : hnd.allocatingPid ≠ process.pid
  not_importer : hnd.remotePid ≠ process.pid

/-! ## The invariant -/

variable {p p' : GrallocProcess} {handle : ℕ} {hnd hnd' : PrivateHandle} {op : RefOp} {r : Int}

/-- The imported buffer, and how often it is mapped. -/
structure RefInv (p : GrallocProcess) (handle : ℕ) (hnd : PrivateHandle) : Prop where
  handle_ne_zero : handle ≠ 0
  found : p.heap handle = some hnd
  valid : hnd.magic = sMagic
  ion : hnd.flags &&& privFlagsUsesIon ≠ 0
  not_framebuffer : hnd.flags &&& privFlagsFramebuffer = 0
  offset : hnd.offset = 0
  not_allocator : hnd.allocatingPid ≠ p.pid
  mapped : hnd.remotePid ≠ p.pid ∧ p.maps = p.unmaps ∨
    hnd.remotePid = p.pid ∧ hnd.refCount = 0 ∧ hnd.base = 0 ∧ p.maps = p.unmaps ∨
    hnd.remotePid = p.pid ∧ 0 < hnd.refCount ∧ hnd.refCount < 2 ^ 31 ∧ hnd.base ≠ 0 ∧
      p.maps = p.unmaps ++ [hnd.base]

lemma IonImport.inv (i : IonImport) : RefInv i.process i.handle i.hnd where
  handle_ne_zero := i.handle_ne_zero
  found := i.found
  valid := i.valid
  ion := i.ion
  not_framebuffer := i.not_framebuffer
  offset := i.offset
  not_allocator := i.not_allocator
  mapped := .inl ⟨i.not_importer, by simp [GrallocProcess.maps, GrallocProcess.unmaps, i.calls]⟩

section Set

variable {a : ℕ}

@[simp] lemma GrallocProcess.set_maps : (p.set a hnd).maps = p.maps := rfl
@[simp] lemma GrallocProcess.set_unmaps : (p.set a hnd).unmaps = p.unmaps := rfl

@[simp] lemma GrallocProcess.call_mmap_maps : (p.call (.mmap a)).maps = p.maps ++ [a] := by
  simp [GrallocProcess.call, GrallocProcess.maps]

@[simp] lemma GrallocProcess.call_mmap_unmaps : (p.call (.mmap a)).unmaps = p.unmaps := by
  simp [GrallocProcess.call, GrallocProcess.unmaps]

@[simp] lemma GrallocProcess.call_munmap_maps : (p.call (.munmap a)).maps = p.maps := by
  simp [GrallocProcess.call, GrallocProcess.maps]

@[simp] lemma GrallocProcess.call_munmap_unmaps :
    (p.call (.munmap a)).unmaps = p.unmaps ++ [a] := by
  simp [GrallocProcess.call, GrallocProcess.unmaps]

/-- The attribute region is not a buffer. -/
lemma grallocBufferAttrFree_spec (p : GrallocProcess) (a : ℕ) (hnd : PrivateHandle)
    (hfound : p.heap a = some hnd) :
    (grallocBufferAttrFree p a hnd).pid = p.pid ∧ (grallocBufferAttrFree p a hnd).maps = p.maps ∧
      (grallocBufferAttrFree p a hnd).unmaps = p.unmaps ∧
      ∃ base fd, (grallocBufferAttrFree p a hnd).heap a =
        some { hnd with attrBase := base, shareAttrFd := fd } := by
  unfold grallocBufferAttrFree
  split
  · exact ⟨rfl, rfl, rfl, _, _, hfound⟩
  · rename_i hfd
    cases hbase : hnd.attrBase <;>
      refine ⟨?_, ?_, ?_, none, -1, GrallocProcess.set_heap⟩ <;>
      simp [GrallocProcess.close, hfd, GrallocProcess.call, GrallocProcess.maps,
        GrallocProcess.unmaps,
        GrallocProcess.set]

end Set

lemma RefInv.validate (hinv : RefInv p handle hnd) : p.validate handle = some true := by
  simp [GrallocProcess.validate, hinv.handle_ne_zero, hinv.found, hinv.valid]

/-! ## The calls -/

/-- A buffer that was retained before is counted only. -/
lemma RefInv.retain_again (hinv : RefInv p handle hnd) (env : IonMapEnv)
    (hpid : hnd.remotePid = p.pid) :
    maliGrallocReferenceRetain env p handle = (intAdd hnd.refCount 1).map fun count =>
      (p.set handle { hnd with refCount := count }, 0) := by
  simp only [maliGrallocReferenceRetain, hinv.validate, hinv.found, hpid, or_true, if_true,
    Option.bind_eq_bind, Option.bind_some, Bool.not_true, Bool.false_eq_true, if_false]
  cases intAdd hnd.refCount 1 <;> rfl

/-- The first retain maps the buffer. -/
lemma RefInv.retain_first (hinv : RefInv p handle hnd) (env : IonMapEnv)
    (hpid : hnd.remotePid ≠ p.pid) :
    maliGrallocReferenceRetain env p handle =
      some (maliGrallocIonMap env (p.set handle { hnd with remotePid := p.pid, refCount := 1 })
        handle { hnd with remotePid := p.pid, refCount := 1 }) := by
  simp [maliGrallocReferenceRetain, hinv.validate, hinv.found, hpid, hinv.not_allocator,
    hinv.not_framebuffer]
  exact fun hion => absurd hion hinv.ion

/-- Mapping succeeds. -/
lemma maliGrallocIonMap_maps {env : IonMapEnv} (hmaps : env.Maps p) (a : ℕ) (hnd : PrivateHandle)
    (hion : hnd.flags &&& privFlagsUsesIon ≠ 0) :
    ∃ (p' : GrallocProcess) (base : ℕ), maliGrallocIonMap env p a hnd = (p', 0) ∧ 0 < base ∧
      p'.pid = p.pid ∧ p'.heap a = some { hnd with base := base + hnd.offset } ∧
      p'.maps = p.maps ++ [base] ∧ p'.unmaps = p.unmaps := by
  obtain ⟨hmodule, hclient, hmmap⟩ := hmaps
  obtain ⟨⟨base, hbase⟩, hmmap⟩ := Option.isSome_iff_exists.1 hmmap
  obtain ⟨client, hp, hopen⟩ : ∃ client,
    (if p.ionClient ≤ 0 then { p with ionClient := env.ionOpen }
      else p) = { p with ionClient := client } ∧ ¬client < 0 := by
    split
    · exact ⟨env.ionOpen, rfl, by omega⟩
    · exact ⟨p.ionClient, rfl, by omega⟩
  refine ⟨(GrallocProcess.call { p with ionClient := client } (.mmap base)).set a
    { hnd with base := base + hnd.offset }, base, ?_, hbase, rfl, GrallocProcess.set_heap, ?_, ?_⟩
  · simp only [maliGrallocIonMap, hion, hmodule, hmmap, hp, hopen, if_false, ne_eq, not_true]
  · exact GrallocProcess.call_mmap_maps
  · exact GrallocProcess.call_mmap_unmaps

/-- Mapping fails: the handle stays as it is. -/
lemma maliGrallocIonMap_fails (p : GrallocProcess) (handle : ℕ) (hnd : PrivateHandle)
    {env : IonMapEnv}
    (hion : hnd.flags &&& privFlagsUsesIon ≠ 0)
    (hmaps : ¬env.Maps p) :
    ∃ client r, maliGrallocIonMap env p handle hnd = ({ p with ionClient := client }, r) := by
  simp only [maliGrallocIonMap, hion, if_false]
  by_cases hmodule : env.hwGetModule = 0
  · rw [if_neg (not_not.2 hmodule)]
    cases hmmap : env.mmap with
    | none => split <;> split <;> exact ⟨_, _, rfl⟩
    | some a =>
      have hclient : ¬(0 < p.ionClient ∨ 0 ≤ env.ionOpen) := fun h =>
        hmaps ⟨hmodule, h, by simp [hmmap]⟩
      rw [if_pos (show p.ionClient ≤ 0 by omega), if_pos (show env.ionOpen < 0 by omega)]
      exact ⟨_, _, rfl⟩
  · rw [if_pos hmodule]
    exact ⟨_, _, rfl⟩

/-- A release that is not the last one is counted only. -/
lemma RefInv.release_counts (hinv : RefInv p handle hnd) (canFree : Bool)
    (hpid : hnd.remotePid = p.pid) (hlt : 1 < hnd.refCount) (hle : hnd.refCount < 2 ^ 31) :
    maliGrallocReferenceRelease canFree p handle =
      some (p.set handle { hnd with refCount := hnd.refCount + -1 }, 0) := by
  have hadd : intAdd hnd.refCount (-1) = some (hnd.refCount + -1) := if_pos (by omega)
  have hpos : hnd.refCount ≠ 0 := by omega
  have hleft : hnd.refCount + -1 ≠ 0 := by omega
  simp [maliGrallocReferenceRelease, hinv.validate, hinv.found, hpid,
    hinv.not_allocator, hpos, hadd,
    hleft]

/-- The last release unmaps the buffer. -/
lemma RefInv.release_last (hinv : RefInv p handle hnd) (canFree : Bool)
    (hpid : hnd.remotePid = p.pid) (hone : hnd.refCount = 1) :
    ∃ (p' : GrallocProcess) (base : Option ℕ) (fd : Int), maliGrallocReferenceRelease
      canFree p handle =
        some (p'.set handle { hnd with
          refCount := 0, attrBase := base, shareAttrFd := fd, base := 0, writeOwner := 0 }, 0) ∧
      p'.pid = p.pid ∧ p'.maps = p.maps ∧ p'.unmaps = p.unmaps ++ [hnd.base] := by
  have hadd : intAdd hnd.refCount (-1) = some 0 := by rw [hone]; rfl
  have hpos : hnd.refCount ≠ 0 := by omega
  obtain ⟨hpid', hmaps, hunmaps, base, fd, hfound⟩ :=
    grallocBufferAttrFree_spec ((p.set handle { hnd with refCount := 0 }).call (.munmap hnd.base))
      handle { hnd with refCount := 0 } (by simp)
  refine ⟨_, base, fd, ?_, hpid', hmaps.trans (by simp), hunmaps.trans (by simp)⟩
  have hion : ¬hnd.flags &&& privFlagsUsesIon = 0#32 := hinv.ion
  simp [maliGrallocReferenceRelease, hinv.validate, hinv.found, if_pos hpid,
    hinv.not_allocator, hpos,
    hadd, maliGrallocIonUnmap, hion, hfound]

/-- A release without a reference does nothing. -/
lemma RefInv.release_none (hinv : RefInv p handle hnd) (canFree : Bool)
    (hno : hnd.remotePid = p.pid → hnd.refCount = 0) :
    ∃ r, maliGrallocReferenceRelease canFree p handle = some (p, r) := by
  by_cases hzero : hnd.refCount = 0
  · exact ⟨-einval, by simp [maliGrallocReferenceRelease, hinv.validate, hinv.found, hzero]⟩
  · have hpid : hnd.remotePid ≠ p.pid := fun h => hzero (hno h)
    exact ⟨0, by simp [maliGrallocReferenceRelease, hinv.validate, hinv.found, hzero, hpid,
      hinv.not_allocator]⟩

/-- An allowed call does what it has to, and keeps the invariant. -/
lemma RefInv.allowed (hinv : RefInv p handle hnd) (hallowed : op.Allowed p handle) :
    ∃ p' r hnd', op.call p handle = some (p', r) ∧ RefGood op p p' hnd hnd' r ∧
      RefInv p' handle hnd' := by
  cases op with
  | retain env =>
    have hcond := hallowed env hnd rfl hinv.found
    by_cases hpid : hnd.remotePid = p.pid
    · rw [if_pos hpid] at hcond
      obtain ⟨hpos, hlt⟩ := hcond
      obtain ⟨hbase, hmaps⟩ : hnd.base ≠ 0 ∧ p.maps = p.unmaps ++ [hnd.base] := by
        obtain ⟨h, -⟩ | ⟨-, h, -⟩ | ⟨-, -, -, h⟩ := hinv.mapped
        · exact absurd hpid h
        · omega
        · exact h
      have hadd : intAdd hnd.refCount 1 = some (hnd.refCount + 1) := if_pos (by omega)
      have hnext : 0 < hnd.refCount + 1 := by omega
      refine ⟨p.set handle { hnd with refCount := hnd.refCount + 1 }, 0,
        { hnd with refCount := hnd.refCount + 1 }, ?_, ?_, ?_⟩
      · rw [RefOp.call, hinv.retain_again env hpid, hadd]
        rfl
      · exact ⟨fun _ _ _ => hbase, by simp [PrivateHandle.refs, hpid, hnext, hmaps],
          fun _ => by simp [hbase, hnext], fun _ _ h => absurd rfl h⟩
      · exact ⟨hinv.handle_ne_zero, GrallocProcess.set_heap, hinv.valid, hinv.ion,
          hinv.not_framebuffer, hinv.offset, hinv.not_allocator,
          .inr (.inr ⟨hpid, hnext, by simp only; omega, hbase, hmaps⟩)⟩
    · rw [if_neg hpid] at hcond
      have hmaps : p.maps = p.unmaps := by
        obtain ⟨-, h⟩ | ⟨h, -⟩ | ⟨h, -⟩ := hinv.mapped
        · exact h
        · exact absurd h hpid
        · exact absurd h hpid
      obtain ⟨p', base, hmap, hbase, hpid', hfound, hmaps', hunmaps'⟩ := maliGrallocIonMap_maps
        (p := p.set handle { hnd with remotePid := p.pid, refCount := 1 }) hcond handle
        { hnd with remotePid := p.pid, refCount := 1 } hinv.ion
      rw [GrallocProcess.set_pid] at hpid'
      rw [GrallocProcess.set_maps] at hmaps'
      rw [GrallocProcess.set_unmaps] at hunmaps'
      have hpos : base + hnd.offset ≠ 0 := by omega
      refine ⟨p', 0, { hnd with remotePid := p.pid, refCount := 1, base := base + hnd.offset }, ?_,
        ⟨fun _ _ _ => hpos, ?_, fun _ => ?_, fun _ _ h => absurd rfl h⟩, ?_⟩
      · rw [RefOp.call, hinv.retain_first env hpid, hmap]
      · simp [PrivateHandle.refs, hpid', hmaps', hunmaps', hmaps, hinv.offset]
      · exact iff_of_true hpos one_pos
      · exact ⟨hinv.handle_ne_zero, hfound, hinv.valid, hinv.ion, hinv.not_framebuffer, hinv.offset,
          hpid' ▸ hinv.not_allocator, .inr (.inr ⟨hpid'.symm, one_pos, by norm_num, hpos,
            by rw [hmaps', hunmaps', hmaps, hinv.offset, Nat.add_zero]⟩)⟩
  | release canFree =>
    have hretain (env : IonMapEnv) : RefOp.release canFree ≠ .retain env := nofun
    obtain ⟨hpid, hmaps⟩ | ⟨hpid, hzero, hbase, hmaps⟩ | ⟨hpid, hpos, hlt, hbase, hmaps⟩ :=
      hinv.mapped
    · obtain ⟨r, hcall⟩ := hinv.release_none canFree fun h => absurd h hpid
      exact ⟨p, r, hnd, hcall, ⟨fun env h => absurd h (hretain env), by
        simp [PrivateHandle.refs, hpid, hmaps], fun h => absurd h hpid,
        fun env h => absurd h (hretain env)⟩, hinv⟩
    · obtain ⟨r, hcall⟩ := hinv.release_none canFree fun _ => hzero
      exact ⟨p, r, hnd, hcall, ⟨fun env h => absurd h (hretain env), by
        simp [PrivateHandle.refs, hzero, hmaps], fun _ => by simp [hbase, hzero],
        fun env h => absurd h (hretain env)⟩, hinv⟩
    · by_cases hone : hnd.refCount = 1
      · obtain ⟨q, base, fd, hcall, hqpid, hqmaps, hqunmaps⟩ :=
          hinv.release_last canFree hpid hone
        refine ⟨_, 0, { hnd with
          refCount := 0, attrBase := base, shareAttrFd := fd, base := 0, writeOwner := 0 }, hcall,
          ⟨fun env h => absurd h (hretain env), ?_, fun _ => by simp,
          fun env h => absurd h (hretain env)⟩, ?_⟩
        · simp [PrivateHandle.refs, hqpid, hpid, hqmaps, hqunmaps, hmaps]
        · exact ⟨hinv.handle_ne_zero, GrallocProcess.set_heap, hinv.valid, hinv.ion,
            hinv.not_framebuffer, hinv.offset, by simpa [hqpid] using hinv.not_allocator,
            .inr (.inl ⟨by simpa [hqpid] using hpid, rfl, rfl, by simp [hqmaps, hqunmaps, hmaps]⟩)⟩
      · have hnext : 0 < hnd.refCount + -1 := by omega
        refine ⟨_, 0, { hnd with refCount := hnd.refCount + -1 },
          hinv.release_counts canFree hpid (by omega) hlt, ⟨fun env h => absurd h (hretain env), ?_,
            fun _ => ?_, fun env h => absurd h (hretain env)⟩, ?_⟩
        · simp only [PrivateHandle.refs, GrallocProcess.set_pid, hpid, if_true, if_pos hnext,
            GrallocProcess.set_maps, GrallocProcess.set_unmaps, hmaps]
        · simp only [hbase, hnext, ne_eq, not_false_eq_true]
        · exact ⟨hinv.handle_ne_zero, GrallocProcess.set_heap, hinv.valid, hinv.ion,
            hinv.not_framebuffer, hinv.offset, hinv.not_allocator,
            .inr (.inr ⟨hpid, hnext, by simp only; omega, hbase, hmaps⟩)⟩

/-- A call that is not allowed does not do what it has to. -/
lemma RefInv.not_allowed (hinv : RefInv p handle hnd) (hnot : ¬op.Allowed p handle)
    (hcall : op.call p handle = some (p', r)) (hfound : p'.heap handle = some hnd') :
    ¬RefGood op p p' hnd hnd' r := by
  intro hgood
  simp only [RefOp.Allowed, not_forall] at hnot
  obtain ⟨env, hnd₁, rfl, hfound₁, hcond⟩ := hnot
  obtain rfl := Option.some.inj (hfound₁.symm.trans hinv.found)
  rw [RefOp.call] at hcall
  by_cases hpid : hnd₁.remotePid = p.pid
  · rw [hinv.retain_again env hpid] at hcall
    rw [if_pos hpid] at hcond
    cases hadd : intAdd hnd₁.refCount 1 with
    | none => simp [hadd] at hcall
    | some count =>
      rw [hadd] at hcall
      obtain ⟨rfl, rfl⟩ := Prod.ext_iff.1 (Option.some.inj hcall)
      obtain rfl := Option.some.inj (GrallocProcess.set_heap.symm.trans hfound)
      have hbase : hnd₁.base ≠ 0 := hgood.retained env rfl rfl
      obtain ⟨h, -⟩ | ⟨-, -, h, -⟩ | ⟨-, hpos, hlt, -⟩ := hinv.mapped
      · exact h hpid
      · exact hbase h
      · -- the count has reached its maximum, and does not go beyond it
        have hsum : -2 ^ 31 ≤ hnd₁.refCount + 1 ∧ hnd₁.refCount + 1 < 2 ^ 31 := by
          by_contra hsum
          rw [intAdd, if_neg hsum] at hadd
          cases hadd
        exact hcond ⟨hpos, by omega⟩
  · rw [hinv.retain_first env hpid] at hcall
    rw [if_neg hpid] at hcond
    obtain ⟨client, r', hmap⟩ := maliGrallocIonMap_fails
      (p.set handle { hnd₁ with remotePid := p.pid, refCount := 1 }) handle
      { hnd₁ with remotePid := p.pid, refCount := 1 } hinv.ion hcond
    rw [hmap] at hcall
    obtain ⟨rfl, rfl⟩ := Prod.ext_iff.1 (Option.some.inj hcall)
    obtain rfl := Option.some.inj (GrallocProcess.set_heap.symm.trans hfound)
    have hmaps : p.maps = p.unmaps := by
      obtain ⟨-, h⟩ | ⟨h, -⟩ | ⟨h, -⟩ := hinv.mapped
      · exact h
      · exact absurd h hpid
      · exact absurd h hpid
    have hmapped : p.maps = p.unmaps ++ [hnd₁.base] := by
      have hrefs : 0 < PrivateHandle.refs { hnd₁ with remotePid := p.pid, refCount := 1 }
          p.pid := by
        rw [PrivateHandle.refs, if_pos rfl]
        exact one_pos
      exact hgood.mapped.trans (congrArg (p.unmaps ++ ·) (if_pos hrefs))
    rw [hmaps] at hmapped
    simp at hmapped

/-- In every sequence of calls on an imported buffer, each call does what it has to exactly when
each is allowed. -/
theorem maliGrallocReference_holds (i : IonImport) (ops : List RefOp) :
    RefHolds i.handle i.process ops ↔ RefAllowed i.handle i.process ops := by
  have hrun (p : GrallocProcess) (hnd : PrivateHandle) (hinv : RefInv p i.handle hnd) :
      RefHolds i.handle p ops ↔ RefAllowed i.handle p ops := by
    induction ops generalizing p hnd with
    | nil => exact Iff.rfl
    | cons op ops ih =>
      constructor
      · rintro ⟨p', r, hnd₁, hnd', hcall, hfound, hfound', hgood, hrest⟩
        obtain rfl := Option.some.inj (hinv.found.symm.trans hfound)
        have hallowed : op.Allowed p i.handle :=
          not_not.1 fun hnot => hinv.not_allowed hnot hcall hfound' hgood
        obtain ⟨p₁, r₁, hnd₁, hcall₁, -, hinv₁⟩ := hinv.allowed hallowed
        obtain ⟨rfl, rfl⟩ := Prod.ext_iff.1 (Option.some.inj (hcall.symm.trans hcall₁))
        refine ⟨hallowed, fun p₂ r₂ hcall₂ => ?_⟩
        obtain ⟨rfl, rfl⟩ := Prod.ext_iff.1 (Option.some.inj (hcall.symm.trans hcall₂))
        exact (ih _ _ hinv₁).1 hrest
      · rintro ⟨hallowed, hrest⟩
        obtain ⟨p₁, r₁, hnd₁, hcall₁, hgood, hinv₁⟩ := hinv.allowed hallowed
        exact ⟨p₁, r₁, hnd, hnd₁, hcall₁, hinv.found, hinv₁.found, hgood,
          (ih _ _ hinv₁).2 (hrest p₁ r₁ hcall₁)⟩
  exact hrun i.process i.hnd i.inv

/-- A buffer that process 1 has sent to process 2. -/
def importedBuffer : IonImport where
  process := ⟨2, 3, true, 0, 0, fun a => if a = 100 then some (.new 1 privFlagsUsesIon 7)
    else none, [], []⟩
  handle := 100
  hnd := .new 1 privFlagsUsesIon 7
  handle_ne_zero := by decide
  found := rfl
  calls := rfl
  valid := rfl
  ion := by decide
  not_framebuffer := by decide
  offset := rfl
  not_allocator := by decide
  not_importer := by decide

/-- Retained, released and retained again, the buffer is not mapped. -/
theorem maliGrallocReference_holds_again :
    ¬RefHolds importedBuffer.handle importedBuffer.process
      [.retain ⟨0, 3, some ⟨4096, by decide⟩, 0⟩, .release false,
        .retain ⟨0, 3, some ⟨4096, by decide⟩, 0⟩] := by
  intro hholds
  obtain ⟨p₁, r₁, h₀, h₁, hcall₁, -, -, -, p₂, r₂, h₂, h₃, hcall₂, -, -, -, p₃, r₃, h₄,
    h₅, hcall₃, -,
    hfound, hgood, -⟩ := hholds
  obtain ⟨rfl, rfl⟩ := Prod.ext_iff.1 (Option.some.inj hcall₁)
  obtain ⟨rfl, rfl⟩ := Prod.ext_iff.1 (Option.some.inj hcall₂)
  obtain ⟨rfl, rfl⟩ := Prod.ext_iff.1 (Option.some.inj hcall₃)
  obtain rfl := Option.some.inj hfound
  exact hgood.retained _ rfl rfl rfl

end Hikey
