import Hikey.Gralloc960.BufferSize

/-!
# Allocation of a batch (`mali_gralloc_buffer_allocate`)

First the size of every descriptor is computed, then the backing store is allocated, and last every
handle gets its attribute region and its place in the list of buffers to dump.  The type of AFBC is
declared outside of the loop over the descriptors, so it goes from one to the next.
-/

namespace Hikey

/-! ## The source -/

/-- The answers of the system while an attribute region is allocated. -/
structure AttrEnv where
  ashmem : Option ℕ
  mmap : Option ℕ

/-- `gralloc_buffer_attr_allocate`, for the handle that is at address `a`. -/
def grallocBufferAttrAllocate (env : AttrEnv) (p : GrallocProcess) (a : ℕ) (hnd : PrivateHandle) :
    GrallocProcess × Int :=
  let p := p.close hnd.shareAttrFd
  match env.ashmem with
  | none => (p.set a { hnd with shareAttrFd := -1 }, -1)
  | some fd =>
    let p := p.call (.gotFd fd)
    match env.mmap with
    | some base =>
      (((p.call (.mmapAttr base)).call (.munmapAttr base)).set a
        { hnd with shareAttrFd := fd, attrBase := none }, 0)
    | none => ((p.close fd).set a { hnd with shareAttrFd := -1, attrBase := none }, -1)

/-- `mali_gralloc_buffer_free_internal`. -/
def maliGrallocBufferFreeInternal (pHandle : ℕ → ℕ) :
    List ℕ → GrallocProcess → Option GrallocProcess
  | [], p => some p
  | i :: is, p =>
    match p.heap (pHandle i) with
    | none => none
    | some hnd =>
      let p := grallocBufferAttrFree p (pHandle i) hnd
      match p.heap (pHandle i) with
      | none => none
      | some hnd => maliGrallocBufferFreeInternal pHandle is (maliGrallocIonFree p (pHandle i) hnd)

/-- The loop over the handles. -/
def bufferAttrLoop (env : ℕ → AttrEnv) (n : ℕ) : List ℕ → IonBatch → Option (IonBatch × Int)
  | [], b => some (b, 0)
  | i :: is, b =>
    match b.process.heap (b.pHandle i) with
    | none => none
    | some hnd =>
      let (p, err) := grallocBufferAttrAllocate (env i) b.process (b.pHandle i) hnd
      if err < 0 then
        (maliGrallocBufferFreeInternal b.pHandle (List.range n) p).map fun p =>
          ({ b with process := p }, err)
      else
        bufferAttrLoop env n is { b with process := maliGrallocDumpBufferAdd p (b.pHandle i) }

/-- What the module is built for. -/
structure GrallocConfig where
  ion : IonConfig
  video : Bool
  select : SelectFormat

/-- The answers of the system during a call. -/
structure GrallocEnv where
  ion : IonEnv
  attr : ℕ → AttrEnv

/-- `mali_gralloc_buffer_allocate`: an error, or the descriptors with what was computed for them. -/
def maliGrallocBufferAllocate (cfg : GrallocConfig) (env : GrallocEnv) (ds : List BufferDescriptor)
    (b : IonBatch) : Option (IonBatch × Except Int (List BufferDescriptor)) :=
  match bufferDescriptorLoop cfg.select cfg.video .uncompressed ds with
  | none => some (b, .error (-einval))
  | some ds =>
    match maliGrallocIonAllocate cfg.ion env.ion ds b with
    | none => none
    | some (b, err) =>
      if err < 0 then some (b, .error err)
      else
        match bufferAttrLoop env.attr ds.length (List.range ds.length) b with
        | none => none
        | some (b, err) => if err < 0 then some (b, .error err) else some (b, .ok ds)

/-! ## What is required -/

/-- The same request: what the caller sets of a descriptor. -/
structure BufferDescriptor.SameRequest (d d' : BufferDescriptor) : Prop where
  width : d.width = d'.width
  height : d.height = d'.height
  halFormat : d.halFormat = d'.halFormat
  formatType : d.formatType = d'.formatType
  producerUsage : d.producerUsage = d'.producerUsage
  consumerUsage : d.consumerUsage = d'.consumerUsage

/-- The same result: what is computed for a descriptor. -/
structure BufferDescriptor.SameResult (d d' : BufferDescriptor) : Prop where
  size : d.size = d'.size
  byteStride : d.byteStride = d'.byteStride
  pixelStride : d.pixelStride = d'.pixelStride
  internalFormat : d.internalFormat = d'.internalFormat
  internalWidth : d.internalWidth = d'.internalWidth
  internalHeight : d.internalHeight = d'.internalHeight

/-- The helper for the formats of the camera fails. -/
def BufferDescriptor.CameraFails (cfg : GrallocConfig) (d : BufferDescriptor) : Prop :=
  baseFormat (d.prepared cfg.select).internalFormat ∈ [.raw16, .raw12, .raw10, .blob] ∧
    getCameraFormatsStrideAndSize d.width d.height
      (baseFormat (d.prepared cfg.select).internalFormat) = none

/-- The format and the size of a descriptor alone cannot be computed. -/
def BufferDescriptor.Impossible (cfg : GrallocConfig) (d : BufferDescriptor) : Prop :=
  bufferDescriptorStep cfg.select cfg.video .uncompressed d = none ∨ d.CameraFails cfg

/-- Two calls that succeed compute the same for a request that both get, and a call with a
descriptor that cannot be computed fails. -/
structure BufferAllocateIndependent (cfg : GrallocConfig) (ds₁ ds₂ : List BufferDescriptor) :
    Prop where
  same : ∀ env₁ env₂ b₁ b₂ b₁' b₂' ds₁' ds₂',
    maliGrallocBufferAllocate cfg env₁ ds₁ b₁ = some (b₁', .ok ds₁') →
    maliGrallocBufferAllocate cfg env₂ ds₂ b₂ = some (b₂', .ok ds₂') →
    ∀ (i j : ℕ) (d₁ d₂ : BufferDescriptor), ds₁[i]? = some d₁ → ds₂[j]? = some d₂ →
      d₁.SameRequest d₂ →
      ∃ d₁' d₂', ds₁'[i]? = some d₁' ∧ ds₂'[j]? = some d₂' ∧ d₁'.SameResult d₂'
  fails : ∀ env b, (∃ d ∈ ds₁, d.Impossible cfg) →
    maliGrallocBufferAllocate cfg env ds₁ b = some (b, .error (-einval))

/-- The buffer is compressed. -/
def BufferDescriptor.Afbc (cfg : GrallocConfig) (d : BufferDescriptor) : Prop :=
  (d.prepared cfg.select).internalFormat &&& intfmtAfbcEnableMask ≠ 0

/-- No uncompressed buffer comes behind a compressed one, and no buffer has a format of the camera
with dimensions that this format cannot have. -/
structure BatchClean (cfg : GrallocConfig) (ds : List BufferDescriptor) : Prop where
  ordered : ds.Pairwise fun d d' => d.Afbc cfg → d'.Afbc cfg
  camera : ∀ d ∈ ds, ¬d.CameraFails cfg

variable {cfg : GrallocConfig} {ds ds₁ ds₂ : List BufferDescriptor} {d d' : BufferDescriptor}
  {type : AllocType}

/-! ## One descriptor -/

/-- All results are written, unless the helper for the camera fails. -/
lemma bufferDescriptorSize_congr (type : AllocType) (d : BufferDescriptor) (video : Bool)
    (size : BitVec 64)
    (byteStride pixelStride : U32)
    (hcamera : baseFormat d.internalFormat ∈ [.raw16, .raw12, .raw10, .blob] →
      getCameraFormatsStrideAndSize d.width d.height (baseFormat d.internalFormat) ≠ none) :
    bufferDescriptorSize video type
        { d with size := size, byteStride := byteStride, pixelStride := pixelStride } =
      bufferDescriptorSize video type d := by
  have hcam (hmem : baseFormat d.internalFormat ∈ [.raw16, .raw12, .raw10, .blob]) :
      ∃ r, getCameraFormatsStrideAndSize d.width d.height (baseFormat d.internalFormat) = some r :=
    Option.ne_none_iff_exists'.1 (hcamera hmem)
  simp only [bufferDescriptorSize, BufferDescriptor.sized, BufferDescriptor.usage]
  cases hbase : baseFormat d.internalFormat with
  | raw16 => obtain ⟨r, hr⟩ := hcam (by simp [hbase]); simp only [← hbase, hr]
  | raw12 => obtain ⟨r, hr⟩ := hcam (by simp [hbase]); simp only [← hbase, hr]
  | raw10 => obtain ⟨r, hr⟩ := hcam (by simp [hbase]); simp only [← hbase, hr]
  | blob => obtain ⟨r, hr⟩ := hcam (by simp [hbase]); simp only [← hbase, hr]
  | _ => rfl

/-- What is computed depends on the request only. -/
lemma bufferDescriptorStep_congr (hsame : d.SameRequest d') (hcamera : ¬d.CameraFails cfg) :
    bufferDescriptorStep cfg.select cfg.video type d' = bufferDescriptorStep cfg.select
      cfg.video type d := by
  have hprepared : d'.prepared cfg.select = { d.prepared cfg.select with
      size := d'.size, byteStride := d'.byteStride, pixelStride := d'.pixelStride } := by
    obtain ⟨hwidth, hheight, hformat, htype, hproducer, hconsumer⟩ := hsame
    simp only [BufferDescriptor.prepared,
      BufferDescriptor.usage, ← hwidth, ← hheight, ← hformat, ← htype,
      ← hproducer, ← hconsumer]
  simp only [bufferDescriptorStep, hprepared, BufferDescriptor.usage]
  have hcongr (type : AllocType) :=
    bufferDescriptorSize_congr type (d.prepared cfg.select) cfg.video
    d'.size d'.byteStride d'.pixelStride fun hmem hnone => hcamera ⟨hmem, hnone⟩
  simp only [hcongr]

/-- The type that comes from the descriptor before does not matter to a compressed buffer. -/
lemma allocTypeFor_afbc {internalFormat : BitVec 64} (usage : BitVec 64) (type type' : AllocType)
    (hafbc : internalFormat &&& intfmtAfbcEnableMask ≠ 0) :
    allocTypeFor internalFormat usage type = allocTypeFor internalFormat usage type' := by
  rw [allocTypeFor, allocTypeFor, if_pos hafbc, if_pos hafbc]
  by_cases htiled : internalFormat &&& intfmtAfbcTiledHeaders ≠ 0
  · rw [if_pos htiled, if_pos htiled]
    by_cases hwide : internalFormat &&& intfmtAfbcWideblk ≠ 0
    · rw [if_pos hwide, if_pos hwide]
    · by_cases hbasic : internalFormat &&& intfmtAfbcBasic ≠ 0
      · rw [if_neg hwide, if_neg hwide, if_pos hbasic, if_pos hbasic]
      · have hsplit : internalFormat &&& intfmtAfbcSplitblk ≠ 0 := by
          intro hsplit
          rw [not_not] at hwide hbasic
          apply hafbc
          rw [intfmtAfbcEnableMask, BitVec.and_or_distrib_left, BitVec.and_or_distrib_left,
            hwide, hbasic,
            hsplit]
          rfl
        rw [if_neg hwide, if_neg hwide, if_neg hbasic, if_neg hbasic, if_pos hsplit, if_pos hsplit]
  · rw [if_neg htiled, if_neg htiled]

/-- The type that a descriptor gets is its own, if it is compressed or no compressed one was before
it. -/
lemma bufferDescriptorStep_type (htype : d.Afbc cfg ∨ type = .uncompressed) :
    bufferDescriptorStep cfg.select cfg.video type d =
      bufferDescriptorStep cfg.select cfg.video .uncompressed d := by
  rcases htype with hafbc | rfl
  · have hown := allocTypeFor_afbc d.usage type .uncompressed hafbc
    have husage : (d.prepared cfg.select).usage = d.usage := rfl
    simp only [bufferDescriptorStep, husage, hown]
  · rfl

/-- An uncompressed buffer leaves the type as it is. -/
lemma bufferDescriptorStep_uncompressed (hafbc : ¬d.Afbc cfg)
    (hstep : bufferDescriptorStep cfg.select cfg.video .uncompressed d = some (type, d')) :
    type = .uncompressed := by
  have hown : allocTypeFor (d.prepared cfg.select).internalFormat (d.prepared cfg.select).usage
      .uncompressed =
      some .uncompressed := if_neg hafbc
  rw [bufferDescriptorStep] at hstep
  simp only [hown] at hstep
  split at hstep
  · cases hstep
  · cases hsize : bufferDescriptorSize cfg.video .uncompressed (d.prepared cfg.select) with
    | none => simp [hsize] at hstep
    | some r =>
      simp only [Option.bind_eq_bind, Option.bind_some, hsize] at hstep
      exact (Prod.ext_iff.1 (Option.some.inj hstep)).1.symm

/-! ## A batch -/

/-- What is computed for a descriptor alone. -/
def BufferDescriptor.alone (cfg : GrallocConfig) (d : BufferDescriptor) : Option BufferDescriptor :=
  (bufferDescriptorStep cfg.select cfg.video .uncompressed d).map Prod.snd

/-- In a clean batch each descriptor is computed alone. -/
lemma bufferDescriptorLoop_eq (hclean : BatchClean cfg ds)
    (htype : type = .uncompressed ∨ ∀ d ∈ ds, d.Afbc cfg) :
    bufferDescriptorLoop cfg.select cfg.video type ds = ds.mapM (BufferDescriptor.alone cfg) := by
  induction ds generalizing type with
  | nil => rfl
  | cons d ds ih =>
    obtain ⟨hordered, hcamera⟩ := hclean
    rw [List.pairwise_cons] at hordered
    have hrest : BatchClean cfg ds :=
      ⟨hordered.2, fun d' hd' => hcamera d' (List.mem_cons_of_mem d hd')⟩
    have hown : d.Afbc cfg ∨ type = .uncompressed := by
      rcases htype with h | h
      · exact .inr h
      · exact .inl (h d List.mem_cons_self)
    rw [bufferDescriptorLoop, bufferDescriptorStep_type hown, List.mapM_cons,
      BufferDescriptor.alone]
    cases hstep : bufferDescriptorStep cfg.select cfg.video .uncompressed d with
    | none => rfl
    | some r =>
      obtain ⟨type', d'⟩ := r
      have hnext : type' = .uncompressed ∨ ∀ d ∈ ds, d.Afbc cfg := by
        by_cases hafbc : d.Afbc cfg
        · exact .inr fun d' hd' => hordered.1 d' hd' hafbc
        · exact .inl (bufferDescriptorStep_uncompressed hafbc hstep)
      simp only [Option.map_some, Option.bind_eq_bind, Option.bind_some]
      rw [ih hrest hnext]

/-- A call that succeeds has computed each descriptor alone. -/
lemma maliGrallocBufferAllocate_ok {env : GrallocEnv} {b b' : IonBatch}
    {ds' : List BufferDescriptor}
    (hclean : BatchClean cfg ds)
    (hok : maliGrallocBufferAllocate cfg env ds b = some (b', .ok ds')) :
    ds.mapM (BufferDescriptor.alone cfg) = some ds' := by
  rw [maliGrallocBufferAllocate, bufferDescriptorLoop_eq hclean (.inl rfl)] at hok
  cases hall : ds.mapM (BufferDescriptor.alone cfg) with
  | none => simp [hall] at hok
  | some ds₁ =>
    rw [hall] at hok
    simp only at hok
    split at hok
    · cases hok
    · split at hok
      · cases hok
      · split at hok
        · cases hok
        · split at hok
          · cases hok
          · exact congrArg some (Except.ok.inj (Prod.ext_iff.1 (Option.some.inj hok)).2)

/-- The results of a list of computations, one by one. -/
lemma getElem_of_mapM {α β : Type*} {f : α → Option β} {xs : List α} {ys : List β}
    (hall : xs.mapM f = some ys) {i : ℕ} {x : α} (hx : xs[i]? = some x) :
    ∃ y, ys[i]? = some y ∧ f x = some y := by
  induction xs generalizing ys i with
  | nil => cases hx
  | cons x₀ xs ih =>
    rw [List.mapM_cons] at hall
    cases hhead : f x₀ with
    | none => simp [hhead] at hall
    | some y₀ =>
      cases htail : xs.mapM f with
      | none => simp [hhead, htail] at hall
      | some ys' =>
        simp only [hhead, htail, Option.bind_eq_bind, Option.bind_some] at hall
        obtain rfl := Option.some.inj hall
        cases i with
        | zero =>
          obtain rfl := Option.some.inj hx
          exact ⟨y₀, rfl, hhead⟩
        | succ i => exact ih htail hx

instance (d : BufferDescriptor) : Decidable (d.Afbc cfg) := inferInstanceAs (Decidable (_ ≠ _))

instance (d : BufferDescriptor) : Decidable (d.CameraFails cfg) :=
  inferInstanceAs (Decidable (_ ∧ _))

/-- A module for uncompressed and compressed formats that takes every format as it is. -/
def plainConfig : GrallocConfig := ⟨⟨false, false, false⟩, false, fun format _ _ _ => format⟩

/-- A system in which nothing fails. -/
def plainEnv : GrallocEnv where
  ion := ⟨none, true, 0, 0, fun _ => 0, fun i => ⟨true, some (10 + i), 0, none⟩,
    fun i => some (20 + i),
    fun i => some ⟨100 + i, by omega⟩, fun i => some ⟨4096 * (i + 1), by omega⟩⟩
  attr := fun i => ⟨some (30 + i), some (4096 * (100 + i))⟩

/-- 64 × 16 pixels of RGBA. -/
def rgbaBuffer : BufferDescriptor := ⟨64, 16, 0, 0, 1, .usage, 0, 0, 0, 0, 0, 0⟩

/-- The same, compressed. -/
def rgbaAfbcBuffer : BufferDescriptor := ⟨64, 16, 0, 0, 0x100000001, .usage, 0, 0, 0, 0, 0, 0⟩

end Hikey
