import Hikey.Shmem.Basic

/-!
# Translation of shared addresses (`sys/xt-shmem/xf-ipc.h`, `sys/fio/xf-ipc.h`)

Both ends of the proxy name a byte of the shared pool by its offset.  The DSP decides by a signed
difference of 32-bit pointers whether a pointer is inside the pool, the host by the lower half of a
64-bit difference.
-/

namespace Hikey

open Shmem

/-- The shared pool in an address space of `w` bits.  No byte of an object has the address `NULL`.
-/
structure XfSharedPool (w : ℕ) where
  start : BitVec w
  start_pos : 0 < start.toNat
  fits : start.toNat + xfCfgRemoteIpcPoolSize.toNat ≤ 2 ^ w

/-- A pointer to a byte of the pool. -/
def XfSharedPool.Inside {w : ℕ} (p : XfSharedPool w) (b : BitVec w) : Prop :=
  p.start.toNat ≤ b.toNat ∧ b.toNat < p.start.toNat + xfCfgRemoteIpcPoolSize.toNat

instance {w : ℕ} (p : XfSharedPool w) (b : BitVec w) : Decidable (p.Inside b) :=
  inferInstanceAs (Decidable (_ ∧ _))

/-- `XF_PROXY_BADADDR`. -/
def xfProxyBadaddr : U32 := xfCfgRemoteIpcPoolSize

/-- `xf_ipc_a2b` of the host. -/
def xfHostIpcA2b (shmem : BitVec 64) (address : U32) : BitVec 64 :=
  if address < xfCfgRemoteIpcPoolSize then shmem + address.setWidth 64
  else if address = xfProxyNull then 0
  else -1

/-- `xf_ipc_b2a` of the host. -/
def xfHostIpcB2a (shmem b : BitVec 64) : U32 :=
  if b = 0 then xfProxyNull
  else
    let a := (b - shmem).setWidth 32
    if a < xfCfgRemoteIpcPoolSize then a else xfProxyBadaddr

/-! ## What a translation is for -/

/-- The address of one pointer. -/
structure XfEncodes {w : ℕ} (p : XfSharedPool w) (b2a : BitVec w → U32) (b : BitVec w) : Prop where
  null : b2a b = xfProxyNull ↔ b = 0
  offset : b2a b < xfCfgRemoteIpcPoolSize ↔ p.Inside b
  bad : b ≠ 0 → ¬p.Inside b → b2a b = xfProxyBadaddr

/-- The pointers of all addresses, and the two translations after each other. -/
structure XfDecodes {w : ℕ} (p : XfSharedPool w) (b2a : BitVec w → U32) (a2b : U32 → BitVec w) :
    Prop where
  offset : ∀ a < xfCfgRemoteIpcPoolSize, (a2b a).toNat = p.start.toNat + a.toNat
  null : a2b xfProxyNull = 0
  bad : ∀ a, xfCfgRemoteIpcPoolSize ≤ a → a ≠ xfProxyNull → a2b a = -1
  a2b_b2a : ∀ b, b = 0 ∨ p.Inside b → a2b (b2a b) = b
  b2a_a2b : ∀ a, a < xfCfgRemoteIpcPoolSize ∨ a = xfProxyNull → b2a (a2b a) = a

/-- Both ends translate the pointers `b` and `c` as they should, and agree on the bytes of the pool.
-/
structure XfIpcExact (dsp : XfSharedPool 32) (host : XfSharedPool 64) (b : BitVec 32)
    (c : BitVec 64) : Prop where
  dspEncodes : XfEncodes dsp (xfIpcB2a dsp.start) b
  hostEncodes : XfEncodes host (xfHostIpcB2a host.start) c
  dspDecodes : XfDecodes dsp (xfIpcB2a dsp.start) (xfIpcA2b dsp.start)
  hostDecodes : XfDecodes host (xfHostIpcB2a host.start) (xfHostIpcA2b host.start)
  agree : ∀ b c, dsp.Inside b → b.toNat - dsp.start.toNat = c.toNat - host.start.toNat →
    host.Inside c →
    xfIpcB2a dsp.start b = xfHostIpcB2a host.start c
  /-- A pointer of the host that gets the offset of a byte is the pointer to that byte. -/
  untruncated : xfHostIpcB2a host.start c < xfCfgRemoteIpcPoolSize →
    c.toNat = host.start.toNat + (xfHostIpcB2a host.start c).toNat

/-- The difference from the base of the pool is negative as a signed number. -/
def XfDspNegative (p : XfSharedPool 32) (b : BitVec 32) : Prop :=
  b ≠ 0 ∧ 2 ^ 31 ≤ (b - p.start).toNat

/-- The difference from the base of the pool has lost its upper half, and what is left is an offset.
-/
def XfHostTruncated (p : XfSharedPool 64) (c : BitVec 64) : Prop :=
  c ≠ 0 ∧ 2 ^ 32 ≤ (c - p.start).toNat ∧ (c - p.start).toNat % 2 ^ 32 < xfCfgRemoteIpcPoolSize.toNat

/-! ## Pointers and offsets -/

lemma xfCfgRemoteIpcPoolSize_toNat : xfCfgRemoteIpcPoolSize.toNat = 2 ^ 18 := rfl

lemma xfProxyNull_toNat : xfProxyNull.toNat = 2 ^ 32 - 1 := rfl

lemma lt_pool_iff (a : U32) : a < xfCfgRemoteIpcPoolSize ↔ a.toNat < 2 ^ 18 := by
  rw [BitVec.lt_def, xfCfgRemoteIpcPoolSize_toNat]

/-- The byte at a distance below the size of the pool is inside it, and no other pointer is. -/
lemma XfSharedPool.inside_iff {w : ℕ} (p : XfSharedPool w) (b : BitVec w) :
    p.Inside b ↔ (b - p.start).toNat < 2 ^ 18 := by
  have hpos := p.start_pos
  have hfits := p.fits
  have hb := b.isLt
  have hs := p.start.isLt
  rw [xfCfgRemoteIpcPoolSize_toNat] at hfits
  simp only [XfSharedPool.Inside, xfCfgRemoteIpcPoolSize_toNat]
  rcases Nat.lt_or_ge b.toNat p.start.toNat with hlt | hge
  · rw [BitVec.toNat_sub_of_lt (BitVec.lt_def.mpr hlt)]
    omega
  · rw [BitVec.toNat_sub_of_le (BitVec.le_def.mpr hge)]
    omega

lemma XfSharedPool.null_outside {w : ℕ} (p : XfSharedPool w) : ¬p.Inside 0 := by
  have hpos := p.start_pos
  have hzero : (0 : BitVec w).toNat = 0 := by simp
  simp only [XfSharedPool.Inside, hzero]
  omega

lemma XfSharedPool.sub_toNat {w : ℕ} (p : XfSharedPool w) {b : BitVec w} (hb : p.Inside b) :
    (b - p.start).toNat = b.toNat - p.start.toNat :=
  BitVec.toNat_sub_of_le (BitVec.le_def.mpr hb.1)

/-- The pointer to the byte with an offset. -/
lemma XfSharedPool.add_toNat {w : ℕ} (p : XfSharedPool w) (hw : 32 ≤ w) {a : U32}
    (ha : a.toNat < 2 ^ 18) :
    (p.start + a.setWidth w).toNat = p.start.toNat + a.toNat := by
  have hfits := p.fits
  rw [xfCfgRemoteIpcPoolSize_toNat] at hfits
  have hlt : a.toNat < 2 ^ w := lt_of_lt_of_le a.isLt (Nat.pow_le_pow_right (by omega) hw)
  rw [BitVec.toNat_add, BitVec.toNat_setWidth, Nat.mod_eq_of_lt hlt, Nat.mod_eq_of_lt (by omega)]

/-- A signed comparison with the size of the pool is one of the difference, except for the negative
numbers. -/
lemma slt_pool_iff (d : U32) :
    d.slt xfCfgRemoteIpcPoolSize ↔ d.toNat < 2 ^ 18 ∨ 2 ^ 31 ≤ d.toNat := by
  have hd := d.isLt
  have hsize : xfCfgRemoteIpcPoolSize.toInt = 2 ^ 18 := rfl
  rw [BitVec.slt_iff_toInt_lt, hsize, BitVec.toInt_eq_toNat_cond]
  split <;> omega

/-! ## The two translations -/

@[simp] lemma xfIpcB2a_null (start : U32) : xfIpcB2a start 0 = xfProxyNull := rfl

@[simp] lemma xfHostIpcB2a_null (shmem : BitVec 64) : xfHostIpcB2a shmem 0 = xfProxyNull := rfl

lemma xfIpcB2a_inside {p : XfSharedPool 32} {b : BitVec 32} (hb : p.Inside b) :
    xfIpcB2a p.start b = b - p.start := by
  have hne : b ≠ 0 := fun h => p.null_outside (h ▸ hb)
  have hslt := (slt_pool_iff (b - p.start)).mpr (.inl ((p.inside_iff b).mp hb))
  simp only [xfIpcB2a, ← BitVec.ofNat_eq_ofNat, hne, if_false, hslt, if_true]

lemma xfHostIpcB2a_inside {p : XfSharedPool 64} {c : BitVec 64} (hc : p.Inside c) :
    xfHostIpcB2a p.start c = (c - p.start).setWidth 32 := by
  have hne : c ≠ 0 := fun h => p.null_outside (h ▸ hc)
  have hlt := (p.inside_iff c).mp hc
  have ha : (c - p.start).setWidth 32 < xfCfgRemoteIpcPoolSize := by
    rw [lt_pool_iff, BitVec.toNat_setWidth]
    omega
  simp only [xfHostIpcB2a, hne, if_false, ha, if_true]

lemma xfHostIpcB2a_inside_toNat {p : XfSharedPool 64} {c : BitVec 64} (hc : p.Inside c) :
    (xfHostIpcB2a p.start c).toNat = c.toNat - p.start.toNat := by
  have hlt := (p.inside_iff c).mp hc
  rw [xfHostIpcB2a_inside hc, BitVec.toNat_setWidth, ← p.sub_toNat hc]
  omega

/-- A translation is right on a pointer as soon as it is right outside the pool. -/
lemma xfEncodes_of_outside {w : ℕ} {p : XfSharedPool w} {b2a : BitVec w → U32} {b : BitVec w}
    (hnull : b2a 0 = xfProxyNull) (hinside : p.Inside b → (b2a b).toNat < 2 ^ 18)
    (hbad : b ≠ 0 → ¬p.Inside b → b2a b = xfProxyBadaddr) : XfEncodes p b2a b := by
  have hnot : ¬xfProxyNull < xfCfgRemoteIpcPoolSize := by decide
  by_cases hb : b = 0
  · subst hb
    exact ⟨⟨fun _ => rfl, fun _ => hnull⟩,
      ⟨fun hlt => absurd (hnull ▸ hlt) hnot, fun hin => absurd hin p.null_outside⟩,
        fun h => absurd rfl h⟩
  · by_cases hin : p.Inside b
    · have hlt := hinside hin
      refine ⟨⟨fun h => ?_, fun h => absurd h hb⟩, ⟨fun _ => hin, fun _ => (lt_pool_iff _).mpr hlt⟩,
        fun _ h => absurd hin h⟩
      rw [h, xfProxyNull_toNat] at hlt
      omega
    · have h := hbad hb hin
      refine ⟨⟨fun hn => ?_, fun h => absurd h hb⟩, ?_, hbad⟩
      · exact absurd (h.symm.trans hn) (by decide)
      · rw [h]
        exact ⟨fun hlt => absurd hlt (by decide), fun h => absurd h hin⟩

/-- The DSP translates every pointer as it should but those at a negative difference. -/
lemma xfIpcB2a_encodes_iff (p : XfSharedPool 32) (b : BitVec 32) :
    XfEncodes p (xfIpcB2a p.start) b ↔ ¬XfDspNegative p b := by
  constructor
  · rintro henc ⟨hne, hneg⟩
    have hout : ¬p.Inside b := by
      rw [p.inside_iff]
      omega
    have hslt := (slt_pool_iff (b - p.start)).mpr (.inr hneg)
    have hbad := henc.bad hne hout
    simp only [xfIpcB2a, ← BitVec.ofNat_eq_ofNat, hne, if_false, hslt, if_true] at hbad
    have hsize := congrArg BitVec.toNat hbad
    rw [xfProxyBadaddr, xfCfgRemoteIpcPoolSize_toNat] at hsize
    omega
  · intro hpos
    refine xfEncodes_of_outside rfl (fun hin => ?_) fun hne hout => ?_
    · rw [xfIpcB2a_inside hin]
      exact (p.inside_iff b).mp hin
    · have hslt : ¬(b - p.start).slt xfCfgRemoteIpcPoolSize := by
        rw [slt_pool_iff]
        rintro (hlt | hneg)
        · exact hout ((p.inside_iff b).mpr hlt)
        · exact hpos ⟨hne, hneg⟩
      simp only [xfIpcB2a, ← BitVec.ofNat_eq_ofNat, hne, if_false, hslt]
      rfl

/-- The host translates every pointer as it should but those whose difference is an offset in its
lower half only. -/
lemma xfHostIpcB2a_encodes_iff (p : XfSharedPool 64) (c : BitVec 64) :
    XfEncodes p (xfHostIpcB2a p.start) c ↔ ¬XfHostTruncated p c := by
  have hlow : ((c - p.start).setWidth 32).toNat = (c - p.start).toNat % 2 ^ 32 :=
    BitVec.toNat_setWidth ..
  constructor
  · rintro henc ⟨hne, hhigh, hoff⟩
    have hout : ¬p.Inside c := by
      rw [p.inside_iff]
      omega
    have ha : (c - p.start).setWidth 32 < xfCfgRemoteIpcPoolSize := by
      rw [lt_pool_iff, hlow]
      exact hoff
    refine hout (henc.offset.mp ?_)
    simp only [xfHostIpcB2a, hne, if_false, ha, if_true]
  · intro htrunc
    refine xfEncodes_of_outside rfl (fun hin => ?_) fun hne hout => ?_
    · have hlt := (p.inside_iff c).mp hin
      rw [xfHostIpcB2a_inside hin, hlow]
      omega
    · have ha : ¬(c - p.start).setWidth 32 < xfCfgRemoteIpcPoolSize := by
        rw [lt_pool_iff, hlow]
        intro hlt
        rw [p.inside_iff] at hout
        exact htrunc ⟨hne, by omega, hlt⟩
      simp only [xfHostIpcB2a, hne, if_false, ha]

/-- The translations are inverse to each other as soon as they are on the bytes of the pool. -/
lemma xfDecodes_of_inside {w : ℕ} {p : XfSharedPool w} (hw : 32 ≤ w) {b2a : BitVec w → U32}
    {a2b : U32 → BitVec w}
    (hnull : b2a 0 = xfProxyNull) (hb2a : ∀ b, p.Inside b → (b2a b).toNat = b.toNat - p.start.toNat)
    (ha2b : ∀ a, a2b a = if a < xfCfgRemoteIpcPoolSize then p.start + a.setWidth w
      else if a = xfProxyNull then 0 else -1) : XfDecodes p b2a a2b := by
  have hoffset : ∀ a < xfCfgRemoteIpcPoolSize, (a2b a).toNat = p.start.toNat + a.toNat := by
    intro a ha
    rw [ha2b, if_pos ha, p.add_toNat hw ((lt_pool_iff a).mp ha)]
  have hn : a2b xfProxyNull = 0 := by
    rw [ha2b, if_neg (by decide), if_pos rfl]
  refine ⟨hoffset, hn, fun a ha hne => ?_, ?_, ?_⟩
  · rw [ha2b, if_neg (BitVec.not_lt.mpr ha), if_neg hne]
  · rintro b (rfl | hb)
    · rw [hnull, hn]
    · have hlt : b2a b < xfCfgRemoteIpcPoolSize := by
        rw [lt_pool_iff, hb2a b hb, ← p.sub_toNat hb]
        exact (p.inside_iff b).mp hb
      refine BitVec.eq_of_toNat_eq ?_
      rw [hoffset _ hlt, hb2a b hb]
      have hge := hb.1
      omega
  · rintro a (ha | rfl)
    · have hto := hoffset a ha
      have hin : p.Inside (a2b a) := by
        have hlt := BitVec.lt_def.mp ha
        constructor <;> omega
      refine BitVec.eq_of_toNat_eq ?_
      rw [hb2a _ hin, hto]
      omega
    · rw [hn, hnull]

lemma xfIpc_decodes (p : XfSharedPool 32) : XfDecodes p (xfIpcB2a p.start) (xfIpcA2b p.start) := by
  refine xfDecodes_of_inside le_rfl rfl (fun b hb => ?_) fun a => ?_
  · rw [xfIpcB2a_inside hb, p.sub_toNat hb]
  · simp only [xfIpcA2b, BitVec.setWidth_eq]
    rfl

lemma xfHostIpc_decodes (p : XfSharedPool 64) :
    XfDecodes p (xfHostIpcB2a p.start) (xfHostIpcA2b p.start) :=
  xfDecodes_of_inside (by decide) rfl (fun _ hc => xfHostIpcB2a_inside_toNat hc) fun _ => rfl

/-- The two ends name a byte of the pool by the same address. -/
lemma xfIpcB2a_agree {dsp : XfSharedPool 32} {host : XfSharedPool 64} {b : BitVec 32}
    {c : BitVec 64}
    (hb : dsp.Inside b) (h : b.toNat - dsp.start.toNat = c.toNat - host.start.toNat)
    (hc : host.Inside c) :
    xfIpcB2a dsp.start b = xfHostIpcB2a host.start c := by
  refine BitVec.eq_of_toNat_eq ?_
  rw [xfHostIpcB2a_inside_toNat hc, ← h, xfIpcB2a_inside hb, dsp.sub_toNat hb]

/-- A base of the pool in the DSP, the one of its memory map. -/
def hifiMusicData : XfSharedPool 32 := ⟨0x8B300000, by decide, by decide⟩

/-- A base of the pool in the host. -/
def hostMapped : XfSharedPool 64 := ⟨0x7F0000000000, by decide, by decide⟩

/-- The pointer below the pool gets the address of `NULL`, and one 4 GiB above a byte of the pool
the offset of that byte. -/
theorem xfIpc_exact_fails :
    xfIpcB2a hifiMusicData.start 0x8B2FFFFF = xfProxyNull ∧
      xfHostIpcB2a hostMapped.start 0x7F0100000000 = 0 ∧
      ¬∀ (dsp : XfSharedPool 32) (host : XfSharedPool 64) (b : BitVec 32) (c : BitVec 64),
        XfIpcExact dsp host b c := by
  refine ⟨by decide, by decide, fun h => ?_⟩
  have hneg := (xfIpcB2a_encodes_iff _ _).mp
      (h hifiMusicData hostMapped 0x8B2FFFFF 0x7F0100000000).dspEncodes
  exact hneg ⟨by decide, by decide⟩

/-- The translations are right for a pointer of the DSP and one of the host exactly if the
difference of the first from the pool is not negative, and that of the second has an offset in its
lower half only when it is one. -/
theorem xfIpc_exact_iff (dsp : XfSharedPool 32) (host : XfSharedPool 64) (b : BitVec 32)
    (c : BitVec 64) :
    XfIpcExact dsp host b c ↔ ¬XfDspNegative dsp b ∧ ¬XfHostTruncated host c := by
  constructor
  · intro h
    exact ⟨(xfIpcB2a_encodes_iff dsp b).mp h.dspEncodes,
      (xfHostIpcB2a_encodes_iff host c).mp h.hostEncodes⟩
  · rintro ⟨hneg, htrunc⟩
    have henc := (xfHostIpcB2a_encodes_iff host c).mpr htrunc
    refine ⟨(xfIpcB2a_encodes_iff dsp b).mpr hneg, henc, xfIpc_decodes dsp, xfHostIpc_decodes host,
      fun _ _ hb heq hc => xfIpcB2a_agree hb heq hc, fun hlt => ?_⟩
    have hin := henc.offset.mp hlt
    have hge := hin.1
    rw [xfHostIpcB2a_inside_toNat hin]
    omega

end Hikey
