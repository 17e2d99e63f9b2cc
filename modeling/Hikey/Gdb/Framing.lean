import Hikey.Gdb.Packet

/-!
# What `getpacket` hands over

Every stream of characters is a sequence of attempts and an incomplete one: `getpacket` skips noise
up to a `$`, starts again at each further `$`, and ends an attempt at the two characters behind a
`#` or where the buffer is full.  It returns at the first attempt with the right checksum, which is
the packet of the sender unless a third character of an older packet is still in the buffer.
Characters that are no hex digits are not refused: each counts as -1, and the checksum may be the
one that this gives.
-/

namespace Hikey.Gdb

/-! ## Attempts -/

/-- Characters that neither start nor end a packet. -/
def Plain (chars : List UInt8) : Prop := '$'.toUInt8 ∉ chars ∧ '#'.toUInt8 ∉ chars

/-- The characters that `getpacket` reads in one turn of its outer loop: what it skips, the bodies
that a `$` ends, the last body, and the characters behind the `#`; there is none behind a body that
fills the buffer. -/
structure Attempt where
  noise : List UInt8
  aborted : List (List UInt8)
  body : List UInt8
  trailer : Option (UInt8 × UInt8)
  noise_ok : '$'.toUInt8 ∉ noise
  aborted_ok : ∀ b ∈ aborted, Plain b ∧ b.length < bufMax - 1
  body_ok : Plain body
  length_ok : body.length < bufMax - 1 ∧ trailer.isSome ∨ body.length = bufMax - 1 ∧ trailer = none

/-- The `#` and the characters behind it. -/
def trailerChars : Option (UInt8 × UInt8) → List UInt8
  | none => []
  | some (ch₁, ch₂) => ['#'.toUInt8, ch₁, ch₂]

/-- The characters of an attempt. -/
def Attempt.wire (a : Attempt) : List UInt8 :=
  a.noise ++ '$'.toUInt8 ::
    (a.aborted.flatMap (· ++ ['$'.toUInt8]) ++ (a.body ++ trailerChars a.trailer))

/-- The value of a hex digit. -/
def hexDigit (ch : UInt8) : Option UInt8 :=
  if '0'.toUInt8 ≤ ch ∧ ch ≤ '9'.toUInt8 then some (ch - '0'.toUInt8)
  else if 'a'.toUInt8 ≤ ch ∧ ch ≤ 'f'.toUInt8 then some (ch - 'a'.toUInt8 + 10)
  else if 'A'.toUInt8 ≤ ch ∧ ch ≤ 'F'.toUInt8 then some (ch - 'A'.toUInt8 + 10)
  else none

/-- The attempt ends with the right checksum, in two hex digits. -/
def Attempt.Good (a : Attempt) : Prop :=
  ∃ ch₁ ch₂ d₁ d₂, a.trailer = some (ch₁, ch₂) ∧ hexDigit ch₁ = some d₁ ∧ hexDigit ch₂ = some d₂ ∧
    checksum a.body = 16 * d₁ + d₂

/-- The attempt does not end with two hex digits, and the checksum is the one with -1 for a
character that is none. -/
def Attempt.Misread (a : Attempt) : Prop :=
  ∃ ch₁ ch₂, a.trailer = some (ch₁, ch₂) ∧ (hexDigit ch₁ = none ∨ hexDigit ch₂ = none) ∧
    checksum a.body = 16 * (hexDigit ch₁).getD (-1) + (hexDigit ch₂).getD (-1)

/-- The attempt fails: it fills the buffer, or has another checksum. -/
def Attempt.Fails (a : Attempt) : Prop := ¬a.Good ∧ ¬a.Misread

/-- What is sent for an attempt that fails. -/
def Attempt.refusal (a : Attempt) : List UInt8 :=
  match a.trailer with
  | none => []
  | some _ => ['-'.toUInt8]

/-- The buffer behind the bodies that were given up. -/
def Attempt.begun (a : Attempt) (buffer : ℕ → UInt8) : ℕ → UInt8 :=
  a.aborted.foldl (fun m b => patch m 0 b) buffer

/-- The buffer behind an attempt. -/
def Attempt.store (a : Attempt) (buffer : ℕ → UInt8) : ℕ → UInt8 :=
  Function.update (patch (a.begun buffer) 0 a.body) a.body.length 0

/-- The buffer behind some attempts. -/
def storeAll (buffer : ℕ → UInt8) (as : List Attempt) : ℕ → UInt8 :=
  as.foldl (fun m a => a.store m) buffer

/-- The body starts with a sequence number. -/
def Attempt.Sequenced (a : Attempt) : Prop := a.body[2]? = some ':'.toUInt8

instance (a : Attempt) : Decidable a.Sequenced := inferInstanceAs (Decidable (_ = _))

/-- The offset of the packet in the body. -/
def Attempt.offset (a : Attempt) : ℕ := if a.Sequenced then 3 else 0

/-- What is sent for an attempt that succeeds: the acknowledgement, and the sequence number. -/
def Attempt.accept (a : Attempt) : List UInt8 :=
  '+'.toUInt8 :: if a.Sequenced then a.body.take 2 else []

/-- The packet of an attempt, with its zero, is in the buffer. -/
def Attempt.HeldBy (a : Attempt) (buffer : ℕ → UInt8) : Prop :=
  slice buffer 0 a.body.length = a.body ∧ buffer a.body.length = 0

/-- The call refuses the attempts `bad`, acknowledges the attempt `a`, and hands its packet over. -/
def PacketRun.Delivers (run : PacketRun) (bad : List Attempt) (a : Attempt) (rest : List UInt8) :
    Prop :=
  run.sent = bad.flatMap Attempt.refusal ++ a.accept ∧
    ∃ buffer, run.packet = some (buffer, a.offset, rest) ∧ a.HeldBy buffer

/-- No attempt is complete. -/
def Incomplete (input : List UInt8) : Prop :=
  ∀ (a : Attempt) (rest : List UInt8), input ≠ a.wire ++ rest

/-! ## The checksum -/

/-- `xmitcsum`, behind the two characters. -/
def xmitcsum (ch₁ ch₂ : UInt8) : UInt8 := UInt8.ofInt (hex ch₁ * 16) + UInt8.ofInt (hex ch₂)

/-- The digits of the code are the hex digits, and -1. -/
lemma ofInt_hex (ch : UInt8) : UInt8.ofInt (hex ch) = (hexDigit ch).getD (-1) := by
  have hword (n : UInt8) : UInt8.ofInt (n.toNat : ℤ) = n := by
    have hmod : ((n.toNat : ℤ) % 2 ^ 8).toNat = n.toNat := by
      have hlt := n.toNat_lt
      omega
    rw [UInt8.ofInt, hmod, UInt8.ofNat_toNat]
  have hten (n : UInt8) : UInt8.ofInt (n.toNat + 10 : ℤ) = n + 10 := by
    rw [UInt8.ofInt_add, hword]
    rfl
  have hdigit : '9'.toUInt8 < 'a'.toUInt8 := by decide
  unfold hex hexDigit
  by_cases hlower : 'a'.toUInt8 ≤ ch ∧ ch ≤ 'f'.toUInt8
  · have hnine : ¬('0'.toUInt8 ≤ ch ∧ ch ≤ '9'.toUInt8) := fun h =>
      absurd (UInt8.le_trans hlower.1 h.2) (UInt8.not_le.2 hdigit)
    rw [if_pos hlower, if_neg hnine, if_pos hlower, Option.getD_some, hten]
  · rw [if_neg hlower]
    split_ifs
    · rw [Option.getD_some, hword]
    · rw [Option.getD_some, hten]
    · rw [Option.getD_none, UInt8.ofInt_neg_one]

lemma xmitcsum_eq (ch₁ ch₂ : UInt8) :
    xmitcsum ch₁ ch₂ = 16 * (hexDigit ch₁).getD (-1) + (hexDigit ch₂).getD (-1) := by
  have hsixteen : UInt8.ofInt 16 = 16 := rfl
  rw [xmitcsum, UInt8.ofInt_mul, ofInt_hex, ofInt_hex, hsixteen, UInt8.mul_comm]

/-- What the code takes for a packet: one with the right checksum, or a misread one. -/
lemma Attempt.good_or_misread_iff (a : Attempt) :
    a.Good ∨ a.Misread ↔
      ∃ ch₁ ch₂, a.trailer = some (ch₁, ch₂) ∧ checksum a.body = xmitcsum ch₁ ch₂ := by
  constructor
  · rintro (⟨ch₁, ch₂, d₁, d₂, htrailer, hd₁, hd₂, hsum⟩ | ⟨ch₁, ch₂, htrailer, -, hsum⟩)
    · refine ⟨ch₁, ch₂, htrailer, ?_⟩
      rw [xmitcsum_eq, hd₁, hd₂]
      exact hsum
    · refine ⟨ch₁, ch₂, htrailer, ?_⟩
      rw [xmitcsum_eq]
      exact hsum
  · rintro ⟨ch₁, ch₂, htrailer, hsum⟩
    rw [xmitcsum_eq] at hsum
    cases hd₁ : hexDigit ch₁ with
    | none => exact .inr ⟨ch₁, ch₂, htrailer, .inl hd₁, hsum⟩
    | some d₁ =>
      cases hd₂ : hexDigit ch₂ with
      | none => exact .inr ⟨ch₁, ch₂, htrailer, .inr hd₂, hsum⟩
      | some d₂ =>
        rw [hd₁, hd₂] at hsum
        exact .inl ⟨ch₁, ch₂, d₁, d₂, htrailer, hd₁, hd₂, hsum⟩

/-! ## Reading an attempt -/

variable {buffer : ℕ → UInt8} {sum : UInt8} {count : ℕ} {chars input rest : List UInt8}

lemma checksum_foldl (sum : UInt8) (chars : List UInt8) :
    chars.foldl (· + ·) sum = sum + checksum chars := by
  induction chars generalizing sum with
  | nil => simp [checksum]
  | cons ch chars ih =>
    have h := ih (0 + ch)
    rw [checksum, List.foldl_cons, List.foldl_cons, ih (sum + ch), h, UInt8.zero_add,
      UInt8.add_assoc]

lemma awaitStart_noise {noise : List UInt8} (h : '$'.toUInt8 ∉ noise) :
    awaitStart (noise ++ '$'.toUInt8 :: rest) = some rest := by
  induction noise with
  | nil => rfl
  | cons ch noise ih =>
    rw [List.mem_cons, not_or] at h
    rw [List.cons_append, awaitStart, if_neg (Ne.symm h.1), ih h.2]

lemma patch_cons (buffer : ℕ → UInt8) (count : ℕ) (ch : UInt8) (chars : List UInt8) :
    patch (Function.update buffer count ch) (count + 1) chars = patch buffer count
      (ch :: chars) := by
  have hone : Function.update buffer count ch = patch buffer count [ch] := by
    funext i
    by_cases hi : i = count
    · subst hi
      rw [Function.update_self]
      exact (@patch_add _ buffer i 0 [ch] Nat.zero_lt_one).symm
    · rw [Function.update_of_ne hi, patch_of_notMem]
      rw [List.length_singleton]
      omega
  rw [hone]
  exact @patch_append _ buffer count [ch] chars

/-- The inner loop stores plain characters. -/
lemma readBody_plain (hplain : Plain chars) (hroom : count + chars.length ≤ bufMax - 1) :
    readBody buffer sum count (chars ++ rest) =
      readBody (patch buffer count chars) (sum + checksum chars) (count + chars.length) rest := by
  induction chars generalizing buffer sum count with
  | nil => simp [checksum]
  | cons ch chars ih =>
    obtain ⟨hdollar, hhash⟩ := hplain
    rw [List.mem_cons, not_or] at hdollar hhash
    rw [List.length_cons] at hroom ⊢
    rw [List.cons_append, readBody, if_pos (by omega), if_neg (Ne.symm hdollar.1),
      if_neg (Ne.symm hhash.1),
      ih ⟨hdollar.2, hhash.2⟩ (by omega), patch_cons]
    congr 1
    · rw [UInt8.add_assoc, ← checksum_foldl ch chars, checksum, List.foldl_cons, UInt8.zero_add]
    · omega

/-- A `$` starts again. -/
lemma readBody_dollar (hroom : count < bufMax - 1) :
    readBody buffer sum count ('$'.toUInt8 :: rest) = readBody buffer 0 0 rest := by
  rw [readBody, if_pos hroom, if_pos rfl]

lemma readBody_hash (hroom : count < bufMax - 1) :
    readBody buffer sum count ('#'.toUInt8 :: rest) = some ⟨buffer, sum, count, true, rest⟩ := by
  rw [readBody, if_pos hroom, if_neg (by decide), if_pos rfl]

lemma readBody_full (hfull : ¬count < bufMax - 1) :
    readBody buffer sum count rest = some ⟨buffer, sum, count, false, rest⟩ := by
  cases rest <;> rw [readBody, if_neg hfull]

/-- The bodies that are given up. -/
lemma readBody_aborted {aborted : List (List UInt8)}
    (h : ∀ b ∈ aborted, Plain b ∧ b.length < bufMax - 1) :
    readBody buffer 0 0 (aborted.flatMap (· ++ ['$'.toUInt8]) ++ rest) =
      readBody (aborted.foldl (fun m b => patch m 0 b) buffer) 0 0 rest := by
  induction aborted generalizing buffer with
  | nil => rfl
  | cons b aborted ih =>
    obtain ⟨hplain, hlen⟩ := h b List.mem_cons_self
    rw [List.flatMap_cons, List.append_assoc, List.append_assoc, readBody_plain hplain (by omega),
      List.singleton_append,
      readBody_dollar (by omega), ih fun b hb => h b (List.mem_cons_of_mem _ hb), List.foldl_cons]

/-! ## A turn of the outer loop -/

section Turn

variable {m : ℕ → UInt8} {ch₁ ch₂ : UInt8} {input' : List UInt8}

lemma getpacket_of_awaitStart_none (hstart : awaitStart input = none) :
    getpacket buffer input = ⟨[], none⟩ := by
  rw [getpacket]
  split
  · rfl
  · rename_i hstart'
    cases hstart.symm.trans hstart'

lemma getpacket_of_readBody_none (hstart : awaitStart input = some input')
    (hbody : readBody buffer 0 0 input' = none) :
    getpacket buffer input = ⟨[], none⟩ := by
  rw [getpacket]
  split
  · rfl
  · rename_i hstart'
    obtain rfl := Option.some.inj (hstart.symm.trans hstart')
    split
    · rfl
    · rename_i hbody'
      cases hbody.symm.trans hbody'

/-- A body that fills the buffer is dropped. -/
lemma getpacket_of_full (hstart : awaitStart input = some input')
    (hbody : readBody buffer 0 0 input' = some ⟨m, sum, count, false, rest⟩) :
    getpacket buffer input = getpacket (Function.update m count 0) rest := by
  rw [getpacket]
  split
  · rename_i hstart'
    cases hstart.symm.trans hstart'
  · rename_i hstart'
    obtain rfl := Option.some.inj (hstart.symm.trans hstart')
    split
    · rename_i hbody'
      cases hbody.symm.trans hbody'
    · rename_i hbody'
      obtain rfl := Option.some.inj (hbody.symm.trans hbody')
      rfl

/-- Fewer than two characters behind the `#`. -/
lemma getpacket_of_short (hstart : awaitStart input = some input')
    (hbody : readBody buffer 0 0 input' = some ⟨m, sum, count, true, rest⟩)
    (hshort : rest.length < 2) :
    getpacket buffer input = ⟨[], none⟩ := by
  rw [getpacket]
  split
  · rfl
  · rename_i hstart'
    obtain rfl := Option.some.inj (hstart.symm.trans hstart')
    split
    · rfl
    · rename_i hbody'
      obtain rfl := Option.some.inj (hbody.symm.trans hbody')
      rcases rest with _ | ⟨ch₁, _ | ⟨ch₂, rest⟩⟩
      · rfl
      · rfl
      · simp only [List.length_cons] at hshort
        omega

/-- A body in front of a `#` and two characters. -/
lemma getpacket_of_hash (hstart : awaitStart input = some input')
    (hbody : readBody buffer 0 0 input' = some ⟨m, sum, count, true, ch₁ :: ch₂ :: rest⟩) :
    getpacket buffer input =
      let buffer := Function.update m count 0
      if sum ≠ xmitcsum ch₁ ch₂ then
        { getpacket buffer rest with sent := '-'.toUInt8 :: (getpacket buffer rest).sent }
      else if buffer 2 =
        ':'.toUInt8 then ⟨['+'.toUInt8, buffer 0, buffer 1], some (buffer, 3, rest)⟩
      else ⟨['+'.toUInt8], some (buffer, 0, rest)⟩ := by
  rw [getpacket]
  split
  · rename_i hstart'
    cases hstart.symm.trans hstart'
  · rename_i hstart'
    obtain rfl := Option.some.inj (hstart.symm.trans hstart')
    split
    · rename_i hbody'
      cases hbody.symm.trans hbody'
    · rename_i hbody'
      obtain rfl := Option.some.inj (hbody.symm.trans hbody')
      rfl

end Turn

lemma Attempt.awaitStart_wire (a : Attempt) (rest : List UInt8) :
    awaitStart (a.wire ++ rest) =
      some (a.aborted.flatMap
        (· ++ ['$'.toUInt8]) ++ (a.body ++ (trailerChars a.trailer ++ rest))) := by
  rw [Attempt.wire, List.append_assoc, List.cons_append, awaitStart_noise a.noise_ok,
    List.append_assoc, List.append_assoc]

lemma Attempt.readBody_wire (a : Attempt) (buffer : ℕ → UInt8) (rest : List UInt8) :
    readBody buffer 0 0 (a.aborted.flatMap (· ++ ['$'.toUInt8]) ++ (a.body ++ rest)) =
      readBody (patch (a.begun buffer) 0 a.body) (checksum a.body) a.body.length rest := by
  have hlen : 0 + a.body.length ≤ bufMax - 1 := by
    rcases a.length_ok with h | h <;> omega
  rw [readBody_aborted a.aborted_ok, readBody_plain a.body_ok hlen, UInt8.zero_add, Nat.zero_add,
    Attempt.begun]

/-- The turn of the outer loop that reads an attempt without a `#`. -/
lemma getpacket_dropped (a : Attempt) (hnone : a.trailer = none) :
    getpacket buffer (a.wire ++ rest) = getpacket (a.store buffer) rest := by
  have hfull : ¬a.body.length < bufMax - 1 := by
    rcases a.length_ok with ⟨-, h⟩ | ⟨h, -⟩
    · rw [hnone] at h
      cases h
    · omega
  refine getpacket_of_full (a.awaitStart_wire rest)
    (?_ : readBody buffer 0 0 _ = some ⟨_, checksum a.body, _, _, _⟩)
  rw [hnone, trailerChars, List.nil_append, a.readBody_wire, readBody_full hfull]

/-- The turn of the outer loop that reads an attempt with a `#`. -/
lemma getpacket_closed (a : Attempt) {ch₁ ch₂ : UInt8} (hsome : a.trailer = some (ch₁, ch₂)) :
    getpacket buffer (a.wire ++ rest) =
      if checksum a.body ≠ xmitcsum ch₁ ch₂ then
        { getpacket (a.store buffer) rest with sent := '-'.toUInt8 ::
        (getpacket (a.store buffer) rest).sent }
      else if a.store buffer 2 = ':'.toUInt8 then
        ⟨['+'.toUInt8, a.store buffer 0, a.store buffer 1], some (a.store buffer, 3, rest)⟩
      else ⟨['+'.toUInt8], some (a.store buffer, 0, rest)⟩ := by
  have hlt : a.body.length < bufMax - 1 := by
    rcases a.length_ok with ⟨h, -⟩ | ⟨-, h⟩
    · exact h
    · rw [hsome] at h
      cases h
  refine getpacket_of_hash (a.awaitStart_wire rest) ?_
  rw [hsome, trailerChars, List.cons_append, List.cons_append, List.cons_append, List.nil_append,
    a.readBody_wire,
    readBody_hash hlt]

/-- An attempt that fails is refused, or dropped. -/
lemma getpacket_bad (a : Attempt) (hbad : a.Fails) :
    getpacket buffer (a.wire ++ rest) =
      { getpacket (a.store buffer) rest with sent := a.refusal ++
      (getpacket (a.store buffer) rest).sent } := by
  cases htrailer : a.trailer with
  | none =>
    rw [getpacket_dropped a htrailer]
    simp only [Attempt.refusal, htrailer, List.nil_append]
  | some chs =>
    obtain ⟨ch₁, ch₂⟩ := chs
    have hsum : checksum a.body ≠ xmitcsum ch₁ ch₂ := fun h =>
      (a.good_or_misread_iff.2 ⟨ch₁, ch₂, htrailer, h⟩).elim hbad.1 hbad.2
    rw [getpacket_closed a htrailer, if_pos hsum]
    simp only [Attempt.refusal, htrailer, List.singleton_append]

lemma getpacket_allBad (bad : List Attempt) (hbad : ∀ b ∈ bad, b.Fails) :
    getpacket buffer (bad.flatMap Attempt.wire ++ rest) =
      { getpacket (storeAll buffer bad) rest with
        sent := bad.flatMap Attempt.refusal ++ (getpacket (storeAll buffer bad) rest).sent } := by
  induction bad generalizing buffer with
  | nil => rfl
  | cons b bad ih =>
    rw [List.flatMap_cons, List.append_assoc, getpacket_bad b (hbad b List.mem_cons_self),
      ih fun c hc => hbad c (List.mem_cons_of_mem _ hc), List.flatMap_cons, List.append_assoc]
    rfl

/-! ## The packet in the buffer -/

lemma Attempt.store_heldBy (a : Attempt) (buffer : ℕ → UInt8) : a.HeldBy (a.store buffer) := by
  refine ⟨?_, Function.update_self ..⟩
  have hself : slice (patch (a.begun buffer) 0 a.body) 0 a.body.length = a.body :=
    slice_patch_eq rfl
  refine Eq.trans (List.map_congr_left fun i hi => ?_) hself
  rw [List.mem_range'_1] at hi
  rw [Attempt.store, Function.update_of_ne (by omega)]

/-- The characters of the body. -/
lemma Attempt.store_of_lt (a : Attempt) (buffer : ℕ → UInt8) {i : ℕ} (hi : i < a.body.length) :
    a.store buffer i = a.body[i] := by
  have h : patch (a.begun buffer) 0 a.body (0 + i) = a.body[i] := patch_add hi
  rw [Nat.zero_add] at h
  rw [Attempt.store, Function.update_of_ne (by omega), h]

/-- The third character of the buffer, which is one of an older packet behind a short body. -/
lemma Attempt.store_two (a : Attempt) (buffer : ℕ → UInt8) :
    a.store buffer 2 = ':'.toUInt8 ↔ a.Sequenced ∨ a.body.length < 2 ∧
      a.begun buffer 2 = ':'.toUInt8 := by
  rcases lt_trichotomy a.body.length 2 with hlt | heq | hgt
  · have hnone : ¬a.Sequenced := by
      rw [Attempt.Sequenced, List.getElem?_eq_none (by omega)]
      exact nofun
    rw [Attempt.store, Function.update_of_ne (by omega), patch_of_notMem (.inr (by omega))]
    simp [hnone, hlt]
  · have hnone : ¬a.Sequenced := by
      rw [Attempt.Sequenced, List.getElem?_eq_none (by omega)]
      exact nofun
    have hzero : a.store buffer 2 = 0 := by
      rw [Attempt.store, heq, Function.update_self]
    rw [hzero, heq]
    exact iff_of_false (by decide) (by rintro (h | h) <;> [exact hnone h; omega])
  · rw [a.store_of_lt buffer hgt, Attempt.Sequenced, List.getElem?_eq_getElem hgt,
      Option.some.injEq]
    simp [show ¬a.body.length < 2 by omega]

/-- Behind any attempts that fail, a packet with the right checksum is acknowledged and handed over,
unless it has fewer than two characters and the third place of the buffer still holds a colon. -/
theorem getpacket_delivers_iff (buffer : ℕ → UInt8) (bad : List Attempt)
    (hbad : ∀ b ∈ bad, b.Fails) (a : Attempt) (ha : a.Good) (rest : List UInt8) :
    (getpacket buffer (bad.flatMap Attempt.wire ++ (a.wire ++ rest))).Delivers bad a rest ↔
      2 ≤ a.body.length ∨ a.begun (storeAll buffer bad) 2 ≠ ':'.toUInt8 := by
  obtain ⟨ch₁, ch₂, htrailer, hsum⟩ := a.good_or_misread_iff.1 (.inl ha)
  rw [getpacket_allBad bad hbad, getpacket_closed a htrailer, if_neg (not_not.2 hsum)]
  generalize storeAll buffer bad = m
  have hheld := a.store_heldBy m
  have htwo := a.store_two m
  by_cases hseq : a.Sequenced
  · -- the sequence number is in the body
    have hlen : 2 < a.body.length := (List.getElem?_eq_some_iff.1 hseq).1
    rw [if_pos (htwo.2 (.inl hseq))]
    refine iff_of_true ⟨?_, a.store m, ?_, hheld⟩ (.inl hlen.le)
    · rw [Attempt.accept, if_pos hseq, a.store_of_lt m (by omega), a.store_of_lt m (by omega)]
      obtain ⟨c₀, c₁, more, hbody⟩ : ∃ c₀ c₁ more, a.body = c₀ :: c₁ :: more := by
        rcases hb : a.body with _ | ⟨c₀, _ | ⟨c₁, more⟩⟩
        · simp [hb] at hlen
        · simp [hb] at hlen
        · exact ⟨c₀, c₁, more, rfl⟩
      simp [hbody]
    · rw [Attempt.offset, if_pos hseq]
  · by_cases hstale : a.body.length < 2 ∧ a.begun m 2 = ':'.toUInt8
    · rw [if_pos (htwo.2 (.inr hstale))]
      refine iff_of_false (fun h => ?_) (by rintro (h | h) <;> [omega; exact h hstale.2])
      obtain ⟨-, m', hpacket, -⟩ := h
      rw [Attempt.offset, if_neg hseq] at hpacket
      simp at hpacket
    · rw [if_neg (fun h => (htwo.1 h).elim hseq hstale)]
      refine iff_of_true ⟨?_, a.store m, ?_, hheld⟩ ?_
      · rw [Attempt.accept, if_neg hseq]
      · rw [Attempt.offset, if_neg hseq]
      · by_cases hlen : 2 ≤ a.body.length
        · exact .inl hlen
        · exact .inr fun h => hstale ⟨by omega, h⟩

/-- `$x#00`, with a wrong checksum. -/
def refusedAttempt : Attempt where
  noise := []
  aborted := []
  body := "x".toList.map Char.toUInt8
  trailer := some ('0'.toUInt8, '0'.toUInt8)
  noise_ok := by simp
  aborted_ok := by simp
  body_ok := by constructor <;> decide
  length_ok := .inl ⟨by decide, rfl⟩

/-- `$?#3f` -/
def statusAttempt : Attempt where
  noise := []
  aborted := []
  body := "?".toList.map Char.toUInt8
  trailer := some ('3'.toUInt8, 'f'.toUInt8)
  noise_ok := by simp
  aborted_ok := by simp
  body_ok := by constructor <;> decide
  length_ok := .inl ⟨by decide, rfl⟩

/-- The stub refuses a packet and takes the next one. -/
theorem getpacket_delivers_iff_status :
    (getpacket (fun _ => 0) ("$x#00$?#3f".toList.map Char.toUInt8)).Delivers
      [refusedAttempt] statusAttempt [] := by
  have hbad : ∀ b ∈ [refusedAttempt], b.Fails := by
    intro b hb
    rw [List.mem_singleton] at hb
    subst hb
    refine not_or.1 fun h => ?_
    obtain ⟨ch₁, ch₂, htrailer, hsum⟩ := refusedAttempt.good_or_misread_iff.1 h
    obtain ⟨rfl, rfl⟩ := Prod.mk.inj (Option.some.inj htrailer)
    revert hsum
    decide
  have hgood : statusAttempt.Good := ⟨_, _, 3, 15, rfl, by decide, by decide, by decide⟩
  exact (getpacket_delivers_iff (fun _ => 0) [refusedAttempt] hbad statusAttempt hgood []).2
    (.inr (by decide))

/-! ## Every stream -/

/-- In any characters either a body ends, or there is no end yet. -/
lemma exists_body (room : ℕ) (input : List UInt8) :
    (Plain input ∧ input.length < room) ∨ ∃ b rest, Plain b ∧ (b.length = room ∧ input = b ++ rest ∨
      b.length < room ∧ (input = b ++ '#'.toUInt8 :: rest ∨ input = b ++ '$'.toUInt8 :: rest)) := by
  induction room generalizing input with
  | zero => exact .inr ⟨[], input, ⟨List.not_mem_nil, List.not_mem_nil⟩, .inl ⟨rfl, rfl⟩⟩
  | succ room ih =>
    cases input with
    | nil => exact .inl ⟨⟨List.not_mem_nil, List.not_mem_nil⟩, Nat.succ_pos room⟩
    | cons ch input =>
      by_cases hdollar : ch = '$'.toUInt8
      · exact .inr ⟨[], input, ⟨List.not_mem_nil, List.not_mem_nil⟩,
          .inr ⟨Nat.succ_pos room, .inr (by rw [hdollar]; rfl)⟩⟩
      · by_cases hhash : ch = '#'.toUInt8
        · exact .inr
            ⟨[], input, ⟨List.not_mem_nil, List.not_mem_nil⟩,
            .inr ⟨Nat.succ_pos room, .inl (by rw [hhash]; rfl)⟩⟩
        · have plain : ∀ {b : List UInt8}, Plain b → Plain (ch :: b) := by
            intro b hb
            simp only [Plain, List.mem_cons, not_or]
            exact ⟨⟨Ne.symm hdollar, hb.1⟩, Ne.symm hhash, hb.2⟩
          rcases ih input with ⟨hplain, hlt⟩ | ⟨b, rest, hb, ⟨hlen, rfl⟩ | ⟨hlen, rfl | rfl⟩⟩
          · exact .inl ⟨plain hplain, Nat.succ_lt_succ hlt⟩
          · exact .inr ⟨ch :: b, rest, plain hb, .inl ⟨congrArg Nat.succ hlen, rfl⟩⟩
          · exact .inr ⟨ch :: b, rest, plain hb, .inr ⟨Nat.succ_lt_succ hlen, .inl rfl⟩⟩
          · exact .inr ⟨ch :: b, rest, plain hb, .inr ⟨Nat.succ_lt_succ hlen, .inr rfl⟩⟩

/-- Behind a `$`, `getpacket` finds the end of an attempt, or is still waiting for it. -/
lemma exists_attempt_of_start (noise : List UInt8) (hnoise : '$'.toUInt8 ∉ noise)
    (input : List UInt8)
    (aborted : List (List UInt8)) (haborted : ∀ b ∈ aborted, Plain b ∧ b.length < bufMax - 1) :
    (∃ (a : Attempt) (rest : List UInt8),
        noise ++ '$'.toUInt8 :: (aborted.flatMap (· ++ ['$'.toUInt8]) ++ input) = a.wire ++ rest) ∨
      ∀ buffer, getpacket buffer
        (noise ++ '$'.toUInt8 :: (aborted.flatMap (· ++ ['$'.toUInt8]) ++ input)) = ⟨[], none⟩ := by
  induction hlen : input.length using Nat.strong_induction_on generalizing input aborted with
  | _ len ih =>
    rcases exists_body (bufMax - 1)
      input with ⟨hplain, hlt⟩ | ⟨b, rest, hb, ⟨hfull, rfl⟩ | ⟨hlt, rfl | rfl⟩⟩
    · refine .inr fun buffer => getpacket_of_readBody_none (awaitStart_noise hnoise) ?_
      have hstored :=
        @readBody_plain (aborted.foldl (fun m b => patch m 0 b) buffer) 0 0 input []
          hplain (by omega)
      rw [List.append_nil] at hstored
      rw [readBody_aborted haborted, hstored, readBody, if_pos (by omega)]
    · refine .inl ⟨⟨noise, aborted, b, none, hnoise, haborted, hb, .inr ⟨hfull, rfl⟩⟩, rest, ?_⟩
      simp [Attempt.wire, trailerChars]
    · have stored : ∀ buffer, readBody buffer 0 0
          (aborted.flatMap (· ++ ['$'.toUInt8]) ++ (b ++ '#'.toUInt8 :: rest)) =
          some ⟨patch (aborted.foldl (fun m b => patch m 0 b) buffer) 0 b, 0 + checksum b,
            0 + b.length, true, rest⟩ := by
        intro buffer
        rw [readBody_aborted haborted, readBody_plain hb (by omega), readBody_hash (by omega)]
      rcases rest with _ | ⟨ch₁, _ | ⟨ch₂, rest⟩⟩
      · exact .inr fun buffer =>
          getpacket_of_short (awaitStart_noise hnoise) (stored buffer) (by simp)
      · exact .inr fun buffer =>
          getpacket_of_short (awaitStart_noise hnoise) (stored buffer) (by simp)
      · refine .inl ⟨⟨noise, aborted, b, some (ch₁, ch₂), hnoise, haborted, hb, .inl ⟨hlt, rfl⟩⟩,
          rest, ?_⟩
        simp [Attempt.wire, trailerChars]
    · -- the body is given up
      have hshort : rest.length < len := by
        rw [← hlen, List.length_append, List.length_cons]
        omega
      have hnext := ih rest.length hshort rest (aborted ++ [b]) (fun c hc => by
        rcases List.mem_append.1 hc with hc | hc
        · exact haborted c hc
        · rw [List.mem_singleton.1 hc]
          exact ⟨hb, hlt⟩) rfl
      simpa using hnext

/-- Where no attempt is complete, `getpacket` waits. -/
lemma getpacket_incomplete (hincomplete : Incomplete input) (buffer : ℕ → UInt8) :
    getpacket buffer input = ⟨[], none⟩ := by
  by_cases hmem : '$'.toUInt8 ∈ input
  · obtain ⟨noise, rest, rfl, hnoise⟩ := List.eq_append_cons_of_mem hmem
    rcases exists_attempt_of_start noise hnoise rest [] (by simp) with ⟨a, rest', h⟩ | h
    · exact absurd h (hincomplete a rest')
    · exact h buffer
  · refine getpacket_of_awaitStart_none ?_
    clear hincomplete
    induction input with
    | nil => rfl
    | cons ch input ih =>
      rw [List.mem_cons, not_or] at hmem
      rw [awaitStart, if_neg (Ne.symm hmem.1), ih hmem.2]

lemma Attempt.wire_length (a : Attempt) : 0 < a.wire.length := by
  rw [Attempt.wire, List.length_append, List.length_cons]
  omega

/-- Every stream of characters is a sequence of attempts that fail, each refused or dropped, and
then either an attempt with the right checksum or a misread one, with which `getpacket` returns, or
an incomplete one, in which it waits. -/
theorem getpacket_exact (buffer : ℕ → UInt8) (input : List UInt8) :
    ∃ (bad : List Attempt) (tail : List UInt8),
      (∀ b ∈ bad, b.Fails) ∧ input = bad.flatMap Attempt.wire ++ tail ∧
      ((∃ (a : Attempt) (rest : List UInt8), (a.Good ∨ a.Misread) ∧ tail = a.wire ++ rest ∧
          ∃ off ids, getpacket buffer input =
            ⟨bad.flatMap Attempt.refusal ++ '+'.toUInt8 :: ids,
              some (a.store (storeAll buffer bad), off, rest)⟩) ∨
        Incomplete tail ∧ getpacket buffer input = ⟨bad.flatMap Attempt.refusal, none⟩) := by
  induction hlen : input.length using Nat.strong_induction_on generalizing buffer input with
  | _ len ih =>
    by_cases hincomplete : Incomplete input
    · exact ⟨[], input, by simp, rfl, .inr ⟨hincomplete, getpacket_incomplete hincomplete buffer⟩⟩
    · rw [Incomplete] at hincomplete
      push Not at hincomplete
      obtain ⟨a, rest, rfl⟩ := hincomplete
      by_cases hgood : a.Good ∨ a.Misread
      · refine ⟨[], a.wire ++ rest, by simp, rfl, .inl ⟨a, rest, hgood, rfl, ?_⟩⟩
        obtain ⟨ch₁, ch₂, htrailer, hsum⟩ := a.good_or_misread_iff.1 hgood
        rw [getpacket_closed a htrailer, if_neg (not_not.2 hsum)]
        split_ifs
        · exact ⟨3, _, rfl⟩
        · exact ⟨0, [], rfl⟩
      · have hshort : rest.length < len := by
          have := a.wire_length
          rw [← hlen, List.length_append]
          omega
        obtain ⟨bad, tail, hbad, hinput, h⟩ := ih rest.length hshort (a.store buffer) rest rfl
        refine ⟨a :: bad, tail, ?_, by rw [List.flatMap_cons, List.append_assoc, ← hinput], ?_⟩
        · intro b hb
          rcases List.mem_cons.1 hb with rfl | hb
          · exact not_or.1 hgood
          · exact hbad b hb
        · rw [getpacket_bad a (not_or.1 hgood), List.flatMap_cons]
          rcases h with ⟨a', rest', hgood', htail, off, ids, hrun⟩ | ⟨htail, hrun⟩
          · refine .inl ⟨a', rest', hgood', htail, off, ids, ?_⟩
            rw [hrun, List.append_assoc]
            rfl
          · exact .inr ⟨htail, by rw [hrun]⟩

end Hikey.Gdb
