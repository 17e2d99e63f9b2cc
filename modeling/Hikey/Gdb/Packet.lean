import Hikey.Foundation.Patch

/-!
# Packets of the debugger stub (`gdbstub.c`)

`getpacket` reads the characters of the receiving ring one by one until it has a packet with the
right checksum; `putpacket` sends a packet until it is acknowledged.  The characters that arrive are
given as a list, and the characters that are sent are collected; a call that has used up the list is
still waiting.  The packet buffer keeps its contents between calls.
-/

namespace Hikey.Gdb

/-! ## The source -/

/-- `BUFMAX` -/
def bufMax : ℕ := 256

/-- `hexchars[n]` -/
def hexchars (n : ℕ) : UInt8 := ("0123456789abcdef".toList.getD n '0').toUInt8

/-- `hex` -/
def hex (ch : UInt8) : ℤ :=
  if 'a'.toUInt8 ≤ ch ∧ ch ≤ 'f'.toUInt8 then (ch - 'a'.toUInt8).toNat + 10
  else if '0'.toUInt8 ≤ ch ∧ ch ≤ '9'.toUInt8 then (ch - '0'.toUInt8).toNat
  else if 'A'.toUInt8 ≤ ch ∧ ch ≤ 'F'.toUInt8 then (ch - 'A'.toUInt8).toNat + 10
  else -1

/-- `while ((ch = getDebugChar ()) != '$')`: the characters behind the `$`. -/
def awaitStart : List UInt8 → Option (List UInt8)
  | [] => none
  | ch :: input => if ch = '$'.toUInt8 then some input else awaitStart input

/-- The end of the inner loop of `getpacket`: the buffer, the checksum and the number of the
characters in it, whether the loop has found a `#`, and the characters that are left. -/
structure PacketBody where
  buffer : ℕ → UInt8
  checksum : UInt8
  count : ℕ
  hash : Bool
  rest : List UInt8

/-- The inner loop of `getpacket`, with a `$` leading back to its beginning. -/
def readBody (buffer : ℕ → UInt8) (checksum : UInt8) (count : ℕ) : List UInt8 → Option PacketBody
  | [] => if count < bufMax - 1 then none else some ⟨buffer, checksum, count, false, []⟩
  | ch :: input =>
    if count < bufMax - 1 then
      if ch = '$'.toUInt8 then readBody buffer 0 0 input
      else if ch = '#'.toUInt8 then some ⟨buffer, checksum, count, true, input⟩
      else readBody (Function.update buffer count ch) (checksum + ch) (count + 1) input
    else some ⟨buffer, checksum, count, false, ch :: input⟩

/-- What `getpacket` has sent, and where it returns: the buffer, the offset of the packet in it, and
the characters that are left. -/
structure PacketRun where
  sent : List UInt8
  packet : Option ((ℕ → UInt8) × ℕ × List UInt8)

lemma awaitStart_length {input rest : List UInt8} (h : awaitStart input = some rest) :
    rest.length < input.length := by
  induction input with
  | nil => cases h
  | cons ch input ih =>
    rw [awaitStart] at h
    split_ifs at h
    · obtain rfl := Option.some.inj h
      exact Nat.lt_succ_self _
    · exact (ih h).trans (Nat.lt_succ_self _)

lemma readBody_length {buffer : ℕ → UInt8} {checksum : UInt8} {count : ℕ} {input : List UInt8}
    {body : PacketBody}
    (h : readBody buffer checksum count input = some body) : body.rest.length ≤ input.length := by
  induction input generalizing buffer checksum count with
  | nil =>
    rw [readBody] at h
    split_ifs at h
    obtain rfl := Option.some.inj h
    exact le_rfl
  | cons ch input ih =>
    rw [readBody] at h
    split_ifs at h
    · exact (ih h).trans (Nat.le_succ _)
    · obtain rfl := Option.some.inj h
      exact Nat.le_succ _
    · exact (ih h).trans (Nat.le_succ _)
    · obtain rfl := Option.some.inj h
      exact le_rfl

/-- `getpacket` -/
def getpacket (buffer : ℕ → UInt8) (input : List UInt8) : PacketRun :=
  match _ : awaitStart input with
  | none => ⟨[], none⟩
  | some input' =>
    match _ : readBody buffer 0 0 input' with
    | none => ⟨[], none⟩
    | some body =>
      let buffer := Function.update body.buffer body.count 0
      if body.hash then
        match _ : body.rest with
        | ch₁ :: ch₂ :: rest =>
          let xmitcsum := UInt8.ofInt (hex ch₁ * 16)
          let xmitcsum := xmitcsum + UInt8.ofInt (hex ch₂)
          if body.checksum ≠ xmitcsum then
            let run := getpacket buffer rest
            { run with sent := '-'.toUInt8 :: run.sent }
          else if buffer 2 = ':'.toUInt8 then
            ⟨['+'.toUInt8, buffer 0, buffer 1], some (buffer, 3, rest)⟩
          else ⟨['+'.toUInt8], some (buffer, 0, rest)⟩
        | _ => ⟨[], none⟩
      else getpacket buffer body.rest
termination_by input.length
decreasing_by
  · rename_i hstart hbody _ hrest _ _
    have hlt := awaitStart_length hstart
    have hle := readBody_length hbody
    rw [hrest, List.length_cons, List.length_cons] at hle
    omega
  · rename_i hstart hbody _
    exact (readBody_length hbody).trans_lt (awaitStart_length hstart)

/-- The characters of a string in a buffer of `n` more places, up to its zero; `none` says that
there is no zero. -/
def cString (buffer : ℕ → UInt8) (start : ℕ) : ℕ → Option (List UInt8)
  | 0 => none
  | n + 1 => if buffer start = 0 then some [] else (cString buffer (start + 1) n).map
      (buffer start :: ·)

/-- `checksum` of `getpacket` and `putpacket` over some characters. -/
def checksum (chars : List UInt8) : UInt8 := chars.foldl (· + ·) 0

/-- What `putpacket` sends in one turn. -/
def frame (chars : List UInt8) : List UInt8 :=
  '$'.toUInt8 :: chars ++ ['#'.toUInt8, hexchars (checksum chars >>> 4).toNat,
    hexchars (checksum chars &&& 0xf).toNat]

/-- `putpacket` of a string: what it sends, and the characters that are left when it returns. -/
def putpacket (chars : List UInt8) : List UInt8 → List UInt8 × Option (List UInt8)
  | [] => (frame chars, none)
  | ch :: input =>
    if ch ≠ '+'.toUInt8 then
      let (sent, left) := putpacket chars input
      (frame chars ++ sent, left)
    else (frame chars, some input)

/-! ## Strings in buffers -/

/-- A string with its zero is read as it was written. -/
lemma cString_patch {mem : ℕ → UInt8} {off n : ℕ} {chars : List UInt8}
    (hchars : ∀ ch ∈ chars, ch ≠ 0)
    (hlen : chars.length < n) : cString (patch mem off (chars ++ [0])) off n = some chars := by
  induction n generalizing mem off chars with
  | zero => omega
  | succ n ih =>
    cases chars with
    | nil =>
      have hzero : patch mem off [0] off = 0 := @patch_add _ mem off 0 [0] Nat.zero_lt_one
      rw [List.nil_append, cString, if_pos hzero]
    | cons ch chars =>
      have hfirst : patch mem off (ch :: chars ++ [0]) off = ch :=
        @patch_add _ mem off 0 (ch :: chars ++ [0]) (by simp)
      have hsplit : patch mem off (ch :: chars ++ [0]) = patch (patch mem off [ch]) (off + 1)
          (chars ++ [0]) :=
        (@patch_append _ mem off [ch] (chars ++ [0])).symm
      rw [cString, if_neg (by rw [hfirst]; exact hchars ch List.mem_cons_self), hfirst, hsplit,
        ih (fun c hc => hchars c (List.mem_cons_of_mem _ hc))
          (by rw [List.length_cons] at hlen; omega)]
      rfl

lemma hexchars_mem (n : ℕ) : hexchars n ∈ "0123456789abcdef".toList.map Char.toUInt8 := by
  by_cases hn : n < 16
  · interval_cases n <;> decide
  · rw [hexchars, List.getD_eq_getElem?_getD, List.getElem?_eq_none (by simpa using hn)]
    decide

end Hikey.Gdb
