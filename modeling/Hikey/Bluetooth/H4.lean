import Hikey.Foundation.Bytes
import Hikey.Foundation.Run

/-!
# The H4 protocol of the HCI UART (`h4_protocol.cc`, `hci_packetizer.cc`)

The watcher of the UART calls `OnDataReady` whenever there is data to read, and every read returns a
part of what was asked for.  `none` is a failed `CHECK`, which ends the process, or an access
outside of an array.
-/

namespace Hikey

/-! ## The source -/

/-- `HciPacketType`; `other` is a value that the enumeration does not have. -/
inductive HciPacketType
  | unknown
  | command
  | aclData
  | scoData
  | event
  | other
deriving DecidableEq, Repr

/-- The conversion of a type byte. -/
def HciPacketType.ofByte (b : UInt8) : HciPacketType :=
  if b = 0 then .unknown
  else if b = 1 then .command
  else if b = 2 then .aclData
  else if b = 3 then .scoData
  else if b = 4 then .event
  else .other

/-- `preamble_size_for_type`. -/
def preambleSizeForType : HciPacketType → Option ℕ
  | .unknown => some 0
  | .command => some 3
  | .aclData => some 4
  | .scoData => some 3
  | .event => some 2
  | .other => none

/-- `packet_length_offset_for_type`. -/
def packetLengthOffsetForType : HciPacketType → Option ℕ
  | .unknown => some 0
  | .command => some 2
  | .aclData => some 2
  | .scoData => some 2
  | .event => some 1
  | .other => none

/-- `HciGetPacketLengthForType`. -/
def hciGetPacketLengthForType (type : HciPacketType) (preamble : List UInt8) : Option ℕ :=
  match packetLengthOffsetForType type with
  | none => none
  | some offset =>
    if type ≠ .aclData then preamble[offset]?.map UInt8.toNat
    else
      match preamble[offset + 1]?, preamble[offset]? with
      | some high, some low => some (high.toNat <<< 8 ||| low.toNat)
      | _, _ => none

/-- `HciPacketizer::State`. -/
inductive HciPacketizerState
  | preamble
  | payload
deriving DecidableEq, Repr

/-- `HciPacketizer`; the preamble has the size of the largest one. -/
structure HciPacketizer where
  state : HciPacketizerState
  preamble : List UInt8
  packet : List UInt8
  bytesRemaining : ℕ
  bytesRead : ℕ
deriving DecidableEq, Repr

/-- `hidl_vec::resize`: new elements have some value. -/
def hidlVecResize (fresh : UInt8) (v : List UInt8) (n : ℕ) : List UInt8 :=
  v.take n ++ List.replicate (n - v.length) fresh

/-- `read` of at most `n` bytes, when at most `chunk` bytes are there: the bytes, and those to come.
-/
def uartRead (chunk : ℕ) (stream : List UInt8) (n : ℕ) : List UInt8 × List UInt8 :=
  (stream.take (min n chunk), stream.drop (min n chunk))

/-- `HciPacketizer::OnDataReady`: the bytes to come, and the packet that is ready. -/
def HciPacketizer.onDataReady (fresh : UInt8) (chunk : ℕ) (p : HciPacketizer) (type : HciPacketType)
    (stream : List UInt8) : Option (HciPacketizer × List UInt8 × Option (List UInt8)) :=
  match preambleSizeForType type with
  | none => none
  | some size =>
    match p.state with
    | .preamble =>
      let (data, stream) := uartRead chunk stream (size - p.bytesRead)
      if data.length = 0 then none
      else
        let preamble := writeBytes p.preamble p.bytesRead data
        let bytesRead := p.bytesRead + data.length
        if bytesRead = size then
          match hciGetPacketLengthForType type preamble with
          | none => none
          | some length =>
            some ({ p with
              state := .payload
              preamble := preamble
              packet := writeBytes (hidlVecResize fresh p.packet (size + length)) 0
                (preamble.take size)
              bytesRemaining := length
              bytesRead := 0 }, stream, none)
        else some ({ p with preamble := preamble, bytesRead := bytesRead }, stream, none)
    | .payload =>
      let (data, stream) := uartRead chunk stream p.bytesRemaining
      if data.length = 0 then none
      else
        let packet := writeBytes p.packet (size + p.bytesRead) data
        let bytesRemaining := p.bytesRemaining - data.length
        if bytesRemaining = 0 then
          some ({ p with
            state := .preamble
            packet := packet
            bytesRemaining := bytesRemaining
            bytesRead := 0 }, stream, some packet)
        else
          some ({ p with
            packet := packet
            bytesRemaining := bytesRemaining
            bytesRead := p.bytesRead + data.length }, stream, none)

/-- `H4Protocol` with the UART and the packets given to the callbacks so far. -/
structure H4Protocol where
  hciPacketType : HciPacketType
  hciPacketizer : HciPacketizer
  stream : List UInt8
  delivered : List (HciPacketType × List UInt8)
deriving DecidableEq, Repr

/-- `H4Protocol::OnPacketReady`: there are callbacks for the packets that can be received. -/
def H4Protocol.onPacketReady (h : H4Protocol) (packet : List UInt8) : Option H4Protocol :=
  match h.hciPacketType with
  | .event | .aclData | .scoData => some { h with
      hciPacketType := .unknown
      delivered := h.delivered ++ [(h.hciPacketType, packet)] }
  | _ => none

/-- `H4Protocol::OnDataReady`. -/
def H4Protocol.onDataReady (fresh : UInt8) (chunk : ℕ) (h : H4Protocol) : Option H4Protocol :=
  if h.hciPacketType = .unknown then
    let (data, stream) := uartRead chunk h.stream 1
    match data with
    | [b] => some { h with hciPacketType := .ofByte b, stream := stream }
    | _ => none
  else
    match h.hciPacketizer.onDataReady fresh chunk h.hciPacketType h.stream with
    | none => none
    | some (p, stream, none) => some { h with hciPacketizer := p, stream := stream }
    | some (p, stream, some packet) =>
      { h with hciPacketizer := p, stream := stream }.onPacketReady packet

/-- The protocol before the first byte; the preamble is not initialized. -/
def H4Protocol.start (b₀ b₁ b₂ b₃ : UInt8) (stream : List UInt8) : H4Protocol where
  hciPacketType := .unknown
  hciPacketizer := ⟨.preamble, [b₀, b₁, b₂, b₃], [], 0, 0⟩
  stream := stream
  delivered := []

/-- There is data, and a read returns at least one byte. -/
def H4Step (h h' : H4Protocol) : Prop :=
  ∃ fresh chunk, 0 < chunk ∧ h.stream ≠ [] ∧ h.onDataReady fresh chunk = some h'

/-! ## Packets -/

/-- A well-formed packet of a type that is received. -/
structure HciPacket where
  type : HciPacketType
  preamble : List UInt8
  payload : List UInt8
  received : type = .event ∨ type = .aclData ∨ type = .scoData
  size : preambleSizeForType type = some preamble.length
  length : hciGetPacketLengthForType type preamble = some payload.length

/-- The type byte. -/
def HciPacketType.toByte : HciPacketType → UInt8
  | .unknown => 0
  | .command => 1
  | .aclData => 2
  | .scoData => 3
  | .event => 4
  | .other => 5

/-- A packet on the UART. -/
def HciPacket.bytes (p : HciPacket) : List UInt8 := p.type.toByte :: (p.preamble ++ p.payload)

/-- A packet as it is given to a callback. -/
def HciPacket.delivered (p : HciPacket) : HciPacketType × List UInt8 :=
  (p.type, p.preamble ++ p.payload)

/-- Every call on the stream of the packets reads a part of it, and at its end exactly the packets
are delivered, in order, each with its type, its preamble and its payload. -/
def H4Delivers (b₀ b₁ b₂ b₃ : UInt8) (ps : List HciPacket) : Prop :=
  ∀ h, Relation.ReflTransGen H4Step (.start b₀ b₁ b₂ b₃ (ps.flatMap HciPacket.bytes)) h →
    (h.stream ≠ [] → ∀ fresh chunk, 0 < chunk →
      ∃ h', h.onDataReady fresh chunk = some h' ∧ h'.stream.length < h.stream.length) ∧
    (h.stream = [] → h.delivered = ps.map HciPacket.delivered)

/-! ## Where the reader is -/

/-- The packets that are not delivered yet, the first one possibly read in part. -/
inductive H4At : List HciPacket → H4Protocol → Prop
  | type {ps h} (hpre : h.hciPacketizer.preamble.length = 4) (htype : h.hciPacketType = .unknown)
      (hstate : h.hciPacketizer.state = .preamble) (hread : h.hciPacketizer.bytesRead = 0)
      (hstream : h.stream = ps.flatMap HciPacket.bytes) : H4At ps h
  | preamble {p ps h} (hpre : h.hciPacketizer.preamble.length = 4)
      (htype : h.hciPacketType = p.type)
      (hstate : h.hciPacketizer.state = .preamble)
      (hread : h.hciPacketizer.bytesRead < p.preamble.length)
      (htake : h.hciPacketizer.preamble.take h.hciPacketizer.bytesRead =
        p.preamble.take h.hciPacketizer.bytesRead)
      (hstream : h.stream = p.preamble.drop h.hciPacketizer.bytesRead ++
        (p.payload ++ ps.flatMap HciPacket.bytes)) : H4At (p :: ps) h
  | payload {p ps h} (hpre : h.hciPacketizer.preamble.length = 4) (htype : h.hciPacketType = p.type)
      (hstate : h.hciPacketizer.state = .payload)
      (hread : p.payload ≠ [] → h.hciPacketizer.bytesRead < p.payload.length)
      (hleft : h.hciPacketizer.bytesRemaining = p.payload.length - h.hciPacketizer.bytesRead)
      (hlen : h.hciPacketizer.packet.length = p.preamble.length + p.payload.length)
      (htake : h.hciPacketizer.packet.take (p.preamble.length + h.hciPacketizer.bytesRead) =
        p.preamble ++ p.payload.take h.hciPacketizer.bytesRead)
      (hstream : h.stream = p.payload.drop h.hciPacketizer.bytesRead ++
        ps.flatMap HciPacket.bytes) : H4At (p :: ps) h

/-- What a call does while `p` is the next packet: it goes on with the packet, or delivers it. -/
def H4Goes (p : HciPacket) (ps : List HciPacket) (h h' : H4Protocol) : Prop :=
  h'.stream.length < h.stream.length ∧
    (H4At (p :: ps) h' ∧ h'.delivered = h.delivered ∨
      H4At ps h' ∧ h'.delivered = h.delivered ++ [p.delivered] ∧ p.payload ≠ [])

variable {h h' : H4Protocol} {p : HciPacket} {ps qs : List HciPacket} {fresh : UInt8} {chunk : ℕ}

lemma HciPacket.type_ofByte (p : HciPacket) : HciPacketType.ofByte p.type.toByte = p.type := by
  rcases p.received with h | h | h <;> rw [h] <;> rfl

lemma HciPacket.type_ne_unknown (p : HciPacket) : p.type ≠ .unknown := by
  rcases p.received with h | h | h <;> rw [h] <;> decide

/-- A preamble has at least one byte, and at most four. -/
lemma HciPacket.preamble_length (p : HciPacket) :
    0 < p.preamble.length ∧ p.preamble.length ≤ 4 := by
  have hsize := p.size
  rcases p.received with h | h | h <;> rw [h] at hsize <;>
    simp only [preambleSizeForType, Option.some.injEq] at hsize <;> omega

/-- The length of a packet is in its preamble. -/
lemma HciPacket.length_take (p : HciPacket) {preamble : List UInt8}
    (hpre : preamble.take p.preamble.length = p.preamble) :
    hciGetPacketLengthForType p.type preamble = some p.payload.length := by
  rw [← p.length]
  have hsize := p.size
  have hget (k : ℕ) (hk : k < p.preamble.length) : preamble[k]? = p.preamble[k]? := by
    rw [← hpre, List.getElem?_take_of_lt hk]
  unfold hciGetPacketLengthForType
  rcases p.received with h | h | h <;> rw [h] at hsize ⊢ <;>
    simp only [preambleSizeForType, Option.some.injEq] at hsize <;>
    simp only [packetLengthOffsetForType]
  · rw [if_pos (by decide), if_pos (by decide), hget 1 (by omega)]
  · rw [if_neg (by decide), if_neg (by decide), hget 3 (by omega), hget 2 (by omega)]
  · rw [if_pos (by decide), if_pos (by decide), hget 2 (by omega)]

/-- A read of what is left of a block that is followed by other bytes. -/
lemma uartRead_append (block tail : List UInt8) :
    uartRead chunk (block ++ tail) block.length =
      (block.take (min block.length chunk), block.drop (min block.length chunk) ++ tail) := by
  have hle : min block.length chunk ≤ block.length := Nat.min_le_left _ _
  rw [uartRead, List.take_append_of_le_length hle, List.drop_append_of_le_length hle]

lemma HciPacket.bytes_ne_nil : p.bytes ≠ [] := by simp [HciPacket.bytes]

/-- Data is left when a packet with a payload is. -/
lemma H4At.stream_ne_nil (hat : H4At (p :: ps) h) (hne : p.payload ≠ []) : h.stream ≠ [] := by
  cases hat with
  | type _ _ _ _ hstream => simp [hstream, HciPacket.bytes_ne_nil]
  | preamble _ _ _ hread _ hstream =>
    rw [hstream]
    exact List.append_ne_nil_of_left_ne_nil (by simpa using hread) _
  | payload _ _ _ hread _ _ _ hstream =>
    rw [hstream]
    exact List.append_ne_nil_of_left_ne_nil (by simpa using hread hne) _

/-- The type byte. -/
lemma H4At.onDataReady_type (hpre : h.hciPacketizer.preamble.length = 4)
    (htype : h.hciPacketType = .unknown) (hstate : h.hciPacketizer.state = .preamble)
    (hread : h.hciPacketizer.bytesRead = 0)
    (hstream : h.stream = (p :: ps).flatMap HciPacket.bytes) (hchunk : 0 < chunk) :
    ∃ h', h.onDataReady fresh chunk = some h' ∧ H4Goes p ps h h' := by
  have hone : min 1 chunk = 1 := by omega
  refine ⟨{ h with
    hciPacketType := p.type
    stream := p.preamble ++ (p.payload ++ ps.flatMap HciPacket.bytes) }, ?_, ?_, .inl ⟨?_, rfl⟩⟩
  · simp [H4Protocol.onDataReady, htype, uartRead, hone, hstream, HciPacket.bytes,
      p.type_ofByte]
  · simp [hstream, HciPacket.bytes]
  · refine .preamble hpre rfl hstate ?_ ?_ ?_
    · exact hread ▸ p.preamble_length.1
    · simp [hread]
    · simp [hread]

/-- A part of the preamble, or the rest of it. -/
lemma H4At.onDataReady_preamble (hpre : h.hciPacketizer.preamble.length = 4)
    (htype : h.hciPacketType = p.type) (hstate : h.hciPacketizer.state = .preamble)
    (hread : h.hciPacketizer.bytesRead < p.preamble.length)
    (htake : h.hciPacketizer.preamble.take h.hciPacketizer.bytesRead =
      p.preamble.take h.hciPacketizer.bytesRead)
    (hstream : h.stream = p.preamble.drop h.hciPacketizer.bytesRead ++
      (p.payload ++ ps.flatMap HciPacket.bytes)) (hchunk : 0 < chunk) :
    ∃ h', h.onDataReady fresh chunk = some h' ∧ H4Goes p ps h h' := by
  obtain ⟨type, ⟨state, preamble, packet, left, n⟩, stream, delivered⟩ := h
  simp only at hpre htype hstate hread htake hstream
  subst htype hstate hstream
  have hsize := p.preamble_length
  have hblock : p.preamble.length - n = (p.preamble.drop n).length := by simp
  obtain ⟨k, hk⟩ : ∃ k, k = min (p.preamble.drop n).length chunk := ⟨_, rfl⟩
  have hk0 : 0 < k := by simp only [hk, List.length_drop]; omega
  have hkn : n + k ≤ p.preamble.length := by simp only [hk, List.length_drop]; omega
  have hdata : ((p.preamble.drop n).take k).length = k := by simp; omega
  -- the preamble read so far grows by the bytes that were read
  have hwrite : (writeBytes preamble n ((p.preamble.drop n).take k)).take (n + k) =
      p.preamble.take (n + k) := by
    have := take_writeBytes n preamble ((p.preamble.drop n).take k) (by omega)
    rw [hdata, htake] at this
    rw [this, List.take_add]
  have hwlen : (writeBytes preamble n ((p.preamble.drop n).take k)).length = 4 := by
    rw [length_writeBytes (by omega), hpre]
  have hdrop : (p.preamble.drop n).drop k = p.preamble.drop (n + k) := by simp
  simp only [H4Protocol.onDataReady, p.type_ne_unknown, if_false, HciPacketizer.onDataReady, p.size,
    hblock, uartRead_append, ← hk, hdata, hk0.ne', hdrop]
  by_cases hall : n + k = p.preamble.length
  · rw [hall, List.take_length] at hwrite
    simp only [hall, if_true, p.length_take hwrite, hwrite, List.drop_length, List.nil_append]
    refine ⟨_, rfl, ?_, .inl ⟨.payload hwlen rfl rfl ?_ ?_ ?_ ?_ ?_, rfl⟩⟩
    · simp only [List.length_append, List.length_drop]; omega
    · exact fun hne => List.length_pos_iff.2 hne
    · simp
    · simp [writeBytes, hidlVecResize]; omega
    · simp [writeBytes]
    · simp
  · simp only [hall, if_false]
    refine ⟨_, rfl, ?_, .inl ⟨.preamble hwlen rfl rfl ?_ hwrite rfl, rfl⟩⟩
    · simp only [List.length_append, List.length_drop]; omega
    · simp only; omega

/-- A part of the payload, or the rest of it. -/
lemma H4At.onDataReady_payload (hpre : h.hciPacketizer.preamble.length = 4)
    (htype : h.hciPacketType = p.type) (hstate : h.hciPacketizer.state = .payload)
    (hread : h.hciPacketizer.bytesRead < p.payload.length)
    (hleft : h.hciPacketizer.bytesRemaining = p.payload.length - h.hciPacketizer.bytesRead)
    (hlen : h.hciPacketizer.packet.length = p.preamble.length + p.payload.length)
    (htake : h.hciPacketizer.packet.take (p.preamble.length + h.hciPacketizer.bytesRead) =
      p.preamble ++ p.payload.take h.hciPacketizer.bytesRead)
    (hstream : h.stream = p.payload.drop h.hciPacketizer.bytesRead ++ ps.flatMap HciPacket.bytes)
    (hchunk : 0 < chunk) :
    ∃ h', h.onDataReady fresh chunk = some h' ∧ H4Goes p ps h h' := by
  obtain ⟨type, ⟨state, preamble, packet, left, n⟩, stream, delivered⟩ := h
  simp only at hpre htype hstate hread hleft hlen htake hstream
  subst htype hstate hstream
  have hblock : left = (p.payload.drop n).length := by simp [hleft]
  obtain ⟨k, hk⟩ : ∃ k, k = min (p.payload.drop n).length chunk := ⟨_, rfl⟩
  have hk0 : 0 < k := by simp only [hk, List.length_drop]; omega
  have hkn : n + k ≤ p.payload.length := by simp only [hk, List.length_drop]; omega
  have hdata : ((p.payload.drop n).take k).length = k := by simp; omega
  -- the packet read so far grows by the bytes that were read
  have hwrite : (writeBytes packet (p.preamble.length + n) ((p.payload.drop n).take k)).take
      (p.preamble.length + (n + k)) = p.preamble ++ p.payload.take (n + k) := by
    have := take_writeBytes (p.preamble.length + n) packet ((p.payload.drop n).take k) (by omega)
    rw [hdata, htake] at this
    rw [← Nat.add_assoc, this, List.take_add, List.append_assoc]
  have hwlen : (writeBytes packet (p.preamble.length + n) ((p.payload.drop n).take k)).length =
      p.preamble.length + p.payload.length := by
    rw [length_writeBytes (by omega), hlen]
  have hdrop : (p.payload.drop n).drop k = p.payload.drop (n + k) := by simp
  simp only [H4Protocol.onDataReady, p.type_ne_unknown, if_false, HciPacketizer.onDataReady, p.size,
    hblock, uartRead_append, ← hk, hdata, hk0.ne', hdrop]
  by_cases hall : n + k = p.payload.length
  · have hzero : (p.payload.drop n).length - k = 0 := by rw [List.length_drop]; omega
    have hpacket := hwrite
    rw [hall, ← hwlen, List.take_length, List.take_length] at hpacket
    have hready (r : H4Protocol) (hr : r.hciPacketType = p.type) (packet : List UInt8) :
        r.onPacketReady packet = some { r with
          hciPacketType := .unknown
          delivered := r.delivered ++ [(p.type, packet)] } := by
      rcases p.received with ht | ht | ht <;> rw [ht] at hr ⊢ <;>
        simp only [H4Protocol.onPacketReady, hr]
    simp only [hzero, if_true, hall, List.drop_length, List.nil_append]
    rw [hready _ rfl]
    refine ⟨_, rfl, ?_, .inr ⟨.type hpre rfl rfl rfl rfl, ?_, ?_⟩⟩
    · simp only [List.length_append, List.length_drop]; omega
    · simp only [hpacket, HciPacket.delivered]
    · exact List.length_pos_iff.1 (by omega)
  · have hpos : (p.payload.drop n).length - k ≠ 0 := by rw [List.length_drop]; omega
    simp only [hpos, if_false]
    refine ⟨_, rfl, ?_, .inl ⟨.payload hpre rfl rfl ?_ ?_ hwlen hwrite rfl, rfl⟩⟩
    · simp only [List.length_append, List.length_drop]; omega
    · intro _
      simp only; omega
    · simp only [List.length_drop]; omega

/-- A call goes on, unless the payload that it waits for is empty. -/
lemma H4At.onDataReady (fresh : UInt8) (hat : H4At (p :: ps) h)
    (hne : h.hciPacketizer.state = .payload → p.payload ≠ []) (hchunk : 0 < chunk) :
    ∃ h', h.onDataReady fresh chunk = some h' ∧ H4Goes p ps h h' := by
  cases hat with
  | type hpre htype hstate hread hstream =>
    exact H4At.onDataReady_type hpre htype hstate hread hstream hchunk
  | preamble hpre htype hstate hread htake hstream =>
    exact H4At.onDataReady_preamble hpre htype hstate hread htake hstream hchunk
  | payload hpre htype hstate hread hleft hlen htake hstream =>
    exact H4At.onDataReady_payload hpre htype hstate (hread (hne hstate)) hleft hlen htake hstream
      hchunk

/-- All packets, of which some are delivered, none of these without a payload. -/
def H4Inv (all : List HciPacket) (h : H4Protocol) : Prop :=
  ∃ ps qs, all = ps ++ qs ∧ (∀ p ∈ ps, p.payload ≠ []) ∧
    h.delivered = ps.map HciPacket.delivered ∧ H4At qs h

lemma H4Inv.start (b₀ b₁ b₂ b₃ : UInt8) (all : List HciPacket) :
    H4Inv all (.start b₀ b₁ b₂ b₃ (all.flatMap HciPacket.bytes)) :=
  ⟨[], all, rfl, by simp, rfl, .type rfl rfl rfl rfl rfl⟩

/-- A call that goes on keeps the packets. -/
lemma H4Goes.inv (hgoes : H4Goes p qs h h') (hps : ∀ p ∈ ps, p.payload ≠ [])
    (hdel : h.delivered = ps.map HciPacket.delivered) : H4Inv (ps ++ p :: qs) h' := by
  obtain ⟨-, ⟨hat, hsame⟩ | ⟨hat, hnew, hne⟩⟩ := hgoes
  · exact ⟨ps, p :: qs, rfl, hps, hsame.trans hdel, hat⟩
  · refine ⟨ps ++ [p], qs, by simp, ?_, by simp [hnew, hdel], hat⟩
    intro p' hp'
    rcases List.mem_append.1 hp' with hp' | hp'
    · exact hps p' hp'
    · rwa [List.mem_singleton.1 hp']

/-- The reader waits for the bytes of an empty payload. -/
def H4Waits (h : H4Protocol) (p : HciPacket) : Prop :=
  h.hciPacketType = p.type ∧ h.hciPacketizer.state = .payload ∧ h.hciPacketizer.bytesRemaining = 0

/-- It reads no byte, which fails the `CHECK`. -/
lemma H4Waits.onDataReady (hwaits : H4Waits h p) : h.onDataReady fresh chunk = none := by
  obtain ⟨htype, hstate, hleft⟩ := hwaits
  simp [H4Protocol.onDataReady, HciPacketizer.onDataReady, htype, p.type_ne_unknown, p.size, hstate,
    hleft, uartRead]

lemma H4At.waits (hat : H4At (p :: ps) h) (hstate : h.hciPacketizer.state = .payload)
    (hnil : p.payload = []) : H4Waits h p := by
  cases hat with
  | type _ _ hpre => simp [hpre] at hstate
  | preamble _ _ hpre => simp [hpre] at hstate
  | payload _ htype _ _ hleft => exact ⟨htype, hstate, by simp [hleft, hnil]⟩

/-- Every state can go on until all packets are delivered or the reader waits for an empty payload.
-/
lemma H4Inv.reaches {all : List HciPacket} (hinv : H4Inv all h) :
    ∃ h', Relation.ReflTransGen H4Step h h' ∧
      ((∀ p ∈ all, p.payload ≠ []) ∨
        ∃ p, H4Waits h' p ∧ h'.delivered ≠ all.map HciPacket.delivered) := by
  induction hlen : h.stream.length using Nat.strong_induction_on generalizing h with
  | _ n ih =>
    obtain ⟨ps, qs, rfl, hps, hdel, hat⟩ := hinv
    cases qs with
    | nil => exact ⟨h, .refl, .inl (by simpa using hps)⟩
    | cons p qs =>
      by_cases hwaits : h.hciPacketizer.state = .payload ∧ p.payload = []
      · refine ⟨h, .refl, .inr ⟨p, hat.waits hwaits.1 hwaits.2, fun hall => ?_⟩⟩
        have := congrArg List.length (hdel.symm.trans hall)
        simp at this
      · obtain ⟨h₁, hcall, hgoes⟩ := hat.onDataReady 0
          (fun hstate hnil => hwaits ⟨hstate, hnil⟩) one_pos
        have hdata : h.stream ≠ [] := List.length_pos_iff.1 (Nat.zero_lt_of_lt hgoes.1)
        obtain ⟨h', hrun, hend⟩ := ih _ (hlen ▸ hgoes.1) (hgoes.inv hps hdel) rfl
        exact ⟨h', .head ⟨0, 1, one_pos, hdata, hcall⟩ hrun, hend⟩

/-- While no payload is empty, a call goes on until all packets are delivered. -/
lemma H4Inv.goes {all : List HciPacket} (fresh : UInt8) (hne : ∀ p ∈ all, p.payload ≠ [])
    (hinv : H4Inv all h)
    (hdata : h.stream ≠ []) (hchunk : 0 < chunk) :
    ∃ h', h.onDataReady fresh chunk = some h' ∧ h'.stream.length < h.stream.length ∧
      H4Inv all h' := by
  obtain ⟨ps, qs, rfl, hps, hdel, hat⟩ := hinv
  cases qs with
  | nil =>
    cases hat with
    | type _ _ _ _ hstream => exact absurd hstream hdata
  | cons p qs =>
    obtain ⟨h', hcall, hgoes⟩ := hat.onDataReady fresh (fun _ => hne p (by simp)) hchunk
    exact ⟨h', hcall, hgoes.1, hgoes.inv hps hdel⟩

/-- The packets of a stream are delivered exactly when none of them has an empty payload. -/
theorem h4Protocol_delivers (b₀ b₁ b₂ b₃ : UInt8) (ps : List HciPacket) :
    H4Delivers b₀ b₁ b₂ b₃ ps ↔ ∀ p ∈ ps, p.payload ≠ [] := by
  constructor
  · intro hdelivers
    obtain ⟨h, hrun, hne | ⟨p, hwaits, hdel⟩⟩ := (H4Inv.start b₀ b₁ b₂ b₃ ps).reaches
    · exact hne
    · obtain ⟨hgoes, hend⟩ := hdelivers h hrun
      by_cases hdata : h.stream = []
      · exact absurd (hend hdata) hdel
      · obtain ⟨h', hcall, -⟩ := hgoes hdata 0 1 one_pos
        rw [hwaits.onDataReady] at hcall
        cases hcall
  · intro hne h hrun
    have hinv : H4Inv ps h := run_invariant (H4Inv ps) (fun h₁ h₂ hinv hstep => by
      obtain ⟨fresh, chunk, hchunk, hdata, hcall⟩ := hstep
      obtain ⟨h₃, hcall', -, hinv₃⟩ := hinv.goes fresh hne hdata hchunk
      rw [hcall] at hcall'
      exact Option.some.inj hcall' ▸ hinv₃) (H4Inv.start b₀ b₁ b₂ b₃ ps) hrun
    constructor
    · intro hdata fresh chunk hchunk
      obtain ⟨h', hcall, hlt, -⟩ := hinv.goes fresh hne hdata hchunk
      exact ⟨h', hcall, hlt⟩
    · intro hdata
      obtain ⟨qs, rest, rfl, -, hdel, hat⟩ := hinv
      cases rest with
      | nil => simpa using hdel
      | cons p rest => exact absurd hdata (hat.stream_ne_nil (hne p (by simp)))

/-- An SCO packet without data. -/
def emptyScoPacket : HciPacket where
  type := .scoData
  preamble := [0x01, 0x00, 0x00]
  payload := []
  received := .inr (.inr rfl)
  size := rfl
  length := rfl

/-- Two SCO packets without data: the first byte of the second is never read. -/
theorem h4Protocol_delivers_empty : ¬H4Delivers 0 0 0 0 [emptyScoPacket, emptyScoPacket] := by
  intro hdelivers
  let h₁ : H4Protocol := ⟨.scoData, ⟨.preamble, [0, 0, 0, 0], [], 0, 0⟩, [1, 0, 0, 3, 1, 0, 0], []⟩
  let h₂ : H4Protocol := ⟨.scoData, ⟨.payload, [1, 0, 0, 0], [1, 0, 0], 0, 0⟩, [3, 1, 0, 0], []⟩
  have htype : H4Step (.start 0 0 0 0 [3, 1, 0, 0, 3, 1, 0, 0]) h₁ :=
    ⟨0, 1, one_pos, by decide, rfl⟩
  have hpreamble : H4Step h₁ h₂ := ⟨0, 3, by decide, by decide, rfl⟩
  obtain ⟨h₃, hcall, -⟩ :=
    (hdelivers h₂ (.head htype (.single hpreamble))).1 (by decide) 0 1 one_pos
  have hnone : h₂.onDataReady 0 1 = none := rfl
  rw [hnone] at hcall
  cases hcall

end Hikey
