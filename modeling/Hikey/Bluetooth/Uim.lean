import Mathlib.Tactic

/-!
# Reading the response of the Bluetooth chip (`uim.c`)

`read_hci_event` waits for the first byte of an event, reads the rest of its header, and then as
many parameters as the buffer has room for.  What `read` answers is given as a list; a run that has
used up the list is still reading.
-/

namespace Hikey

/-! ## The source -/

/-- What a call of `read` finds: an error or the end of the file, or bytes. -/
inductive ReadResult
  | failed
  | got (first : UInt8) (rest : List UInt8)
deriving DecidableEq, Repr

/-- The bytes that a call of `read` hands over, which asks for at most `n > 0` of them. -/
def ReadResult.bytes (n : ℕ) : ReadResult → List UInt8
  | .failed => []
  | .got first rest => (first :: rest).take n

/-- The memory from `buf` on, the offsets that were written, and all bytes that were read. -/
structure HciBuffer where
  buf : ℕ → UInt8
  written : List ℕ
  input : List UInt8

/-- The bytes of a call of `read` arrive at offset `off`. -/
def HciBuffer.store (m : HciBuffer) (off : ℕ) (bytes : List UInt8) : HciBuffer where
  buf := fun i => if off ≤ i ∧ i < off + bytes.length then bytes.getD (i - off) 0 else m.buf i
  written := m.written ++ List.range' off bytes.length
  input := m.input ++ bytes

/-- `RESP_PREFIX` -/
def respPrefix : UInt8 := 0x04

/-- The last loop of `read_hci_event`; `none` says that it is still reading. -/
def readParams (remain : ℤ) (m : HciBuffer) (count : ℕ) (results : List ReadResult) :
    HciBuffer × Option ℤ :=
  if (count : ℤ) - 3 < remain then
    match results with
    | [] => (m, none)
    | r :: results =>
      let bytes := r.bytes (remain - (count - 3)).toNat
      if bytes.length ≤ 0 then (m, some (-1))
      else readParams remain (m.store count bytes) (count + bytes.length) results
  else (m, some count)

/-- The parameters to read, and the last loop. -/
def readBehindHeader (size : ℤ) (m : HciBuffer) (count : ℕ) (results : List ReadResult) :
    HciBuffer × Option ℤ :=
  let remain := if ((m.buf 2).toNat : ℤ) < size - 3 then ((m.buf 2).toNat : ℤ) else size - 3
  readParams remain m count results

/-- The second loop of `read_hci_event` and what follows it. -/
def readHeader (size : ℤ) (m : HciBuffer) (count : ℕ) (results : List ReadResult) :
    HciBuffer × Option ℤ :=
  if count < 3 then
    match results with
    | [] => (m, none)
    | r :: results =>
      let bytes := r.bytes (3 - count)
      if bytes.length ≤ 0 then (m, some (-1))
      else readHeader size (m.store count bytes) (count + bytes.length) results
  else readBehindHeader size m count results

/-- The first loop of `read_hci_event` and what follows it. -/
def readPrefix (size : ℤ) (m : HciBuffer) (rdRetryCount : ℕ) (results : List ReadResult) :
    HciBuffer × Option ℤ :=
  match results with
  | [] => (m, none)
  | r :: results =>
    let bytes := r.bytes 1
    let m := m.store 0 bytes
    let again := bytes.length ≤ 0 ∧ rdRetryCount < 4
    let rdRetryCount := if bytes.length ≤ 0 then rdRetryCount + 1 else rdRetryCount
    if again then readPrefix size m rdRetryCount results
    else if 4 ≤ rdRetryCount then (m, some (-1))
    else if m.buf 0 = respPrefix then readHeader size m 1 results
    else readPrefix size m rdRetryCount results

/-- `read_hci_event` -/
def readHciEvent (size : ℤ) (buf : ℕ → UInt8) (results : List ReadResult) : HciBuffer × Option ℤ :=
  let m : HciBuffer := ⟨buf, [], []⟩
  if size ≤ 0 then (m, some (-1)) else readPrefix size m 0 results

/-! ## What it is for -/

/-- The first bytes of the memory. -/
def HciBuffer.Holds (m : HciBuffer) (event : List UInt8) : Prop :=
  ∀ i (hi : i < event.length), m.buf i = event[i]

/-- The result brings the first byte of an event to a call that asks for one byte. -/
def ReadResult.isPrefix : ReadResult → Bool
  | .failed => false
  | .got first _ => first == respPrefix

/-- The results in front of the first byte of an event. -/
def beforePrefix (results : List ReadResult) : List ReadResult :=
  results.takeWhile fun r => !r.isPrefix

/-- The results behind the first byte of an event. -/
def behindPrefix (results : List ReadResult) : List ReadResult :=
  (results.dropWhile fun r => !r.isPrefix).drop 1

/-- What `read_hci_event` promises after some results of `read`. -/
structure HciOk (size : ℤ) (results : List ReadResult) (out : HciBuffer × Option ℤ) : Prop where
  inside : ∀ i ∈ out.1.written, (i : ℤ) < size
  stores : ∃ skipped event, out.1.input = skipped ++ event ∧ respPrefix ∉ skipped ∧
    (∀ b ∈ event.head?, b = respPrefix)
    ∧ out.1.Holds event ∧ ∀ v, out.2 = some v → v = -1
      ∨ ∃ evt plen params, event = respPrefix :: evt :: plen :: params ∧ v = event.length
        ∧ v = 3 + min (plen.toNat : ℤ) (size - 3)
  tolerates : out.2 = some (-1) → 4 < (beforePrefix results).count .failed ∨
    .failed ∈ behindPrefix results

/-- Four calls of `read` have failed, and a further one succeeds before an event has begun or with
its first byte. -/
def ReadAfterFourth (failures : ℕ) (results : List ReadResult) : Prop :=
  ∃ before first rest behind, results = before ++ .got first rest :: behind
    ∧ (∀ r ∈ before, r.isPrefix = false) ∧ failures + before.count .failed = 4

/-- The number of bytes that are there before the next failed call. -/
def bytesOffered : List ReadResult → ℕ
  | .got _ rest :: results => rest.length + 1 + bytesOffered results
  | _ => 0

/-- The buffer has room for the part of the header that is read. -/
def HeaderFits (size : ℤ) (failures : ℕ) (results : List ReadResult) : Prop :=
  3 ≤ size ∨ 3 < failures + (beforePrefix results).count .failed ∨
    bytesOffered (behindPrefix results) < size

/-! ## The proofs -/

section Buffer

variable {m : HciBuffer} {event bytes : List UInt8}

lemma HciBuffer.store_nil (m : HciBuffer) (off : ℕ) : m.store off [] = m := by
  obtain ⟨buf, written, input⟩ := m
  rw [HciBuffer.store, HciBuffer.mk.injEq]
  refine ⟨funext fun i => if_neg ?_, List.append_nil written, List.append_nil input⟩
  simp

/-- Bytes that arrive behind the event so far belong to it. -/
lemma HciBuffer.Holds.store (h : m.Holds event) :
    (m.store event.length bytes).Holds (event ++ bytes) := by
  intro i hi
  rw [List.length_append] at hi
  rcases lt_or_ge i event.length with hlt | hge
  · simp only [HciBuffer.store, Nat.not_le.mpr hlt, false_and, if_false,
      List.getElem_append_left hlt]
    exact h i hlt
  · simp only [HciBuffer.store, hge, hi, true_and, if_true, List.getElem_append_right hge]
    rw [List.getD_eq_getElem?_getD, List.getElem?_eq_getElem (by omega), Option.getD_some]

lemma ReadResult.length_bytes_le (r : ReadResult) (n : ℕ) : (r.bytes n).length ≤ n := by
  cases r with
  | failed => exact Nat.zero_le n
  | got first rest => exact List.length_take_le n _

/-- Bytes are handed over by every call that has not failed. -/
lemma ReadResult.length_bytes_got (first : UInt8) (rest : List UInt8) (n : ℕ) :
    ((ReadResult.got first rest).bytes n).length = min n (rest.length + 1) := by
  simp [ReadResult.bytes]

end Buffer

/-- The parameters arrive behind the header, and all of them when the loop ends. -/
lemma readParams_spec {remain : ℤ} {m : HciBuffer} {event : List UInt8} (results : List ReadResult)
    (hholds : m.Holds event) (hevent : (event.length : ℤ) ≤ 3 + remain) :
    ∃ more, (readParams remain m event.length results).1.input = m.input ++ more
      ∧ (readParams remain m event.length results).1.Holds (event ++ more)
      ∧ (∀ i ∈ (readParams remain m event.length results).1.written, i ∈ m.written ∨
        (i : ℤ) < 3 + remain)
      ∧ ∀ v, (readParams remain m event.length results).2 = some v →
        v = -1 ∧ .failed ∈ results ∨ v = (event ++ more).length ∧ v = 3 + remain := by
  induction results generalizing m event with
  | nil =>
    refine ⟨[], ?_⟩
    rw [readParams]
    split_ifs with hcount
    · simpa using ⟨hholds, fun i hi => .inl hi⟩
    · have hlength : (event.length : ℤ) = 3 + remain := by omega
      simpa [hlength] using ⟨hholds, fun i hi => .inl hi⟩
  | cons r results ih =>
    rw [readParams]
    split_ifs with hcount
    · have hle := r.length_bytes_le (remain - (event.length - 3)).toNat
      dsimp only
      split_ifs with hfailed
      · have hr : r = .failed := by
          cases r with
          | failed => rfl
          | got first rest =>
            rw [ReadResult.length_bytes_got] at hfailed
            omega
        refine ⟨[], by simp, by simpa using hholds, fun i hi => .inl hi, fun v hv => .inl ⟨?_, ?_⟩⟩
        · exact (Option.some.inj hv).symm
        · exact hr ▸ List.mem_cons_self
      · set bytes := r.bytes (remain - (event.length - 3)).toNat with hbytes
        have hroom : ((event ++ bytes).length : ℤ) ≤ 3 + remain := by
          rw [List.length_append]
          omega
        obtain ⟨more, hinput, hmore, hwritten, hret⟩ := ih hholds.store hroom
        rw [List.length_append] at hinput hmore hwritten hret
        refine ⟨bytes ++ more, ?_, ?_, fun i hi => ?_, fun v hv => ?_⟩
        · rw [hinput, HciBuffer.store, List.append_assoc]
        · rwa [← List.append_assoc]
        · rcases hwritten i hi with hold | hnew
          · rcases List.mem_append.mp hold with hold | hnew
            · exact .inl hold
            · rw [List.mem_range'_1] at hnew
              rw [List.length_append] at hroom
              exact .inr (by omega)
          · exact .inr hnew
        · rcases hret v hv with ⟨hv, hmem⟩ | hv
          · exact .inl ⟨hv, List.mem_cons_of_mem _ hmem⟩
          · exact .inr (by rwa [← List.append_assoc])
    · have hlength : (event.length : ℤ) = 3 + remain := by omega
      refine ⟨[], ?_⟩
      simpa [hlength] using ⟨hholds, fun i hi => .inl hi⟩

/-- What the second loop and what follows it leave of an event whose first bytes are there. -/
def EventRead (size : ℤ) (m : HciBuffer) (event : List UInt8) (results : List ReadResult)
    (out : HciBuffer × Option ℤ) :
    Prop :=
  ∃ more, out.1.input = m.input ++ more ∧ out.1.Holds (event ++ more)
    ∧ (∀ i ∈ out.1.written, i ∈ m.written ∨ (i : ℤ) < size)
    ∧ ∀ v, out.2 = some v → v = -1 ∧ .failed ∈ results
      ∨ ∃ evt plen params, event ++ more = respPrefix :: evt :: plen :: params ∧
        v = (event ++ more).length
        ∧ v = 3 + min (plen.toNat : ℤ) (size - 3)

/-- An event of which nothing more was read. -/
lemma EventRead.self {size : ℤ} {m : HciBuffer} {event : List UInt8} {results : List ReadResult}
    {ret : Option ℤ}
    (hholds : m.Holds event) (hret : ∀ v, ret = some v → v = -1 ∧ .failed ∈ results) :
    EventRead size m event results (m, ret) :=
  ⟨[], (List.append_nil _).symm,
    by rwa [List.append_nil], fun _ hi => .inl hi, fun v hv => .inl (hret v hv)⟩

/-- An event of which a part was read before. -/
lemma EventRead.store {size : ℤ} {m : HciBuffer} {event bytes : List UInt8} {r : ReadResult}
    {results : List ReadResult}
    {out : HciBuffer × Option ℤ} (hroom : ((event ++ bytes).length : ℤ) ≤ size)
    (h : EventRead size (m.store event.length bytes) (event ++ bytes) results out) :
    EventRead size m event (r :: results) out := by
  obtain ⟨more, hinput, hholds, hwritten, hret⟩ := h
  refine ⟨bytes ++ more, ?_, ?_, fun i hi => ?_, fun v hv => ?_⟩
  · rw [hinput, HciBuffer.store, List.append_assoc]
  · rwa [← List.append_assoc]
  · rcases hwritten i hi with hold | hnew
    · rcases List.mem_append.mp hold with hold | hnew
      · exact .inl hold
      · rw [List.mem_range'_1] at hnew
        rw [List.length_append] at hroom
        exact .inr (by omega)
    · exact .inr hnew
  · rw [← List.append_assoc]
    exact (hret v hv).imp_left (And.imp_right (List.mem_cons_of_mem r))

/-- The parameters of an event whose header is there. -/
lemma readHeader_full {size : ℤ} {m : HciBuffer} {event : List UInt8} (results : List ReadResult)
    (hholds : m.Holds event)
    (hhead : event.head? = some respPrefix) (hevent : event.length = 3) (hsize : 3 ≤ size) :
    EventRead size m event results (readBehindHeader size m event.length results) := by
  obtain ⟨evt, plen, rfl⟩ : ∃ evt plen, event = [respPrefix, evt, plen] := by
    match event, hhead, hevent with
    | [_, evt, plen], hhead, _ =>
      exact ⟨evt, plen, by rw [List.head?_cons, Option.some.injEq] at hhead; rw [hhead]⟩
  have hplen : m.buf 2 = plen := hholds 2 (by simp)
  have hremain : (if ((m.buf 2).toNat : ℤ) < size - 3 then ((m.buf 2).toNat : ℤ) else size - 3)
      = min (plen.toNat : ℤ) (size - 3) := by
    rw [hplen]
    split_ifs with hlt <;> omega
  have hroom : (([respPrefix, evt, plen] : List UInt8).length : ℤ) ≤ 3 + min (plen.toNat : ℤ)
      (size - 3) := by
    simp only [List.length_cons, List.length_nil]
    omega
  obtain ⟨params, hinput, hmore, hwritten, hret⟩ := readParams_spec results hholds hroom
  rw [readBehindHeader, hremain]
  refine ⟨params, hinput, hmore, fun i hi => ?_, fun v hv => ?_⟩
  · exact (hwritten i hi).imp_right fun hlt => by omega
  · exact (hret v hv).imp_right fun h => ⟨evt, plen, params, rfl, h⟩

/-- The header arrives behind the first byte; in a small buffer the loop does not end. -/
lemma readHeader_spec {size : ℤ} {m : HciBuffer} {event : List UInt8} (results : List ReadResult)
    (hholds : m.Holds event) (hhead : event.head? = some respPrefix) (hevent : event.length ≤ 3)
    (hfits : 3 ≤ size ∨ (event.length : ℤ) - 1 + bytesOffered results < size) :
    EventRead size m event results (readHeader size m event.length results) := by
  induction results generalizing m event with
  | nil =>
    rw [readHeader]
    split_ifs with hcount
    · exact .self hholds (by simp)
    · exact readHeader_full [] hholds hhead (by omega) (by omega)
  | cons r results ih =>
    rw [readHeader]
    split_ifs with hcount
    · have hle := r.length_bytes_le (3 - event.length)
      cases r with
      | failed => exact .self hholds fun v hv => ⟨(Option.some.inj hv).symm, List.mem_cons_self⟩
      | got first rest =>
        have hlength := ReadResult.length_bytes_got first rest (3 - event.length)
        dsimp only
        set bytes := (ReadResult.got first rest).bytes (3 - event.length)
        rw [if_neg (by omega)]
        rw [bytesOffered] at hfits
        have hsum : (event ++ bytes).length = event.length + bytes.length := List.length_append
        have hnext := ih (m := m.store event.length bytes) hholds.store
          (by rw [List.head?_append_of_ne_nil _ (by rintro rfl; simp at hhead), hhead])
            (by omega) (by omega)
        rw [hsum] at hnext
        exact .store (by omega) hnext
    · exact readHeader_full _ hholds hhead (by omega) (by omega)

section Prefix

variable {r : ReadResult} {results : List ReadResult} {size : ℤ} {failures : ℕ}

lemma beforePrefix_cons_of_false (h : r.isPrefix = false) :
    beforePrefix (r :: results) = r :: beforePrefix results := by
  simp [beforePrefix, h]

lemma behindPrefix_cons_of_false (h : r.isPrefix = false) :
    behindPrefix (r :: results) = behindPrefix results := by
  simp [behindPrefix, h]

lemma beforePrefix_cons_of_true (h : r.isPrefix = true) : beforePrefix (r :: results) = [] := by
  simp [beforePrefix, h]

lemma behindPrefix_cons_of_true (h : r.isPrefix = true) :
    behindPrefix (r :: results) = results := by
  simp [behindPrefix, h]

/-- Skipping a result without a prefix; a failed one counts. -/
lemma readAfterFourth_cons (h : r.isPrefix = false)
    (hlater : ReadAfterFourth (failures + [r].count .failed) results) :
    ReadAfterFourth failures (r :: results) := by
  obtain ⟨before, first, rest, behind, rfl, hbefore, hcount⟩ := hlater
  refine ⟨r :: before, first, rest, behind, rfl, ?_, ?_⟩
  · simpa [h] using hbefore
  · have hsum : (r :: before).count .failed = [r].count .failed + before.count .failed := by
      rw [← List.count_append, List.singleton_append]
    omega

lemma headerFits_cons (h : r.isPrefix = false) :
    HeaderFits size failures (r :: results) ↔ HeaderFits size
      (failures + [r].count .failed) results := by
  have hsum : (r :: beforePrefix results).count .failed =
      [r].count .failed + (beforePrefix results).count .failed := by
    rw [← List.count_append, List.singleton_append]
  rw [HeaderFits, HeaderFits, beforePrefix_cons_of_false h, behindPrefix_cons_of_false h, hsum,
    Nat.add_assoc]

end Prefix

section Steps

variable {size : ℤ} {m : HciBuffer} {failures : ℕ} {first : UInt8} {rest : List UInt8}
  {results : List ReadResult}

lemma readPrefix_failed (h : failures < 4) :
    readPrefix size m failures (.failed :: results) = readPrefix size m (failures + 1) results := by
  simp [readPrefix, ReadResult.bytes, HciBuffer.store_nil, h]

lemma readPrefix_failed_last (h : 4 ≤ failures) :
    readPrefix size m failures (.failed :: results) = (m, some (-1)) := by
  simp [readPrefix, ReadResult.bytes, HciBuffer.store_nil, Nat.not_lt.mpr h, Nat.le_succ_of_le h]

/-- Behind the fourth failed call a byte is not looked at. -/
lemma readPrefix_got_last (h : 4 ≤ failures) :
    readPrefix size m failures (.got first rest :: results) = (m.store 0 [first], some (-1)) := by
  simp [readPrefix, ReadResult.bytes, h]

lemma readPrefix_marked (h : failures < 4) (hfirst : first = respPrefix) :
    readPrefix size m failures (.got first rest :: results) = readHeader size
      (m.store 0 [first]) 1 results := by
  simp [readPrefix, ReadResult.bytes, Nat.not_le.mpr h, HciBuffer.store, hfirst]

lemma readPrefix_skip (h : failures < 4) (hfirst : first ≠ respPrefix) :
    readPrefix size m failures (.got first rest :: results) = readPrefix size
      (m.store 0 [first]) failures results := by
  simp [readPrefix, ReadResult.bytes, Nat.not_le.mpr h, HciBuffer.store, hfirst]

end Steps

/-- What the first loop and what follows it promise after some failed calls. -/
structure PrefixOk (size : ℤ) (failures : ℕ) (results : List ReadResult)
    (out : HciBuffer × Option ℤ) : Prop where
  inside : ∀ i ∈ out.1.written, (i : ℤ) < size
  stores : ∃ skipped event, out.1.input = skipped ++ event ∧ respPrefix ∉ skipped ∧
    (∀ b ∈ event.head?, b = respPrefix)
    ∧ out.1.Holds event ∧ ∀ v, out.2 = some v → v = -1
      ∨ ∃ evt plen params, event = respPrefix :: evt :: plen :: params ∧ v = event.length
        ∧ v = 3 + min (plen.toNat : ℤ) (size - 3)
  tolerates : out.2 = some (-1) → 4 < failures + (beforePrefix results).count .failed ∨
    .failed ∈ behindPrefix results

/-- No event has begun. -/
lemma PrefixOk.skipping {size : ℤ} {failures : ℕ} {results : List ReadResult} {m : HciBuffer}
    {ret : Option ℤ}
    (hwritten : ∀ i ∈ m.written, (i : ℤ) < size) (hinput : respPrefix ∉ m.input)
    (hret : ∀ v, ret = some v → v = -1)
    (htolerates : ret = some (-1) → 4 < failures + (beforePrefix results).count .failed) :
    PrefixOk size failures results (m, ret) where
  inside := hwritten
  stores := ⟨m.input,
    [], by simp, hinput, by simp, fun i hi => by simp at hi, fun v hv => .inl (hret v hv)⟩
  tolerates := fun h => .inl (htolerates h)

/-- A result without a prefix is skipped. -/
lemma PrefixOk.cons {size : ℤ} {failures : ℕ} {r : ReadResult} {results : List ReadResult}
    {out : HciBuffer × Option ℤ}
    (h : PrefixOk size (failures + [r].count .failed) results out) (hr : r.isPrefix = false) :
    PrefixOk size failures (r :: results) out where
  inside := h.inside
  stores := h.stores
  tolerates := fun hret => by
    have hsum : (r :: beforePrefix results).count .failed =
        [r].count .failed + (beforePrefix results).count .failed := by
      rw [← List.count_append, List.singleton_append]
    rw [beforePrefix_cons_of_false hr, behindPrefix_cons_of_false hr, hsum, ← Nat.add_assoc]
    exact h.tolerates hret

/-- The event begins with this result. -/
lemma PrefixOk.found {size : ℤ} {failures : ℕ} {r : ReadResult} {results : List ReadResult}
    {out : HciBuffer × Option ℤ}
    {m : HciBuffer} (hsize : 0 < size) (hr : r.isPrefix = true)
    (hwritten : ∀ i ∈ m.written, (i : ℤ) < size)
    (hinput : respPrefix ∉ m.input)
    (h : EventRead size (m.store 0 [respPrefix]) [respPrefix] results out) :
    PrefixOk size failures (r :: results) out := by
  obtain ⟨more, hread, hholds, hinside, hret⟩ := h
  refine ⟨fun i hi => ?_,
    ⟨m.input, respPrefix :: more, ?_, hinput, by simp, hholds, fun v hv => ?_⟩, fun hv => .inr ?_⟩
  · rcases hinside i hi with hold | hnew
    · rcases List.mem_append.mp hold with hold | hnew
      · exact hwritten i hold
      · rw [List.mem_range'_1, List.length_singleton] at hnew
        omega
    · exact hnew
  · rw [hread, HciBuffer.store, List.append_assoc]
    rfl
  · exact (hret v hv).imp_left And.left
  · rw [behindPrefix_cons_of_true hr]
    obtain ⟨-, hmem⟩ | ⟨evt, plen, params, -, hlength, -⟩ := hret (-1) hv
    · exact hmem
    · omega

/-- The first loop, while no call has succeeded behind the fourth failed one. -/
lemma readPrefix_ok {size : ℤ} (hsize : 0 < size) {m : HciBuffer} {failures : ℕ}
    (results : List ReadResult)
    (hfailures : failures ≤ 4) (hwritten : ∀ i ∈ m.written, (i : ℤ) < size)
    (hinput : respPrefix ∉ m.input)
    (hfourth : ¬ ReadAfterFourth failures results) (hfits : HeaderFits size failures results) :
    PrefixOk size failures results (readPrefix size m failures results) := by
  induction results generalizing m failures with
  | nil => exact .skipping hwritten hinput (by simp) (by simp)
  | cons r results ih =>
    cases r with
    | failed =>
      have hmark : ReadResult.failed.isPrefix = false := rfl
      have hcount : failures + [ReadResult.failed].count .failed = failures + 1 := by simp
      rcases Nat.lt_or_eq_of_le hfailures with hlt | heq
      · rw [readPrefix_failed hlt]
        refine PrefixOk.cons (hcount.symm ▸ ih hlt hwritten hinput (fun h => hfourth ?_) ?_) hmark
        · exact readAfterFourth_cons hmark (hcount.symm ▸ h)
        · exact hcount ▸ (headerFits_cons hmark).mp hfits
      · rw [readPrefix_failed_last heq.ge]
        refine .skipping hwritten hinput (fun v hv => (Option.some.inj hv).symm) fun _ => ?_
        rw [beforePrefix_cons_of_false hmark, List.count_cons_self]
        omega
    | got first rest =>
      have hlt : failures < 4 := by
        refine lt_of_le_of_ne hfailures fun heq => hfourth ?_
        exact ⟨[], first, rest, results, rfl, by simp, by simp [heq]⟩
      have hstored : ∀ i ∈ (m.store 0 [first]).written, (i : ℤ) < size := by
        intro i hi
        rcases List.mem_append.mp hi with hold | hnew
        · exact hwritten i hold
        · rw [List.mem_range'_1, List.length_singleton] at hnew
          omega
      by_cases hfirst : first = respPrefix
      · have hmark : (ReadResult.got first rest).isPrefix = true := by
          simp [ReadResult.isPrefix, hfirst]
        rw [HeaderFits, beforePrefix_cons_of_true hmark, behindPrefix_cons_of_true hmark,
          List.count_nil] at hfits
        have hholds : (m.store 0 [respPrefix]).Holds [respPrefix] := by
          intro i hi
          obtain rfl : i = 0 := by simpa using hi
          rfl
        rw [readPrefix_marked hlt hfirst, hfirst]
        refine .found hsize (hfirst ▸ hmark) hwritten hinput
          (readHeader_spec results hholds rfl (by simp) ?_)
        simp only [List.length_singleton]
        omega
      · have hmark : (ReadResult.got first rest).isPrefix = false := by
          simp [ReadResult.isPrefix, hfirst]
        have hcount : failures + [ReadResult.got first rest].count .failed = failures := by simp
        have hskipped : respPrefix ∉ (m.store 0 [first]).input := by
          simpa [HciBuffer.store, hinput] using fun h => hfirst h.symm
        rw [readPrefix_skip hlt hfirst]
        refine PrefixOk.cons
          (hcount.symm ▸ ih hfailures hstored hskipped (fun h => hfourth ?_) ?_) hmark
        · exact readAfterFourth_cons hmark (hcount.symm ▸ h)
        · exact hcount ▸ (headerFits_cons hmark).mp hfits

/-- A run in which a call succeeds behind the fourth failed one. -/
lemma readPrefix_fourth {size : ℤ} {m : HciBuffer} {failures : ℕ} (before : List ReadResult)
    (first : UInt8)
    (rest : List UInt8) (hbefore : ∀ r ∈ before, r.isPrefix = false)
    (hcount : failures + before.count .failed = 4) :
    (readPrefix size m failures (before ++ [.got first rest])).2 = some (-1) := by
  induction before generalizing m failures with
  | nil => rw [List.nil_append, readPrefix_got_last (by simp at hcount; omega)]
  | cons r before ih =>
    obtain ⟨hr, hrest⟩ := List.forall_mem_cons.mp hbefore
    cases r with
    | failed =>
      rw [List.count_cons_self] at hcount
      rw [List.cons_append, readPrefix_failed (by omega)]
      exact ih hrest (by omega)
    | got b bs =>
      have hb : b ≠ respPrefix := by simpa [ReadResult.isPrefix] using hr
      rw [List.count_cons_of_ne (by simp)] at hcount
      rw [List.cons_append]
      rcases lt_or_ge failures 4 with hlt | hge
      · rw [readPrefix_skip hlt hb]
        exact ih hrest hcount
      · rw [readPrefix_got_last hge]

/-- What was written stays written. -/
lemma written_readParams {remain : ℤ} {m : HciBuffer} {count : ℕ} (results : List ReadResult) :
    ∀ i ∈ m.written, i ∈ (readParams remain m count results).1.written := by
  induction results generalizing m count with
  | nil =>
    intro i hi
    rw [readParams]
    split_ifs <;> exact hi
  | cons r results ih =>
    intro i hi
    rw [readParams]
    dsimp only
    split_ifs
    · exact hi
    · exact ih i (List.mem_append_left _ hi)
    · exact hi

lemma written_readHeader {size : ℤ} {m : HciBuffer} {count : ℕ} (results : List ReadResult) :
    ∀ i ∈ m.written, i ∈ (readHeader size m count results).1.written := by
  induction results generalizing m count with
  | nil =>
    intro i hi
    rw [readHeader]
    split_ifs
    · exact hi
    · exact written_readParams _ i hi
  | cons r results ih =>
    intro i hi
    rw [readHeader]
    dsimp only
    split_ifs
    · exact hi
    · exact ih i (List.mem_append_left _ hi)
    · exact written_readParams _ i hi

/-- The header leaves a small buffer when enough bytes are there. -/
lemma readHeader_outside {size : ℤ} {m : HciBuffer} {count : ℕ} (results : List ReadResult)
    (hsize : size < 3)
    (hcount : (count : ℤ) ≤ size) (hoffered : size ≤ (count : ℤ) - 1 + bytesOffered results) :
    ∃ i ∈ (readHeader size m count results).1.written, size ≤ (i : ℤ) := by
  induction results generalizing m count with
  | nil =>
    rw [bytesOffered] at hoffered
    · omega
    · simp
  | cons r results ih =>
    cases r with
    | failed =>
      rw [bytesOffered] at hoffered
      · omega
      · simp
    | got first rest =>
      have hlength := ReadResult.length_bytes_got first rest (3 - count)
      rw [bytesOffered] at hoffered
      rw [readHeader, if_pos (by omega)]
      dsimp only
      set bytes := (ReadResult.got first rest).bytes (3 - count)
      rw [if_neg (by omega)]
      by_cases hroom : ((count + bytes.length : ℕ) : ℤ) ≤ size
      · exact ih hroom (by omega)
      · refine ⟨size.toNat, written_readHeader _ _ (List.mem_append_right _ ?_), by omega⟩
        rw [List.mem_range'_1]
        omega

lemma readPrefix_outside {size : ℤ} {m : HciBuffer} {failures : ℕ} (results : List ReadResult)
    (hpos : 0 < size)
    (hfits : ¬ HeaderFits size failures results) :
    ∃ i ∈ (readPrefix size m failures results).1.written, size ≤ (i : ℤ) := by
  induction results generalizing m failures with
  | nil => exact absurd (.inr (.inr (by simpa [behindPrefix, bytesOffered] using hpos))) hfits
  | cons r results ih =>
    have hlt : failures < 4 := by
      rw [HeaderFits] at hfits
      omega
    cases r with
    | failed =>
      have hmark : ReadResult.failed.isPrefix = false := rfl
      have hcount : failures + [ReadResult.failed].count .failed = failures + 1 := by simp
      rw [readPrefix_failed hlt]
      exact ih (hcount ▸ fun h => hfits ((headerFits_cons hmark).mpr h))
    | got first rest =>
      by_cases hfirst : first = respPrefix
      · have hmark : (ReadResult.got first rest).isPrefix = true := by
          simp [ReadResult.isPrefix, hfirst]
        rw [HeaderFits, behindPrefix_cons_of_true hmark] at hfits
        rw [readPrefix_marked hlt hfirst]
        exact readHeader_outside results (by omega) (by omega) (by omega)
      · have hmark : (ReadResult.got first rest).isPrefix = false := by
          simp [ReadResult.isPrefix, hfirst]
        have hcount : failures + [ReadResult.got first rest].count .failed = failures := by simp
        rw [readPrefix_skip hlt hfirst]
        exact ih (hcount ▸ fun h => hfits ((headerFits_cons hmark).mpr h))

section Prefixes

variable {results results' : List ReadResult} {size : ℤ} {failures : ℕ}

lemma ReadAfterFourth.of_prefix (hmark : results' <+: results)
    (h : ReadAfterFourth failures results') :
    ReadAfterFourth failures results := by
  obtain ⟨tail, rfl⟩ := hmark
  obtain ⟨before, first, rest, behind, rfl, hbefore⟩ := h
  exact ⟨before, first, rest, behind ++ tail, by simp, hbefore⟩

lemma bytesOffered_le_of_prefix (hmark : results' <+: results) :
    bytesOffered results' ≤ bytesOffered results := by
  induction results' generalizing results with
  | nil => simp [bytesOffered]
  | cons r results' ih =>
    obtain ⟨tail, rfl⟩ := hmark
    cases r with
    | failed => simp [bytesOffered]
    | got first rest =>
      have hle := ih (List.prefix_append results' tail)
      simp only [List.cons_append, bytesOffered]
      omega

/-- What fits after some results has fitted before. -/
lemma HeaderFits.of_prefix (hpos : 0 < size) (hmark : results' <+: results)
    (h : HeaderFits size failures results) :
    HeaderFits size failures results' := by
  induction results' generalizing results failures with
  | nil => exact .inr (.inr (by simpa [behindPrefix, bytesOffered] using hpos))
  | cons r results' ih =>
    obtain ⟨tail, rfl⟩ := hmark
    rw [List.cons_append] at h
    by_cases hr : r.isPrefix = true
    · rw [HeaderFits, beforePrefix_cons_of_true hr, behindPrefix_cons_of_true hr] at h ⊢
      have hle := bytesOffered_le_of_prefix (List.prefix_append results' tail)
      omega
    · rw [Bool.not_eq_true] at hr
      exact (headerFits_cons hr).mpr
        (ih (List.prefix_append results' tail) ((headerFits_cons hr).mp h))

end Prefixes

/-- A call of `read` that succeeds behind the fourth failed one ends the run, although four may
fail. -/
lemma not_hciOk_fourth {size : ℤ} {buf : ℕ → UInt8} {before : List ReadResult} {first : UInt8}
    {rest : List UInt8}
    (hpos : 0 < size) (hbefore : ∀ r ∈ before, r.isPrefix = false)
    (hcount : before.count .failed = 4) :
    ¬ HciOk size (before ++ [.got first rest])
      (readHciEvent size buf (before ++ [.got first rest])) := by
  intro hok
  have hret := hok.tolerates
  rw [readHciEvent, if_neg (by omega)] at hret
  have hskip : ∀ r ∈ before, (!r.isPrefix) = true := fun r hr => by
    rw [hbefore r hr, Bool.not_false]
  have htake : (beforePrefix (before ++ [.got first rest])).count .failed = 4 := by
    rw [beforePrefix, List.takeWhile_append_of_pos hskip, List.count_append, hcount]
    cases hfirst : (ReadResult.got first rest).isPrefix <;> simp [hfirst]
  have hdrop : behindPrefix (before ++ [.got first rest]) = [] := by
    rw [behindPrefix, List.dropWhile_append_of_pos hskip]
    cases hfirst : (ReadResult.got first rest).isPrefix <;> simp [hfirst]
  rcases hret (readPrefix_fourth before first rest hbefore (by omega)) with hlt | hmem
  · omega
  · rw [hdrop] at hmem
    exact List.not_mem_nil hmem

/-- The run does what it promises after any number of calls of `read` exactly if no call succeeds
behind the fourth failed one before an event has begun, and a buffer without room for a header is
not asked to hold more of it than it can. -/
theorem readHciEvent_ok_iff (size : ℤ) (hsize : 0 < size) (buf : ℕ → UInt8)
    (results : List ReadResult) :
    (∀ before, before <+: results → HciOk size before (readHciEvent size buf before))
      ↔ ¬ ReadAfterFourth 0 results ∧ HeaderFits size 0 results := by
  constructor
  · intro hall
    refine ⟨?_, ?_⟩
    · rintro ⟨before, first, rest, behind, rfl, hbefore, hcount⟩
      refine not_hciOk_fourth hsize hbefore (by omega)
        (hall (before ++ [.got first rest]) ⟨behind, ?_⟩)
      rw [List.append_assoc, List.singleton_append]
    · by_contra hfits
      obtain ⟨i, hi, hle⟩ := readPrefix_outside (m := ⟨buf, [], []⟩) results hsize hfits
      have hinside := (hall results (List.prefix_refl _)).inside i
      rw [readHciEvent, if_neg (by omega)] at hinside
      exact absurd (hinside hi) (by omega)
  · rintro ⟨hfourth, hfits⟩ before hbefore
    rw [readHciEvent, if_neg (by omega)]
    have hok := readPrefix_ok hsize (m := ⟨buf, [], []⟩) before (Nat.zero_le 4) (by simp) (by simp)
      (fun h => hfourth (h.of_prefix hbefore)) (hfits.of_prefix hsize hbefore)
    refine ⟨hok.inside, hok.stores, fun hret => ?_⟩
    simpa using hok.tolerates hret

/-- Three failed calls in front of an event are tolerated. -/
theorem readHciEvent_ok_three : HciOk 7 [.failed, .failed, .failed, .got 4 [], .got 0x0e [0]]
    (readHciEvent 7 (fun _ => 0) [.failed, .failed, .failed, .got 4 [], .got 0x0e [0]]) := by
  refine (readHciEvent_ok_iff 7 (by decide) (fun _ => 0) _).mpr ⟨?_, .inl (by decide)⟩ _
    List.prefix_rfl
  rintro ⟨before, first, rest, behind, heq, -, hcount⟩
  have hcounts := congrArg (List.count .failed) heq
  rw [List.count_append] at hcounts
  have hfour : before.count .failed = 4 := by omega
  simp only [hfour, List.count_cons_self,
    List.count_cons_of_ne (by decide : ReadResult.got 4 [] ≠ .failed),
    List.count_cons_of_ne (by decide : ReadResult.got 0x0e [0] ≠ .failed),
      List.count_nil] at hcounts
  omega

/-- Four failed calls in front of an event are not, and an event of three bytes does not fit into
two. -/
theorem readHciEvent_fails :
    ¬ HciOk 7 [.failed, .failed, .failed, .failed, .got 4 []]
        (readHciEvent 7 (fun _ => 0) [.failed, .failed, .failed, .failed, .got 4 []])
      ∧ ¬ HciOk 2 [.got 4 [], .got 0x0e [0]]
        (readHciEvent 2 (fun _ => 0) [.got 4 [], .got 0x0e [0]]) := by
  constructor
  · intro hok
    exact absurd (hok.tolerates (by decide)) (by decide)
  · intro hok
    exact absurd (hok.inside 2 (by decide)) (by decide)

end Hikey
