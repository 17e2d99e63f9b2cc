import Hikey.Foundation.BitPolynomial

/-!
# The boot downloader

Frames are sent over the serial line with a checksum of two bytes behind them.  The checksum is
computed a byte at a time from a table: what the eight digits shifted out contribute is looked up,
and the message enters at the low end, so it has been multiplied by `X ^ 16` only after two further
zero bytes.  The accumulator is never cut while it runs; its low sixteen digits are the remainder so
far (`dvd_crcStep`).
-/

namespace Hikey

open Polynomial

/-- `crctable` -/
def crctable : List ℕ :=
  [0x0000, 0x1021, 0x2042, 0x3063, 0x4084, 0x50a5, 0x60c6, 0x70e7, 0x8108, 0x9129, 0xa14a, 0xb16b,
   0xc18c, 0xd1ad, 0xe1ce, 0xf1ef, 0x1231, 0x0210, 0x3273, 0x2252, 0x52b5, 0x4294, 0x72f7, 0x62d6,
   0x9339, 0x8318, 0xb37b, 0xa35a, 0xd3bd, 0xc39c, 0xf3ff, 0xe3de, 0x2462, 0x3443, 0x0420, 0x1401,
   0x64e6, 0x74c7, 0x44a4, 0x5485, 0xa56a, 0xb54b, 0x8528, 0x9509, 0xe5ee, 0xf5cf, 0xc5ac, 0xd58d,
   0x3653, 0x2672, 0x1611, 0x0630, 0x76d7, 0x66f6, 0x5695, 0x46b4, 0xb75b, 0xa77a, 0x9719, 0x8738,
   0xf7df, 0xe7fe, 0xd79d, 0xc7bc, 0x48c4, 0x58e5, 0x6886, 0x78a7, 0x0840, 0x1861, 0x2802, 0x3823,
   0xc9cc, 0xd9ed, 0xe98e, 0xf9af, 0x8948, 0x9969, 0xa90a, 0xb92b, 0x5af5, 0x4ad4, 0x7ab7, 0x6a96,
   0x1a71, 0x0a50, 0x3a33, 0x2a12, 0xdbfd, 0xcbdc, 0xfbbf, 0xeb9e, 0x9b79, 0x8b58, 0xbb3b, 0xab1a,
   0x6ca6, 0x7c87, 0x4ce4, 0x5cc5, 0x2c22, 0x3c03, 0x0c60, 0x1c41, 0xedae, 0xfd8f, 0xcdec, 0xddcd,
   0xad2a, 0xbd0b, 0x8d68, 0x9d49, 0x7e97, 0x6eb6, 0x5ed5, 0x4ef4, 0x3e13, 0x2e32, 0x1e51, 0x0e70,
   0xff9f, 0xefbe, 0xdfdd, 0xcffc, 0xbf1b, 0xaf3a, 0x9f59, 0x8f78, 0x9188, 0x81a9, 0xb1ca, 0xa1eb,
   0xd10c, 0xc12d, 0xf14e, 0xe16f, 0x1080, 0x00a1, 0x30c2, 0x20e3, 0x5004, 0x4025, 0x7046, 0x6067,
   0x83b9, 0x9398, 0xa3fb, 0xb3da, 0xc33d, 0xd31c, 0xe37f, 0xf35e, 0x02b1, 0x1290, 0x22f3, 0x32d2,
   0x4235, 0x5214, 0x6277, 0x7256, 0xb5ea, 0xa5cb, 0x95a8, 0x8589, 0xf56e, 0xe54f, 0xd52c, 0xc50d,
   0x34e2, 0x24c3, 0x14a0, 0x0481, 0x7466, 0x6447, 0x5424, 0x4405, 0xa7db, 0xb7fa, 0x8799, 0x97b8,
   0xe75f, 0xf77e, 0xc71d, 0xd73c, 0x26d3, 0x36f2, 0x0691, 0x16b0, 0x6657, 0x7676, 0x4615, 0x5634,
   0xd94c, 0xc96d, 0xf90e, 0xe92f, 0x99c8, 0x89e9, 0xb98a, 0xa9ab, 0x5844, 0x4865, 0x7806, 0x6827,
   0x18c0, 0x08e1, 0x3882, 0x28a3, 0xcb7d, 0xdb5c, 0xeb3f, 0xfb1e, 0x8bf9, 0x9bd8, 0xabbb, 0xbb9a,
   0x4a75, 0x5a54, 0x6a37, 0x7a16, 0x0af1, 0x1ad0, 0x2ab3, 0x3a92, 0xfd2e, 0xed0f, 0xdd6c, 0xcd4d,
   0xbdaa, 0xad8b, 0x9de8, 0x8dc9, 0x7c26, 0x6c07, 0x5c64, 0x4c45, 0x3ca2, 0x2c83, 0x1ce0, 0x0cc1,
   0xef1f, 0xff3e, 0xcf5d, 0xdf7c, 0xaf9b, 0xbfba, 0x8fd9, 0x9ff8, 0x6e17, 0x7e36, 0x4e55, 0x5e74,
   0x2e93, 0x3eb2, 0x0ed1, 0x1ef0]

/-- What `calc_crc` does with one byte. -/
def crcStep (crc char : ℕ) : ℕ :=
  ((crc <<< 8) ||| char) ^^^ crctable.getD ((crc >>> 8) &&& 0xff) 0

/-- `calc_crc` -/
def calcCrc (data : List UInt8) (crc : ℕ) : ℕ :=
  let crc := data.foldl (fun crc char => crcStep crc char.toNat) crc
  let crc := (List.range' 0 2).foldl (fun crc _ => crcStep crc 0) crc
  crc &&& 0xffff

/-- The frame with its checksum, as all four kinds of frames end. -/
def withCrc (data : List UInt8) : List UInt8 :=
  let crc := calcCrc data 0
  data ++ [UInt8.ofNat ((crc >>> 8) &&& 0xff)] ++ [UInt8.ofNat (crc &&& 0xff)]

/-- `headframe` of the only chip. -/
def headframe : List UInt8 :=
  [0xFE, 0x00, 0xFF, 0x01, 0x00, 0x00, 0x00, 0x04, 0x00, 0x00, 0x02, 0x01]

/-- `MAX_DATA_LEN` -/
def maxDataLen : ℕ := 0x400

/-- The frame of `sendheadframe`. -/
def sendheadframe (length address : ℕ) : List UInt8 :=
  withCrc (headframe.take 4 ++ ([length >>> 24, length >>> 16, length >>> 8, length].map fun n =>
    UInt8.ofNat (n &&& 0xff))
    ++ [address >>> 24, address >>> 16, address >>> 8, address].map fun n =>
      UInt8.ofNat (n &&& 0xff))

/-- The number of a frame and its complement, in front of the data. -/
def seqHead (kind : UInt8) (seq : ℕ) : List UInt8 :=
  [kind, UInt8.ofNat (seq &&& 0xff), ~~~UInt8.ofNat (seq &&& 0xff)]

/-- The frame of `senddataframe`. -/
def senddataframe (seq : ℕ) (data : List UInt8) : List UInt8 := withCrc (seqHead 0xDA seq ++ data)

/-- The frame of `sendtailframe`. -/
def sendtailframe (seq : ℕ) : List UInt8 := withCrc (seqHead 0xED seq)

/-- The numbers of the data frames of `senddata` with the data in them, from frame `seq` on. -/
def dataframes (data : List UInt8) (seq length : ℕ) : List (ℕ × List UInt8) :=
  if maxDataLen < length then
    (seq, (data.take (seq * maxDataLen)).drop ((seq - 1) * maxDataLen)) :: dataframes data (seq + 1)
      (length - maxDataLen)
  else [(seq, data.drop ((seq - 1) * maxDataLen))]
termination_by length
decreasing_by
  unfold maxDataLen at *
  omega

/-- The frames that `senddata` sends. -/
def senddata (data : List UInt8) (address : ℕ) : List (List UInt8) :=
  let frames := dataframes data 1 data.length
  sendheadframe data.length address :: (frames.map fun frame => senddataframe frame.1 frame.2)
    ++ [sendtailframe (frames.length + 1)]

/-- The generator polynomial of the checksum. -/
noncomputable def crcPoly : (ZMod 2)[X] := X ^ 16 + X ^ 12 + X ^ 5 + 1

lemma bitPoly_generator : bitPoly 0x11021 = crcPoly := by
  have hdigits : 0x11021 = 2 ^ 16 ^^^ 2 ^ 12 ^^^ 2 ^ 5 ^^^ 2 ^ 0 := by decide
  rw [hdigits, bitPoly_xor, bitPoly_xor, bitPoly_xor, bitPoly_two_pow, bitPoly_two_pow,
    bitPoly_two_pow, bitPoly_two_pow,
    pow_zero, crcPoly]

lemma crcPoly_eq : crcPoly = X ^ 16 + (X ^ 12 + X ^ 5 + 1) := by
  rw [crcPoly]
  ring

lemma degree_crcPoly_tail : (X ^ 12 + X ^ 5 + 1 : (ZMod 2)[X]).degree < 16 := by
  have hdegree : (X ^ 12 + X ^ 5 + 1 : (ZMod 2)[X]).degree ≤ 12 := by compute_degree
  exact hdegree.trans_lt (by decide)

lemma monic_crcPoly : crcPoly.Monic := by
  rw [crcPoly_eq]
  exact monic_X_pow_add degree_crcPoly_tail

lemma degree_crcPoly : crcPoly.degree = 16 := by
  rw [crcPoly_eq, degree_add_eq_left_of_degree_lt]
  · exact degree_X_pow 16
  · rw [degree_X_pow]
    exact degree_crcPoly_tail

/-- An entry of the table is its index behind eight steps of the shift register. -/
lemma crctable_eq : ∀ h < 256, crctable.getD h 0 = (shiftReduce 0x11021 16)^[8] (h <<< 8) := by
  decide +kernel

lemma crctable_lt : ∀ h < 256, crctable.getD h 0 < 2 ^ 16 := by decide +kernel

lemma dvd_crctable {h : ℕ} (hlt : h < 256) :
    crcPoly ∣ bitPoly (crctable.getD h 0) - bitPoly h * X ^ 16 := by
  have hdvd := bitPoly_shiftReduce_iterate 0x11021 16 (h <<< 8) 8
  rwa [← crctable_eq h hlt, bitPoly_generator, bitPoly_shiftLeft, mul_assoc, ← pow_add] at hdvd

/-- The low digits of the accumulator after one byte: only its own low digits count. -/
lemma crcStep_mod {c b : ℕ} (hb : b < 2 ^ 8) :
    crcStep c b % 2 ^ 16 = ((c % 2 ^ 8) <<< 8 ||| b) ^^^ crctable.getD (c % 2 ^ 16 / 2 ^ 8) 0 := by
  have hindex : (c >>> 8) &&& 0xff = c % 2 ^ 16 / 2 ^ 8 := by
    rw [show 0xff = 2 ^ 8 - 1 by decide, Nat.and_two_pow_sub_one_eq_mod, Nat.shiftRight_eq_div_pow]
    omega
  have htable := crctable_lt (c % 2 ^ 16 / 2 ^ 8) (by omega)
  have hlow : (c <<< 8 ||| b) % 2 ^ 16 = (c % 2 ^ 8) <<< 8 ||| b := by
    rw [← Nat.shiftLeft_add_eq_or_of_lt hb, ← Nat.shiftLeft_add_eq_or_of_lt hb, Nat.shiftLeft_eq,
      Nat.shiftLeft_eq]
    omega
  rw [crcStep, hindex, Nat.xor_mod_two_pow, hlow, Nat.mod_eq_of_lt htable]

/-- One byte multiplies the remainder by `X ^ 8` and adds the byte. -/
lemma dvd_crcStep {c b : ℕ} (hb : b < 2 ^ 8) :
    crcPoly ∣ bitPoly (crcStep c b % 2 ^ 16) - (bitPoly (c % 2 ^ 16) * X ^ 8 + bitPoly b) := by
  have hdisjoint : (c % 2 ^ 8) <<< 8 &&& b = 0 := by
    refine Nat.eq_of_testBit_eq fun i => ?_
    rw [Nat.testBit_and, Nat.testBit_shiftLeft, Nat.zero_testBit]
    rcases lt_or_ge i 8 with hi | hi
    · simp [Nat.not_le.mpr hi]
    · rw [Nat.testBit_lt_two_pow (hb.trans_le (Nat.pow_le_pow_right (by decide) hi)),
        Bool.and_false]
  have hlow : c % 2 ^ 16 % 2 ^ 8 = c % 2 ^ 8 := by omega
  have hsplit : bitPoly (crcStep c b % 2 ^ 16) - (bitPoly (c % 2 ^ 16) * X ^ 8 + bitPoly b)
      = bitPoly (crctable.getD (c % 2 ^ 16 / 2 ^ 8) 0) - bitPoly (c % 2 ^ 16 / 2 ^ 8) * X ^ 16 := by
    rw [crcStep_mod hb, bitPoly_xor, bitPoly_or hdisjoint, bitPoly_shiftLeft,
      bitPoly_eq_div_add_mod (c % 2 ^ 16) 8, hlow]
    ring
  rw [hsplit]
  exact dvd_crctable (by omega)

/-- The accumulator over a string: the remainder of the string behind the accumulator it starts
with. -/
lemma dvd_foldl_crcStep (data : List UInt8) (c : ℕ) :
    crcPoly ∣ bitPoly (data.foldl (fun crc char => crcStep crc char.toNat) c % 2 ^ 16)
      - (bitPoly (c % 2 ^ 16) * X ^ (8 * data.length) + bytesPoly data) := by
  induction data generalizing c with
  | nil => simp
  | cons b data ih =>
    have hstep := (dvd_crcStep (c := c) b.toNat_lt).mul_right (X ^ (8 * data.length))
    have hsum := dvd_add (ih (crcStep c b.toNat)) hstep
    have hpower : 8 * (b :: data).length = 8 * data.length + 8 := by
      rw [List.length_cons, Nat.mul_succ]
    rw [List.foldl_cons, bytesPoly, hpower]
    convert hsum using 1
    ring

/-- The checksum is below `2 ^ 16` and has the remainder of the string, multiplied by `X ^ 16`. -/
lemma dvd_calcCrc (data : List UInt8) :
    crcPoly ∣ bitPoly (calcCrc data 0) - bytesPoly data * X ^ 16 := by
  have hfold := dvd_foldl_crcStep (data ++ [0, 0]) 0
  have hzeros : bytesPoly [0, 0] = 0 := by simp [bytesPoly]
  rw [bytesPoly_append, hzeros] at hfold
  have hmask : calcCrc data 0 = (data ++ [0, 0]).foldl
      (fun crc (char : UInt8) => crcStep crc char.toNat) 0 % 2 ^ 16 := by
    rw [List.foldl_append, ← Nat.and_two_pow_sub_one_eq_mod]
    rfl
  rw [hmask]
  simpa using hfold

lemma calcCrc_lt (data : List UInt8) (crc : ℕ) : calcCrc data crc < 2 ^ 16 :=
  Nat.and_lt_two_pow _ (by decide)

/-- The checksum as a polynomial is that of the two bytes sent. -/
lemma bytesPoly_withCrc (data : List UInt8) :
    bytesPoly (withCrc data) = bytesPoly data * X ^ 16 + bitPoly (calcCrc data 0) := by
  have hlt := calcCrc_lt data 0
  have hhigh : (UInt8.ofNat ((calcCrc data 0 >>> 8) &&& 0xff)).toNat = calcCrc data 0 / 2 ^ 8 := by
    rw [UInt8.toNat_ofNat',
      show 0xff = 2 ^ 8 - 1 by decide, Nat.and_two_pow_sub_one_eq_mod, Nat.shiftRight_eq_div_pow]
    omega
  have hlow : (UInt8.ofNat (calcCrc data 0 &&& 0xff)).toNat = calcCrc data 0 % 2 ^ 8 := by
    rw [UInt8.toNat_ofNat', show 0xff = 2 ^ 8 - 1 by decide, Nat.and_two_pow_sub_one_eq_mod]
    omega
  rw [withCrc, bytesPoly_append, bytesPoly_append, bytesPoly_singleton,
    bytesPoly_singleton, hhigh, hlow,
    bitPoly_eq_div_add_mod (calcCrc data 0) 8, List.length_singleton, List.length_singleton]
  ring

/-- A frame with its checksum has no remainder. -/
lemma dvd_withCrc (data : List UInt8) : crcPoly ∣ bytesPoly (withCrc data) := by
  have htwo : bitPoly (calcCrc data 0) + bitPoly (calcCrc data 0) = 0 := CharTwo.add_self_eq_zero _
  have hsum : bytesPoly (withCrc data)
      = bitPoly (calcCrc data 0) + bitPoly
        (calcCrc data 0) - (bitPoly (calcCrc data 0) - bytesPoly data * X ^ 16) := by
    rw [bytesPoly_withCrc]
    ring
  rw [hsum, htwo, zero_sub]
  exact (dvd_neg).mpr (dvd_calcCrc data)

/-- The checksum is the remainder of the string multiplied by `X ^ 16`, and every frame has the
remainder zero. -/
theorem calcCrc_remainder (data : List UInt8) :
    calcCrc data 0 < 2 ^ 16 ∧ bitPoly (calcCrc data 0) = (bytesPoly data * X ^ 16) %ₘ crcPoly
      ∧ bytesPoly (withCrc data) %ₘ crcPoly = 0 ∧ ∀ seq, bytesPoly
        (senddataframe seq data) %ₘ crcPoly = 0 := by
  have hdegree : (bitPoly (calcCrc data 0)).degree < crcPoly.degree := by
    rw [degree_crcPoly]
    exact degree_bitPoly_lt (calcCrc_lt data 0)
  refine ⟨calcCrc_lt data 0, ?_, (modByMonic_eq_zero_iff_dvd monic_crcPoly).mpr (dvd_withCrc data),
    fun seq => ?_⟩
  · rw [← modByMonic_eq_of_dvd_sub monic_crcPoly (dvd_calcCrc data),
      (modByMonic_eq_self_iff monic_crcPoly).mpr hdegree]
  · exact (modByMonic_eq_zero_iff_dvd monic_crcPoly).mpr (dvd_withCrc _)

/-- Every frame of a download has the remainder zero. -/
theorem dvd_senddata (data : List UInt8) (address : ℕ) :
    ∀ frame ∈ senddata data address, crcPoly ∣ bytesPoly frame := by
  intro frame hframe
  simp only [senddata, List.cons_append, List.mem_cons, List.mem_append, List.mem_map,
    List.not_mem_nil, or_false] at hframe
  obtain rfl | ⟨numbered, -, rfl⟩ | rfl := hframe
  · exact dvd_withCrc _
  · exact dvd_withCrc _
  · exact dvd_withCrc _

/-- The data of the frames of a download, in their order, is what is downloaded. -/
theorem dataframes_flatten (data : List UInt8) (seq length : ℕ) (hseq : 0 < seq)
    (hlength : (seq - 1) * maxDataLen + length = data.length) :
    ((dataframes data seq length).map Prod.snd).flatten = data.drop ((seq - 1) * maxDataLen) := by
  induction seq, length using dataframes.induct with
  | case1 seq length hlt ih =>
    have hstep : seq * maxDataLen = (seq - 1) * maxDataLen + maxDataLen := by
      rw [← Nat.succ_mul, Nat.succ_eq_add_one, Nat.sub_add_cancel hseq]
    rw [dataframes, if_pos hlt, List.map_cons, List.flatten_cons,
      ih (by omega) (by rw [Nat.add_sub_cancel]; omega),
      Nat.add_sub_cancel, List.drop_take]
    conv_rhs => rw [← List.take_append_drop (seq * maxDataLen - (seq - 1) * maxDataLen)
      (data.drop ((seq - 1) * maxDataLen))]
    rw [List.drop_drop, Nat.add_sub_cancel' (by omega)]
  | case2 seq length hlt =>
    rw [dataframes, if_neg hlt]
    simp

end Hikey
