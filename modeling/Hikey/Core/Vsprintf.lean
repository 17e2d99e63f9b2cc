import Hikey.Foundation.Bytes
import Hikey.Foundation.CheckedInt
import Hikey.Foundation.Digits

/-!
# Formatted output of the DSP (`tinyvprintf.c`)

`tiny_vsprintf` reads a format string once, character by character; between a `%` and the end of a
conversion it collects flags and a width.  Decimal digits come from repeated subtraction,
hexadecimal ones from the low end; both go through a buffer of eleven characters.  `int` has 32 bits
and wraps around, also where it is negated.
-/

namespace Hikey

/-! ## The source -/

/-- What ends a call that C does not define: an argument that the conversion does not fit, or an
access outside of `buf`. -/
inductive TinyError
  | argument
  | buffer
deriving DecidableEq, Repr

/-- A string in memory: the characters in front of its zero. -/
structure CString where
  chars : List UInt8
  nonzero : ∀ c ∈ chars, c ≠ 0
  short : chars.length < 2 ^ 31

/-- An argument: a word, or a pointer to a string, `none` being the null pointer. -/
inductive TinyArg
  | word (n : U32)
  | string (s : Option CString)

/-- `va_arg` of an `int` or an `unsigned`. -/
def vaWord : List TinyArg → Except TinyError (U32 × List TinyArg)
  | .word n :: args => .ok (n, args)
  | _ => .error .argument

/-- `va_arg` of a `char*`. -/
def vaString : List TinyArg → Except TinyError (Option CString × List TinyArg)
  | .string s :: args => .ok (s, args)
  | _ => .error .argument

/-- A character of the buffer is written. -/
def tinyPut (buf : ℕ → UInt8) (s : ℕ) (c : UInt8) : Except TinyError (ℕ → UInt8) :=
  if s < 11 then .ok (Function.update buf s c) else .error .buffer

/-- `len` characters of the buffer are read from `s` on. -/
def tinyField (buf : ℕ → UInt8) (s len : ℕ) : Except TinyError (List UInt8) :=
  if s + len ≤ 11 then .ok ((List.range' s len).map buf) else .error .buffer

/-- `for (; n >= unit; digit++) n -= unit`, for `unit > 0`. -/
def tinySubtract (unit n : U32) (digit : ℕ) : ℕ × U32 :=
  if 0 < unit ∧ unit ≤ n then tinySubtract unit (n - unit) (digit + 1) else (digit, n)
termination_by n.toNat
decreasing_by
  rename_i h
  obtain ⟨hpos, hle⟩ := h
  rw [BitVec.lt_def] at hpos
  rw [BitVec.le_def] at hle
  rw [BitVec.toNat_sub_of_le hle]
  exact Nat.sub_lt_self hpos hle

/-- The loop over the decimal digits, from `i` on. -/
def tinyDecimalLoop (buf : ℕ → UInt8) (s digit : ℕ) (n : U32) (seen : ℕ) :
    (i : ℕ) → Except TinyError ((ℕ → UInt8) × ℕ)
  | 0 => .ok (buf, s)
  | i + 1 => do
    let seen := if seen = 0 ∧ digit ≠ 0 then i + 1 else seen
    let (buf, s) ← if seen ≠ 0 then do
        let buf ← tinyPut buf s (UInt8.ofNat (48 + digit))
        pure (buf, s + 1)
      else pure (buf, s)
    let (digit, n) := tinySubtract 100000000 n 0
    if i = 0 then do
      let buf ← tinyPut buf s (UInt8.ofNat (48 + digit))
      pure (buf, s + 1)
    else tinyDecimalLoop buf s digit ((n <<< 1) + (n <<< 3)) seen i

/-- `do_decimal`: the buffer, and where its characters end. -/
def tinyDecimal (buf : ℕ → UInt8) (s : ℕ) (n : U32) : Except TinyError ((ℕ → UInt8) × ℕ) :=
  let (digit, n) := tinySubtract 1000000000 n 0
  tinyDecimalLoop buf s digit n 0 9

/-- The characters of the hexadecimal digits. -/
def tinyHexDigits : List Char := "0123456789abcdef".toList

/-- The loop over the hexadecimal digits; `s` is the place of the one written last. -/
def tinyHex (buf : ℕ → UInt8) (n : U32) : (s : ℕ) → Except TinyError ((ℕ → UInt8) × ℕ)
  | 0 => .error .buffer
  | s + 1 => do
    let buf ← tinyPut buf s ((tinyHexDigits.getD (n &&& 0xF).toNat '0').toUInt8)
    let n := n >>> 4
    if n ≠ 0 then tinyHex buf n s else pure (buf, s)

/-- What a conversion has collected behind the `%`. -/
structure TinyConv where
  width : U32
  rightjust : Bool
  pad : UInt8
  sign : UInt8
deriving DecidableEq, Repr

/-- A conversion that begins. -/
def TinyConv.start : TinyConv := ⟨0, true, ' '.toUInt8, 0⟩

/-- The output so far, its length as `tiny_vsprintf` counts it, the buffer, and the arguments that
are left. -/
structure TinyState where
  out : List UInt8
  total : U32
  buf : ℕ → UInt8
  args : List TinyArg

/-- `*out++ = c` -/
def TinyState.put (st : TinyState) (c : UInt8) : TinyState := { st with out := st.out ++ [c] }

/-- A word with a smaller one below it does not wrap around when it is decremented. -/
lemma toInt_sub_one {x y : U32} (h : x.slt y) : (y - 1).toInt = y.toInt - 1 := by
  rw [BitVec.slt_iff_toInt_lt] at h
  have hle := BitVec.le_toInt x
  have hlt := BitVec.toInt_lt (x := y)
  rw [BitVec.toInt_sub, show (1 : U32).toInt = 1 by decide]
  refine Int.bmod_eq_of_le ?_ ?_ <;> omega

/-- A word with a greater one above it does not wrap around when it is incremented. -/
lemma toInt_add_one {x y : U32} (h : x.slt y) : (x + 1).toInt = x.toInt + 1 := by
  rw [BitVec.slt_iff_toInt_lt] at h
  have hle := BitVec.le_toInt x
  have hlt := BitVec.toInt_lt (x := y)
  rw [BitVec.toInt_add, show (1 : U32).toInt = 1 by decide]
  refine Int.bmod_eq_of_le ?_ ?_ <;> omega

/-- `do { *out++ = pad; } while (len < --width)`, entered with `len < width`. -/
def tinyPad (pad : UInt8) (len width : U32) (out : List UInt8) : U32 × List UInt8 :=
  if len.slt width then tinyPad pad len (width - 1) (out ++ [pad]) else (width, out)
termination_by (width.toInt - len.toInt).toNat
decreasing_by
  rename_i h
  have hstep := toInt_sub_one h
  rw [BitVec.slt_iff_toInt_lt] at h
  omega

/-- `for (; len < width; len++) *out++ = space` -/
def tinySpaces (len width : U32) (out : List UInt8) : List UInt8 :=
  if len.slt width then tinySpaces (len + 1) width (out ++ [' '.toUInt8]) else out
termination_by (width.toInt - len.toInt).toNat
decreasing_by
  rename_i h
  have hstep := toInt_add_one h
  rw [BitVec.slt_iff_toInt_lt] at h
  omega

/-- `donefmt`: the `len` characters from `s` on are written, in a field of some width. -/
def tinyDonefmt (st : TinyState) (conv : TinyConv) (field : List UInt8) : TinyState :=
  let len : U32 := BitVec.ofNat 32 field.length
  let (total, width, out) :=
    if len.slt conv.width then
      let (width, out) := if conv.rightjust then tinyPad conv.pad len conv.width st.out
        else (conv.width, st.out)
      (st.total + conv.width, width, out)
    else (st.total + len, conv.width, st.out)
  { st with out := tinySpaces len width (out ++ field), total := total }

/-- `do_decimal` and `donefmt`. -/
def tinyDoDecimal (st : TinyState) (conv : TinyConv) (s : ℕ) (n : U32) :
    Except TinyError TinyState := do
  let (buf, s) ← tinyDecimal st.buf s n
  let field ← tinyField buf 0 s
  pure (tinyDonefmt { st with buf := buf } conv field)

/-- The sign of `n`, and `do_decimal`. -/
def tinySign (st : TinyState) (conv : TinyConv) (sign : UInt8) (n : U32) :
    Except TinyError TinyState :=
  if sign ≠ 0 then
    if conv.rightjust ∧ conv.pad = ' '.toUInt8 then do
      let buf ← tinyPut st.buf 0 sign
      tinyDoDecimal { st with buf := buf } conv 1 n
    else
      let st := { st.put sign with total := st.total + 1 }
      tinyDoDecimal st { conv with width := conv.width - 1 } 0 n
  else tinyDoDecimal st conv 0 n

/-- The characters `d` and `i`. -/
def tinySigned (st : TinyState) (conv : TinyConv) : Except TinyError TinyState := do
  let (n, args) ← vaWord st.args
  let (sign, n) := if n.slt 0 then ('-'.toUInt8, -n) else (conv.sign, n)
  tinySign { st with args := args } conv sign n

/-- The characters `x` and `X`. -/
def tinyHexadecimal (st : TinyState) (conv : TinyConv) : Except TinyError TinyState := do
  let (n, args) ← vaWord st.args
  let (buf, s) ← tinyHex st.buf n 8
  let field ← tinyField buf s (8 - s)
  pure (tinyDonefmt { st with buf := buf, args := args } conv field)

/-- What a character behind the `%` does. -/
inductive TinyStep
  | more (conv : TinyConv)
  | donefmt (st : TinyState)

/-- The switch over a character behind the `%`, other than zero. -/
def tinySwitch (st : TinyState) (conv : TinyConv) (c : UInt8) : Except TinyError TinyStep :=
  if c = 'c'.toUInt8 then do
    let (n, args) ← vaWord st.args
    let buf ← tinyPut st.buf 0 (UInt8.ofNat n.toNat)
    let field ← tinyField buf 0 1
    pure (.donefmt (tinyDonefmt { st with buf := buf, args := args } conv field))
  else if c = 's'.toUInt8 then do
    let (s, args) ← vaString st.args
    let field := match s with
      | none => []
      | some s => s.chars
    pure (.donefmt (tinyDonefmt { st with args := args } conv field))
  else if c = '#'.toUInt8 ∨ c = 'h'.toUInt8 ∨ c = 'l'.toUInt8 ∨ c = 'j'.toUInt8 ∨ c = 'z'.toUInt8 ∨
    c = 't'.toUInt8 then
    .ok (.more conv)
  else if c = ' '.toUInt8 then .ok (.more { conv with sign := ' '.toUInt8 })
  else if c = '+'.toUInt8 then .ok (.more { conv with sign := '+'.toUInt8 })
  else if c = '-'.toUInt8 then .ok (.more { conv with rightjust := false })
  else if c = 'i'.toUInt8 ∨ c = 'd'.toUInt8 then .donefmt <$> tinySigned st conv
  else if c = 'u'.toUInt8 then do
    let (n, args) ← vaWord st.args
    .donefmt <$> tinyDoDecimal { st with args := args } conv 0 n
  else if c = 'p'.toUInt8 then
    .donefmt <$> tinyHexadecimal
      { (st.put '0'.toUInt8).put 'x'.toUInt8 with total := st.total + 2 } conv
  else if c = 'X'.toUInt8 ∨ c = 'x'.toUInt8 then .donefmt <$> tinyHexadecimal st conv
  else
    let conv := if c = '0'.toUInt8 ∧ conv.width = 0 then { conv with pad := '0'.toUInt8 } else conv
    if '0'.toUInt8 ≤ c ∧ c ≤ '9'.toUInt8 then
      let digit : U32 := BitVec.ofNat 32 (c.toNat - 48)
      .ok (.more { conv with width := ((conv.width <<< 1) + (conv.width <<< 3)) + digit })
    else do
      let buf ← tinyPut st.buf 0 c
      let field ← tinyField buf 0 1
      pure (.donefmt (tinyDonefmt { st with buf := buf } conv field))

/-- The loops of `tiny_vsprintf`; `some conv` says that a conversion has begun.  The format ends
with a zero. -/
def tinyFormat (fmt : List UInt8) (conv : Option TinyConv) (st : TinyState) :
    Except TinyError TinyState :=
  match fmt, conv with
  | [], _ => .ok st
  | c :: fmt, none =>
    if c = 0 then .ok st
    else if c ≠ '%'.toUInt8 then tinyFormat fmt none { st.put c with total := st.total + 1 }
    else tinyFormat fmt (some .start) st
  | c :: fmt, some conv =>
    if c = 0 then .ok st
    else
      match tinySwitch st conv c with
      | .error e => .error e
      | .ok (.more conv) => tinyFormat fmt (some conv) st
      | .ok (.donefmt st) => tinyFormat fmt none st

/-- `tiny_vsprintf`: the characters written and the result, for a buffer with any contents. -/
def tinyVsprintf (buf : ℕ → UInt8) (fmt : List UInt8) (args : List TinyArg) :
    Except TinyError (List UInt8 × U32) :=
  (tinyFormat fmt none ⟨[], 0, buf, args⟩).map fun st => (st.out, st.total)

/-! ## What it is for -/

/-- The canonical digits of a number. -/
def canonicalDigits (b n : ℕ) : List UInt8 := (Nat.toDigits b n).map Char.toUInt8

/-- Characters in a field: to its right behind the pad, or to its left in front of spaces. -/
def inField (conv : TinyConv) (chars : List UInt8) : List UInt8 :=
  let free := (conv.width.toInt - chars.length).toNat
  if conv.rightjust then List.replicate free conv.pad ++ chars
    else chars ++ List.replicate free ' '.toUInt8

/-- What a signed decimal conversion writes: the sign inside of the field, or in front of a field
that is shorter by it. -/
def signedPiece (conv : TinyConv) (n : ℤ) : List UInt8 :=
  let sign := if n < 0 then '-'.toUInt8 else conv.sign
  if sign = 0 then inField conv (canonicalDigits 10 n.natAbs)
  else if conv.rightjust ∧
    conv.pad = ' '.toUInt8 then inField conv (sign :: canonicalDigits 10 n.natAbs)
  else sign :: inField { conv with width := conv.width - 1 } (canonicalDigits 10 n.natAbs)

/-- What a conversion writes, and the arguments that it leaves. -/
def tinyPiece (conv : TinyConv) (c : UInt8) (args : List TinyArg) :
    Except TinyError (List UInt8 × List TinyArg) :=
  if c = 'c'.toUInt8 then (vaWord args).map fun r => (inField conv [UInt8.ofNat r.1.toNat], r.2)
  else if c = 's'.toUInt8 then (vaString args).map fun r =>
    (inField conv ((r.1.map CString.chars).getD []), r.2)
  else if c = 'i'.toUInt8 ∨ c = 'd'.toUInt8 then (vaWord args).map fun r =>
    (signedPiece conv r.1.toInt, r.2)
  else if c = 'u'.toUInt8 then (vaWord args).map fun r =>
    (inField conv (canonicalDigits 10 r.1.toNat), r.2)
  else if c = 'p'.toUInt8 then
    (vaWord args).map fun r =>
      (['0'.toUInt8, 'x'.toUInt8] ++ inField conv (canonicalDigits 16 r.1.toNat), r.2)
  else if c = 'X'.toUInt8 ∨ c = 'x'.toUInt8 then
    (vaWord args).map fun r => (inField conv (canonicalDigits 16 r.1.toNat), r.2)
  else .ok (inField conv [c], args)

/-- A flag or a digit of the width, `none` for a character that ends the conversion. -/
def tinyFlag (conv : TinyConv) (c : UInt8) : Option TinyConv :=
  if (['#', 'h', 'l', 'j', 'z', 't'].map Char.toUInt8).contains c then some conv
  else if c = ' '.toUInt8 ∨ c = '+'.toUInt8 then some { conv with sign := c }
  else if c = '-'.toUInt8 then some { conv with rightjust := false }
  else if '0'.toUInt8 ≤ c ∧ c ≤ '9'.toUInt8 then
    some { conv with
      pad := if c = '0'.toUInt8 ∧ conv.width = 0 then '0'.toUInt8 else conv.pad
      width := 10 * conv.width + BitVec.ofNat 32 (c.toNat - 48) }
  else none

/-- What a format string means: a character outside of the conversions is itself, a conversion is
what it writes. -/
def tinyOutput (fmt : List UInt8) (conv : Option TinyConv) (args : List TinyArg) :
    Except TinyError (List UInt8) :=
  match fmt, conv with
  | [], _ => .ok []
  | c :: fmt, none =>
    if c = 0 then .ok []
    else if c = '%'.toUInt8 then tinyOutput fmt (some .start) args
    else (tinyOutput fmt none args).map (c :: ·)
  | c :: fmt, some conv =>
    if c = 0 then .ok []
    else
      match tinyFlag conv c with
      | some conv => tinyOutput fmt (some conv) args
      | none => (tinyPiece conv c args).bind fun r => (tinyOutput fmt none r.2).map (r.1 ++ ·)

/-! ## Digits -/

lemma tinyOk_bind {α β : Type} (a : α) (f : α → Except TinyError β) :
    (Except.ok a >>= f) = f a := rfl

section Digits

variable {buf : ℕ → UInt8} {s : ℕ} {c : UInt8}

lemma tinyPut_eq (h : s < 11) : tinyPut buf s c = .ok (Function.update buf s c) := if_pos h

/-- A character that is written behind the first ones. -/
lemma map_range'_update :
    (List.range' 0 (s + 1)).map (Function.update buf s c) = (List.range' 0 s).map buf ++ [c] := by
  rw [List.range'_concat, List.map_append, Nat.zero_add, Nat.one_mul]
  congr 1
  · refine List.map_congr_left fun i hi => ?_
    rw [List.mem_range'_1] at hi
    exact Function.update_of_ne (by omega) _ _
  · simp

lemma toUInt8_digitChar {d : ℕ} (h : d < 10) : d.digitChar.toUInt8 = UInt8.ofNat (48 + d) := by
  interval_cases d <;> rfl

lemma toUInt8_tinyHexDigits {d : ℕ} (h : d < 16) :
    (tinyHexDigits.getD d '0').toUInt8 = d.digitChar.toUInt8 := by
  interval_cases d <;> rfl

lemma tinySubtract_eq {unit : U32} (hunit : 0 < unit.toNat) (n : U32) (digit : ℕ) :
    tinySubtract unit n digit =
      (digit + n.toNat / unit.toNat, BitVec.ofNat 32 (n.toNat % unit.toNat)) := by
  induction n, digit using tinySubtract.induct unit with
  | case1 n digit h ih =>
    have hle : unit.toNat ≤ n.toNat := BitVec.le_def.mp h.2
    rw [tinySubtract, if_pos h, ih, BitVec.toNat_sub_of_le h.2, ← Nat.mod_eq_sub_mod hle,
      Nat.div_eq_sub_div hunit hle]
    congr 1
    omega
  | case2 n digit h =>
    have hlt : n.toNat < unit.toNat := by
      by_contra hge
      exact h ⟨BitVec.lt_def.mpr hunit, BitVec.le_def.mpr (by omega)⟩
    rw [tinySubtract, if_neg h, Nat.div_eq_of_lt hlt, Nat.mod_eq_of_lt hlt, BitVec.ofNat_toNat,
      BitVec.setWidth_eq,
      Nat.add_zero]

/-- The characters from the beginning of the buffer are followed by digits. -/
def PutsDigits (buf : ℕ → UInt8) (s : ℕ) (digits : List Char)
    (r : Except TinyError ((ℕ → UInt8) × ℕ)) : Prop :=
  ∃ buf', r = .ok (buf', s + digits.length)
    ∧ (List.range' 0 (s + digits.length)).map buf' = (List.range' 0 s).map
      buf ++ digits.map Char.toUInt8

/-- A digit is put in front of others. -/
lemma PutsDigits.cons {d : ℕ} {digits : List Char} {r : Except TinyError ((ℕ → UInt8) × ℕ)}
    (hd : d < 10)
    (h : PutsDigits (Function.update buf s (UInt8.ofNat (48 + d))) (s + 1) digits r) :
    PutsDigits buf s (d.digitChar :: digits) r := by
  obtain ⟨buf', hr, hbuf⟩ := h
  have hlength : s + (d.digitChar :: digits).length = s + 1 + digits.length := by
    rw [List.length_cons]
    omega
  refine ⟨buf', by rw [hr, hlength], ?_⟩
  rw [hlength, hbuf, map_range'_update, List.append_assoc, List.map_cons, toUInt8_digitChar hd]
  rfl

lemma PutsDigits.last {d : ℕ} (hd : d < 10) :
    PutsDigits buf s [d.digitChar] (.ok (Function.update buf s (UInt8.ofNat (48 + d)), s + 1)) :=
  .cons hd ⟨_, rfl, by simp⟩

/-- The digits behind the leading ones: all of them once a digit has been written. -/
def laterDigits (seen k r : ℕ) : List Char :=
  if seen ≠ 0 then fixedDigits 10 k r else Nat.toDigits 10 r

/-- The next digit and what is left, of a number that has been multiplied so that the digit is the
ninth. -/
lemma tinySubtract_digit {k r : ℕ} {n : U32} (hk : k ≤ 8) (hn : n.toNat = r * 10 ^ (8 - k)) :
    tinySubtract 100000000 n 0 = (r / 10 ^ k, BitVec.ofNat 32 (r % 10 ^ k * 10 ^ (8 - k))) := by
  have hpow : 10 ^ 8 = 10 ^ k * 10 ^ (8 - k) := by rw [← pow_add, Nat.add_sub_cancel' hk]
  have hunit : (100000000 : U32).toNat = 10 ^ k * 10 ^ (8 - k) := hpow
  rw [tinySubtract_eq (by decide), hunit, hn, Nat.mul_div_mul_right _ _ (by positivity),
    Nat.mul_mod_mul_right, Nat.zero_add]

/-- Ten times a number of eight digits, by shifts. -/
lemma toNat_shift_add_shift {m : ℕ} (hm : m < 10 ^ 8) :
    ((BitVec.ofNat 32 m <<< 1) + (BitVec.ofNat 32 m <<< 3)).toNat = 10 * m := by
  rw [BitVec.toNat_add, BitVec.toNat_shiftLeft, BitVec.toNat_shiftLeft, BitVec.toNat_ofNat,
    Nat.shiftLeft_eq, Nat.shiftLeft_eq]
  omega

/-- The rest of one round of the loop: the next digits follow. -/
lemma tinyDecimalLoop_later {k r seen : ℕ} {n : U32} (hr : r < 10 ^ (k + 1)) (hk : k ≤ 8)
    (hn : n.toNat = r * 10 ^ (8 - k))
    (hs : s + (k + 1) ≤ 11)
    (hnext : ∀ j, k = j + 1 → ∀ {d r : ℕ} {n : U32}, d < 10 → r < 10 ^ (j + 1) →
    n.toNat = r * 10 ^ (8 - j) →
      PutsDigits buf s
        (if seen ≠ 0 then d.digitChar :: fixedDigits 10 (j + 1) r
        else Nat.toDigits 10 (d * 10 ^ (j + 1) + r))
        (tinyDecimalLoop buf s d n seen (j + 1))) :
    PutsDigits buf s (laterDigits seen (k + 1) r)
      (let (digit, n) := tinySubtract 100000000 n 0
       if k = 0 then do
         let buf ← tinyPut buf s (UInt8.ofNat (48 + digit))
         pure (buf, s + 1)
       else tinyDecimalLoop buf s digit ((n <<< 1) + (n <<< 3)) seen k) := by
  have hdigit : r / 10 ^ k < 10 :=
    (Nat.div_lt_iff_lt_mul (by positivity)).mpr (by rwa [← pow_succ'])
  rw [tinySubtract_digit hk hn]
  dsimp only
  rcases k with _ | j
  · have hr' : r < 10 := by simpa using hr
    have hlater : laterDigits seen 1 r = [r.digitChar] := by
      rw [laterDigits, fixedDigits_one, Nat.toDigits_of_lt_base hr', ite_self]
    rw [if_pos rfl, tinyPut_eq (by omega), hlater, pow_zero, Nat.div_one]
    exact .last hr'
  · have hsplit : r / 10 ^ (j + 1) * 10 ^ (j + 1) + r % 10 ^ (j + 1) = r := Nat.div_add_mod' _ _
    have hmod : r % 10 ^ (j + 1) < 10 ^ (j + 1) := Nat.mod_lt _ (by positivity)
    have hsmall : r % 10 ^ (j + 1) * 10 ^ (8 - (j + 1)) < 10 ^ 8 := by
      calc r % 10 ^ (j + 1) * 10 ^ (8 - (j + 1)) < 10 ^ (j + 1) * 10 ^ (8 - (j + 1)) :=
            Nat.mul_lt_mul_of_pos_right hmod (by positivity)
        _ = 10 ^ 8 := by rw [← pow_add, Nat.add_sub_cancel' hk]
    have htimes : ((BitVec.ofNat 32 (r % 10 ^ (j + 1) * 10 ^ (8 - (j + 1))) <<< 1)
        + (BitVec.ofNat 32 (r % 10 ^ (j + 1) * 10 ^ (8 - (j + 1))) <<< 3)).toNat =
          r % 10 ^ (j + 1) * 10 ^ (8 - j) := by
      rw [toNat_shift_add_shift hsmall, show 8 - j = 8 - (j + 1) + 1 by omega, pow_succ]
      ring
    have hlater := hnext j rfl hdigit hmod htimes
    rw [if_neg (Nat.succ_ne_zero j)]
    rwa [hsplit, ← fixedDigits] at hlater

/-- The loop from a digit on, of a number whose `k + 1` lower digits are those of `r`. -/
lemma tinyDecimalLoop_eq {d k r seen : ℕ} {n : U32} (hd : d < 10)
    (hr : r < 10 ^ (k + 1)) (hk : k ≤ 8)
    (hn : n.toNat = r * 10 ^ (8 - k)) (hs : s + (k + 2) ≤ 11) :
    PutsDigits buf s
      (if seen ≠ 0 then d.digitChar :: fixedDigits 10 (k + 1) r
      else Nat.toDigits 10 (d * 10 ^ (k + 1) + r))
      (tinyDecimalLoop buf s d n seen (k + 1)) := by
  induction k using Nat.strong_induction_on generalizing buf s d r n seen with
  | h k ih =>
    have hnext : ∀ (buf : ℕ → UInt8) (s seen : ℕ), s + (k + 1) ≤ 11 → ∀ j, k = j + 1 →
        ∀ {d r : ℕ} {n : U32}, d < 10 →
        r < 10 ^ (j + 1) → n.toNat = r * 10 ^ (8 - j) → PutsDigits buf s
          (if seen ≠ 0 then d.digitChar :: fixedDigits 10 (j + 1) r
            else Nat.toDigits 10 (d * 10 ^ (j + 1) + r))
          (tinyDecimalLoop buf s d n seen (j + 1)) := by
      rintro buf s seen hs j rfl d r n hd hr hn
      exact ih j (Nat.lt_succ_self j) hd hr (by omega) hn (by omega)
    rw [tinyDecimalLoop]
    rcases Nat.eq_zero_or_pos seen with rfl | hseen
    · rcases Nat.eq_zero_or_pos d with rfl | hpos
      · -- a leading zero is not written
        have hlater := tinyDecimalLoop_later hr hk hn (by omega) (hnext buf s 0 (by omega))
        simpa [laterDigits] using hlater
      · have hlater := tinyDecimalLoop_later hr hk hn (by omega)
          (hnext (Function.update buf s (UInt8.ofNat (48 + d))) (s + 1) (k + 1) (by omega))
        rw [if_neg (not_not.mpr rfl), toDigits_mul_pow_add hpos hd hr]
        refine .cons hd ?_
        simpa [laterDigits, hpos.ne', tinyPut_eq (show s < 11 by omega), tinyOk_bind] using hlater
    · have hlater := tinyDecimalLoop_later hr hk hn (by omega)
        (hnext (Function.update buf s (UInt8.ofNat (48 + d))) (s + 1) seen (by omega))
      rw [if_pos hseen.ne']
      refine .cons hd ?_
      simpa [laterDigits, hseen.ne', tinyPut_eq (show s < 11 by omega), tinyOk_bind] using hlater

/-- A word in decimal digits, behind at most one other character of the buffer. -/
lemma tinyDecimal_eq (hs : s ≤ 1) (n : U32) : PutsDigits buf s (Nat.toDigits 10 n.toNat)
    (tinyDecimal buf s n) := by
  have hunit : (1000000000 : U32).toNat = 10 ^ 9 := rfl
  have hlt := n.isLt
  have hmod : (BitVec.ofNat 32 (n.toNat % 10 ^ 9)).toNat = n.toNat % 10 ^ 9 * 10 ^ (8 - 8) := by
    rw [BitVec.toNat_ofNat]
    omega
  have hloop := @tinyDecimalLoop_eq buf s (n.toNat / 10 ^ 9) 8 (n.toNat % 10 ^ 9) 0 _ (by omega)
    (Nat.mod_lt _ (by decide)) le_rfl hmod (by omega)
  rw [if_neg (not_not.mpr rfl), Nat.div_add_mod'] at hloop
  rw [tinyDecimal, tinySubtract_eq (by decide), hunit, Nat.zero_add]
  exact hloop

/-- One round of the loop over the hexadecimal digits. -/
lemma tinyHex_succ {n : U32} (hs : s < 11) :
    tinyHex buf n (s + 1) = if n.toNat < 16 then .ok
      (Function.update buf s (n.toNat % 16).digitChar.toUInt8, s)
      else tinyHex (Function.update buf s (n.toNat % 16).digitChar.toUInt8) (n >>> 4) s := by
  have hdigit : (n &&& 0xF).toNat = n.toNat % 16 := by
    rw [BitVec.toNat_and]
    exact Nat.and_two_pow_sub_one_eq_mod n.toNat 4
  have hzero : n >>> 4 = 0 ↔ n.toNat < 16 := by
    rw [← BitVec.toNat_inj, BitVec.toNat_ushiftRight, Nat.shiftRight_eq_div_pow]
    simp [Nat.div_eq_zero_iff]
  rw [tinyHex, tinyPut_eq hs, hdigit, toUInt8_tinyHexDigits (Nat.mod_lt _ (by decide))]
  change (if n >>> 4 ≠ 0 then _ else _) = _
  rw [ite_not]
  exact if_congr hzero rfl rfl

/-- A word in hexadecimal digits, in front of a place of the buffer that leaves room for them. -/
lemma tinyHex_eq {n : U32} (hs : s ≤ 11) (hn : n.toNat < 16 ^ s) (hpos : 0 < s) :
    ∃ buf' s', tinyHex buf n s = .ok (buf', s') ∧ s' ≤ s
      ∧ (List.range' s' (s - s')).map buf' = (Nat.toDigits 16 n.toNat).map Char.toUInt8 ∧
        ∀ i, s ≤ i → buf' i = buf i := by
  obtain ⟨s, rfl⟩ : ∃ k, s = k + 1 := ⟨s - 1, by omega⟩
  induction s generalizing buf n with
  | zero =>
    have hlt : n.toNat < 16 := by simpa using hn
    rw [tinyHex_succ (by omega), if_pos hlt, Nat.mod_eq_of_lt hlt, Nat.toDigits_of_lt_base hlt]
    refine ⟨_, _, rfl, Nat.le_succ _, by simp, fun i hi => Function.update_of_ne (by omega) _ _⟩
  | succ s ih =>
    rw [tinyHex_succ (by omega)]
    split_ifs with hlt
    · rw [Nat.mod_eq_of_lt hlt, Nat.toDigits_of_lt_base hlt]
      refine ⟨_, _, rfl, Nat.le_succ _, by simp, fun i hi => Function.update_of_ne (by omega) _ _⟩
    · have hshift : (n >>> 4).toNat = n.toNat / 16 := by
        rw [BitVec.toNat_ushiftRight, Nat.shiftRight_eq_div_pow]
      have hsmall : (n >>> 4).toNat < 16 ^ (s + 1) := by
        rw [hshift, Nat.div_lt_iff_lt_mul (by decide), ← pow_succ]
        exact hn
      obtain ⟨buf', s', hr, hle, hdigits, hrest⟩ :=
        @ih (Function.update buf (s + 1) (n.toNat % 16).digitChar.toUInt8) _ (by omega) hsmall
          (Nat.succ_pos s)
      refine ⟨buf', s', hr, by omega, ?_, fun i hi => ?_⟩
      · have hlast : buf' (s' + 1 * (s + 1 - s')) = (n.toNat % 16).digitChar.toUInt8 := by
          rw [show s' + 1 * (s + 1 - s') = s + 1 by omega, hrest _ le_rfl, Function.update_self]
        rw [show s + 1 + 1 - s' =
          s + 1 - s' + 1 by omega, List.range'_concat, List.map_append, hdigits, List.map_singleton,
          hlast, hshift, Nat.toDigits_of_base_le (n := n.toNat) (by decide) (by omega),
            List.map_append, List.map_singleton]
      · rw [hrest i (by omega), Function.update_of_ne (by omega)]

end Digits

/-! ## Fields -/

section Fields

variable {st : TinyState} {conv : TinyConv} {field : List UInt8}

lemma tinyPad_eq (pad : UInt8) (len width : U32) (out : List UInt8) :
    tinyPad pad len width out = (if len.slt width then len else width,
      out ++ List.replicate (width.toInt - len.toInt).toNat pad) := by
  induction width, out using tinyPad.induct pad len with
  | case1 width out h ih =>
    have hstep := toInt_sub_one h
    have hlt := h
    rw [BitVec.slt_iff_toInt_lt] at hlt
    have hcount : (width.toInt - len.toInt).toNat = ((width - 1).toInt - len.toInt).toNat + 1 := by
      omega
    have hend : (if len.slt (width - 1) then len else width - 1) = len := by
      split_ifs with hnext
      · rfl
      · rw [BitVec.slt_iff_toInt_lt] at hnext
        refine BitVec.eq_of_toInt_eq ?_
        omega
    rw [tinyPad, if_pos h, ih, hend, if_pos h, hcount, List.replicate_succ, List.append_assoc,
      List.singleton_append]
  | case2 width out h =>
    have hge := h
    rw [BitVec.slt_iff_toInt_lt] at hge
    have hcount : (width.toInt - len.toInt).toNat = 0 := by omega
    rw [tinyPad, if_neg h, if_neg h, hcount, List.replicate_zero, List.append_nil]

lemma tinySpaces_eq (len width : U32) (out : List UInt8) :
    tinySpaces len width out = out ++ List.replicate
      (width.toInt - len.toInt).toNat ' '.toUInt8 := by
  induction len, out using tinySpaces.induct width with
  | case1 len out h ih =>
    have hstep := toInt_add_one h
    have hlt := h
    rw [BitVec.slt_iff_toInt_lt] at hlt
    have hcount : (width.toInt - len.toInt).toNat = (width.toInt - (len + 1).toInt).toNat + 1 := by
      omega
    rw [tinySpaces, if_pos h, ih, hcount, List.replicate_succ, List.append_assoc,
      List.singleton_append]
  | case2 len out h =>
    have hge := h
    rw [BitVec.slt_iff_toInt_lt] at hge
    have hcount : (width.toInt - len.toInt).toNat = 0 := by omega
    rw [tinySpaces, if_neg h, hcount, List.replicate_zero, List.append_nil]

/-- Characters are written behind the output so far and counted. -/
structure TinyState.Writes (st : TinyState) (chars : List UInt8) (args : List TinyArg)
    (st' : TinyState) : Prop where
  out : st'.out = st.out ++ chars
  total : st'.total = st.total + BitVec.ofNat 32 chars.length
  args : st'.args = args

/-- The end of a conversion writes its characters in a field. -/
lemma tinyDonefmt_writes (st : TinyState) (conv : TinyConv) (hfield : field.length < 2 ^ 31) :
    st.Writes (inField conv field) st.args (tinyDonefmt st conv field) := by
  have hlen : (BitVec.ofNat 32 field.length).toInt = field.length := toInt_intWord hfield
  have hslt : (BitVec.ofNat 32 field.length).slt conv.width ↔
      (field.length : ℤ) < conv.width.toInt := by
    rw [BitVec.slt_iff_toInt_lt, hlen]
  refine ⟨?_, ?_, by rw [tinyDonefmt]⟩
  · rw [tinyDonefmt, inField]
    by_cases hwide : (BitVec.ofNat 32 field.length).slt conv.width
    · by_cases hright : conv.rightjust = true
      · simp [hwide, hright, tinyPad_eq, tinySpaces_eq, hlen]
      · simp [hwide, hright, tinySpaces_eq, hlen]
    · have hfree : (conv.width.toInt - field.length).toNat = 0 := by
        rw [hslt] at hwide
        omega
      simp [hwide, tinySpaces_eq, hlen, hfree]
  · have hlength : (inField conv field).length =
        field.length + (conv.width.toInt - field.length).toNat := by
      rw [inField]
      split_ifs
      · rw [List.length_append, List.length_replicate, Nat.add_comm]
      · rw [List.length_append, List.length_replicate]
    rw [tinyDonefmt, hlength]
    by_cases hwide : (BitVec.ofNat 32 field.length).slt conv.width
    · have hwidth := BitVec.toInt_lt (x := conv.width)
      have hlt := hslt.mp hwide
      have htotal : BitVec.ofNat 32 (field.length + (conv.width.toInt - field.length).toNat) =
          conv.width := by
        refine BitVec.eq_of_toInt_eq ((toInt_intWord (by omega)).trans ?_)
        omega
      rw [htotal]
      simp [hwide]
    · have hfree : (conv.width.toInt - field.length).toNat = 0 := by
        rw [hslt] at hwide
        omega
      simp [hwide, hfree]

/-- What is written for a conversion, or the error of its argument. -/
def TinyState.Follows (st : TinyState) (piece : Except TinyError (List UInt8 × List TinyArg))
    (r : Except TinyError TinyState) : Prop :=
  match piece with
  | .error e => r = .error e
  | .ok (chars, args) => ∃ st', r = .ok st' ∧ st.Writes chars args st'

lemma length_canonicalDigits_le {b k n : ℕ} (hb : 1 < b) (hk : 0 < k) (hn : n < b ^ k) :
    (canonicalDigits b n).length ≤ k := by
  rw [canonicalDigits, List.length_map]
  exact (Nat.length_toDigits_le_iff hb hk).mpr hn

/-- A decimal conversion, behind the sign that is in the buffer. -/
lemma tinyDoDecimal_writes {s : ℕ} (hs : s ≤ 1) (st : TinyState) (conv : TinyConv) (n : U32) :
    ∃ st', tinyDoDecimal st conv s n = .ok st'
      ∧ st.Writes (inField conv ((List.range' 0 s).map st.buf ++ canonicalDigits 10 n.toNat))
        st.args st' := by
  obtain ⟨buf', hr, hdigits⟩ : PutsDigits st.buf s (Nat.toDigits 10 n.toNat)
    (tinyDecimal st.buf s n) := tinyDecimal_eq hs n
  have hlt := n.isLt
  have hlength : (Nat.toDigits 10 n.toNat).length ≤ 10 :=
    (Nat.length_toDigits_le_iff (by decide) (by decide)).mpr (by omega)
  have hfield : tinyField buf' 0 (s + (Nat.toDigits 10 n.toNat).length)
      = .ok ((List.range' 0 s).map st.buf ++ canonicalDigits 10 n.toNat) := by
    rw [tinyField, if_pos (by omega), hdigits, canonicalDigits]
  have hshort : ((List.range' 0 s).map st.buf ++ canonicalDigits 10 n.toNat).length < 2 ^ 31 := by
    rw [List.length_append, List.length_map, List.length_range', canonicalDigits, List.length_map]
    omega
  have hwrites := tinyDonefmt_writes { st with buf := buf' } conv hshort
  refine ⟨_, ?_, hwrites.out, hwrites.total, hwrites.args⟩
  rw [tinyDoDecimal, hr]
  dsimp only [tinyOk_bind]
  rw [hfield]
  rfl

lemma tinyHexadecimal_follows (st : TinyState) (conv : TinyConv) :
    st.Follows ((vaWord st.args).map fun r => (inField conv (canonicalDigits 16 r.1.toNat), r.2))
      (tinyHexadecimal st conv) := by
  rw [tinyHexadecimal]
  cases hargs : vaWord st.args with
  | error e => rfl
  | ok r =>
    obtain ⟨n, args⟩ := r
    obtain ⟨buf', s', hr, hle, hdigits, -⟩ := @tinyHex_eq st.buf 8 _ (by decide) n.isLt (by decide)
    have hfield : tinyField buf' s' (8 - s') = .ok (canonicalDigits 16 n.toNat) := by
      rw [tinyField, if_pos (by omega), hdigits, canonicalDigits]
    have hshort : (canonicalDigits 16 n.toNat).length < 2 ^ 31 :=
      (length_canonicalDigits_le (by decide) (by decide : 0 < 8) n.isLt).trans_lt (by decide)
    have hwrites := tinyDonefmt_writes { st with buf := buf', args := args } conv hshort
    refine ⟨_, ?_, hwrites.out, hwrites.total, hwrites.args⟩
    dsimp only [tinyOk_bind]
    rw [hr]
    dsimp only [tinyOk_bind]
    rw [hfield]
    rfl

/-- The sign and the number whose digits follow it. -/
lemma sign_and_abs (conv : TinyConv) (n : U32) :
    ∃ m : U32, (if n.slt 0 then ('-'.toUInt8, -n) else (conv.sign, n)) =
      (if n.toInt < 0 then '-'.toUInt8 else conv.sign, m)
      ∧ m.toNat = n.toInt.natAbs := by
  have hlt := n.isLt
  have hslt : n.slt 0 ↔ n.toInt < 0 := by
    rw [BitVec.slt_iff_toInt_lt, show (0 : U32).toInt = 0 by decide]
  by_cases hneg : n.toInt < 0
  · refine ⟨-n, by rw [if_pos (hslt.mpr hneg), if_pos hneg], ?_⟩
    rw [BitVec.toInt_eq_toNat_cond] at hneg ⊢
    rw [BitVec.toNat_neg]
    split_ifs at hneg ⊢ <;> omega
  · refine ⟨n, by rw [if_neg (fun h => hneg (hslt.mp h)), if_neg hneg], ?_⟩
    rw [BitVec.toInt_eq_toNat_cond] at hneg ⊢
    split_ifs at hneg ⊢ <;> omega

lemma tinySigned_follows (st : TinyState) (conv : TinyConv) :
    st.Follows ((vaWord st.args).map fun r => (signedPiece conv r.1.toInt, r.2))
      (tinySigned st conv) := by
  rw [tinySigned]
  cases hargs : vaWord st.args with
  | error e => rfl
  | ok r =>
    obtain ⟨n, args⟩ := r
    obtain ⟨m, hsign, hm⟩ := sign_and_abs conv n
    change TinyState.Follows st (.ok (signedPiece conv n.toInt, args))
      (tinySign { st with args := args } conv
      (if n.slt 0 then ('-'.toUInt8, -n) else (conv.sign, n)).1
        (if n.slt 0 then ('-'.toUInt8, -n) else (conv.sign, n)).2)
    rw [hsign, signedPiece, ← hm, tinySign]
    generalize (if n.toInt < 0 then '-'.toUInt8 else conv.sign) = sign
    dsimp only
    by_cases hnone : sign = 0
    · obtain ⟨st', hr, hwrites⟩ :=
        tinyDoDecimal_writes (Nat.zero_le 1) { st with args := args } conv m
      rw [if_neg (not_not.mpr hnone), if_pos hnone]
      exact ⟨st', hr, hwrites.out, hwrites.total, hwrites.args⟩
    · rw [if_pos hnone, if_neg hnone]
      by_cases hinside : conv.rightjust = true ∧ conv.pad = ' '.toUInt8
      · obtain ⟨st', hr, hwrites⟩ :=
          tinyDoDecimal_writes le_rfl
            { st with args := args, buf := Function.update st.buf 0 sign } conv m
        have hbuf : (List.range' 0 1).map (Function.update st.buf 0 sign) = [sign] := by simp
        rw [if_pos hinside, if_pos hinside, tinyPut_eq (by decide)]
        refine ⟨st', hr, ?_, ?_, hwrites.args⟩
        · rw [hwrites.out, hbuf, List.singleton_append]
        · rw [hwrites.total, hbuf, List.singleton_append]
      · obtain ⟨st', hr, hwrites⟩ := tinyDoDecimal_writes (Nat.zero_le 1)
          { ({ st with args := args } : TinyState).put sign with total := st.total + 1 }
          { conv with width := conv.width - 1 } m
        rw [if_neg hinside, if_neg hinside]
        refine ⟨st', hr, ?_, ?_, hwrites.args⟩
        · rw [hwrites.out, TinyState.put, List.append_assoc]
          rfl
        · rw [hwrites.total, List.length_cons, BitVec.ofNat_add,
            BitVec.add_comm (BitVec.ofNat 32 _) (BitVec.ofNat 32 1),
            ← BitVec.add_assoc]
          rfl

/-- One character that goes through the buffer. -/
lemma tinyChar_eq (st : TinyState) (conv : TinyConv) (c : UInt8) :
    ∃ st', (do
        let buf ← tinyPut st.buf 0 c
        let field ← tinyField buf 0 1
        pure (TinyStep.donefmt (tinyDonefmt { st with buf := buf } conv field))) = .ok
          (.donefmt st')
      ∧ st.Writes (inField conv [c]) st.args st' := by
  have hone : [c].length < 2 ^ 31 := by
    rw [List.length_singleton]
    decide
  have hfield : tinyField (Function.update st.buf 0 c) 0 1 = .ok [c] := by simp [tinyField]
  have hwrites := tinyDonefmt_writes { st with buf := Function.update st.buf 0 c } conv hone
  refine ⟨_, ?_, hwrites.out, hwrites.total, hwrites.args⟩
  rw [tinyPut_eq (by decide), tinyOk_bind, hfield]
  rfl

/-- Further characters in front of what is written. -/
lemma TinyState.Writes.append {st st' : TinyState} {first chars : List UInt8} {args : List TinyArg}
    (h : TinyState.Writes
    { st with out := st.out ++ first, total := st.total + BitVec.ofNat 32 first.length }
    chars args st') :
    st.Writes (first ++ chars) args st' := by
  refine ⟨?_, ?_, h.args⟩
  · rw [h.out, List.append_assoc]
  · rw [h.total, List.length_append, BitVec.ofNat_add, BitVec.add_assoc]

/-- The switch takes a flag, or ends the conversion with what it writes. -/
def SwitchOk (st : TinyState) (conv : TinyConv) (c : UInt8) (r : Except TinyError TinyStep) :
    Prop :=
  match tinyFlag conv c with
  | some conv' => r = .ok (.more conv')
  | none => ∃ r', r = TinyStep.donefmt <$> r' ∧ st.Follows (tinyPiece conv c st.args) r'

lemma ten_mul_eq_shifts (width : U32) : (width <<< 1) + (width <<< 3) = 10 * width := by
  refine BitVec.eq_of_toNat_eq ?_
  rw [BitVec.toNat_add, BitVec.toNat_shiftLeft, BitVec.toNat_shiftLeft, BitVec.toNat_mul,
    Nat.shiftLeft_eq, Nat.shiftLeft_eq,
    show (10 : U32).toNat = 10 by decide]
  omega

/-- The characters that take an argument. -/
lemma tinySwitch_argument (st : TinyState) (conv : TinyConv) {c : UInt8}
    (hc : c ∈ ['c', 's', 'i', 'd', 'u', 'p', 'X', 'x'].map Char.toUInt8) :
    SwitchOk st conv c (tinySwitch st conv c) := by
  simp only [List.map_cons, List.map_nil, List.mem_cons, List.not_mem_nil, or_false] at hc
  rcases hc with rfl | rfl | rfl | rfl | rfl | rfl | rfl | rfl
  · change ∃ r', _
    rw [tinySwitch, if_pos rfl, tinyPiece, if_pos rfl]
    cases hargs : vaWord st.args with
    | error e => exact ⟨.error e, rfl, rfl⟩
    | ok r =>
      obtain ⟨n, args⟩ := r
      obtain ⟨st', hr, hwrites⟩ := tinyChar_eq { st with args := args } conv (UInt8.ofNat n.toNat)
      exact ⟨.ok st', hr, st', rfl, hwrites.out, hwrites.total, hwrites.args⟩
  · change ∃ r', _
    rw [tinySwitch, if_neg (by decide), if_pos rfl, tinyPiece, if_neg (by decide), if_pos rfl]
    cases hargs : vaString st.args with
    | error e => exact ⟨.error e, rfl, rfl⟩
    | ok r =>
      obtain ⟨s, args⟩ := r
      cases s with
      | none =>
        have hwrites := @tinyDonefmt_writes [] { st with args := args } conv (by decide)
        exact ⟨.ok _, rfl, _, rfl, hwrites.out, hwrites.total, hwrites.args⟩
      | some s =>
        have hwrites := tinyDonefmt_writes { st with args := args } conv s.short
        exact ⟨.ok _, rfl, _, rfl, hwrites.out, hwrites.total, hwrites.args⟩
  · exact ⟨_, rfl, tinySigned_follows st conv⟩
  · exact ⟨_, rfl, tinySigned_follows st conv⟩
  · change ∃ r', tinySwitch st conv 'u'.toUInt8 = _ ∧ st.Follows ((vaWord st.args).map _) r'
    have hswitch : tinySwitch st conv 'u'.toUInt8
        = (vaWord st.args >>= fun r =>
          TinyStep.donefmt <$> tinyDoDecimal { st with args := r.2 } conv 0 r.1) := rfl
    rw [hswitch]
    cases hargs : vaWord st.args with
    | error e => exact ⟨.error e, rfl, rfl⟩
    | ok r =>
      obtain ⟨st', hr, hwrites⟩ :=
        tinyDoDecimal_writes (Nat.zero_le 1) { st with args := r.2 } conv r.1
      exact ⟨_, rfl, st', hr, hwrites.out, hwrites.total, hwrites.args⟩
  · have hfollows :=
      tinyHexadecimal_follows
        { (st.put '0'.toUInt8).put 'x'.toUInt8 with total := st.total + 2 } conv
    change ∃ r', tinySwitch st conv 'p'.toUInt8 = _ ∧ st.Follows ((vaWord st.args).map _) r'
    refine ⟨_, rfl, ?_⟩
    change TinyState.Follows _ ((vaWord st.args).map _) _ at hfollows
    cases hargs : vaWord st.args with
    | error e =>
      rw [hargs] at hfollows
      exact hfollows
    | ok r =>
      rw [hargs] at hfollows
      obtain ⟨st', hr, hwrites⟩ := hfollows
      refine ⟨st', hr, TinyState.Writes.append ⟨?_, hwrites.total, hwrites.args⟩⟩
      rw [hwrites.out]
      simp [TinyState.put]
  · exact ⟨_, rfl, tinyHexadecimal_follows st conv⟩
  · exact ⟨_, rfl, tinyHexadecimal_follows st conv⟩

/-- The switch takes a flag, or ends the conversion with what it writes. -/
lemma tinySwitch_ok (st : TinyState) (conv : TinyConv) (c : UInt8) :
    SwitchOk st conv c (tinySwitch st conv c) := by
  by_cases hargument : c ∈ ['c', 's', 'i', 'd', 'u', 'p', 'X', 'x'].map Char.toUInt8
  · exact tinySwitch_argument st conv hargument
  by_cases hflag : c ∈ ['#', 'h', 'l', 'j', 'z', 't', ' ', '+', '-'].map Char.toUInt8
  · simp only [List.map_cons, List.map_nil, List.mem_cons, List.not_mem_nil, or_false] at hflag
    rcases hflag with rfl | rfl | rfl | rfl | rfl | rfl | rfl | rfl | rfl <;> rfl
  simp only [List.map_cons, List.map_nil, List.mem_cons, List.not_mem_nil, or_false,
    not_or] at hargument hflag
  obtain ⟨hc, hs, hi, hd, hu, hp, hX, hx⟩ := hargument
  obtain ⟨hsharp, hh, hl, hj, hz, ht, hspace, hplus, hminus⟩ := hflag
  have hswitch : tinySwitch st conv c =
      let conv := if c = '0'.toUInt8 ∧
        conv.width = 0 then { conv with pad := '0'.toUInt8 } else conv
      if '0'.toUInt8 ≤ c ∧ c ≤ '9'.toUInt8 then
        .ok (.more { conv with width :=
          ((conv.width <<< 1) + (conv.width <<< 3)) + BitVec.ofNat 32 (c.toNat - 48) })
      else (do
        let buf ← tinyPut st.buf 0 c
        let field ← tinyField buf 0 1
        pure (.donefmt (tinyDonefmt { st with buf := buf } conv field))) := by
    simp only [tinySwitch, hc, hs, hi, hd, hu, hp, hX, hx, hsharp, hh, hl, hj, hz, ht, hspace,
      hplus, hminus, or_false, if_false]
  have hplain : (['#', 'h', 'l', 'j', 'z', 't'].map Char.toUInt8).contains c = false := by
    simp [hsharp, hh, hl, hj, hz, ht]
  rw [hswitch]
  by_cases hdigit : '0'.toUInt8 ≤ c ∧ c ≤ '9'.toUInt8
  · have htiny : tinyFlag conv c = some { conv with
        pad := if c = '0'.toUInt8 ∧ conv.width = 0 then '0'.toUInt8 else conv.pad
        width := 10 * conv.width + BitVec.ofNat 32 (c.toNat - 48) } := by
      simp only [tinyFlag, hplain, hspace, hplus, hminus, hdigit, or_false, if_false,
        Bool.false_eq_true, and_self, if_true]
    rw [SwitchOk, htiny]
    dsimp only
    rw [if_pos hdigit]
    by_cases hzero : c = '0'.toUInt8 ∧ conv.width = 0
    · simp only [hzero, and_self, if_true, ten_mul_eq_shifts]
    · simp only [hzero, if_false, ten_mul_eq_shifts]
  · have hnone : ¬ (c = '0'.toUInt8 ∧ conv.width = 0) := by
      rintro ⟨rfl, -⟩
      exact hdigit ⟨by decide, by decide⟩
    have htiny : tinyFlag conv c = none := by
      simp only [tinyFlag, hplain, hspace, hplus, hminus, hdigit, or_false, if_false,
        Bool.false_eq_true]
    have hpiece : tinyPiece conv c st.args = .ok (inField conv [c], st.args) := by
      simp only [tinyPiece, hc, hs, hi, hd, hu, hp, hX, hx, or_false, if_false]
    obtain ⟨st', hr, hwrites⟩ := tinyChar_eq st conv c
    rw [SwitchOk, htiny]
    dsimp only
    rw [if_neg hdigit, if_neg hnone, hpiece]
    exact ⟨.ok st', hr, st', rfl, hwrites⟩

/-- What the rest of a format writes. -/
def TinyState.Formats (st : TinyState) (output : Except TinyError (List UInt8))
    (r : Except TinyError TinyState) : Prop :=
  match output with
  | .error e => r = .error e
  | .ok chars => ∃ st', r = .ok st' ∧ st'.out = st.out ++ chars ∧
      st'.total = st.total + BitVec.ofNat 32 chars.length

lemma TinyState.formats_nil (st : TinyState) : st.Formats (.ok []) (.ok st) :=
  ⟨st, rfl, by simp, by simp⟩

/-- What is written first, and the rest. -/
lemma TinyState.Writes.formats {st st' : TinyState} {first : List UInt8} {args : List TinyArg}
    {output : Except TinyError (List UInt8)} {r : Except TinyError TinyState}
    (hfirst : st.Writes first args st')
    (hrest : st'.Formats output r) : st.Formats (output.map (first ++ ·)) r := by
  cases output with
  | error e => exact hrest
  | ok chars =>
    obtain ⟨st'', hr, hout, htotal⟩ := hrest
    refine ⟨st'', hr, ?_, ?_⟩
    · rw [hout, hfirst.out, List.append_assoc]
    · rw [htotal, hfirst.total, List.length_append, BitVec.ofNat_add, BitVec.add_assoc]

/-- The loops write what the format means. -/
lemma tinyFormat_formats (fmt : List UInt8) (conv : Option TinyConv) (st : TinyState) :
    st.Formats (tinyOutput fmt conv st.args) (tinyFormat fmt conv st) := by
  induction fmt generalizing conv st with
  | nil => exact st.formats_nil
  | cons c fmt ih =>
    cases conv with
    | none =>
      rw [tinyOutput, tinyFormat]
      by_cases hzero : c = 0
      · rw [if_pos hzero, if_pos hzero]
        exact st.formats_nil
      · rw [if_neg hzero, if_neg hzero]
        by_cases hpercent : c = '%'.toUInt8
        · rw [if_pos hpercent, if_neg (not_not.mpr hpercent)]
          exact ih _ _
        · rw [if_neg hpercent, if_pos hpercent]
          have hfirst : st.Writes [c] st.args { st.put c with total := st.total + 1 } :=
            ⟨rfl, rfl, rfl⟩
          exact hfirst.formats (ih none _)
    | some conv =>
      rw [tinyOutput, tinyFormat]
      by_cases hzero : c = 0
      · rw [if_pos hzero, if_pos hzero]
        exact st.formats_nil
      · have hswitch := tinySwitch_ok st conv c
        rw [if_neg hzero, if_neg hzero]
        rw [SwitchOk] at hswitch
        cases hflag : tinyFlag conv c with
        | some conv' =>
          rw [hflag] at hswitch
          rw [hswitch]
          exact ih _ _
        | none =>
          rw [hflag] at hswitch
          obtain ⟨r, hr, hfollows⟩ := hswitch
          rw [hr]
          cases hpiece : tinyPiece conv c st.args with
          | error e =>
            rw [hpiece] at hfollows
            rw [show r = .error e from hfollows]
            rfl
          | ok piece =>
            rw [hpiece] at hfollows
            obtain ⟨st', hst', hwrites⟩ := hfollows
            rw [hst']
            refine hwrites.formats ?_
            rw [← hwrites.args]
            exact ih none st'

lemma map_ne_buffer {α β : Type} {x : Except TinyError α} (f : α → β) (h : x ≠ .error .buffer) :
    x.map f ≠ .error .buffer := by
  cases x with
  | error e => exact fun heq => h (congrArg Except.error (Except.error.inj heq))
  | ok a => exact fun heq => by simp [Except.map] at heq

lemma vaWord_ne_buffer (args : List TinyArg) : vaWord args ≠ .error .buffer := by
  rw [vaWord.eq_def]
  split <;> simp

lemma vaString_ne_buffer (args : List TinyArg) : vaString args ≠ .error .buffer := by
  rw [vaString.eq_def]
  split <;> simp

lemma tinyPiece_ne_buffer (conv : TinyConv) (c : UInt8) (args : List TinyArg) :
    tinyPiece conv c args ≠ .error .buffer := by
  rw [tinyPiece]
  split_ifs
  · exact map_ne_buffer _ (vaWord_ne_buffer args)
  · exact map_ne_buffer _ (vaString_ne_buffer args)
  · exact map_ne_buffer _ (vaWord_ne_buffer args)
  · exact map_ne_buffer _ (vaWord_ne_buffer args)
  · exact map_ne_buffer _ (vaWord_ne_buffer args)
  · exact map_ne_buffer _ (vaWord_ne_buffer args)
  · simp

/-- What a format means can only lack arguments. -/
lemma tinyOutput_ne_buffer (fmt : List UInt8) (conv : Option TinyConv) (args : List TinyArg) :
    tinyOutput fmt conv args ≠ .error .buffer := by
  induction fmt generalizing conv args with
  | nil => simp [tinyOutput]
  | cons c fmt ih =>
    cases conv with
    | none =>
      rw [tinyOutput]
      split_ifs
      · simp
      · exact ih _ _
      · exact map_ne_buffer _ (ih _ _)
    | some conv =>
      rw [tinyOutput]
      split_ifs
      · simp
      · cases tinyFlag conv c with
        | some conv' => exact ih _ _
        | none =>
          have hpiece := tinyPiece_ne_buffer conv c args
          cases h : tinyPiece conv c args with
          | error e => exact fun heq => hpiece (by rw [h, Except.error.inj heq])
          | ok piece => exact map_ne_buffer _ (ih none piece.2)

end Fields

/-- Every call writes what its format means, each number in its canonical digits, and returns how
many characters it has written; it does not leave its buffer. -/
theorem tinyVsprintf_eq (buf : ℕ → UInt8) (fmt : List UInt8) (args : List TinyArg) :
    tinyVsprintf buf fmt args = (tinyOutput fmt none args).map
      (fun out => (out, BitVec.ofNat 32 out.length))
      ∧ tinyVsprintf buf fmt args ≠ .error .buffer := by
  have heq : tinyVsprintf buf fmt args = (tinyOutput fmt none args).map fun out =>
      (out, BitVec.ofNat 32 out.length) := by
    have hformats := tinyFormat_formats fmt none ⟨[], 0, buf, args⟩
    rw [tinyVsprintf]
    cases houtput : tinyOutput fmt none args with
    | error e =>
      rw [houtput] at hformats
      rw [show tinyFormat fmt none ⟨[], 0, buf, args⟩ = .error e from hformats]
      rfl
    | ok chars =>
      rw [houtput] at hformats
      obtain ⟨st', hr, hout, htotal⟩ := hformats
      rw [hr]
      simp [Except.map, hout, htotal]
  refine ⟨heq, fun hbuffer => ?_⟩
  rw [heq] at hbuffer
  cases houtput : tinyOutput fmt none args with
  | error e =>
    rw [houtput] at hbuffer
    refine tinyOutput_ne_buffer fmt none args ?_
    rw [houtput, Except.error.inj hbuffer]
  | ok chars =>
    rw [houtput] at hbuffer
    exact absurd hbuffer (by simp [Except.map])

/-- The most negative integer has its sign and ten digits. -/
example : signedPiece .start (0x80000000 : U32).toInt = "-2147483648".toList.map Char.toUInt8 := by
  decide +kernel

end Hikey
